import Mathlib.Algebra.BigOperators.Group.Finset.Basic
import Mathlib.Algebra.BigOperators.Group.Finset.Piecewise
import Mathlib.Data.List.DropRight
import Mathlib.Order.Interval.Finset.Nat
import TestImpact.Healing.Handles
import TestImpact.Proofs.LedgerStats
import TestImpact.Proofs.Rounding

/-! What is in a ledger after a history of calls through any handles, and what its statistics say.
A call that is no reset adds one attempt behind the others, and all attempts are made in one way: they
succeed unless they failed at every tier. So the number of failures, counted under their name, is
what separates successes from attempts, and the counts under the numbers of the later tiers are the
healed ones. -/

namespace TestImpact

/-! ## Statistics -/

/-- Attempts as they are made for a ledger: each succeeded unless it failed at every tier. -/
def HealingAttempt.Made (a : HealingAttempt) : Prop :=
  a.success = (a.tier != .failed)

theorem HealingAttempt.made_make (subject : HealingSubject) (tier : TierOutcome)
    (now : Timestamp) : (make subject tier now).Made := rfl

namespace HealingStats

/-- Statistics whose numbers agree with each other. Counts stand under the names of outcomes: the
number of a tier, or the word for none. -/
structure Consistent (s : HealingStats) : Prop where
  ascends : Tally.Ascends s.byTier
  named : ∀ entry ∈ s.byTier, ∃ outcome : TierOutcome, entry.1 = outcome.key
  positive : ∀ entry ∈ s.byTier, 0 < entry.2
  total : (s.byTier.map Prod.snd).sum = s.attempts
  successes : s.successes + s.byTier.count "failed" = s.attempts
  healed : s.healed =
    ∑ number ∈ Finset.Ioc 1 255, s.byTier.count (String.ofList (Text.decimal number))
  healed_le : s.healed ≤ s.successes
  successes_le : s.successes ≤ s.attempts
  unrated : s.attempts = 0 → s.healingRate.value = 0
  /-- The rate in double precision, of counts in double precision. -/
  rounded : 0 < s.attempts → ∃ part whole rate : Binary64, part.Rounds s.healed ∧
    whole.Rounds s.attempts ∧ rate.Rounds (part.value / whole.value) ∧
    s.healingRate.value = rate.value
  /-- Counts that are exact in double precision have the nearest number to their quotient. -/
  nearest : 0 < s.attempts → s.attempts ≤ 2 ^ 53 → ∃ rate : Binary64,
    rate.Rounds (s.healed / s.attempts) ∧ s.healingRate.value = rate.value

/-- Of the names of the tiers behind the first one an outcome has one if it is healed, else none. -/
theorem sum_later_keys (outcome : TierOutcome) :
    (∑ number ∈ Finset.Ioc 1 255,
      if outcome.key == String.ofList (Text.decimal number) then 1 else 0) =
        if outcome.isHealed then 1 else 0 := by
  have key_of_number : ∀ number ∈ Finset.Ioc 1 255, String.ofList (Text.decimal number) =
      (TierOutcome.tier (.ofNat number)).key := by
    intro number member
    obtain ⟨-, below⟩ := Finset.mem_Ioc.1 member
    rw [TierOutcome.key, UInt8.toNat_ofNat', Nat.mod_eq_of_lt (by omega)]
  cases outcome with
  | failed =>
    refine Finset.sum_eq_zero fun number member => ?_
    rw [key_of_number number member, TierOutcome.key_beq]
    rfl
  | tier t =>
    have here : ∀ number ∈ Finset.Ioc 1 255,
        (if (TierOutcome.tier t).key == String.ofList (Text.decimal number) then 1 else 0) =
          if t.toNat = number then 1 else 0 := by
      intro number member
      have small : number < 256 := by
        obtain ⟨-, below⟩ := Finset.mem_Ioc.1 member
        omega
      have same : TierOutcome.tier t = .tier (.ofNat number) ↔ t.toNat = number := by
        rw [TierOutcome.tier.injEq, ← UInt8.toNat_inj, UInt8.toNat_ofNat', Nat.mod_eq_of_lt small]
      rw [key_of_number number member, TierOutcome.key_beq]
      simp only [decide_eq_true_eq, same]
    have bounded : t.toNat < 256 := t.toNat_lt
    rw [Finset.sum_congr rfl here, Finset.sum_ite_eq]
    refine if_congr ?_ rfl rfl
    rw [Finset.mem_Ioc, TierOutcome.isHealed, decide_eq_true_iff, UInt8.lt_iff_toNat_lt,
      UInt8.toNat_one]
    omega

theorem healed_eq_sum (attempts : List HealingAttempt) :
    attempts.countP (fun a => a.tier.isHealed) =
      ∑ number ∈ Finset.Ioc 1 255,
        attempts.countP fun a => a.tier.key == String.ofList (Text.decimal number) := by
  induction attempts with
  | nil => exact Finset.sum_const_zero.symm
  | cons a attempts ih =>
    simp only [List.countP_cons, Finset.sum_add_distrib, sum_later_keys, ih]

theorem consistent_ofAttempts {attempts : List HealingAttempt} (made : ∀ a ∈ attempts, a.Made) :
    (ofAttempts attempts).Consistent := by
  obtain ⟨ascends, entries⟩ := byTier_spec attempts
  have succeeded : ∀ a ∈ attempts, a.success = true ↔ ¬ (a.tier.key == TierOutcome.failed.key) := by
    intro a member
    rw [made a member, TierOutcome.key_beq, bne_iff_ne, decide_eq_true_iff]
  constructor
  case ascends => exact ascends
  case named =>
    intro entry member
    obtain ⟨-, a, -, named⟩ := entries entry member
    exact ⟨a.tier, named⟩
  case positive =>
    intro entry member
    exact (entries entry member).1
  case total => exact sum_byTier attempts
  case successes =>
    have split : attempts.length = _ := List.length_eq_countP_add_countP
      fun a => a.tier.key == TierOutcome.failed.key
    rw [count_byTier, Nat.add_comm]
    refine Eq.trans (congrArg _ (List.countP_congr fun a member => ?_)) split.symm
    rw [succeeded a member, decide_eq_true_iff]
  case healed =>
    simp only [count_byTier]
    exact healed_eq_sum attempts
  case healed_le =>
    refine List.countP_mono_left fun a member healed => ?_
    have settled : a.tier ≠ .failed := by
      intro failed
      rw [failed] at healed
      cases healed
    rw [made a member]
    exact bne_iff_ne.2 settled
  case successes_le => exact List.countP_le_length
  case unrated =>
    intro none
    rw [List.length_eq_zero_iff.1 none]
    exact (Binary64.value_toFraction _).trans (zero_mul _)
  case rounded =>
    intro some
    obtain ⟨part, whole, roundsPart, roundsWhole, rounds⟩ := Binary64.rounds_ofCounts _ some
    exact ⟨part, whole, _, roundsPart, roundsWhole, rounds, Binary64.value_toFraction _⟩
  case nearest =>
    intro some small
    exact ⟨_, Binary64.rounds_ofCounts_of_le some List.countP_le_length small,
      Binary64.value_toFraction _⟩

end HealingStats

/-! ## Calls -/

namespace LedgerCall

/-- The outcome that a look-up is recorded with. -/
def outcomeOf {α : Type} (tierOf : α → UInt8) : Except ResolveError α → TierOutcome
  | .ok found => .tier (tierOf found)
  | .error _ => .failed

/-- The attempt that a call records at a time; a reset records none. -/
def attempt? (now : Timestamp) : LedgerCall → Option HealingAttempt
  | record subject tier => some (.make subject tier now)
  | element surface timeout d =>
    some (.make (.selectors d)
      (outcomeOf ResolvedElement.tier (resolveElement surface timeout now d ∅).result) now)
  | endpoint transport timeout method path =>
    some (.make (.endpoint (normalizePath path))
      (outcomeOf EndpointResolution.tier (resolveEndpoint transport timeout now method path ∅).result)
      now)
  | reset => none

def isReset : LedgerCall → Bool
  | reset => true
  | record _ _ | element _ _ _ | endpoint _ _ _ _ => false

theorem ledger_resolveElement (surface : Surface) (timeout : Option Nat) (now : Timestamp)
    (d : SelectorDescriptor) (ledger : HealingLedger) :
    (resolveElement surface timeout now d ledger).ledger =
      ledger.record (.make (.selectors d)
        (outcomeOf ResolvedElement.tier (resolveElement surface timeout now d ∅).result) now) := by
  rw [resolveElement, resolveElement]
  obtain ⟨asked, found⟩ := seekElement surface timeout [] (elementCandidates d)
  cases found with
  | some element => rfl
  | none => rfl

theorem ledger_resolveEndpoint (transport : Transport) (timeout : Option Nat) (now : Timestamp)
    (method : HttpMethod) (path : String) (ledger : HealingLedger) :
    (resolveEndpoint transport timeout now method path ledger).ledger =
      ledger.record (.make (.endpoint (normalizePath path))
        (outcomeOf EndpointResolution.tier
          (resolveEndpoint transport timeout now method path ∅).result) now) := by
  rw [resolveEndpoint, resolveEndpoint]
  obtain ⟨sent, finding⟩ :=
    seekEndpoint transport method timeout (normalizePath path) [] none EndpointTier.numbered
  cases finding with
  | found tier version resolved response => rfl
  | exhausted last => rfl

/-- A call adds its attempt behind the others, or leaves nothing. -/
theorem entries_apply (now : Timestamp) (ledger : HealingLedger) (c : LedgerCall) :
    (c.apply now ledger).entries =
      match c.attempt? now with
      | some a => ledger.entries ++ [a]
      | none => [] := by
  cases c with
  | record subject tier => rfl
  | element surface timeout d => rw [apply, ledger_resolveElement]; rfl
  | endpoint transport timeout method path => rw [apply, ledger_resolveEndpoint]; rfl
  | reset => rfl

theorem made_of_attempt? {now : Timestamp} {c : LedgerCall} {a : HealingAttempt}
    (records : c.attempt? now = some a) : a.Made := by
  cases c with
  | reset => cases records
  | record | element | endpoint =>
    cases records
    exact HealingAttempt.made_make ..

end LedgerCall

/-! ## Histories -/

/-- Calls with their times, in the order in which they were made. -/
abbrev TimedCalls := List (Timestamp × LedgerCall)

namespace TimedCalls

/-- The attempts that the calls behind the last reset record. -/
def attemptsSinceReset (calls : TimedCalls) : List HealingAttempt :=
  (calls.rtakeWhile fun call => !call.2.isReset).filterMap fun call => call.2.attempt? call.1

theorem attemptsSinceReset_concat (calls : TimedCalls) (now : Timestamp) (c : LedgerCall) :
    attemptsSinceReset (calls ++ [(now, c)]) =
      match c.attempt? now with
      | some a => attemptsSinceReset calls ++ [a]
      | none => [] := by
  rw [attemptsSinceReset, List.rtakeWhile_concat]
  cases c with
  | reset => rfl
  | record | element | endpoint =>
    rw [LedgerCall.isReset, Bool.not_false, if_pos rfl, List.filterMap_append]
    rfl

theorem made_of_mem {calls : TimedCalls} {a : HealingAttempt}
    (member : a ∈ attemptsSinceReset calls) : a.Made := by
  obtain ⟨⟨now, c⟩, -, records⟩ := List.mem_filterMap.1 member
  exact LedgerCall.made_of_attempt? records

end TimedCalls

namespace Ledgers

/-- What was done through handles, one thing after the other. Each call is kept with the number of its
ledger. -/
inductive History : List (Nat × Timestamp × LedgerCall) → Ledgers → Prop where
  | start : History [] ∅
  | create {calls s} (past : History calls s) : History calls s.create
  | copy {calls s} (past : History calls s) (handle : Nat) : History calls (s.copy handle)
  | call {calls s} (past : History calls s) (handle number : Nat)
      (stands : s.handles[handle]? = some number) (now : Timestamp) (c : LedgerCall) :
    History (calls ++ [(number, now, c)]) (s.call handle now c)

/-- The calls on one ledger, through whatever handles. -/
def callsOn (number : Nat) (calls : List (Nat × Timestamp × LedgerCall)) : TimedCalls :=
  (calls.filter fun c => c.1 == number).map Prod.snd

theorem callsOn_concat (number : Nat) (calls : List (Nat × Timestamp × LedgerCall)) (other : Nat)
    (c : Timestamp × LedgerCall) :
    callsOn number (calls ++ [(other, c)]) =
      if other = number then callsOn number calls ++ [c] else callsOn number calls := by
  rw [callsOn, List.filter_append, List.map_append]
  by_cases same : other = number
  · simp [callsOn, same]
  · simp [callsOn, same]

/-- Each ledger holds what its calls recorded, and calls were made on ledgers that there are. -/
structure Tells (calls : List (Nat × Timestamp × LedgerCall)) (s : Ledgers) : Prop where
  known : ∀ c ∈ calls, c.1 < s.all.length
  entries : ∀ number (ledger : HealingLedger), s.all[number]? = some ledger →
    ledger.entries = (callsOn number calls).attemptsSinceReset

theorem Tells.create {calls : List (Nat × Timestamp × LedgerCall)} {s : Ledgers}
    (past : Tells calls s) : Tells calls s.create := by
  constructor
  case known =>
    intro c member
    rw [Ledgers.create, List.length_append]
    exact Nat.lt_add_right _ (past.known c member)
  case entries =>
    intro number ledger here
    rcases Nat.lt_or_ge number s.all.length with old | new
    · exact past.entries number ledger ((List.getElem?_append_left old).symm.trans here)
    · -- No call was made on a ledger that is new.
      have untouched : callsOn number calls = [] := by
        rw [callsOn, List.filter_eq_nil_iff.2, List.map_nil]
        intro c member same
        have := past.known c member
        rw [beq_iff_eq.1 same] at this
        omega
      rw [Ledgers.create, List.getElem?_append_right new, List.getElem?_singleton] at here
      split at here
      · cases here
        rw [untouched]
        rfl
      · cases here

theorem Tells.copy {calls : List (Nat × Timestamp × LedgerCall)} {s : Ledgers}
    (past : Tells calls s) (handle : Nat) : Tells calls (s.copy handle) := by
  rw [Ledgers.copy]
  split
  · exact past
  · exact ⟨past.known, past.entries⟩

theorem Tells.call {calls : List (Nat × Timestamp × LedgerCall)} {s : Ledgers}
    (past : Tells calls s) {handle number : Nat} (stands : s.handles[handle]? = some number)
    (now : Timestamp) (c : LedgerCall) :
    Tells (calls ++ [(number, now, c)]) (s.call handle now c) := by
  have all : (s.call handle now c).all = s.all.modify number fun ledger => c.apply now ledger := by
    rw [Ledgers.call, stands]
  constructor
  case known =>
    intro other member
    rw [all, List.length_modify]
    rcases List.mem_append.1 member with old | new
    · exact past.known other old
    · rw [List.mem_singleton.1 new]
      exact s.known number (List.mem_of_getElem? stands)
  case entries =>
    intro other ledger here
    rw [all, List.getElem?_modify, Option.map_eq_map, Option.map_eq_some_iff] at here
    obtain ⟨before, there, rfl⟩ := here
    have entries := past.entries other before there
    rw [callsOn_concat]
    by_cases same : number = other
    · rw [if_pos same, if_pos same, LedgerCall.entries_apply, TimedCalls.attemptsSinceReset_concat,
        entries]
    · rw [if_neg same, if_neg same, entries]

theorem History.tells {calls : List (Nat × Timestamp × LedgerCall)} {s : Ledgers}
    (past : History calls s) : Tells calls s := by
  induction past with
  | start =>
    refine ⟨fun c member => absurd member List.not_mem_nil, fun number ledger here => ?_⟩
    rw [all_empty, List.getElem?_nil] at here
    cases here
  | create _ ih => exact ih.create
  | copy _ handle ih => exact ih.copy handle
  | call _ _ _ stands now c ih => exact ih.call stands now c

/-- **What a ledger tells is what was done to it since the last reset.** After any history, through
every handle on a ledger one sees the attempts of the calls on this ledger behind its last reset, in
their order and through whatever handles they were made; and the statistics are about as many
attempts and agree with each other, the rate being the quotient in double precision. -/
theorem stats_consistent {calls : List (Nat × Timestamp × LedgerCall)} {s : Ledgers}
    (past : History calls s) {handle number : Nat} (stands : s.handles[handle]? = some number) :
    ∃ ledger, s.ledger? handle = some ledger ∧
      ledger.entries = (callsOn number calls).attemptsSinceReset ∧
      ledger.stats.attempts = ledger.entries.length ∧
      ledger.stats.Consistent := by
  have there : handle < s.handles.length := (List.getElem?_eq_some_iff.1 stands).1
  obtain ⟨ledger, found⟩ := Option.isSome_iff_exists.1 (ledger?_isSome there)
  have place : s.all[number]? = some ledger := by
    rw [ledger?, stands, Option.bind_some] at found
    exact found
  have entries := past.tells.entries number ledger place
  refine ⟨ledger, found, entries, rfl, HealingStats.consistent_ofAttempts fun a member => ?_⟩
  rw [entries] at member
  exact TimedCalls.made_of_mem member

/-- A page on which only paths through the document find something. -/
def mappedPage : Surface :=
  ⟨fun _ query =>
    match query.locator with
    | .xpath _ => .ok [⟨"field"⟩]
    | _ => .ok []⟩

/-- A server that answers every request. -/
def answeringServer : Transport :=
  ⟨fun _ _ => .ok ⟨200⟩⟩

def secondOfDay (n : Nat) : Timestamp := ⟨0, n, 0⟩

theorem stats_consistent_shared :
    ∃ calls s, History calls s ∧ s.handles = [0, 0, 1] ∧
      ∃ ledger, s.ledger? 1 = some ledger ∧
        ledger.entries.map (·.tier) = [.tier 3, .tier 1, .failed] ∧
        ledger.entries = (callsOn 0 calls).attemptsSinceReset ∧
        ledger.stats.Consistent ∧ ledger.stats.healed = 1 ∧ ledger.stats.attempts = 3 := by
  have past := History.start
    |>.create
    |>.copy 0
    |>.create
    |>.call 0 0 rfl (secondOfDay 0) (.record (.endpoint "/a") (.tier 2))
    |>.call 1 0 rfl (secondOfDay 1) .reset
    |>.call 1 0 rfl (secondOfDay 2)
      (.element mappedPage none { css := some "a", xpath := some "//a" })
    |>.call 2 1 rfl (secondOfDay 3) (.record (.endpoint "/b") .failed)
    |>.call 0 0 rfl (secondOfDay 4) (.endpoint answeringServer none .get "/a")
    |>.call 1 0 rfl (secondOfDay 5) (.record (.endpoint "/c") .failed)
  obtain ⟨ledger, found, entries, -, consistent⟩ :=
    stats_consistent past (show [0, 0, 1][1]? = some 0 from rfl)
  cases found
  exact ⟨_, _, past, rfl, _, rfl, rfl, entries, consistent, rfl, rfl⟩

/-- One healed attempt of three: a third has no finite binary expansion. -/
theorem third_is_rounded :
    ∃ calls s, History calls s ∧ ∃ ledger, s.ledger? 0 = some ledger ∧
      ledger.stats.healed = 1 ∧ ledger.stats.attempts = 3 ∧
      ledger.stats.healingRate.value ≠ 1 / 3 := by
  have past := History.start
    |>.create
    |>.call 0 0 rfl (secondOfDay 0) (.record (.endpoint "/a") (.tier 1))
    |>.call 0 0 rfl (secondOfDay 1) (.record (.endpoint "/b") (.tier 2))
    |>.call 0 0 rfl (secondOfDay 2) (.record (.endpoint "/c") .failed)
  refine ⟨_, _, past, _, rfl, rfl, rfl, ?_⟩
  have rate : Binary64.ofCounts 1 3 = ⟨6004799503160661, -54⟩ := by decide +kernel
  refine (Binary64.value_toFraction (Binary64.ofCounts 1 3)).trans_ne ?_
  rw [rate]
  norm_num [Binary64.value]

end Ledgers

end TestImpact
