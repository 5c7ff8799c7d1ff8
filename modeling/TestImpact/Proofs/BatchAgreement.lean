import TestImpact.Proofs.BatchSchedule

/-! The reports and the ledger of a batch. Every step pays a part of what its worker owes, so a
schedule that has ended has delivered and recorded what the run in order does, in another order and at
other times. The statistics of the ledger grow by counts of the outcomes. -/

namespace TestImpact

namespace Batch

/-! ## Debts -/

section

variable {α β : Type} {view : α → β} {log later last : List α} {owed rest none : List β}

/-- A log grew by a part of what was owed, as far as a view of its entries tells. -/
def Paid (view : α → β) (log later : List α) (owed rest : List β) : Prop :=
  ∃ given, later = log ++ given ∧ (given.map view ++ rest).Perm owed

theorem Paid.of_perm (same : rest.Perm owed) : Paid view log log owed rest :=
  ⟨[], (List.append_nil log).symm, same⟩

theorem Paid.one {entry : α} (first : owed.Perm (view entry :: rest)) :
    Paid view log (log ++ [entry]) owed rest :=
  ⟨[entry], rfl, first.symm⟩

theorem Paid.trans (h : Paid view log later owed rest) (h' : Paid view later last rest none) :
    Paid view log last owed none := by
  obtain ⟨given, rfl, paid⟩ := h
  obtain ⟨more, rfl, paid'⟩ := h'
  refine ⟨given ++ more, List.append_assoc .., ?_⟩
  rw [List.map_append, List.append_assoc]
  exact (paid'.append_left _).trans paid

end

section

variable (c : SteadyCollaborators) (timeout : Option Nat) (now : Timestamp)
  (queue : List (Nat × TestTarget)) (held : List (Option (Nat × TestTarget × Work)))

/-- What is to come for the targets that are not done yet. -/
def promises : List (Nat × TestTarget × Promise) :=
  (held.filterMap fun held =>
    held.map fun (number, t, work) => (number, t, work.promise c timeout now t)) ++
  queue.map fun (number, t) => (number, t, Work.taken.promise c timeout now t)

def owedReports : List (Nat × TargetReport) :=
  (promises c timeout now queue held).map fun (number, t, promise) =>
    (number, reportOf t promise.outcome)

def owedAttempts : List HealingAttempt :=
  (promises c timeout now queue held).flatMap fun (_, _, promise) => promise.attempts

end

variable {c : SteadyCollaborators} {timeout : Option Nat} {now : Timestamp} {number : Nat}
  {t : TestTarget} {work : Work} {queue : List (Nat × TestTarget)}
  {before after : List (Option (Nat × TestTarget × Work))}

theorem promises_held :
    (promises c timeout now queue (before ++ some (number, t, work) :: after)).Perm
      ((number, t, work.promise c timeout now t) ::
        promises c timeout now queue (before ++ none :: after)) := by
  simp only [promises, List.filterMap_append, List.filterMap_cons, Option.map_some, Option.map_none,
    List.append_assoc, List.cons_append]
  exact List.perm_middle

theorem promises_queue {held : List (Option (Nat × TestTarget × Work))} :
    (promises c timeout now ((number, t) :: queue) held).Perm
      ((number, t, Work.taken.promise c timeout now t) :: promises c timeout now queue held) :=
  List.perm_middle

theorem owedReports_settled {attempt : HealingAttempt} {outcome : TargetOutcome} :
    (owedReports c timeout now queue
        (before ++ some (number, t, .settled attempt outcome) :: after)).Perm
      ((number, reportOf t outcome) :: owedReports c timeout now queue (before ++ none :: after)) :=
  promises_held.map _

theorem owedReports_finished {outcome : TargetOutcome} :
    (owedReports c timeout now queue (before ++ some (number, t, .finished outcome) :: after)).Perm
      ((number, reportOf t outcome) :: owedReports c timeout now queue (before ++ none :: after)) :=
  promises_held.map _

theorem owedAttempts_settled {attempt : HealingAttempt} {outcome : TargetOutcome} :
    (owedAttempts c timeout now queue
        (before ++ some (number, t, .settled attempt outcome) :: after)).Perm
      (attempt.dated now :: owedAttempts c timeout now queue (before ++ none :: after)) :=
  promises_held.flatMap_right _

theorem owedAttempts_finished {outcome : TargetOutcome} :
    (owedAttempts c timeout now queue (before ++ some (number, t, .finished outcome) :: after)).Perm
      (owedAttempts c timeout now queue (before ++ none :: after)) :=
  promises_held.flatMap_right _

/-- Between two states workers delivered and recorded a part of what they owed. -/
structure Pays (c : SteadyCollaborators) (timeout : Option Nat) (now : Timestamp) (s next : State) :
    Prop where
  reports : Paid id s.delivered next.delivered (owedReports c timeout now s.queue s.held)
    (owedReports c timeout now next.queue next.held)
  attempts : Paid (·.dated now) s.ledger.entries next.ledger.entries
    (owedAttempts c timeout now s.queue s.held) (owedAttempts c timeout now next.queue next.held)

theorem Pays.trans {s next last : State} (h : Pays c timeout now s next)
    (h' : Pays c timeout now next last) : Pays c timeout now s last where
  reports := h.reports.trans h'.reports
  attempts := h.attempts.trans h'.attempts

theorem Step.pays {s next : State} (step : Step c timeout s next) (now : Timestamp) :
    Pays c timeout now s next := by
  cases step with
  | take number t queue before after delivered ledger =>
    have same : (promises c timeout now queue (before ++ some (number, t, .taken) :: after)).Perm
        (promises c timeout now ((number, t) :: queue) (before ++ none :: after)) :=
      promises_held.trans promises_queue.symm
    exact ⟨.of_perm (same.map _), .of_perm (same.flatMap_right _)⟩
  | @work made number t work next goes queue before after delivered ledger =>
    have same : (promises c timeout now queue (before ++ some (number, t, next) :: after)).Perm
        (promises c timeout now queue (before ++ some (number, t, work) :: after)) := by
      refine promises_held.trans ?_
      rw [Work.promise_next? goes]
      exact promises_held.symm
    exact ⟨.of_perm (same.map _), .of_perm (same.flatMap_right _)⟩
  | record number t attempt outcome queue before after delivered ledger =>
    -- The report is owed as before, and of the attempts the first one is paid.
    constructor
    · exact .of_perm (owedReports_finished.trans owedReports_settled.symm)
    · exact .one (owedAttempts_settled.trans (owedAttempts_finished.cons _).symm)
  | deliver number t outcome queue before after delivered ledger =>
    constructor
    · exact .one owedReports_finished
    · exact .of_perm owedAttempts_finished.symm

theorem pays_of_run {s last : State} (run : Relation.ReflTransGen (Step c timeout) s last)
    (now : Timestamp) : Pays c timeout now s last := by
  induction run with
  | refl => exact ⟨.of_perm (.refl _), .of_perm (.refl _)⟩
  | tail _ step ih => exact ih.trans (step.pays now)

/-! ## The beginning and the end -/

theorem promises_start (c : SteadyCollaborators) (timeout : Option Nat) (now : Timestamp)
    (queue : List (Nat × TestTarget)) (workers : Nat) :
    promises c timeout now queue (List.replicate workers none) =
      queue.map fun (number, t) =>
        (number, t, .ofRun (resolveTarget c.collaborators timeout now t)) := by
  rw [promises, List.filterMap_replicate_of_none rfl, List.nil_append]
  rfl

theorem promises_done {s : State} (done : s.isDone = true) :
    promises c timeout now s.queue s.held = [] := by
  obtain ⟨queue, held⟩ := State.isDone_iff.1 done
  rw [promises, queue, List.map_nil, List.append_nil]
  exact List.filterMap_eq_nil_iff.2 fun work member => by rw [held work member, Option.map_none]

/-- What is delivered and recorded when a schedule has ended. -/
theorem perm_of_run {targets : List TestTarget} {workers : Nat} {ledger : HealingLedger} {s : State}
    (run : Relation.ReflTransGen (Step c timeout) (start targets workers ledger) s)
    (done : s.isDone = true) (now : Timestamp) :
    s.delivered.Perm (Pool.answered
        (fun t => (resolveTarget c.collaborators timeout now t).report t) (Pool.jobs targets)) ∧
      ∃ appended, s.ledger.entries = ledger.entries ++ appended ∧
        (appended.map (·.dated now)).Perm
          (targets.flatMap fun t => (resolveTarget c.collaborators timeout now t).attempts) := by
  obtain ⟨⟨given, delivered, reports⟩, appended, entries, attempts⟩ := pays_of_run run now
  have items : (Pool.jobs targets).map Prod.snd = targets := List.map_snd_zip (by simp)
  constructor
  · rw [owedReports, promises_done done, start, owedReports, promises_start, List.map_nil,
      List.append_nil, List.map_id, List.map_map] at reports
    rw [delivered]
    exact reports
  · rw [owedAttempts, promises_done done, start, owedAttempts, promises_start, List.flatMap_nil,
      List.append_nil, List.flatMap_map] at attempts
    refine ⟨appended, entries, ?_⟩
    rw [← items, List.flatMap_map]
    exact attempts

theorem held_ne_nil_of_run {targets : List TestTarget} {workers : Nat} {ledger : HealingLedger}
    {s : State} (run : Relation.ReflTransGen (Step c timeout) (start targets workers ledger) s) :
    s.held ≠ [] := by
  induction run with
  | refl =>
    have some : Pool.workerCount targets.length workers ≠ 0 := by
      rw [Pool.workerCount]
      omega
    exact mt (List.replicate_eq_nil_iff _).1 some
  | tail _ step ih =>
    cases step with
    | take | work | record | deliver => simp

end Batch

/-- A batch goes through the targets one by one, whatever its number of workers. -/
theorem resolveTargets_eq (targets : List TestTarget) (c : Collaborators) (timeout : Option Nat)
    (now : Timestamp) (workers : Nat) (ledger : HealingLedger) :
    resolveTargets targets c timeout now workers ledger =
      { reports := targets.map fun t => (resolveTarget c timeout now t).report t
        asked := targets.flatMap fun t => (resolveTarget c timeout now t).asked
        sent := targets.flatMap fun t => (resolveTarget c timeout now t).sent
        ledger :=
          ⟨ledger.entries ++ targets.flatMap fun t => (resolveTarget c timeout now t).attempts⟩ } := by
  simp only [resolveTargets, Pool.runOrdered_eq_map, List.map_map, List.flatMap_map]
  rfl

/-! ## Statistics -/

namespace TargetOutcome

def isTested : TargetOutcome → Bool
  | notTested _ => false
  | _ => true

def isFailed : TargetOutcome → Bool
  | failed _ => true
  | _ => false

def isResolved : TargetOutcome → Bool
  | resolved _ => true
  | _ => false

def isHealed : TargetOutcome → Bool
  | healed _ => true
  | _ => false

/-- Whether a tier settled the look-up. -/
def isAt (number : UInt8) : TargetOutcome → Bool
  | resolved tier => decide (tier = number)
  | healed tier => decide (tier = number)
  | _ => false

theorem isTested_ofTier (tier : UInt8) : (ofTier tier).isTested = true := by
  rw [ofTier]
  split
  · rfl
  · rfl

theorem isFailed_ofTier (tier : UInt8) : (ofTier tier).isFailed = false := by
  rw [ofTier]
  split
  · rfl
  · rfl

theorem isHealed_ofTier (tier : UInt8) : (ofTier tier).isHealed = decide (1 < tier) := by
  rw [ofTier]
  split
  · next behind => exact (decide_eq_true behind).symm
  · next first => exact (decide_eq_false first).symm

theorem isResolved_or_isHealed_ofTier (tier : UInt8) :
    ((ofTier tier).isResolved || (ofTier tier).isHealed) = true := by
  rw [ofTier]
  split
  · rfl
  · rfl

theorem countP_isResolved_or_isHealed (outcomes : List TargetOutcome) :
    outcomes.countP (fun outcome => outcome.isResolved || outcome.isHealed) =
      outcomes.countP (·.isResolved) + outcomes.countP (·.isHealed) := by
  induction outcomes with
  | nil => rfl
  | cons outcome outcomes ih =>
    have one : (if (outcome.isResolved || outcome.isHealed) = true then 1 else 0) =
        (if outcome.isResolved = true then 1 else 0) + if outcome.isHealed = true then 1 else 0 := by
      cases outcome with
      | resolved tier | healed tier | failed error | notTested reason => rfl
    rw [List.countP_cons, List.countP_cons, List.countP_cons, ih, one]
    omega

theorem isAt_ofTier (number tier : UInt8) : (ofTier tier).isAt number = decide (tier = number) := by
  rw [ofTier]
  split
  · rfl
  · rfl

end TargetOutcome

theorem resolveElement_records (surface : Surface) (timeout : Option Nat) (now : Timestamp)
    (d : SelectorDescriptor) (ledger : HealingLedger) :
    let run := resolveElement surface timeout now d ledger
    (∃ element, run.result = .ok element ∧
      run.ledger = ledger.record (.make (.selectors d) (.tier element.tier) now)) ∨
    ∃ e, run.result = .error e ∧ run.ledger = ledger.record (.make (.selectors d) .failed now) := by
  rw [resolveElement]
  obtain ⟨asked, found⟩ := seekElement surface timeout [] (elementCandidates d)
  cases found with
  | some element => exact .inl ⟨element, rfl, rfl⟩
  | none => exact .inr ⟨_, rfl, rfl⟩

theorem resolveEndpoint_records (transport : Transport) (timeout : Option Nat) (now : Timestamp)
    (method : HttpMethod) (path : String) (ledger : HealingLedger) :
    let run := resolveEndpoint transport timeout now method path ledger
    let subject := HealingSubject.endpoint (normalizePath path)
    (∃ resolution, run.result = .ok resolution ∧
      run.ledger = ledger.record (.make subject (.tier resolution.tier) now)) ∨
    ∃ e, run.result = .error e ∧ run.ledger = ledger.record (.make subject .failed now) := by
  rw [resolveEndpoint]
  obtain ⟨sent, finding⟩ :=
    seekEndpoint transport method timeout (normalizePath path) [] none EndpointTier.numbered
  cases finding with
  | found tier version resolved response => exact .inl ⟨_, rfl, rfl⟩
  | exhausted last => exact .inr ⟨_, rfl, rfl⟩

/-- What a target that was not tried, one that a tier settled, and one that failed record. -/
theorem resolveTarget_cases (c : Collaborators) (timeout : Option Nat) (now : Timestamp)
    (t : TestTarget) :
    let run := resolveTarget c timeout now t
    (∃ reason, run.outcome = .notTested reason ∧ run.attempts = []) ∨
    (∃ subject tier, run.outcome = .ofTier tier ∧ run.attempts = [.make subject (.tier tier) now]) ∨
    ∃ subject error, run.outcome = .failed error ∧ run.attempts = [.make subject .failed now] := by
  rw [resolveTarget]
  split
  · exact .inl ⟨_, rfl, rfl⟩
  · split
    next surface d _ _ =>
      rcases resolveElement_records surface timeout now d ∅ with
        ⟨element, ok, recorded⟩ | ⟨e, error, recorded⟩
      · refine .inr (.inl ⟨_, element.tier, ?_, congrArg HealingLedger.entries recorded⟩)
        simp only [ok]
      · refine .inr (.inr ⟨_, e.message, ?_, congrArg HealingLedger.entries recorded⟩)
        simp only [error]
    next => exact .inl ⟨_, rfl, rfl⟩
  · split
    next transport path _ _ =>
      rcases resolveEndpoint_records transport timeout now (t.method.getD .get) path ∅ with
        ⟨resolution, ok, recorded⟩ | ⟨e, error, recorded⟩
      · refine .inr (.inl ⟨_, resolution.tier, ?_, congrArg HealingLedger.entries recorded⟩)
        simp only [ok]
      · refine .inr (.inr ⟨_, e.message, ?_, congrArg HealingLedger.entries recorded⟩)
        simp only [error]
    next => exact .inl ⟨_, rfl, rfl⟩

/-- Attempts of a kind are as many as the outcomes of the targets that such attempts belong to. -/
theorem countP_attempts {attempt : HealingAttempt → Bool} {outcome : TargetOutcome → Bool}
    {now : Timestamp} (untested : ∀ reason, outcome (.notTested reason) = false)
    (settled : ∀ subject tier, attempt (.make subject (.tier tier) now) = outcome (.ofTier tier))
    (failed : ∀ subject error, attempt (.make subject .failed now) = outcome (.failed error))
    (c : Collaborators) (timeout : Option Nat) (targets : List TestTarget) :
    (targets.flatMap fun t => (resolveTarget c timeout now t).attempts).countP attempt =
      (targets.map fun t => (resolveTarget c timeout now t).outcome).countP outcome := by
  induction targets with
  | nil => rfl
  | cons t targets ih =>
    rw [List.flatMap_cons, List.countP_append, ih, List.map_cons, List.countP_cons, Nat.add_comm]
    congr 1
    rcases resolveTarget_cases c timeout now t with
      ⟨reason, told, recorded⟩ | ⟨subject, tier, told, recorded⟩ | ⟨subject, error, told, recorded⟩
    · rw [told, recorded, untested]
      rfl
    · rw [told, recorded, List.countP_singleton, settled]
    · rw [told, recorded, List.countP_singleton, failed subject error]

namespace HealingStats

/-- Statistics that grew by the counts of some outcomes. -/
structure GrewBy (before after : HealingStats) (outcomes : List TargetOutcome) : Prop where
  attempts : after.attempts = before.attempts + outcomes.countP (·.isTested)
  successes : after.successes =
    before.successes + (outcomes.countP (·.isResolved) + outcomes.countP (·.isHealed))
  healed : after.healed = before.healed + outcomes.countP (·.isHealed)
  failed : after.byTier.count "failed" =
    before.byTier.count "failed" + outcomes.countP (·.isFailed)
  tier (number : UInt8) : after.byTier.count (TierOutcome.tier number).key =
    before.byTier.count (TierOutcome.tier number).key + outcomes.countP (·.isAt number)
  /-- Nothing is counted under other names. -/
  others (name : String) (other : ∀ outcome : TierOutcome, name ≠ outcome.key) :
    after.byTier.count name = before.byTier.count name

theorem attempts_ofAttempts (attempts : List HealingAttempt) :
    (ofAttempts attempts).attempts = attempts.countP fun _ => true :=
  (congrFun List.countP_true attempts).symm

theorem grewBy_of_perm {before appended : List HealingAttempt} {now : Timestamp}
    {targets : List TestTarget} {c : Collaborators} {timeout : Option Nat}
    (recorded : (appended.map (·.dated now)).Perm
      (targets.flatMap fun t => (resolveTarget c timeout now t).attempts)) :
    (ofAttempts before).GrewBy (ofAttempts (before ++ appended))
      (targets.map fun t => (resolveTarget c timeout now t).outcome) := by
  -- An attempt is counted whatever its time.
  have counted {attempt : HealingAttempt → Bool} {outcome : TargetOutcome → Bool}
      (undated : ∀ a, attempt (a.dated now) = attempt a)
      (untested : ∀ reason, outcome (.notTested reason) = false)
      (settled : ∀ subject tier, attempt (.make subject (.tier tier) now) = outcome (.ofTier tier))
      (failed : ∀ subject error, attempt (.make subject .failed now) = outcome (.failed error)) :
      (before ++ appended).countP attempt = before.countP attempt +
        (targets.map fun t => (resolveTarget c timeout now t).outcome).countP outcome := by
    rw [List.countP_append, ← countP_attempts untested settled failed, ← recorded.countP_eq,
      List.countP_map]
    exact congrArg _ (List.countP_congr fun a _ => by rw [Function.comp_apply, undated])
  constructor
  case attempts =>
    rw [attempts_ofAttempts, attempts_ofAttempts]
    exact counted (fun _ => rfl) (fun _ => rfl)
      (fun _ tier => (TargetOutcome.isTested_ofTier tier).symm) fun _ _ => rfl
  case successes =>
    rw [← TargetOutcome.countP_isResolved_or_isHealed]
    exact counted (fun _ => rfl) (fun _ => rfl)
      (fun _ tier => (TargetOutcome.isResolved_or_isHealed_ofTier tier).symm) fun _ _ => rfl
  case healed =>
    exact counted (fun _ => rfl) (fun _ => rfl)
      (fun _ tier => (TargetOutcome.isHealed_ofTier tier).symm) fun _ _ => rfl
  case failed =>
    rw [count_byTier, count_byTier]
    refine counted (fun _ => rfl) (fun _ => rfl) (fun _ tier => ?_) fun _ _ => rfl
    exact (TierOutcome.key_beq _ .failed).trans (TargetOutcome.isFailed_ofTier tier).symm
  case tier =>
    intro number
    rw [count_byTier, count_byTier]
    refine counted (fun _ => rfl) (fun _ => rfl) (fun _ tier => ?_) fun _ _ => ?_
    · rw [TargetOutcome.isAt_ofTier]
      refine (TierOutcome.key_beq (.tier tier) (.tier number)).trans ?_
      simp only [TierOutcome.tier.injEq]
    · exact TierOutcome.key_beq _ _
  case others =>
    intro name other
    rw [count_byTier, count_byTier, List.countP_append, Nat.add_eq_left, List.countP_eq_zero]
    exact fun a _ same => other a.tier (beq_iff_eq.1 same).symm

end HealingStats

namespace Batch

/-- **The reports and the ledger of a batch agree in every schedule.** No schedule goes on for ever.
When the workers stop, the reports are those of the run in order, one for each target and in the order
of the targets; behind the entries that the ledger had there are the attempts of the run in order, in
some order and each at some time; and the statistics grew by the counts of the outcomes. -/
theorem reports_and_ledger_agree (targets : List TestTarget) (c : SteadyCollaborators)
    (timeout : Option Nat) (now : Timestamp) (workers : Nat) (ledger : HealingLedger) {s : State}
    (run : Relation.ReflTransGen (Step c timeout) (start targets workers ledger) s) :
    let inOrder := resolveTargets targets c.collaborators timeout now 1 ledger
    resolveTargets targets c.collaborators timeout now workers ledger = inOrder ∧
      Acc (fun next s => Step c timeout s next) s ∧
      ((∀ next, ¬ Step c timeout s next) →
        let reports := Pool.collect targets.length s.delivered
        reports = inOrder.reports ∧
        reports.map (fun report => (report.id, report.name, report.kind)) =
          targets.map (fun t => (t.id, t.name, t.kind)) ∧
        (∃ appended attempts, s.ledger.entries = ledger.entries ++ appended ∧
          inOrder.ledger.entries = ledger.entries ++ attempts ∧
          (appended.map (·.dated now)).Perm attempts) ∧
        ledger.stats.GrewBy s.ledger.stats (reports.map (·.outcome))) := by
  intro inOrder
  have sequential : inOrder = _ := resolveTargets_eq targets c.collaborators timeout now 1 ledger
  refine ⟨?_, (step_wellFounded c timeout).apply s, fun stopped => ?_⟩
  · rw [sequential, resolveTargets_eq]
  · have done := isDone_of_stopped (held_ne_nil_of_run run) stopped now
    obtain ⟨delivered, appended, entries, recorded⟩ := perm_of_run run done now
    have reports := Pool.collect_of_perm delivered
    dsimp only
    rw [reports, sequential]
    refine ⟨rfl, ?_, ⟨appended, _, entries, rfl, recorded⟩, ?_⟩
    · rw [List.map_map]
      rfl
    · rw [HealingLedger.stats, HealingLedger.stats, entries, List.map_map]
      exact HealingStats.grewBy_of_perm recorded

/-- A page on which only style selectors find something. -/
def styledPage : SteadyCollaborators where
  find := some fun query =>
    match query.locator with
    | .css _ _ => .ok [⟨"button"⟩]
    | _ => .error .timeout

def styledButton : TestTarget where
  name := "button"
  file := "a.js"
  function := "save"
  change := .added
  kind := .ui
  selectors := some { css := some "button" }

def lostLink : TestTarget where
  name := "link"
  file := "a.js"
  function := "leave"
  change := .added
  kind := .ui
  selectors := some { text := some "Leave" }

def moment (second : Nat) : Timestamp := ⟨0, second, 0⟩

theorem reports_and_ledger_agree_out_of_order :
    ∃ s, Relation.ReflTransGen (Step styledPage none) (start [styledButton, lostLink] 2 ∅) s ∧
      (∀ next, ¬ Step styledPage none s next) ∧
      s.ledger.entries.map (·.tier) = [.failed, .tier 2] ∧
      let inOrder := resolveTargets [styledButton, lostLink] styledPage.collaborators none (moment 0)
        1 ∅
      inOrder.ledger.entries.map (·.tier) = [.tier 2, .failed] ∧
      Pool.collect 2 s.delivered = inOrder.reports ∧
      (∅ : HealingLedger).stats.GrewBy s.ledger.stats
        ((Pool.collect 2 s.delivered).map (·.outcome)) := by
  have run : Relation.ReflTransGen (Step styledPage none) (start [styledButton, lostLink] 2 ∅) _ :=
    .head (.take 0 styledButton [(1, lostLink)] [] [none] [] ∅) <|
    .head (.take 1 lostLink [] [some (0, styledButton, .taken)] [] [] ∅) <|
    .head (.work (moment 1) 1 lostLink rfl [] [some (0, styledButton, .taken)] [] [] ∅) <|
    .head (.work (moment 1) 0 styledButton rfl [] [] [some (1, lostLink, _)] [] ∅) <|
    .head (.work (moment 2) 1 lostLink rfl [] [some (0, styledButton, _)] [] [] ∅) <|
    .head (.work (moment 3) 1 lostLink rfl [] [some (0, styledButton, _)] [] [] ∅) <|
    .head (.work (moment 4) 0 styledButton rfl [] [] [some (1, lostLink, _)] [] ∅) <|
    .head (.record 1 lostLink _ _ [] [some (0, styledButton, _)] [] [] ∅) <|
    .head (.deliver 1 lostLink _ [] [some (0, styledButton, _)] [] [] _) <|
    .head (.record 0 styledButton _ _ [] [] [none] _ _) <|
    .head (.deliver 0 styledButton _ [] [] [none] _ _) .refl
  obtain ⟨_, _, agree⟩ := reports_and_ledger_agree _ _ _ (moment 0) _ _ run
  obtain ⟨reports, _, _, grew⟩ := agree (not_step_of_isDone rfl)
  exact ⟨_, run, not_step_of_isDone rfl, rfl, rfl, reports, grew⟩

end Batch

end TestImpact
