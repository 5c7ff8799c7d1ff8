import Mathlib.Algebra.GroupWithZero.Nat
import Mathlib.Data.List.Induction
import TestImpact.Healing.Ledger
import TestImpact.Proofs.HunkHeader

/-! The statistics of a ledger as counts over its entries. What is counted under a name is the number
of attempts whose outcome has this name, and different outcomes have different names. -/

namespace TestImpact

/-! ## Counts by name -/

namespace Tally

theorem lookup_put (name other : String) (n : Nat) (t : Tally) :
    (put name n t).lookup other = if other = name then some n else t.lookup other := by
  induction t with
  | nil =>
    rw [put, List.lookup_cons]
    by_cases same : other = name
    · simp [same]
    · simp [same, beq_eq_false_iff_ne.2 same]
  | cons entry rest ih =>
    obtain ⟨first, count⟩ := entry
    by_cases same : other = name
    · subst same
      rw [put, if_pos rfl]
      split
      · simp
      · split
        · simp
        · next different => rw [List.lookup_cons, beq_eq_false_iff_ne.2 different, ih, if_pos rfl]
    · rw [put, if_neg same]
      split
      · rw [List.lookup_cons, beq_eq_false_iff_ne.2 same]
      · split
        · next _ replaced =>
          subst replaced
          simp only [List.lookup_cons, beq_eq_false_iff_ne.2 same]
        · rw [List.lookup_cons, List.lookup_cons, ih, if_neg same]

theorem count_bump (t : Tally) (name other : String) :
    (t.bump name).count other = t.count other + if name = other then 1 else 0 := by
  rw [bump, count, lookup_put]
  by_cases same : other = name
  · subst same
    rw [if_pos rfl, if_pos rfl]
    rfl
  · rw [if_neg same, if_neg (Ne.symm same)]
    rfl

/-! A tally is kept in the order of the names, so that each name has one place in it. -/

/-- The names of a tally ascend. -/
def Ascends (t : Tally) : Prop :=
  t.Pairwise fun a b => a.1 < b.1

theorem name_of_mem_put {name : String} {n : Nat} {t : Tally} {entry : String × Nat}
    (member : entry ∈ put name n t) : entry = (name, n) ∨ entry ∈ t := by
  induction t with
  | nil => exact .inl (List.mem_singleton.1 member)
  | cons first rest ih =>
    obtain ⟨other, count⟩ := first
    rw [put] at member
    split at member
    · exact List.mem_cons.1 member
    · split at member
      · exact (List.mem_cons.1 member).imp id (List.mem_cons_of_mem _)
      · rcases List.mem_cons.1 member with same | member
        · exact .inr (same ▸ List.mem_cons_self)
        · exact (ih member).imp id (List.mem_cons_of_mem _)

theorem ascends_put {t : Tally} (ascends : Ascends t) (name : String) (n : Nat) :
    Ascends (put name n t) := by
  induction t with
  | nil => exact List.pairwise_singleton ..
  | cons first rest ih =>
    obtain ⟨other, count⟩ := first
    obtain ⟨below, tail⟩ := List.pairwise_cons.1 ascends
    rw [put]
    split
    · next before =>
      refine List.pairwise_cons.2 ⟨?_, ascends⟩
      intro entry member
      rcases List.mem_cons.1 member with rfl | member
      · exact before
      · exact String.lt_trans before (below entry member)
    · next not_before =>
      split
      · next same =>
        subst same
        exact List.pairwise_cons.2 ⟨below, tail⟩
      · next different =>
        refine List.pairwise_cons.2 ⟨?_, ih tail⟩
        intro entry member
        rcases name_of_mem_put member with rfl | member
        · exact Decidable.not_not.1 fun not_behind =>
            different (String.le_antisymm (String.not_lt.1 not_behind) (String.not_lt.1 not_before))
        · exact below entry member

/-- A name that stands before all names of a tally has no count in it. -/
theorem count_of_before {name : String} {t : Tally} (before : ∀ entry ∈ t, name < entry.1) :
    t.count name = 0 := by
  have absent : t.lookup name = none := by
    refine List.lookup_eq_none_iff.2 fun entry member => bne_iff_ne.2 ?_
    rintro rfl
    exact String.lt_irrefl _ (before entry member)
  rw [count, absent]
  rfl

/-- What is put under a name takes the place of what stood there. -/
theorem sum_put {t : Tally} (ascends : Ascends t) (name : String) (n : Nat) :
    ((put name n t).map Prod.snd).sum + t.count name = (t.map Prod.snd).sum + n := by
  induction t with
  | nil => exact Nat.add_comm n 0
  | cons first rest ih =>
    obtain ⟨other, count⟩ := first
    obtain ⟨below, tail⟩ := List.pairwise_cons.1 ascends
    rw [put]
    split
    · next before =>
      have none : Tally.count ((other, count) :: rest) name = 0 := by
        refine count_of_before fun entry member => ?_
        rcases List.mem_cons.1 member with rfl | member
        · exact before
        · exact String.lt_trans before (below entry member)
      rw [none, List.map_cons, List.sum_cons]
      omega
    · split
      · next same =>
        subst same
        simp only [Tally.count, List.lookup_cons_self, Option.getD_some, List.map_cons, List.sum_cons]
        omega
      · next different =>
        have behind : Tally.count ((other, count) :: rest) name = Tally.count rest name := by
          rw [Tally.count, List.lookup_cons, beq_eq_false_iff_ne.2 different]
          rfl
        rw [behind, List.map_cons, List.map_cons, List.sum_cons, List.sum_cons]
        have := ih tail
        omega

theorem sum_bump {t : Tally} (ascends : Ascends t) (name : String) :
    ((t.bump name).map Prod.snd).sum = (t.map Prod.snd).sum + 1 := by
  have put := sum_put ascends name (t.count name + 1)
  rw [bump]
  omega

end Tally

theorem TierOutcome.key_injective {a b : TierOutcome} (h : a.key = b.key) : a = b := by
  have letter : Text.isDecimalDigit 'f' = false := by decide
  have not_decimal (n : Nat) : String.ofList (Text.decimal n) ≠ "failed" := by
    intro same
    have digit : 'f' ∈ Text.decimal n := by
      rw [← String.toList_ofList (l := Text.decimal n), same]
      decide
    exact Bool.false_ne_true (letter.symm.trans (Text.isDecimalDigit_of_mem_decimal digit))
  cases a with
  | tier m =>
    cases b with
    | tier n =>
      have same := Text.decimal_injective (String.ofList_injective h)
      exact congrArg tier (UInt8.toNat_inj.1 same)
    | failed => exact absurd h (not_decimal _)
  | failed =>
    cases b with
    | tier n => exact absurd h.symm (not_decimal _)
    | failed => rfl

theorem TierOutcome.key_beq (a b : TierOutcome) : (a.key == b.key) = decide (a = b) := by
  by_cases same : a = b
  · rw [same, beq_self_eq_true, decide_eq_true rfl]
  · rw [decide_eq_false same, beq_eq_false_iff_ne.2 (mt key_injective same)]

/-! ## Statistics -/

namespace HealingStats

theorem count_foldl_bump (attempts : List HealingAttempt) (t : Tally) (name : String) :
    (attempts.foldl (fun tally a => tally.bump a.tier.key) t).count name =
      t.count name + attempts.countP fun a => a.tier.key == name := by
  induction attempts generalizing t with
  | nil => rfl
  | cons a attempts ih =>
    rw [List.foldl_cons, ih, Tally.count_bump, List.countP_cons]
    simp only [beq_iff_eq]
    omega

/-- Under a name there is the number of attempts whose outcome has this name. -/
theorem count_byTier (attempts : List HealingAttempt) (name : String) :
    (ofAttempts attempts).byTier.count name = attempts.countP fun a => a.tier.key == name := by
  rw [ofAttempts, count_foldl_bump]
  exact Nat.zero_add _

/-- The names of the counts ascend, each is that of an outcome, and each count is positive. -/
theorem byTier_spec (attempts : List HealingAttempt) :
    Tally.Ascends (ofAttempts attempts).byTier ∧
      ∀ entry ∈ (ofAttempts attempts).byTier, 0 < entry.2 ∧ ∃ a ∈ attempts, entry.1 = a.tier.key := by
  rw [ofAttempts]
  induction attempts using List.reverseRecOn with
  | nil => exact ⟨.nil, nofun⟩
  | append_singleton attempts a ih =>
    obtain ⟨ascends, counts⟩ := ih
    simp only [List.foldl_append, List.foldl_cons, List.foldl_nil]
    refine ⟨Tally.ascends_put ascends .., ?_⟩
    intro entry member
    rcases Tally.name_of_mem_put member with rfl | old
    · exact ⟨Nat.succ_pos _, a, List.mem_append_right _ List.mem_cons_self, rfl⟩
    · obtain ⟨positive, earlier, recorded, named⟩ := counts entry old
      exact ⟨positive, earlier, List.mem_append_left _ recorded, named⟩

theorem sum_byTier (attempts : List HealingAttempt) :
    ((ofAttempts attempts).byTier.map Prod.snd).sum = attempts.length := by
  induction attempts using List.reverseRecOn with
  | nil => rfl
  | append_singleton attempts a ih =>
    have ascends := (byTier_spec attempts).1
    have bumped : (ofAttempts (attempts ++ [a])).byTier =
        (ofAttempts attempts).byTier.bump a.tier.key := by
      simp only [ofAttempts, List.foldl_append, List.foldl_cons, List.foldl_nil]
    rw [bumped, Tally.sum_bump ascends, ih, List.length_append, List.length_singleton]

end HealingStats

end TestImpact
