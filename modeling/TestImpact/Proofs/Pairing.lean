import TestImpact.Diff.Pairing

/-! What pairing keeps. Every deleted and every added line ends up once, in a pair or alone, and the
two lines of a pair are next to each other at most. Hence the touched lines of `reconcile` are the
added ones, and a deleted line is lost to a pair or to its own number only. -/

namespace TestImpact.Diff

theorem distance_le_reach_iff {a b : LineNumber} :
    distance a b ≤ reach ↔ a.toNat ≤ b.toNat + 1 ∧ b.toNat ≤ a.toNat + 1 := by
  have one : reach.toNat = 1 := rfl
  unfold distance
  split
  · next h =>
    have hab : a.toNat ≤ b.toNat := UInt32.le_iff_toNat_le.1 h
    rw [UInt32.le_iff_toNat_le, UInt32.toNat_sub_of_le _ _ h, one]
    omega
  · next h =>
    have hba : b.toNat < a.toNat := UInt32.not_le.1 h
    rw [UInt32.le_iff_toNat_le, UInt32.toNat_sub_of_le _ _ (UInt32.le_of_lt (UInt32.not_le.1 h)), one]
    omega

/-- The line that is taken is the first one within reach, and the others keep their order. -/
theorem takeNear?_eq_some {line found : LineNumber} {free rest : List LineNumber}
    (h : takeNear? line free = some (found, rest)) :
    ∃ before after, free = before ++ found :: after ∧ rest = before ++ after ∧
      distance found line ≤ reach ∧ ∀ a ∈ before, ¬ distance a line ≤ reach := by
  induction free generalizing rest with
  | nil => simp [takeNear?] at h
  | cons candidate free ih =>
    rw [takeNear?] at h
    split at h
    · next near =>
      cases h
      exact ⟨[], free, rfl, rfl, near, List.forall_mem_nil _⟩
    · next far =>
      obtain ⟨⟨first, others⟩, hf, he⟩ := Option.map_eq_some_iff.1 h
      cases he
      obtain ⟨before, after, rfl, rfl, near, none_before⟩ := ih hf
      exact ⟨candidate :: before, after, rfl, rfl, near, List.forall_mem_cons.2 ⟨far, none_before⟩⟩

theorem takeNear?_eq_none {line : LineNumber} {free : List LineNumber}
    (h : takeNear? line free = none) : ∀ a ∈ free, ¬ distance a line ≤ reach := by
  induction free with
  | nil => exact List.forall_mem_nil _
  | cons candidate free ih =>
    rw [takeNear?] at h
    split at h
    · cases h
    · next far => exact List.forall_mem_cons.2 ⟨far, ih (Option.map_eq_none_iff.1 h)⟩

theorem takeNear?_perm {line found : LineNumber} {free rest : List LineNumber}
    (h : takeNear? line free = some (found, rest)) :
    free.Perm (found :: rest) ∧ distance found line ≤ reach := by
  obtain ⟨before, after, rfl, rfl, near, -⟩ := takeNear?_eq_some h
  exact ⟨List.perm_middle, near⟩

/-- Every added line is in one pair, or alone. -/
theorem pairUp_added (deleted free : List LineNumber) :
    ((pairUp deleted free).pairs.map Prod.snd ++ (pairUp deleted free).loneAdded).Perm free := by
  induction deleted generalizing free with
  | nil => exact .refl _
  | cons line deleted ih =>
    rw [pairUp]
    split
    · next found rest h => exact ((ih rest).cons found).trans (takeNear?_perm h).1.symm
    · exact ih free

/-- Every deleted line is in one pair, or alone. -/
theorem pairUp_deleted (deleted free : List LineNumber) :
    ((pairUp deleted free).pairs.map Prod.fst ++ (pairUp deleted free).loneDeleted).Perm deleted := by
  induction deleted generalizing free with
  | nil => exact .refl _
  | cons line deleted ih =>
    rw [pairUp]
    split
    · next found rest h => exact (ih rest).cons line
    · exact List.perm_middle.trans ((ih free).cons line)

theorem pairUp_near {deleted free : List LineNumber} {line found : LineNumber}
    (h : (line, found) ∈ (pairUp deleted free).pairs) : distance found line ≤ reach := by
  induction deleted generalizing free with
  | nil => simp [pairUp] at h
  | cons next deleted ih =>
    rw [pairUp] at h
    split at h
    · next taken rest hn =>
      rcases List.mem_cons.1 h with he | h
      · cases he
        exact (takeNear?_perm hn).2
      · exact ih h
    · exact ih h

/-! ## Reconciled lines -/

/-- How the deleted lines of a diff are paired with its added ones. -/
def pairing (added deleted : LineSet) : Pairing :=
  pairUp deleted.toList added.toList

@[simp] theorem mem_reconcile_added {added deleted : LineSet} {n : LineNumber} :
    n ∈ (reconcile added deleted).added ↔ n ∈ (pairing added deleted).loneAdded :=
  LineSet.mem_ofList

@[simp] theorem mem_reconcile_modified {added deleted : LineSet} {n : LineNumber} :
    n ∈ (reconcile added deleted).modified ↔ ∃ d, (d, n) ∈ (pairing added deleted).pairs := by
  rw [reconcile, LineSet.mem_ofList]
  simp [pairing]

theorem mem_reconcile_deleted {added deleted : LineSet} {n : LineNumber} :
    n ∈ (reconcile added deleted).deleted ↔
      n ∈ (pairing added deleted).loneDeleted ∧ n ∉ (reconcile added deleted).touched := by
  rw [LineChanges.mem_touched, not_or, reconcile, LineSet.mem_filter, LineSet.mem_ofList]
  exact and_congr_right fun _ => decide_eq_true_iff

theorem mem_deleted_iff {added deleted : LineSet} {n : LineNumber} :
    n ∈ deleted ↔
      (∃ a, (n, a) ∈ (pairing added deleted).pairs) ∨ n ∈ (pairing added deleted).loneDeleted := by
  rw [LineSet.mem_def, ← (pairUp_deleted deleted.toList added.toList).mem_iff]
  simp [pairing]

/-- A line that stays alone is in no pair. -/
theorem not_mem_pairs_of_lone {added deleted : LineSet} {n a : LineNumber}
    (lone : n ∈ (pairing added deleted).loneDeleted) : (n, a) ∉ (pairing added deleted).pairs := by
  have once := deleted.nodup
  rw [← (pairUp_deleted deleted.toList added.toList).nodup_iff, List.nodup_append] at once
  intro paired
  exact once.2.2 n (List.mem_map.2 ⟨(n, a), paired, rfl⟩) n lone rfl

/-- The touched lines are the added ones, whatever was paired. -/
theorem mem_touched_reconcile {added deleted : LineSet} {n : LineNumber} :
    n ∈ (reconcile added deleted).touched ↔ n ∈ added := by
  rw [LineChanges.mem_touched, mem_reconcile_added, mem_reconcile_modified, LineSet.mem_def,
    ← (pairUp_added deleted.toList added.toList).mem_iff, or_comm]
  simp [pairing]

/-- A number is reported, as deleted or as touched, exactly where it is that of an added line or of
a deleted line that stayed alone. -/
theorem mem_reported_reconcile {added deleted : LineSet} {n : LineNumber} :
    n ∈ (reconcile added deleted).deleted ∨ n ∈ (reconcile added deleted).touched ↔
      n ∈ added ∨ n ∈ (pairing added deleted).loneDeleted := by
  rw [mem_reconcile_deleted, mem_touched_reconcile]
  by_cases h : n ∈ added
  · simp [h]
  · simp [h]

end TestImpact.Diff
