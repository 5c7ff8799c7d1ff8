import Mathlib.Data.List.Nodup
import TestImpact.Proofs.Scan
import TestImpact.Source.Attribution

/-! Which declarations a diff reports. A declaration is reported exactly where a changed line lies in
its range. Every added line counts there under its number, and a deleted line under the number of the
line it stood before, unless pairing moves it to an added line on the other side of a bound. -/

namespace TestImpact

/-! ## Records -/

namespace ChangeRecord

theorem get?_insert (r : ChangeRecord) (name other : String) (change : Change) :
    (r.insert name change).get? other =
      (r.get? other).or (if other = name then some change else none) := by
  by_cases h : name ∈ r.names
  · rw [insert, dif_pos h]
    split
    · next he =>
      obtain ⟨⟨_, c⟩, hm, rfl⟩ := List.mem_map.1 h
      have hs : (r.get? other).isSome := List.lookup_isSome_iff.2 ⟨_, hm, by simpa using he⟩
      rw [Option.or_of_isSome hs]
    · rw [Option.or_none]
  · rw [insert, dif_neg h, get?, List.lookup_append, get?]
    by_cases he : other = name
    · simp [he]
    · simp [he, List.lookup_cons, beq_false_of_ne he]

theorem get?_ofList (entries : List (String × Change)) (name : String) :
    (ofList entries).get? name = entries.lookup name := by
  suffices h : ∀ r : ChangeRecord,
      (entries.foldl (fun r entry => r.insert entry.1 entry.2) r).get? name =
        (r.get? name).or (entries.lookup name) from h ∅
  induction entries with
  | nil => simp
  | cons entry rest ih =>
    obtain ⟨other, change⟩ := entry
    intro r
    rw [List.foldl_cons, ih, get?_insert, Option.or_assoc, List.lookup_cons]
    congr 1
    by_cases h : name = other
    · simp [h]
    · simp [h, beq_false_of_ne h]

theorem mem_entries_iff {r : ChangeRecord} {name : String} {change : Change} :
    (name, change) ∈ r.entries ↔ r.get? name = some change := by
  obtain ⟨entries, distinct⟩ := r
  simp only [get?]
  induction entries with
  | nil => simp
  | cons entry rest ih =>
    obtain ⟨other, c⟩ := entry
    obtain ⟨fresh, distinct⟩ := List.nodup_cons.1 distinct
    rw [List.mem_cons, ih distinct, List.lookup_cons]
    by_cases h : name = other
    · subst h
      have absent : rest.lookup name = none := by
        rw [List.lookup_eq_none_iff]
        rintro p hp
        exact bne_iff_ne.2 fun he => fresh (List.mem_map.2 ⟨p, hp, he.symm⟩)
      simp [absent, eq_comm]
    · simp [h, beq_false_of_ne h]

theorem mem_names_iff {r : ChangeRecord} {name : String} :
    name ∈ r.names ↔ (r.get? name).isSome = true := by
  simp [names, get?]

end ChangeRecord

/-! ## One declaration -/

theorem find?_map_change (c : Change) (p : LineNumber → Bool) (numbers : List LineNumber) :
    ((numbers.map (·, c)).find? fun (line, _) => p line).map Prod.snd =
      if numbers.any p then some c else none := by
  induction numbers with
  | nil => rfl
  | cons n rest ih =>
    by_cases h : p n = true
    · simp [h]
    · simpa [h] using ih

/-- The gravest kind of change with a line in the declaration decides. -/
theorem Declaration.change?_eq (d : Declaration) (lines : Diff.LineChanges) :
    d.change? lines =
      if lines.deleted.toList.any d.contains then some .deleted
      else if lines.added.toList.any d.contains then some .added
      else if lines.modified.toList.any d.contains then some .modified
      else none := by
  have deleted := find?_map_change .deleted d.contains lines.deleted.toList
  have added := find?_map_change .added d.contains lines.added.toList
  have modified := find?_map_change .modified d.contains lines.modified.toList
  unfold Declaration.change? Diff.LineChanges.byWeight
  rw [List.find?_append, List.find?_append, Option.map_or, Option.map_or, deleted, added, modified]
  split
  · rfl
  · split
    · rfl
    · rfl

theorem Declaration.change?_isSome_iff {d : Declaration} {lines : Diff.LineChanges} :
    (d.change? lines).isSome = true ↔
      ∃ n, d.contains n = true ∧ (n ∈ lines.deleted ∨ n ∈ lines.touched) := by
  have reported : (∃ n, d.contains n = true ∧ (n ∈ lines.deleted ∨ n ∈ lines.touched)) ↔
      lines.deleted.toList.any d.contains = true ∨ lines.added.toList.any d.contains = true ∨
        lines.modified.toList.any d.contains = true := by
    simp only [Diff.LineChanges.mem_touched, LineSet.mem_def, List.any_eq_true]
    grind
  rw [reported, change?_eq]
  split
  · next h => simp [h]
  · next h =>
    split
    · next ha => simp [ha]
    · next ha =>
      split
      · next hm => simp [hm]
      · next hm => simp only [h, ha, hm]; simp

/-- A declaration that holds a deleted line counts as deleted, and no other one does. -/
theorem Declaration.change?_eq_deleted_iff {d : Declaration} {lines : Diff.LineChanges} :
    d.change? lines = some .deleted ↔ ∃ n ∈ lines.deleted, d.contains n = true := by
  have some_deleted : (∃ n ∈ lines.deleted, d.contains n = true) ↔
      lines.deleted.toList.any d.contains = true := List.any_eq_true.symm
  rw [some_deleted, change?_eq]
  split
  · next h => simp [h]
  · next h =>
    split
    · next ha => simp [h]
    · next ha =>
      split
      · next hm => simp [h]
      · next hm => simp [h]

/-! ## All declarations of a file -/

theorem mem_names_touchedDeclarations {declarations : List Declaration} {lines : Diff.LineChanges}
    {name : String} :
    name ∈ (touchedDeclarations declarations lines).names ↔
      ∃ d ∈ declarations, d.name = name ∧ (d.change? lines).isSome = true := by
  rw [ChangeRecord.mem_names_iff, touchedDeclarations, ChangeRecord.get?_ofList,
    List.lookup_isSome_iff]
  simp only [List.mem_filterMap, Option.map_eq_some_iff, beq_iff_eq]
  constructor
  · rintro ⟨_, ⟨d, hd, change, hc, rfl⟩, rfl⟩
    exact ⟨d, hd, rfl, by simp [hc]⟩
  · rintro ⟨d, hd, rfl, hs⟩
    obtain ⟨change, hc⟩ := Option.isSome_iff_exists.1 hs
    exact ⟨_, ⟨d, hd, change, hc, rfl⟩, rfl⟩

/-- A name has the change of its first declaration with a changed line. -/
theorem get?_touchedDeclarations (declarations : List Declaration) (lines : Diff.LineChanges)
    (name : String) :
    (touchedDeclarations declarations lines).get? name =
      (declarations.find? fun d => d.name == name && (d.change? lines).isSome).bind
        (·.change? lines) := by
  rw [touchedDeclarations, ChangeRecord.get?_ofList]
  induction declarations with
  | nil => rfl
  | cons d rest ih =>
    rw [List.filterMap_cons, List.find?_cons]
    cases hc : d.change? lines with
    | none => simpa [hc] using ih
    | some change =>
      by_cases h : d.name = name
      · simp [h, hc]
      · have hn : (d.name == name) = false := beq_false_of_ne h
        have hn' : (name == d.name) = false := beq_false_of_ne (Ne.symm h)
        simpa [hc, hn, hn', List.lookup_cons] using ih

/-- Where names are distinct, a name stands for its declaration. -/
theorem name_mem_touchedDeclarations {declarations : List Declaration} {lines : Diff.LineChanges}
    {d : Declaration} (distinct : (declarations.map Declaration.name).Nodup)
    (member : d ∈ declarations) :
    d.name ∈ (touchedDeclarations declarations lines).names ↔ (d.change? lines).isSome = true := by
  rw [mem_names_touchedDeclarations]
  constructor
  · rintro ⟨other, ho, he, hs⟩
    rwa [List.inj_on_of_nodup_map distinct ho member he] at hs
  · exact fun hs => ⟨d, member, rfl, hs⟩

/-- A removed line that pairing moves out of a declaration was recorded at a bound of it. -/
theorem Declaration.bound_of_moved_out {d : Declaration} {n a : LineNumber}
    (near : a.toNat ≤ n.toNat + 1 ∧ n.toNat ≤ a.toNat + 1) (inside : d.contains n = true)
    (outside : d.contains a = false) :
    n = d.startLine ∧ a.toNat + 1 = n.toNat ∨ n = d.endLine ∧ a.toNat = n.toNat + 1 := by
  simp only [contains, Bool.and_eq_true, Bool.and_eq_false_iff, decide_eq_true_eq,
    decide_eq_false_iff_not, UInt32.le_iff_toNat_le] at inside outside
  rw [← UInt32.toNat_inj, ← UInt32.toNat_inj (a := n) (b := d.endLine)]
  omega

/-- **A declaration is reported exactly where the diff adds a line to it, or removes one from it that
pairing leaves there.** Pairing can take a removed line out of a declaration only at a bound, to an
added line just outside. -/
theorem reported_iff_changed_inside {diff : String} {file : Diff.FileDiff}
    {declarations : List Declaration} {d : Declaration}
    (accepted : Diff.FileDiff.parse diff = .ok file)
    (distinct : (declarations.map Declaration.name).Nodup) (member : d ∈ declarations) :
    ∃ marks, Diff.markLines 0 none (Text.lines diff) = .ok marks ∧
      (d.name ∈ (touchedDeclarations declarations file.lines).names ↔
        (∃ n ∈ Diff.insertedNumbers marks, d.contains n = true) ∨
        ∃ n ∈ Diff.removedNumbers marks, d.contains n = true ∧
          ∀ a, (n, a) ∈ (Diff.pairingOf marks).pairs → d.contains a = true) ∧
      ∀ n a, (n, a) ∈ (Diff.pairingOf marks).pairs → d.contains n = true → d.contains a = false →
        n = d.startLine ∧ a.toNat + 1 = n.toNat ∨ n = d.endLine ∧ a.toNat = n.toNat + 1 := by
  obtain ⟨marks, scanned, rfl⟩ := Diff.parse_eq_ok_iff.1 accepted
  refine ⟨marks, scanned, ?_, fun n a h => Declaration.bound_of_moved_out (Diff.mem_pairs_ofMarks h).2⟩
  rw [name_mem_touchedDeclarations distinct member, Declaration.change?_isSome_iff]
  simp only [Diff.mem_reported_ofMarks]
  constructor
  · rintro ⟨n, inside, inserted | lone⟩
    · exact Or.inl ⟨n, inserted, inside⟩
    · refine Or.inr ⟨n, Diff.mem_removedNumbers_iff.2 (Or.inr lone), inside, fun a paired => ?_⟩
      exact absurd paired (Diff.not_mem_pairs_of_lone lone)
  · rintro (⟨n, inserted, inside⟩ | ⟨n, removed, inside, stays⟩)
    · exact ⟨n, inside, Or.inl inserted⟩
    · rcases Diff.mem_removedNumbers_iff.1 removed with ⟨a, paired⟩ | lone
      · exact ⟨a, stays a paired, Or.inl (Diff.mem_pairs_ofMarks paired).1⟩
      · exact ⟨n, inside, Or.inr lone⟩

/-- A diff that empties the body of the function on the first two lines, and adds a call behind it. -/
def emptiedBody : String :=
  "@@ -1,4 +1,4 @@\n function a() \x7b\n-  work();\n \x7d\n+y();\n x();\n"

def emptiedBodyMarks : List Diff.Mark :=
  [.opens 1, .kept 1 " function a() \x7b", .removed 2 "-  work();", .kept 2 " \x7d",
    .inserted 3 "+y();", .kept 4 " x();"]

/-- The function that the diff empties, and one on the line that it adds. -/
def emptiedFunction : Declaration :=
  { name := "a", startLine := 1, endLine := 2, kind := .function }

def addedFunction : Declaration :=
  { name := "y", startLine := 3, endLine := 3, kind := .function }

theorem emptiedBody_scanned :
    Diff.markLines 0 none (Text.lines emptiedBody) = .ok emptiedBodyMarks := by decide +kernel

theorem emptiedBody_accepted :
    Diff.FileDiff.parse emptiedBody = .ok (Diff.FileDiff.ofMarks emptiedBodyMarks) :=
  Diff.parse_eq_ok_iff.2 ⟨_, emptiedBody_scanned, rfl⟩

theorem reported_iff_changed_inside_emptied :
    Diff.FileDiff.parse emptiedBody = .ok (Diff.FileDiff.ofMarks emptiedBodyMarks) ∧
      ([emptiedFunction, addedFunction].map Declaration.name).Nodup ∧
      addedFunction ∈ [emptiedFunction, addedFunction] ∧
      ∃ marks, Diff.markLines 0 none (Text.lines emptiedBody) = .ok marks ∧
        (addedFunction.name ∈ (touchedDeclarations [emptiedFunction, addedFunction]
            (Diff.FileDiff.ofMarks emptiedBodyMarks).lines).names ↔
          (∃ n ∈ Diff.insertedNumbers marks, addedFunction.contains n = true) ∨
          ∃ n ∈ Diff.removedNumbers marks, addedFunction.contains n = true ∧
            ∀ a, (n, a) ∈ (Diff.pairingOf marks).pairs → addedFunction.contains a = true) ∧
        ∀ n a, (n, a) ∈ (Diff.pairingOf marks).pairs → addedFunction.contains n = true →
          addedFunction.contains a = false →
          n = addedFunction.startLine ∧ a.toNat + 1 = n.toNat ∨
            n = addedFunction.endLine ∧ a.toNat = n.toNat + 1 :=
  ⟨emptiedBody_accepted, by decide, by decide,
    reported_iff_changed_inside emptiedBody_accepted (by decide) (by decide)⟩

/-- The emptied function is not reported: its removed line is recorded on its last line, and paired
with the line added behind it. -/
theorem removed_line_missed :
    ¬ ∀ (diff : String) (file : Diff.FileDiff) (marks : List Diff.Mark),
      Diff.FileDiff.parse diff = .ok file →
      Diff.markLines 0 none (Text.lines diff) = .ok marks →
      ∀ declarations : List Declaration, (declarations.map Declaration.name).Nodup →
      ∀ d ∈ declarations, ∀ n, n ∈ Diff.insertedNumbers marks ∨ n ∈ Diff.removedNumbers marks →
        d.contains n = true → d.name ∈ (touchedDeclarations declarations file.lines).names := by
  intro reported
  have key := reported emptiedBody _ _ emptiedBody_accepted emptiedBody_scanned
    [emptiedFunction] (by decide) emptiedFunction (by decide) 2 (by decide) (by decide)
  exact absurd key (by decide)

end TestImpact
