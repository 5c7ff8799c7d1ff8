import Mathlib.Data.List.Forall2
import Mathlib.Data.List.Induction
import TestImpact.Proofs.Attribution

/-! What a record of changed declarations says, and that it says no less of more. A record tells of
each name the gravest change inside the first declaration of that name which holds a changed line, in
the order of these declarations. More changed lines and wider ranges only make changes graver, so what
encloses a changed declaration has changed at least as gravely. -/

namespace TestImpact

/-! ## How grave a change is -/

def Change.severity : Change → Nat
  | modified => 1
  | added => 2
  | deleted => 3

/-- The severity of what a record says of a name, which may be nothing. -/
def severity : Option Change → Nat
  | none => 0
  | some change => change.severity

/-! ## Declarations and changed lines -/

namespace Declaration

/-- A line of the set lies in the range. -/
def holds (d : Declaration) (lines : LineSet) : Bool :=
  lines.toList.any d.contains

/-- The range covers that of another declaration, which may be empty. -/
def Covers (outer inner : Declaration) : Prop :=
  ∀ n, inner.contains n = true → outer.contains n = true

theorem holds_iff {d : Declaration} {lines : LineSet} :
    d.holds lines = true ↔ ∃ n ∈ lines, d.contains n = true :=
  List.any_eq_true

theorem holds_mono {inner outer : Declaration} {lines more : LineSet} (covers : outer.Covers inner)
    (grown : ∀ n ∈ lines, n ∈ more) (held : inner.holds lines = true) : outer.holds more = true := by
  obtain ⟨n, member, inside⟩ := holds_iff.1 held
  exact holds_iff.2 ⟨n, grown n member, covers n inside⟩

/-- A changed line lies in the range. -/
def isTouched (d : Declaration) (lines : Diff.LineChanges) : Bool :=
  d.holds lines.deleted || d.holds lines.added || d.holds lines.modified

/-- The gravest change with a line in the range of a touched declaration. -/
def gravest (d : Declaration) (lines : Diff.LineChanges) : Change :=
  if d.holds lines.deleted then .deleted else if d.holds lines.added then .added else .modified

theorem change?_eq_gravest (d : Declaration) (lines : Diff.LineChanges) :
    d.change? lines = if d.isTouched lines then some (d.gravest lines) else none := by
  rw [change?_eq, isTouched, gravest]
  unfold holds
  cases lines.deleted.toList.any d.contains with
  | true => rfl
  | false =>
    cases lines.added.toList.any d.contains with
    | true => rfl
    | false => rfl

theorem isSome_change? (d : Declaration) (lines : Diff.LineChanges) :
    (d.change? lines).isSome = d.isTouched lines := by
  rw [change?_eq_gravest]
  cases d.isTouched lines with
  | true => rfl
  | false => rfl

theorem isTouched_iff {d : Declaration} {lines : Diff.LineChanges} :
    d.isTouched lines = true ↔ ∃ n, d.contains n = true ∧
      (n ∈ lines.deleted ∨ n ∈ lines.added ∨ n ∈ lines.modified) := by
  rw [← isSome_change?, change?_isSome_iff]
  simp only [Diff.LineChanges.mem_touched]

end Declaration

/-- Each set of changed lines has all lines of the other one's. -/
structure Diff.LineChanges.Extends (more lines : Diff.LineChanges) : Prop where
  deleted : ∀ n ∈ lines.deleted, n ∈ more.deleted
  added : ∀ n ∈ lines.added, n ∈ more.added
  modified : ∀ n ∈ lines.modified, n ∈ more.modified

theorem Diff.LineChanges.Extends.refl (lines : Diff.LineChanges) : lines.Extends lines :=
  ⟨fun _ => id, fun _ => id, fun _ => id⟩

/-- A wider range and more changed lines make the change graver. -/
theorem Declaration.severity_change?_mono {inner outer : Declaration} {lines more : Diff.LineChanges}
    (covers : outer.Covers inner) (grown : more.Extends lines) :
    severity (inner.change? lines) ≤ severity (outer.change? more) := by
  have deleted := holds_mono covers grown.deleted
  have added := holds_mono covers grown.added
  have modified := holds_mono covers grown.modified
  rw [change?_eq_gravest, change?_eq_gravest]
  unfold isTouched gravest
  grind [severity, Change.severity]

/-! ## What a record says -/

/-- A declaration that is touched, under a name. -/
def touchedUnder (lines : Diff.LineChanges) (name : String) (d : Declaration) : Bool :=
  d.name == name && d.isTouched lines

/-- The record says of each name what happened to its first touched declaration, and has the names in
the order of these declarations. -/
structure ChangeRecord.TellsTouched (r : ChangeRecord) (declarations : List Declaration)
    (lines : Diff.LineChanges) : Prop where
  mem_names_iff : ∀ name, name ∈ r.names ↔ ∃ d ∈ declarations, d.name = name ∧
    ∃ n, d.contains n = true ∧ (n ∈ lines.deleted ∨ n ∈ lines.added ∨ n ∈ lines.modified)
  get?_eq : ∀ name d, declarations.find? (touchedUnder lines name) = some d →
    r.get? name = some (d.gravest lines)
  distinct : r.names.Nodup
  ordered : r.names.Pairwise fun first second =>
    declarations.findIdx (touchedUnder lines first) < declarations.findIdx (touchedUnder lines second)

theorem touchedDeclarations_concat (declarations : List Declaration) (d : Declaration)
    (lines : Diff.LineChanges) :
    touchedDeclarations (declarations ++ [d]) lines =
      if d.isTouched lines then
        (touchedDeclarations declarations lines).insert d.name (d.gravest lines)
      else touchedDeclarations declarations lines := by
  unfold touchedDeclarations ChangeRecord.ofList
  rw [List.filterMap_append, List.foldl_append]
  by_cases touched : d.isTouched lines = true
  · simp [touched, Declaration.change?_eq_gravest]
  · simp [touched, Declaration.change?_eq_gravest]

theorem mem_names_touchedDeclarations_iff {declarations : List Declaration}
    {lines : Diff.LineChanges} {name : String} :
    name ∈ (touchedDeclarations declarations lines).names ↔
      ∃ d ∈ declarations, touchedUnder lines name d = true := by
  simp only [mem_names_touchedDeclarations, Declaration.isSome_change?, touchedUnder,
    Bool.and_eq_true, beq_iff_eq]

/-- A name that is in the record already keeps its first declaration. -/
theorem findIdx_touchedUnder_concat {declarations : List Declaration} {d : Declaration}
    {lines : Diff.LineChanges} {name : String}
    (mem : name ∈ (touchedDeclarations declarations lines).names) :
    (declarations ++ [d]).findIdx (touchedUnder lines name) =
      declarations.findIdx (touchedUnder lines name) := by
  have found := List.findIdx_lt_length_of_exists (mem_names_touchedDeclarations_iff.1 mem)
  rw [List.findIdx_append, if_pos found]

theorem pairwise_names_touchedDeclarations (declarations : List Declaration)
    (lines : Diff.LineChanges) :
    (touchedDeclarations declarations lines).names.Pairwise fun first second =>
      declarations.findIdx (touchedUnder lines first) <
        declarations.findIdx (touchedUnder lines second) := by
  -- the record grows at its end, declaration by declaration
  induction declarations using List.reverseRecOn with
  | nil => exact .nil
  | append_singleton declarations d ih =>
    have kept : (touchedDeclarations declarations lines).names.Pairwise fun first second =>
        (declarations ++ [d]).findIdx (touchedUnder lines first) <
          (declarations ++ [d]).findIdx (touchedUnder lines second) := by
      refine ih.imp_of_mem fun first second lt => ?_
      rwa [findIdx_touchedUnder_concat first, findIdx_touchedUnder_concat second]
    rw [touchedDeclarations_concat]
    split
    · rw [ChangeRecord.names_insert]
      split
      · exact kept
      · next fresh =>
        refine List.pairwise_append.2 ⟨kept, List.pairwise_singleton _ _, fun first mem last new => ?_⟩
        obtain rfl := List.mem_singleton.1 new
        have found := List.findIdx_lt_length_of_exists (mem_names_touchedDeclarations_iff.1 mem)
        have absent : ¬ declarations.findIdx (touchedUnder lines d.name) < declarations.length := by
          rw [List.findIdx_lt_length]
          exact fun known => fresh (mem_names_touchedDeclarations_iff.2 known)
        rw [findIdx_touchedUnder_concat mem, List.findIdx_append, if_neg absent]
        omega
    · exact kept

theorem tellsTouched_touchedDeclarations (declarations : List Declaration) (lines : Diff.LineChanges) :
    (touchedDeclarations declarations lines).TellsTouched declarations lines where
  mem_names_iff name := by
    rw [mem_names_touchedDeclarations]
    simp only [Declaration.isSome_change?, Declaration.isTouched_iff]
  get?_eq name d first := by
    have touched := List.find?_some first
    rw [get?_touchedDeclarations]
    simp only [Declaration.isSome_change?]
    unfold touchedUnder at first touched
    rw [first, Option.bind_some, Declaration.change?_eq_gravest, if_pos]
    exact (Bool.and_eq_true_iff.1 touched).2
  distinct := (touchedDeclarations declarations lines).distinct
  ordered := pairwise_names_touchedDeclarations declarations lines

/-! ## More lines and wider ranges -/

theorem get?_touchedDeclarations_of_distinct {declarations : List Declaration}
    {lines : Diff.LineChanges} {d : Declaration}
    (distinct : (declarations.map Declaration.name).Nodup) (member : d ∈ declarations) :
    (touchedDeclarations declarations lines).get? d.name = d.change? lines := by
  rw [get?_touchedDeclarations]
  cases found : declarations.find? fun e => e.name == d.name && (e.change? lines).isSome with
  | none =>
    have idle := List.find?_eq_none.1 found d member
    rw [beq_self_eq_true, Bool.true_and, Option.isSome_iff_ne_none, not_not] at idle
    rw [Option.bind_none, idle]
  | some e =>
    have named := List.find?_some found
    rw [Bool.and_eq_true, beq_iff_eq] at named
    obtain rfl := List.inj_on_of_nodup_map distinct (List.mem_of_find?_eq_some found) member named.1
    rw [Option.bind_some]

/-- Declarations of the same names with wider ranges. -/
def Widens (wide declarations : List Declaration) : Prop :=
  List.Forall₂ (fun d w => w.name = d.name ∧ w.Covers d) declarations wide

theorem Widens.map_name {wide declarations : List Declaration} (widened : Widens wide declarations) :
    wide.map Declaration.name = declarations.map Declaration.name := by
  induction widened with
  | nil => rfl
  | cons head tail ih => rw [List.map_cons, List.map_cons, head.1, ih]

theorem Widens.exists_mem {wide declarations : List Declaration} (widened : Widens wide declarations)
    {d : Declaration} (member : d ∈ declarations) : ∃ w ∈ wide, w.name = d.name ∧ w.Covers d := by
  induction widened with
  | nil => cases member
  | cons head tail ih =>
    rcases List.mem_cons.1 member with rfl | member
    · exact ⟨_, List.mem_cons_self, head⟩
    · obtain ⟨w, mem, same⟩ := ih member
      exact ⟨w, List.mem_cons_of_mem _ mem, same⟩

theorem severity_touchedDeclarations_mono {declarations wide : List Declaration}
    {lines more : Diff.LineChanges} (distinct : (declarations.map Declaration.name).Nodup)
    (widened : Widens wide declarations) (grown : more.Extends lines) (name : String) :
    severity ((touchedDeclarations declarations lines).get? name) ≤
      severity ((touchedDeclarations wide more).get? name) := by
  by_cases declared : ∃ d ∈ declarations, d.name = name
  · obtain ⟨d, member, rfl⟩ := declared
    obtain ⟨w, memberWide, named, covers⟩ := widened.exists_mem member
    have distinctWide : (wide.map Declaration.name).Nodup := widened.map_name ▸ distinct
    rw [get?_touchedDeclarations_of_distinct distinct member, ← named,
      get?_touchedDeclarations_of_distinct distinctWide memberWide]
    exact Declaration.severity_change?_mono covers grown
  · have absent : (touchedDeclarations declarations lines).get? name = none := by
      rw [← Option.not_isSome_iff_eq_none, ← ChangeRecord.mem_names_iff, mem_names_touchedDeclarations]
      rintro ⟨d, member, named, _⟩
      exact declared ⟨d, member, named⟩
    rw [absent]
    exact Nat.zero_le _

/-- **A record of touched declarations is exact, ordered and monotone.** It has the names of the
touched declarations, each with the gravest change inside the first of them, in the order of these
first ones. Where names are distinct, more changed lines and wider ranges never take a name out of it
or make its change less grave; so what encloses a changed declaration has changed as gravely. -/
theorem touchedDeclarations_exact_mono (declarations : List Declaration) (lines : Diff.LineChanges) :
    (touchedDeclarations declarations lines).TellsTouched declarations lines ∧
      ((declarations.map Declaration.name).Nodup →
        (∀ wide more, Widens wide declarations → more.Extends lines → ∀ name,
          severity ((touchedDeclarations declarations lines).get? name) ≤
            severity ((touchedDeclarations wide more).get? name)) ∧
        ∀ inner ∈ declarations, ∀ outer ∈ declarations, outer.Covers inner →
          severity ((touchedDeclarations declarations lines).get? inner.name) ≤
            severity ((touchedDeclarations declarations lines).get? outer.name)) := by
  refine ⟨tellsTouched_touchedDeclarations declarations lines, fun distinct => ⟨?_, ?_⟩⟩
  · intro wide more widened grown name
    exact severity_touchedDeclarations_mono distinct widened grown name
  · intro inner memberInner outer memberOuter covers
    rw [get?_touchedDeclarations_of_distinct distinct memberInner,
      get?_touchedDeclarations_of_distinct distinct memberOuter]
    exact Declaration.severity_change?_mono covers (.refl lines)

/-- A method inside a function, with a modified line in it, and both after the method has grown and
lost a line. -/
def nestedDeclarations : List Declaration :=
  [{ name := "outer", startLine := 1, endLine := 20, kind := .function },
    { name := "Box.inner", startLine := 5, endLine := 8, kind := .method }]

def grownDeclarations : List Declaration :=
  [{ name := "outer", startLine := 1, endLine := 20, kind := .function },
    { name := "Box.inner", startLine := 5, endLine := 9, kind := .method }]

def innerModified : Diff.LineChanges := { modified := .ofList [6] }

def innerShortened : Diff.LineChanges := { deleted := .ofList [9], modified := .ofList [6] }

theorem widens_nestedDeclarations : Widens grownDeclarations nestedDeclarations := by
  refine .cons ⟨rfl, fun _ => id⟩ (.cons ⟨rfl, fun n inside => ?_⟩ .nil)
  simp only [Declaration.contains, Bool.and_eq_true, decide_eq_true_eq] at inside ⊢
  exact ⟨inside.1, UInt32.le_trans inside.2 (by decide)⟩

theorem innerShortened_extends : innerShortened.Extends innerModified where
  deleted _ member := absurd member LineSet.not_mem_empty
  added _ member := absurd member LineSet.not_mem_empty
  modified _ := id

theorem touchedDeclarations_exact_mono_nested :
    (nestedDeclarations.map Declaration.name).Nodup ∧
      Widens grownDeclarations nestedDeclarations ∧ innerShortened.Extends innerModified ∧
      severity ((touchedDeclarations nestedDeclarations innerModified).get? "Box.inner") = 1 ∧
      severity ((touchedDeclarations grownDeclarations innerShortened).get? "Box.inner") = 3 ∧
      ∀ name, severity ((touchedDeclarations nestedDeclarations innerModified).get? name) ≤
        severity ((touchedDeclarations grownDeclarations innerShortened).get? name) :=
  ⟨by decide, widens_nestedDeclarations, innerShortened_extends, by decide, by decide,
    ((touchedDeclarations_exact_mono nestedDeclarations innerModified).2 (by decide)).1 _ _
      widens_nestedDeclarations innerShortened_extends⟩

end TestImpact
