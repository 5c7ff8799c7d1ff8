import TestImpact.Analysis.Diff
import TestImpact.Proofs.Attribution
import TestImpact.Target.Generate

/-! Which changed functions get a target. All functions of a record are declared in the present
source, but targets are made for those only that do not count as deleted, and a declaration counts as
deleted as soon as it holds a removed line that stayed alone. So a function that lost a line and still
exists has no target. -/

namespace TestImpact

/-- The first declaration under a name that changed lines touch. -/
def firstTouched? (declarations : List Declaration) (lines : Diff.LineChanges) (name : String) :
    Option Declaration :=
  declarations.find? fun d => d.name == name && (d.change? lines).isSome

/-! ## Targets of a record -/

theorem exists_live_iff {f : FileChange} {name : String} (key : name ∈ f.functions.names) :
    (∃ change, (name, change) ∈ liveFunctions f) ↔ f.functions.get? name ≠ some .deleted := by
  obtain ⟨recorded, hr⟩ := Option.isSome_iff_exists.1 (ChangeRecord.mem_names_iff.1 key)
  simp only [liveFunctions, List.mem_filter, ChangeRecord.mem_entries_iff, bne_iff_ne]
  constructor
  · rintro ⟨change, hc, live⟩ gone
    exact live (Option.some.inj (hc.symm.trans gone))
  · exact fun live => ⟨recorded, hr, fun gone => live (gone ▸ hr)⟩

theorem kind_of_visualTarget? {f : FileChange} {t : TestTarget} (h : visualTarget? f = some t) :
    t.kind = .visual := by
  simp only [visualTarget?, guard, Option.pure_def, Option.bind_eq_bind, Option.bind_eq_some_iff,
    Option.some.injEq] at h
  obtain ⟨_, _, _, _, _, _, rfl⟩ := h
  rfl

theorem mem_targetsOfFile_iff {f : FileChange} {t : TestTarget} :
    t ∈ targetsOfFile f ↔
      (f.hasImpact PathTag.uiRendering.label = true ∧
        ((∃ p ∈ liveFunctions f, uiTarget f.file p.1 p.2 = t) ∨ visualTarget? f = some t)) ∨
      (f.hasImpact PathTag.apiEndpoints.label = true ∧
        ∃ p ∈ liveFunctions f, apiTarget f.file (touchesAuthorization f.lines) p.1 p.2 = t) := by
  rw [targetsOfFile, List.mem_append]
  refine or_congr ?_ ?_
  · split
    · next tagged => simp [tagged]
    · next untagged => simp [untagged]
  · split
    · next tagged => simp [tagged]
    · next untagged => simp [untagged]

/-- The targets of one kind that a file has. -/
def targetsOfKind (f : FileChange) : TargetKind → List TestTarget
  | .ui =>
    if f.hasImpact PathTag.uiRendering.label then
      (liveFunctions f).map fun p => uiTarget f.file p.1 p.2
    else []
  | .visual => if f.hasImpact PathTag.uiRendering.label then (visualTarget? f).toList else []
  | .api =>
    if f.hasImpact PathTag.apiEndpoints.label then
      (liveFunctions f).map fun p => apiTarget f.file (touchesAuthorization f.lines) p.1 p.2
    else []

theorem targetsOfFile_eq (f : FileChange) :
    targetsOfFile f = targetsOfKind f .ui ++ targetsOfKind f .visual ++ targetsOfKind f .api := by
  rw [targetsOfFile]
  congr 1
  simp only [targetsOfKind]
  split <;> rfl

theorem kind_of_mem_targetsOfKind {f : FileChange} {kind : TargetKind} {t : TestTarget}
    (mem : t ∈ targetsOfKind f kind) : t.kind = kind := by
  cases kind with
  | ui =>
    simp only [targetsOfKind] at mem
    split at mem
    · obtain ⟨p, -, rfl⟩ := List.mem_map.1 mem
      rfl
    · cases mem
  | visual =>
    simp only [targetsOfKind] at mem
    split at mem
    · exact kind_of_visualTarget? (Option.mem_toList.1 mem)
    · cases mem
  | api =>
    simp only [targetsOfKind] at mem
    split at mem
    · obtain ⟨p, -, rfl⟩ := List.mem_map.1 mem
      rfl
    · cases mem

theorem filter_targetsOfKind (f : FileChange) (kind other : TargetKind) :
    (targetsOfKind f kind).filter (fun t => t.kind = other) =
      if kind = other then targetsOfKind f kind else [] := by
  split
  · next same =>
    refine List.filter_eq_self.2 fun t mem => ?_
    exact decide_eq_true ((kind_of_mem_targetsOfKind mem).trans same)
  · next differ =>
    refine List.filter_eq_nil_iff.2 fun t mem => ?_
    rw [decide_eq_true_iff, kind_of_mem_targetsOfKind mem]
    exact differ

theorem filter_targetsOfFile (f : FileChange) (kind : TargetKind) :
    (targetsOfFile f).filter (fun t => t.kind = kind) = targetsOfKind f kind := by
  rw [targetsOfFile_eq, List.filter_append, List.filter_append]
  simp only [filter_targetsOfKind]
  cases kind <;> simp

theorem exists_ui_target_iff {f : FileChange} {name : String}
    (tagged : f.hasImpact PathTag.uiRendering.label = true) :
    (∃ t ∈ generateTargets [f], t.kind = .ui ∧ t.function = name) ↔
      ∃ change, (name, change) ∈ liveFunctions f := by
  rw [generateTargets, List.flatMap_singleton]
  constructor
  · rintro ⟨t, ht, kind, rfl⟩
    rcases mem_targetsOfFile_iff.1 ht with ⟨_, ⟨p, live, rfl⟩ | looks⟩ | ⟨_, p, live, rfl⟩
    · exact ⟨p.2, live⟩
    · rw [kind_of_visualTarget? looks] at kind
      cases kind
    · cases kind
  · rintro ⟨change, live⟩
    exact ⟨_, mem_targetsOfFile_iff.2 (Or.inl ⟨tagged, Or.inl ⟨_, live, rfl⟩⟩), rfl, rfl⟩

theorem exists_api_target_iff {f : FileChange} {name : String}
    (tagged : f.hasImpact PathTag.apiEndpoints.label = true) :
    (∃ t ∈ generateTargets [f], t.kind = .api ∧ t.function = name) ↔
      ∃ change, (name, change) ∈ liveFunctions f := by
  rw [generateTargets, List.flatMap_singleton]
  constructor
  · rintro ⟨t, ht, kind, rfl⟩
    rcases mem_targetsOfFile_iff.1 ht with ⟨_, ⟨p, live, rfl⟩ | looks⟩ | ⟨_, p, live, rfl⟩
    · cases kind
    · rw [kind_of_visualTarget? looks] at kind
      cases kind
    · exact ⟨p.2, live⟩
  · rintro ⟨change, live⟩
    exact ⟨_, mem_targetsOfFile_iff.2 (Or.inr ⟨tagged, _, live, rfl⟩), rfl, rfl⟩

/-! ## Analyzed files -/

theorem analyzeFile_eq_some_iff {g : Grammar} {path diff : String} {source : Option String}
    {c : FileChange} :
    analyzeFile g path diff source = some c ↔
      ∃ d, readDiff? diff = some d ∧ changeOf g path d source = c :=
  Option.map_eq_some_iff

/-- The functions of an analyzed file are the declarations of its source that its lines touch. -/
theorem declared_of_mem_functions {g : Grammar} {path diff source name : String} {c : FileChange}
    (analyzed : analyzeFile g path diff (some source) = some c) (key : name ∈ c.functions.names) :
    ∃ found, g.declarations path source = .ok found ∧
      c.functions = touchedDeclarations found c.lines := by
  obtain ⟨d, -, rfl⟩ := analyzeFile_eq_some_iff.1 analyzed
  dsimp only [changeOf] at key ⊢
  split at key
  · simp at key
  · next changed =>
    rw [if_neg changed]
    cases hg : g.declarations path source with
    | error e => simp [hg] at key
    | ok found => exact ⟨found, rfl, rfl⟩

/-- A touched name has a first touched declaration, whose change is recorded. -/
theorem exists_firstTouched {declarations : List Declaration} {lines : Diff.LineChanges}
    {name : String} (key : name ∈ (touchedDeclarations declarations lines).names) :
    ∃ d, firstTouched? declarations lines name = some d ∧
      (touchedDeclarations declarations lines).get? name = d.change? lines := by
  have recorded := get?_touchedDeclarations declarations lines name
  rw [ChangeRecord.mem_names_iff, recorded] at key
  cases hd : declarations.find? fun d => d.name == name && (d.change? lines).isSome with
  | none => simp [hd] at key
  | some d => exact ⟨d, hd, by simpa [hd] using recorded⟩

/-- **A changed function gets its target unless a removed line counts for it.** Every function of an
analyzed file is declared in the source; in a file with pages or endpoints it has its target exactly
where its first touched declaration holds no line that the analysis reports as deleted. -/
theorem target_iff_no_deleted_line {g : Grammar} {path diff source name : String} {c : FileChange}
    (analyzed : analyzeFile g path diff (some source) = some c) (key : name ∈ c.functions.names) :
    ∃ found d, g.declarations path source = .ok found ∧ d ∈ found ∧ d.name = name ∧
      firstTouched? found c.lines name = some d ∧
      (c.hasImpact PathTag.uiRendering.label = true →
        ((∃ t ∈ generateTargets [c], t.kind = .ui ∧ t.function = name) ↔
          ∀ n ∈ c.lines.deleted, d.contains n = false)) ∧
      (c.hasImpact PathTag.apiEndpoints.label = true →
        ((∃ t ∈ generateTargets [c], t.kind = .api ∧ t.function = name) ↔
          ∀ n ∈ c.lines.deleted, d.contains n = false)) := by
  obtain ⟨found, parsed, functions⟩ := declared_of_mem_functions analyzed key
  have live := exists_live_iff key
  rw [functions] at key live
  obtain ⟨d, first, change⟩ := exists_firstTouched key
  have named := List.find?_some first
  rw [Bool.and_eq_true, beq_iff_eq] at named
  rw [change, Ne, Declaration.change?_eq_deleted_iff] at live
  simp only [not_exists, not_and, Bool.not_eq_true] at live
  exact ⟨found, d, parsed, List.mem_of_find?_eq_some first, named.1, first,
    fun tagged => (exists_ui_target_iff tagged).trans live,
    fun tagged => (exists_api_target_iff tagged).trans live⟩

/-- A function on a page and its tree, and the diff that took a line out of it. -/
def savedForm : String := "function save() \x7b\n  return 1;\n\x7d\n"

def formTree : Syntax.Node :=
  .mk "program" none ⟨0, 32, 0, 3⟩
    [.mk "function_declaration" none ⟨0, 31, 0, 2⟩
      [.mk "function" none ⟨0, 8, 0, 0⟩ [],
        .mk "identifier" (some "name") ⟨9, 13, 0, 0⟩ [],
        .mk "formal_parameters" (some "parameters") ⟨13, 15, 0, 0⟩
          [.mk "(" none ⟨13, 14, 0, 0⟩ [], .mk ")" none ⟨14, 15, 0, 0⟩ []],
        .mk "statement_block" (some "body") ⟨16, 31, 0, 2⟩
          [.mk "\x7b" none ⟨16, 17, 0, 0⟩ [],
            .mk "return_statement" none ⟨20, 29, 1, 1⟩
              [.mk "return" none ⟨20, 26, 1, 1⟩ [], .mk "number" none ⟨27, 28, 1, 1⟩ [],
                .mk ";" none ⟨28, 29, 1, 1⟩ []],
            .mk "\x7d" none ⟨30, 31, 2, 2⟩ []]]]

def formGrammar : Grammar where
  tree? _ _ _ := some formTree

def shortenedForm : String :=
  "@@ -1,4 +1,3 @@\n function save() \x7b\n-  log();\n   return 1;\n \x7d\n"

/-- What the analysis says of it. -/
def formChange : FileChange where
  file := "components/form.js"
  lines := { deleted := .ofList [2] }
  functions := .ofList [("save", .deleted)]
  hunks := [.ofContent 1 [" function save() \x7b", "-  log();", "   return 1;", " \x7d"]]
  impact := ["UI rendering"]

theorem form_analyzed :
    analyzeFile formGrammar "components/form.js" shortenedForm (some savedForm) = some formChange := by
  decide +kernel

theorem target_iff_no_deleted_line_form :
    analyzeFile formGrammar "components/form.js" shortenedForm (some savedForm) = some formChange ∧
    "save" ∈ formChange.functions.names ∧
    ∃ found d, formGrammar.declarations "components/form.js" savedForm = .ok found ∧ d ∈ found ∧
      d.name = "save" ∧ firstTouched? found formChange.lines "save" = some d ∧
      (formChange.hasImpact PathTag.uiRendering.label = true →
        ((∃ t ∈ generateTargets [formChange], t.kind = .ui ∧ t.function = "save") ↔
          ∀ n ∈ formChange.lines.deleted, d.contains n = false)) ∧
      (formChange.hasImpact PathTag.apiEndpoints.label = true →
        ((∃ t ∈ generateTargets [formChange], t.kind = .api ∧ t.function = "save") ↔
          ∀ n ∈ formChange.lines.deleted, d.contains n = false)) :=
  ⟨form_analyzed, by decide, target_iff_no_deleted_line form_analyzed (by decide)⟩

/-- The function that lost a line is still declared, on a page, and has no target. -/
theorem shortened_function_without_target :
    ¬ ∀ (g : Grammar) (path diff source : String) (c : FileChange),
      analyzeFile g path diff (some source) = some c →
      c.hasImpact PathTag.uiRendering.label = true → ∀ name ∈ c.functions.names,
        ∃ t ∈ generateTargets [c], t.kind = .ui ∧ t.function = name := by
  intro targeted
  obtain ⟨t, ht, _⟩ := targeted formGrammar _ _ _ formChange form_analyzed (by decide) "save" (by decide)
  have none_made : generateTargets [formChange] = [] := by decide
  simp [none_made] at ht

end TestImpact
