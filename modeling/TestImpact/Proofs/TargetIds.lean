import TestImpact.Proofs.LiveTargets

/-! The ids of targets tell the targets apart. An id is read from both ends: what a kind is called
differs in its last two characters, and a path without colons ends in front of the first colon. What is
left in the middle is the name of the function, whatever colons it has, and no function has two
targets of one kind. -/

namespace TestImpact

/-! ## Reading an id -/

/-- Behind a scope without colons the first two colons are the ones that end it. -/
theorem scoped_inj {scope other name name' : String} (no_colon : ':' ∉ scope.toList)
    (no_colon' : ':' ∉ other.toList) (same : scope ++ "::" ++ name = other ++ "::" ++ name') :
    scope = other ∧ name = name' := by
  have cut {s t : String} (absent : ':' ∉ s.toList) :
      Text.cutFirst? [':'] (s ++ "::" ++ t).toList = some (s.toList, ':' :: t.toList) := by
    have first : ¬ [] ++ [':'] <:+: s.toList ++ [] := by
      rw [List.append_nil]
      intro occurs
      exact absent (occurs.subset (List.mem_singleton_self ':'))
    rw [String.toList_append, String.toList_append, List.append_assoc]
    exact Text.cutFirst?_append (':' :: t.toList) first
  have cuts := cut (t := name) no_colon
  rw [same, cut no_colon', Option.some.injEq, Prod.mk.injEq, List.cons.injEq] at cuts
  obtain ⟨scopes, -, names⟩ := cuts
  exact ⟨(String.toList_inj.1 scopes).symm, (String.toList_inj.1 names).symm⟩

/-- The last two characters of an id tell the kind. -/
theorem labelled_inj {name name' : String} {kind other : TargetKind}
    (same : name ++ "::" ++ kind.label = name' ++ "::" ++ other.label) :
    name = name' ∧ kind = other := by
  have ends := congrArg (fun s => s.toList.reverse.take 2) same
  have kinds : kind = other := by
    cases kind <;> cases other <;> simp [TargetKind.label] at ends ⊢
  subst kinds
  rw [String.append_assoc, String.append_assoc, String.append_left_inj] at same
  exact ⟨same, rfl⟩

namespace TestTarget

variable {t u : TestTarget}

theorem id_eq (t : TestTarget) : t.id = t.file ++ "::" ++ (t.function ++ "::" ++ t.kind.label) := by
  simp only [id, String.append_assoc]

theorem same_of_id_eq (file : t.file = u.file) (same : t.id = u.id) :
    t.function = u.function ∧ t.kind = u.kind := by
  rw [id_eq, id_eq, file, String.append_right_inj] at same
  exact labelled_inj same

theorem file_eq_of_id_eq (no_colon : ':' ∉ t.file.toList) (no_colon' : ':' ∉ u.file.toList)
    (same : t.id = u.id) : t.file = u.file := by
  rw [id_eq, id_eq] at same
  exact (scoped_inj no_colon no_colon' same).1

end TestTarget

/-! ## The targets of one file -/

theorem nodup_names_live (f : FileChange) : ((liveFunctions f).map Prod.fst).Nodup :=
  f.functions.distinct.sublist (List.filter_sublist.map Prod.fst)

theorem pairwise_targetsOfKind (f : FileChange) (kind : TargetKind) :
    (targetsOfKind f kind).Pairwise fun t u => t.function ≠ u.function := by
  have live : (liveFunctions f).Pairwise fun p q => p.1 ≠ q.1 := List.pairwise_map.1 (nodup_names_live f)
  cases kind with
  | ui =>
    simp only [targetsOfKind]
    split
    · exact List.pairwise_map.2 live
    · exact .nil
  | visual =>
    simp only [targetsOfKind]
    split
    · cases visualTarget? f <;> simp
    · exact .nil
  | api =>
    simp only [targetsOfKind]
    split
    · exact List.pairwise_map.2 live
    · exact .nil

/-- No function of a file has two targets of one kind. -/
theorem pairwise_targetsOfFile (f : FileChange) :
    (targetsOfFile f).Pairwise fun t u => ¬ (t.function = u.function ∧ t.kind = u.kind) := by
  have within (kind : TargetKind) :
      (targetsOfKind f kind).Pairwise fun t u => ¬ (t.function = u.function ∧ t.kind = u.kind) :=
    (pairwise_targetsOfKind f kind).imp fun differ same => differ same.1
  have across {kind other : TargetKind} (differ : kind ≠ other) :
      ∀ t ∈ targetsOfKind f kind, ∀ u ∈ targetsOfKind f other,
        ¬ (t.function = u.function ∧ t.kind = u.kind) := by
    intro t mem u mem' same
    rw [kind_of_mem_targetsOfKind mem, kind_of_mem_targetsOfKind mem'] at same
    exact differ same.2
  rw [targetsOfFile_eq, List.pairwise_append, List.pairwise_append]
  refine ⟨⟨within .ui, within .visual, across (by decide)⟩, within .api, ?_⟩
  intro t mem
  cases List.mem_append.1 mem with
  | inl ui => exact across (by decide) t ui
  | inr looks => exact across (by decide) t looks

theorem file_of_visualTarget? {f : FileChange} {t : TestTarget} (looks : visualTarget? f = some t) :
    t.file = f.file := by
  simp only [visualTarget?, guard, Option.pure_def, Option.bind_eq_bind, Option.bind_eq_some_iff,
    Option.some.injEq] at looks
  obtain ⟨_, _, _, _, _, _, rfl⟩ := looks
  rfl

theorem file_of_mem_targetsOfFile {f : FileChange} {t : TestTarget} (mem : t ∈ targetsOfFile f) :
    t.file = f.file := by
  rcases mem_targetsOfFile_iff.1 mem with ⟨_, ⟨p, _, rfl⟩ | looks⟩ | ⟨_, p, _, rfl⟩
  · rfl
  · exact file_of_visualTarget? looks
  · rfl

/-! ## The targets of all files -/

theorem pairwise_ids_targetsOfFile (f : FileChange) :
    (targetsOfFile f).Pairwise fun t u => t.id ≠ u.id := by
  refine (pairwise_targetsOfFile f).imp_of_mem ?_
  intro t u mem mem' differ same
  have file : t.file = u.file :=
    (file_of_mem_targetsOfFile mem).trans (file_of_mem_targetsOfFile mem').symm
  exact differ (TestTarget.same_of_id_eq file same)

/-- **The ids of targets tell the targets apart.** Files with different paths, none of which has a colon,
have no two targets with one id, whatever their functions are called; and neither has a single file,
whatever its path. -/
theorem target_ids_distinct :
    (∀ files : List FileChange, (files.map FileChange.file).Nodup →
      (∀ f ∈ files, ':' ∉ f.file.toList) → ((generateTargets files).map TestTarget.id).Nodup) ∧
      ∀ f : FileChange, ((generateTargets [f]).map TestTarget.id).Nodup := by
  constructor
  · intro files paths no_colon
    rw [generateTargets, List.Nodup, List.pairwise_map, List.pairwise_flatMap]
    refine ⟨fun f _ => pairwise_ids_targetsOfFile f, ?_⟩
    refine (List.pairwise_map.1 paths).imp_of_mem ?_
    intro f g mem mem' differ t made u made' same
    have file := file_of_mem_targetsOfFile made
    have file' := file_of_mem_targetsOfFile made'
    apply differ
    rw [← file, ← file']
    apply TestTarget.file_eq_of_id_eq _ _ same
    · rw [file]
      exact no_colon f mem
    · rw [file']
      exact no_colon g mem'
  · intro f
    rw [generateTargets, List.flatMap_singleton, List.Nodup, List.pairwise_map]
    exact pairwise_ids_targetsOfFile f

/-- A page that is also a service, with much changed. One of its functions is called like the component,
another one has colons in its name. -/
def accountPage : FileChange where
  file := "src/pages/api/account.js"
  lines := { added := .ofList [1, 2, 3, 4, 5, 6, 7, 8, 9, 10, 11] }
  functions := .ofList [("account", .modified), ("form::ui", .added), ("leave", .deleted)]
  hunks := []
  impact := ["UI rendering", "API endpoints"]

/-- A page with a function of the same name. -/
def formPage : FileChange where
  file := "src/pages/form.js"
  lines := {}
  functions := .ofList [("form::ui", .modified)]
  hunks := []
  impact := ["UI rendering"]

theorem target_ids_distinct_account :
    (([accountPage, formPage].map FileChange.file).Nodup ∧
      (∀ f ∈ [accountPage, formPage], ':' ∉ f.file.toList) ∧
      ((generateTargets [accountPage, formPage]).map TestTarget.id).Nodup) ∧
      (generateTargets [accountPage, formPage]).map TestTarget.id =
        ["src/pages/api/account.js::account::ui", "src/pages/api/account.js::form::ui::ui",
          "src/pages/api/account.js::account::visual", "src/pages/api/account.js::account::api",
          "src/pages/api/account.js::form::ui::api", "src/pages/form.js::form::ui::ui"] := by
  have paths : ([accountPage, formPage].map FileChange.file).Nodup := by decide
  have no_colon : ∀ f ∈ [accountPage, formPage], ':' ∉ f.file.toList := by decide
  exact ⟨⟨paths, no_colon, target_ids_distinct.1 _ paths no_colon⟩, by decide +kernel⟩

/-- A path with colons may take over what a function is called. -/
example : (uiTarget "a.js" "b::c" .added).id = (uiTarget "a.js::b" "c" .added).id := by decide

end TestImpact
