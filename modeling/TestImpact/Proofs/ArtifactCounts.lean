import TestImpact.Proofs.EndpointIndex
import TestImpact.Proofs.TargetIds

/-! What the two artifacts count. The summary counts entries of records, the index lists functions each
once, and the targets leave out what counts as deleted. All three walk over the files one by one, so
each of them is told for one file and for two lists of files behind each other. -/

namespace TestImpact

/-! ## The summary -/

namespace ChangeSummary

instance : Add ChangeSummary where
  add s t := ⟨s.added + t.added, s.modified + t.modified, s.deleted + t.deleted,
    s.totalChanges + t.totalChanges⟩

/-- How many entries there are of declarations that still exist. -/
def live (s : ChangeSummary) : Nat := s.added + s.modified

theorem ofFiles_append (xs ys : List FileChange) : ofFiles (xs ++ ys) = ofFiles xs + ofFiles ys := by
  have total (a b c a' b' c' : Nat) : a + a' + (b + b') + (c + c') = a + b + c + (a' + b' + c') := by
    omega
  simp only [ofFiles, List.flatMap_append, List.count_append, total]
  rfl

theorem live_ofFiles_cons (f : FileChange) (files : List FileChange) :
    (ofFiles (f :: files)).live = (ofFiles [f]).live + (ofFiles files).live := by
  have both := ofFiles_append [f] files
  rw [List.singleton_append] at both
  rw [both]
  exact Nat.add_add_add_comm _ _ _ _

theorem counts_eq (changes : List Change) :
    changes.count .added + changes.count .modified = changes.countP (· != .deleted) ∧
      changes.count .added + changes.count .modified + changes.count .deleted = changes.length := by
  induction changes with
  | nil => exact ⟨rfl, rfl⟩
  | cons change changes ih =>
    obtain ⟨live, total⟩ := ih
    cases change <;> simp [← live, ← total] <;> omega

theorem live_ofFiles_singleton (f : FileChange) : (ofFiles [f]).live = (liveFunctions f).length := by
  rw [live, ofFiles, List.flatMap_singleton, (counts_eq _).1, List.countP_map, liveFunctions,
    List.countP_eq_length_filter]
  rfl

theorem totalChanges_ofFiles (files : List FileChange) :
    (ofFiles files).totalChanges = (files.flatMap fun f => f.functions.entries).length := by
  have changes : (files.flatMap fun f => f.functions.entries.map Prod.snd) =
      (files.flatMap fun f => f.functions.entries).map Prod.snd := List.map_flatMap.symm
  rw [ofFiles, (counts_eq _).2, changes, List.length_map]

end ChangeSummary

/-! ## The index -/

namespace TestTargetsIndex

/-- A list, and behind it the entries of another one that it lacks. -/
def withMissing (list more : List String) : List String :=
  list ++ more.filter fun entry => entry ∉ list

/-- Every list of an index with what it lacks of another one. -/
instance : Append TestTargetsIndex where
  append i j := ⟨withMissing i.uiPaths j.uiPaths, withMissing i.apiEndpoints j.apiEndpoints,
    withMissing i.impactedAreas j.impactedAreas,
    withMissing i.specificFunctions j.specificFunctions⟩

/-- A list of the index holds what each file has for it, once. -/
theorem list_ofFiles (list : TestTargetsIndex → List String) {entries : FileChange → List String}
    (step : ∀ i f, list (i.addFile f) = addAll (list i) (entries f)) (start : list {} = [])
    (files : List FileChange) : list (ofFiles files) = (files.flatMap entries).eraseDups := by
  rw [ofFiles, list_foldl_addFile step, start, foldl_addNew]

theorem list_ofFiles_append (list : TestTargetsIndex → List String)
    {entries : FileChange → List String}
    (step : ∀ i f, list (i.addFile f) = addAll (list i) (entries f)) (start : list {} = [])
    (xs ys : List FileChange) :
    list (ofFiles (xs ++ ys)) = withMissing (list (ofFiles xs)) (list (ofFiles ys)) := by
  rw [withMissing, list_ofFiles list step start ys, ← foldl_addNew_append, ofFiles, List.foldl_append,
    list_foldl_addFile step ys]
  rfl

theorem ofFiles_append (xs ys : List FileChange) : ofFiles (xs ++ ys) = ofFiles xs ++ ofFiles ys := by
  have pages := list_ofFiles_append uiPaths (fun _ _ => rfl) rfl xs ys
  have endpoints := list_ofFiles_append apiEndpoints (fun _ _ => rfl) rfl xs ys
  have areas := list_ofFiles_append impactedAreas (fun _ _ => rfl) rfl xs ys
  have functions := list_ofFiles_append specificFunctions (fun _ _ => rfl) rfl xs ys
  show _ = TestTargetsIndex.mk _ _ _ _
  rw [← pages, ← endpoints, ← areas, ← functions]

/-- The functions of a file, as the index lists them. -/
def functionEntries (f : FileChange) : List String :=
  f.functions.names.map fun name => f.file ++ "::" ++ name

theorem nodup_functionEntries {files : List FileChange} (paths : (files.map FileChange.file).Nodup)
    (no_colon : ∀ f ∈ files, ':' ∉ f.file.toList) : (files.flatMap functionEntries).Nodup := by
  rw [List.Nodup, List.pairwise_flatMap]
  constructor
  · intro f _
    refine List.pairwise_map.2 (f.functions.distinct.imp fun differ same => differ ?_)
    rwa [String.append_right_inj] at same
  · refine (List.pairwise_map.1 paths).imp_of_mem ?_
    intro f g mem mem' differ entry inside entry' inside' same
    obtain ⟨name, -, rfl⟩ := List.mem_map.1 inside
    obtain ⟨name', -, rfl⟩ := List.mem_map.1 inside'
    exact differ (scoped_inj (no_colon f mem) (no_colon g mem') same).1

theorem specificFunctions_ofFiles {files : List FileChange}
    (paths : (files.map FileChange.file).Nodup) (no_colon : ∀ f ∈ files, ':' ∉ f.file.toList) :
    (ofFiles files).specificFunctions = files.flatMap functionEntries := by
  have listed : (ofFiles files).specificFunctions = (files.flatMap functionEntries).eraseDups :=
    list_ofFiles specificFunctions (fun _ _ => rfl) rfl files
  rw [listed, eraseDups_of_nodup (nodup_functionEntries paths no_colon)]

end TestTargetsIndex

/-! ## The targets -/

/-- A kind of which every live function has one target in the files with a tag. -/
theorem countP_generateTargets {kind : TargetKind} {tag : String}
    (each : ∀ f, (targetsOfKind f kind).length = if f.hasImpact tag then (liveFunctions f).length else 0)
    (files : List FileChange) :
    (generateTargets files).countP (fun t => t.kind = kind) =
      (ChangeSummary.ofFiles (files.filter fun f => f.hasImpact tag)).live := by
  induction files with
  | nil => rfl
  | cons f files ih =>
    rw [generateTargets, List.flatMap_cons, List.countP_append, ← generateTargets, ih,
      List.countP_eq_length_filter, filter_targetsOfFile, each, List.filter_cons]
    split
    · rw [ChangeSummary.live_ofFiles_cons, ChangeSummary.live_ofFiles_singleton]
    · rw [Nat.zero_add]

/-- **The artifacts count the same changes.** For files with different paths without colons the index
lists one function for each entry of the records, as many as the summary counts. There are as many
targets of a kind as entries that are not deleted in the files with its tag. For two lists of files
behind each other the counts add up, and every list of the index goes on with what is new. -/
theorem artifacts_count_alike :
    (∀ files : List FileChange, (files.map FileChange.file).Nodup →
      (∀ f ∈ files, ':' ∉ f.file.toList) →
        (TestTargetsIndex.ofFiles files).specificFunctions =
            files.flatMap TestTargetsIndex.functionEntries ∧
          (TestTargetsIndex.ofFiles files).specificFunctions.length =
            (ChangeSummary.ofFiles files).totalChanges) ∧
      (∀ files : List FileChange,
        (generateTargets files).countP (fun t => t.kind = .ui) =
            (ChangeSummary.ofFiles
              (files.filter fun f => f.hasImpact PathTag.uiRendering.label)).live ∧
          (generateTargets files).countP (fun t => t.kind = .api) =
            (ChangeSummary.ofFiles
              (files.filter fun f => f.hasImpact PathTag.apiEndpoints.label)).live) ∧
      ∀ xs ys : List FileChange,
        ChangeSummary.ofFiles (xs ++ ys) = ChangeSummary.ofFiles xs + ChangeSummary.ofFiles ys ∧
          TestTargetsIndex.ofFiles (xs ++ ys) =
            TestTargetsIndex.ofFiles xs ++ TestTargetsIndex.ofFiles ys := by
  refine ⟨?_, ?_, ?_⟩
  · intro files paths no_colon
    have listed := TestTargetsIndex.specificFunctions_ofFiles paths no_colon
    refine ⟨listed, ?_⟩
    rw [listed, ChangeSummary.totalChanges_ofFiles, List.length_flatMap, List.length_flatMap]
    simp [TestTargetsIndex.functionEntries, ChangeRecord.names]
  · intro files
    refine ⟨countP_generateTargets (fun f => ?_) files, countP_generateTargets (fun f => ?_) files⟩
    · rw [targetsOfKind]
      split <;> simp
    · rw [targetsOfKind]
      split <;> simp
  · intro xs ys
    exact ⟨ChangeSummary.ofFiles_append xs ys, TestTargetsIndex.ofFiles_append xs ys⟩

theorem artifacts_count_alike_account :
    (([accountPage, formPage].map FileChange.file).Nodup ∧
      (∀ f ∈ [accountPage, formPage], ':' ∉ f.file.toList) ∧
      (TestTargetsIndex.ofFiles [accountPage, formPage]).specificFunctions.length =
        (ChangeSummary.ofFiles [accountPage, formPage]).totalChanges) ∧
      (TestTargetsIndex.ofFiles [accountPage, formPage]).specificFunctions =
        ["src/pages/api/account.js::account", "src/pages/api/account.js::form::ui",
          "src/pages/api/account.js::leave", "src/pages/form.js::form::ui"] := by
  have paths : ([accountPage, formPage].map FileChange.file).Nodup := by decide
  have no_colon : ∀ f ∈ [accountPage, formPage], ':' ∉ f.file.toList := by decide
  have counted := (artifacts_count_alike.1 _ paths no_colon).2
  exact ⟨⟨paths, no_colon, counted⟩, by decide +kernel⟩

end TestImpact
