import TestImpact.Analysis.Diff
import TestImpact.Proofs.ImpactTags
import TestImpact.Proofs.LiveTargets
import TestImpact.Target.Index

/-! The endpoints of the index and those of the targets. Targets are made where a file has the tag
of endpoints, the index looks at the path of the file; both leave out functions that count as
deleted, one by the entries of the record, the other by their names. So the index lists what the
targets speak to, each request once, where the files have the tags of their paths. -/

namespace TestImpact

/-! ## Tags -/

theorem tagged_of_analyzed {g : Grammar} {file diff : String} {source : Option String} {c : FileChange}
    (analyzed : analyzeFile g file diff source = some c) : c.Tagged := by
  obtain ⟨d, -, rfl⟩ := analyzeFile_eq_some_iff.1 analyzed
  rfl

theorem tagged_assumeFileModified (g : Grammar) (file : String) (source : Option String) :
    (assumeFileModified g file source).Tagged := rfl

/-! ## Requests -/

/-- The method and the endpoint of a function, as the index lists them. -/
def requestLine (file function : String) : String :=
  (inferMethod function).label ++ " " ++ inferEndpoint file function

/-- The method and the endpoint of a target that has both. -/
def TestTarget.requestLine? (t : TestTarget) : Option String := do
  return (← t.method).label ++ " " ++ (← t.endpoint)

/-- The functions that the index takes for live are those with targets. -/
theorem liveEndpoints_eq {f : FileChange} (service : isApiFile f.file = true) :
    TestTargetsIndex.liveEndpoints f = (liveFunctions f).map fun p => requestLine f.file p.1 := by
  have live : liveFunctions f =
      f.functions.entries.filter fun p => f.functions.get? p.1 != some .deleted := by
    refine List.filter_congr fun p member => ?_
    rw [ChangeRecord.mem_entries_iff.1 member]
    rfl
  rw [TestTargetsIndex.liveEndpoints, endpointHints, if_pos service, ChangeRecord.names,
    List.map_map, List.filter_map, List.map_map, live]
  simp only [Function.comp_def, requestLine]

theorem liveEndpoints_eq_nil {f : FileChange} (other : isApiFile f.file = false) :
    TestTargetsIndex.liveEndpoints f = [] := by
  rw [TestTargetsIndex.liveEndpoints, endpointHints, if_neg (by simp [other])]
  rfl

/-- The targets of a file that speak to endpoints name those that the index takes from it. -/
theorem requestLines_targetsOfFile {f : FileChange} (tagged : f.Tagged) :
    ((targetsOfFile f).filter fun t => t.kind = .api).map TestTarget.requestLine? =
      (TestTargetsIndex.liveEndpoints f).map some := by
  rw [filter_targetsOfFile, targetsOfKind, tagged.hasImpact_label, ← isApiFile]
  cases service : isApiFile f.file with
  | true =>
    rw [liveEndpoints_eq service, if_pos rfl, List.map_map, List.map_map]
    rfl
  | false =>
    rw [liveEndpoints_eq_nil service]
    rfl

/-- A list of the index gathers what each file has for it. -/
theorem list_foldl_addFile {list : TestTargetsIndex → List String} {entries : FileChange → List String}
    (step : ∀ i f, list (i.addFile f) = TestTargetsIndex.addAll (list i) (entries f))
    (files : List FileChange) (i : TestTargetsIndex) :
    list (files.foldl TestTargetsIndex.addFile i) = (files.flatMap entries).foldl addNew (list i) := by
  induction files generalizing i with
  | nil => rfl
  | cons f files ih =>
    rw [List.foldl_cons, ih, step, List.flatMap_cons, List.foldl_append]
    rfl

/-- **The index lists the requests of the targets.** Every target for an endpoint has a method and
an endpoint, and the index lists these in the order of the targets, each where it first comes up. -/
theorem apiEndpoints_of_targets {files : List FileChange} (tagged : ∀ f ∈ files, f.Tagged) :
    ∃ requests : List String,
      ((generateTargets files).filter fun t => t.kind = .api).map TestTarget.requestLine? =
        requests.map some ∧
      (TestTargetsIndex.ofFiles files).apiEndpoints = requests.eraseDups := by
  refine ⟨files.flatMap TestTargetsIndex.liveEndpoints, ?_, ?_⟩
  · rw [generateTargets, List.filter_flatMap, List.map_flatMap, List.map_flatMap]
    simp only [List.flatMap_def]
    rw [List.map_congr_left fun f member => requestLines_targetsOfFile (tagged f member)]
  · exact (list_foldl_addFile (fun _ _ => rfl) files {}).trans (foldl_addNew _)

/-- A service among pages. Two of its functions speak to one endpoint, and one is gone. -/
def usersService : FileChange where
  file := "src/pages/api/users.js"
  lines := {}
  functions := .ofList [("getUsers", .added), ("addUser", .deleted), ("findUsers", .modified),
    ("removeById", .modified)]
  hunks := []
  impact := ["UI rendering", "API endpoints", "GET requests"]

/-- A form below the services, of which all functions count as modified. -/
def formService : FileChange :=
  assumeFileModified formGrammar "services/form.js" (some savedForm)

theorem apiEndpoints_of_targets_users :
    (∀ f ∈ [usersService, formService], f.Tagged) ∧
      ∃ requests : List String,
        ((generateTargets [usersService, formService]).filter fun t => t.kind = .api).map
            TestTarget.requestLine? = requests.map some ∧
        (TestTargetsIndex.ofFiles [usersService, formService]).apiEndpoints = requests.eraseDups := by
  have users : usersService.Tagged := by decide +kernel
  have form : formService.Tagged := tagged_assumeFileModified _ _ _
  have tagged : ∀ f ∈ [usersService, formService], f.Tagged :=
    List.forall_mem_cons.2 ⟨users, List.forall_mem_singleton.2 form⟩
  exact ⟨tagged, apiEndpoints_of_targets tagged⟩

end TestImpact
