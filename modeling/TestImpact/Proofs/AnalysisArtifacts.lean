import TestImpact.Artifact.Analysis
import TestImpact.Proofs.Attribution
import TestImpact.Proofs.EndpointIndex
import TestImpact.Proofs.JsonRecord

/-! Analyses as JSON. What is written for an analysis and for each of its parts is plain and is
decoded as itself. What is decoded from any JSON at all has one entry for a name, the first one
given, and every file under its own path. -/

namespace TestImpact

open Json

variable {levels : Nat}

/-! ## Lines and hunks -/

theorem Change.ofJson?_toJson (c : Change) : Change.ofJson? c.toJson = some c :=
  word?_words (by cases c <;> decide) (by cases c <;> decide)

theorem LineSet.ofList_toList (s : LineSet) : LineSet.ofList s.toList = s := by
  obtain ⟨lines, ascending⟩ := s
  induction lines with
  | nil => rfl
  | cons n lines ih =>
    obtain ⟨below, rest⟩ := List.pairwise_cons.1 ascending
    have placed : LineSet.place n lines = n :: lines := by
      cases lines with
      | nil => rfl
      | cons m lines => exact if_pos (below m (by simp))
    have tail := ih rest
    simp only [LineSet.ofList, List.foldr_cons] at tail ⊢
    rw [tail]
    simp only [LineSet.insert, placed]

theorem LineSet.ofJson?_toJson (s : LineSet) : LineSet.ofJson? s.toJson = some s := by
  have back : list? uint32? s.toJson = some s.toList := by
    rw [LineSet.toJson, Json.naturals, List.map_map]
    exact list?_map fun n _ => uint32?_toNat n
  rw [LineSet.ofJson?, back, Option.map_some, LineSet.ofList_toList]

@[simp] theorem LineSet.plain_toJson (s : LineSet) : Plain (levels + 1) s.toJson := by
  simp [LineSet.toJson, naturals]

theorem Diff.LineChanges.ofJson?_toJson (c : Diff.LineChanges) :
    Diff.LineChanges.ofJson? c.toJson = some c := by
  have fields : record? ["added", "deleted", "modified"] c.toJson =
      some [some c.added.toJson, some c.deleted.toJson, some c.modified.toJson] :=
    record?_of_present rfl rfl (by decide)
  simp [Diff.LineChanges.ofJson?, fields, LineSet.ofJson?_toJson]

@[simp] theorem Diff.LineChanges.plain_toJson (c : Diff.LineChanges) :
    Plain (levels + 2) c.toJson := by
  simp [Diff.LineChanges.toJson]

theorem Diff.Hunk.ofJson?_toJson (h : Diff.Hunk) : Diff.Hunk.ofJson? h.toJson = some h := by
  have fields : record? ["start", "end", "content"] h.toJson =
      some [some (.natural h.start.toNat), some (.natural h.stop.toNat), some (strings h.content)] :=
    record?_of_present rfl rfl (by decide)
  simp [Diff.Hunk.ofJson?, fields]

@[simp] theorem Diff.Hunk.plain_toJson (h : Diff.Hunk) : Plain (levels + 2) h.toJson := by
  simp [Diff.Hunk.toJson]

/-! ## Records of changes -/

theorem ChangeRecord.entries_insert {r : ChangeRecord} {name : String} (fresh : name ∉ r.names)
    (change : Change) : (r.insert name change).entries = r.entries ++ [(name, change)] := by
  rw [ChangeRecord.insert, dif_neg fresh]

/-- Entries with new names are all kept, in their order. -/
theorem ChangeRecord.entries_foldl_insert {entries : List (String × Change)} {r : ChangeRecord}
    (fresh : (r.names ++ entries.map Prod.fst).Nodup) :
    (entries.foldl (fun r (name, change) => r.insert name change) r).entries =
      r.entries ++ entries := by
  induction entries generalizing r with
  | nil => simp
  | cons entry entries ih =>
    obtain ⟨name, change⟩ := entry
    have new : name ∉ r.names := by
      intro member
      exact (List.nodup_append.1 fresh).2.2 name member name (by simp) rfl
    have names : (r.insert name change).names = r.names ++ [name] := by
      rw [ChangeRecord.names_insert, if_neg new]
    rw [List.foldl_cons, ih (by simpa [names] using fresh), ChangeRecord.entries_insert new]
    simp

theorem ChangeRecord.ofList_entries (r : ChangeRecord) : ChangeRecord.ofList r.entries = r := by
  have kept : (ChangeRecord.ofList r.entries).entries = r.entries :=
    ChangeRecord.entries_foldl_insert (r := ∅) r.distinct
  generalize ChangeRecord.ofList r.entries = other at kept
  cases other
  cases r
  simpa using kept

theorem ChangeRecord.ofJson?_toJson (r : ChangeRecord) : ChangeRecord.ofJson? r.toJson = some r := by
  rw [ChangeRecord.toJson, ChangeRecord.ofJson?, mapM_map (h := id), List.map_id]
  · simp [ChangeRecord.ofList_entries]
  · rintro ⟨name, change⟩ -
    simp [Change.ofJson?_toJson]

@[simp] theorem ChangeRecord.plain_toJson (r : ChangeRecord) : Plain (levels + 1) r.toJson := by
  simp [ChangeRecord.toJson, Change.toJson]

/-! ## Files and analyses -/

theorem FileChange.ofJson?_toJson (f : FileChange) : FileChange.ofJson? f.toJson = some f := by
  have fields : record? ["file", "lines", "functions", "hunks", "impact"] f.toJson =
      some [some (.string f.file), some f.lines.toJson, some f.functions.toJson,
        some (.array (f.hunks.map Diff.Hunk.toJson)), some (strings f.impact)] :=
    record?_of_present rfl rfl (by decide)
  simp [FileChange.ofJson?, fields, string?, Diff.LineChanges.ofJson?_toJson,
    ChangeRecord.ofJson?_toJson, list?_map fun h _ => Diff.Hunk.ofJson?_toJson h]

@[simp] theorem FileChange.plain_toJson (f : FileChange) : Plain (levels + 4) f.toJson := by
  simp [FileChange.toJson]

/-- The counts are words of 64 bits. -/
structure ChangeSummary.Words (s : ChangeSummary) : Prop where
  added : s.added < UInt64.size
  modified : s.modified < UInt64.size
  deleted : s.deleted < UInt64.size
  totalChanges : s.totalChanges < UInt64.size

theorem ChangeSummary.ofJson?_toJson {s : ChangeSummary} (words : s.Words) :
    ChangeSummary.ofJson? s.toJson = some s := by
  obtain ⟨added, modified, deleted, total⟩ := words
  have fields : record? ["added", "modified", "deleted", "totalChanges"] s.toJson =
      some [some (.natural s.added), some (.natural s.modified), some (.natural s.deleted),
        some (.natural s.totalChanges)] :=
    record?_of_present rfl rfl (by decide)
  simp [ChangeSummary.ofJson?, fields, count?_natural, added, modified, deleted, total]

theorem ChangeSummary.plain_toJson {s : ChangeSummary} (words : s.Words) :
    Plain (levels + 1) s.toJson := by
  obtain ⟨added, modified, deleted, total⟩ := words
  simp [ChangeSummary.toJson, plain_count, added, modified, deleted, total]

theorem filesOfJson?_filesToJson (files : List FileChange) :
    filesOfJson? (filesToJson files) = some files := by
  have each : (files.map fun f => (f.file, f.toJson)).mapM (fun field =>
      (FileChange.ofJson? field.2).map fun f => { f with file := field.1 }) = some (files.map id) :=
    mapM_map fun f _ => by rw [FileChange.ofJson?_toJson]; rfl
  rw [List.map_id] at each
  exact each

theorem ChangeAnalysis.ofJson?_toJson {a : ChangeAnalysis} (words : a.summary.Words) :
    ChangeAnalysis.ofJson? a.toJson = some a := by
  have fields : record? ["files", "summary", "fallback"] a.toJson =
      some [some (filesToJson a.files), some a.summary.toJson,
        if a.fallback then some (.bool true) else none] :=
    record?_of_present (by rw [ChangeAnalysis.toJson]; split <;> rfl) rfl (by decide)
  have fallback : withDefault false bool? (if a.fallback then some (.bool true) else none) =
      some a.fallback := by
    cases a.fallback <;> rfl
  simp [ChangeAnalysis.ofJson?, fields, filesOfJson?_filesToJson,
    ChangeSummary.ofJson?_toJson words, fallback]

theorem ChangeAnalysis.plain_toJson {a : ChangeAnalysis} (words : a.summary.Words) :
    Plain (levels + 6) a.toJson := by
  have summary : Plain (levels + 5) a.summary.toJson := ChangeSummary.plain_toJson words
  cases fallback : a.fallback <;> simp [ChangeAnalysis.toJson, filesToJson, fallback, summary]

/-! ## What is decoded -/

/-- The record has the names of some fields, each once, in the order in which they first come up,
and says of each what its first field says. -/
structure ChangeRecord.TellsFirst (r : ChangeRecord) (fields : List (String × Json)) : Prop where
  distinct : r.names.Nodup
  names : r.names = (fields.map Prod.fst).eraseDups
  first (name : String) : r.get? name = (fields.lookup name).bind Change.ofJson?

theorem ChangeRecord.names_ofList (entries : List (String × Change)) :
    (ChangeRecord.ofList entries).names = (entries.map Prod.fst).eraseDups := by
  have added : ∀ r : ChangeRecord,
      (entries.foldl (fun r (name, change) => r.insert name change) r).names =
        (entries.map Prod.fst).foldl addNew r.names := by
    induction entries with
    | nil => exact fun _ => rfl
    | cons entry entries ih =>
      intro r
      rw [List.foldl_cons, ih, List.map_cons, List.foldl_cons, names_insert, addNew]
      simp
  exact (added ∅).trans (foldl_addNew _)

theorem ChangeRecord.tellsFirst_of_ofJson? {v : Json} {r : ChangeRecord}
    (decoded : ChangeRecord.ofJson? v = some r) :
    ∃ fields, v = .object fields ∧ r.TellsFirst fields := by
  cases v with
  | object fields =>
    obtain ⟨entries, each, whole⟩ := Option.bind_eq_some_iff.1 decoded
    obtain rfl := Option.some.inj whole
    have matched : List.Forall₂ (fun field entry =>
        (Change.ofJson? field.2).map (field.1, ·) = some entry) fields entries :=
      mapM_eq_some_iff.1 each
    refine ⟨fields, rfl, ChangeRecord.distinct _, ?_, fun name => ?_⟩
    · rw [names_ofList, map_fst_decoded matched]
    · rw [get?_ofList, lookup_decoded matched]
  | _ => simp [ChangeRecord.ofJson?] at decoded

/-- The field of a file that holds its record of changes. -/
def FileChange.functionsField? : Json → Option Json :=
  Json.field? ["file", "lines", "functions", "hunks", "impact"] "functions"

theorem FileChange.tellsFirst_of_ofJson? {v : Json} {f : FileChange}
    (decoded : FileChange.ofJson? v = some f) :
    ∃ fields, FileChange.functionsField? v = some (.object fields) ∧ f.functions.TellsFirst fields := by
  obtain ⟨values, read, rest⟩ := Option.bind_eq_some_iff.1 decoded
  split at rest
  next file lines functions hunks impact =>
    simp only [Option.bind_eq_bind, Option.bind_eq_some_iff] at rest
    obtain ⟨_, _, _, _, record, given, _, _, _, _, whole⟩ := rest
    obtain rfl := Option.some.inj whole
    obtain ⟨w, rfl, decodedRecord⟩ := Option.bind_eq_some_iff.1 given
    obtain ⟨fields, rfl, tells⟩ := ChangeRecord.tellsFirst_of_ofJson? decodedRecord
    refine ⟨fields, ?_, tells⟩
    rw [FileChange.functionsField?, Json.field?, read]
    rfl
  next => simp at rest

/-- The field of an analysis that holds its files. -/
def ChangeAnalysis.filesField? : Json → Option Json :=
  Json.field? ["files", "summary", "fallback"] "files"

/-- The file is decoded from a field: it has the name of the field as its path, and its record says
of each name what was said first. -/
def FileChange.TellsField (f : FileChange) (field : String × Json) : Prop :=
  f.file = field.1 ∧ ∃ fields, FileChange.functionsField? field.2 = some (.object fields) ∧
    f.functions.TellsFirst fields

theorem ChangeAnalysis.tellsFields_of_ofJson? {v : Json} {a : ChangeAnalysis}
    (decoded : ChangeAnalysis.ofJson? v = some a) :
    ∃ fields, ChangeAnalysis.filesField? v = some (.object fields) ∧
      List.Forall₂ (fun field f => FileChange.TellsField f field) fields a.files := by
  obtain ⟨values, read, rest⟩ := Option.bind_eq_some_iff.1 decoded
  split at rest
  next files summary fallback =>
    simp only [Option.bind_eq_bind, Option.bind_eq_some_iff] at rest
    obtain ⟨listed, given, _, _, _, _, whole⟩ := rest
    obtain rfl := Option.some.inj whole
    obtain ⟨w, rfl, decodedFiles⟩ := Option.bind_eq_some_iff.1 given
    cases w with
    | object fields =>
      refine ⟨fields, ?_, (mapM_eq_some_iff.1 decodedFiles).imp fun field f each => ?_⟩
      · rw [ChangeAnalysis.filesField?, Json.field?, read]
        rfl
      · obtain ⟨f, decodedFile, rfl⟩ := Option.map_eq_some_iff.1 each
        obtain ⟨functions, inside, tells⟩ := FileChange.tellsFirst_of_ofJson? decodedFile
        exact ⟨rfl, functions, inside, tells⟩
    | _ => simp [filesOfJson?] at decodedFiles
  next => simp at rest

end TestImpact
