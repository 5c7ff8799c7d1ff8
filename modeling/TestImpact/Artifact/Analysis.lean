import TestImpact.FileChange
import TestImpact.Json.Decode
import TestImpact.Source.Declaration

/-! The JSON form of analyses. Records keep the order of their fields, sets of lines are ascending
arrays, and change records and the files of an analysis are objects in the order of their entries. -/

namespace TestImpact

def Change.words : List (String × Change) := Json.words Change.all Change.label

def Change.toJson (c : Change) : Json := .string c.label

def Change.ofJson? : Json → Option Change := Json.word? Change.words

def LineSet.toJson (s : LineSet) : Json := .naturals (s.toList.map UInt32.toNat)

def LineSet.ofJson? (v : Json) : Option LineSet :=
  (Json.list? Json.uint32? v).map LineSet.ofList

namespace Diff

def LineChanges.toJson (c : LineChanges) : Json :=
  .object [("added", c.added.toJson), ("deleted", c.deleted.toJson),
    ("modified", c.modified.toJson)]

def LineChanges.ofJson? (v : Json) : Option LineChanges := do
  let [added, deleted, modified] ← Json.record? ["added", "deleted", "modified"] v | none
  return {
    added := ← Json.required LineSet.ofJson? added
    deleted := ← Json.required LineSet.ofJson? deleted
    modified := ← Json.required LineSet.ofJson? modified }

def Hunk.toJson (h : Hunk) : Json :=
  .object [("start", .natural h.start.toNat), ("end", .natural h.stop.toNat),
    ("content", Json.strings h.content)]

def Hunk.ofJson? (v : Json) : Option Hunk := do
  let [start, stop, content] ← Json.record? ["start", "end", "content"] v | none
  return {
    start := ← Json.required Json.uint32? start
    stop := ← Json.required Json.uint32? stop
    content := ← Json.required (Json.list? Json.string?) content }

end Diff

def DeclarationKind.ofJson? : Json → Option DeclarationKind :=
  Json.word? (Json.words DeclarationKind.all DeclarationKind.label)

def Declaration.toJson (d : Declaration) : Json :=
  .object [("name", .string d.name), ("startLine", .natural d.startLine.toNat),
    ("endLine", .natural d.endLine.toNat), ("kind", .string d.kind.label)]

def Declaration.ofJson? (v : Json) : Option Declaration := do
  let [name, startLine, endLine, kind] ←
    Json.record? ["name", "startLine", "endLine", "kind"] v | none
  return {
    name := ← Json.required Json.string? name
    startLine := ← Json.required Json.uint32? startLine
    endLine := ← Json.required Json.uint32? endLine
    kind := ← Json.required DeclarationKind.ofJson? kind }

def ChangeRecord.toJson (r : ChangeRecord) : Json :=
  .object (r.entries.map fun (name, change) => (name, change.toJson))

/-- A record from an object, of which the first field of each name counts. -/
def ChangeRecord.ofJson? : Json → Option ChangeRecord
  | .object fields => do
    let entries ← fields.mapM fun (name, v) => (Change.ofJson? v).map fun change => (name, change)
    return ChangeRecord.ofList entries
  | _ => none

def FileChange.toJson (f : FileChange) : Json :=
  .object [("file", .string f.file), ("lines", f.lines.toJson),
    ("functions", f.functions.toJson), ("hunks", .array (f.hunks.map Diff.Hunk.toJson)),
    ("impact", Json.strings f.impact)]

def FileChange.ofJson? (v : Json) : Option FileChange := do
  let [file, lines, functions, hunks, impact] ←
    Json.record? ["file", "lines", "functions", "hunks", "impact"] v | none
  return {
    file := ← Json.required Json.string? file
    lines := ← Json.required Diff.LineChanges.ofJson? lines
    functions := ← Json.required ChangeRecord.ofJson? functions
    hunks := ← Json.required (Json.list? Diff.Hunk.ofJson?) hunks
    impact := ← Json.required (Json.list? Json.string?) impact }

def ChangeSummary.toJson (s : ChangeSummary) : Json :=
  .object [("added", .natural s.added), ("modified", .natural s.modified),
    ("deleted", .natural s.deleted), ("totalChanges", .natural s.totalChanges)]

def ChangeSummary.ofJson? (v : Json) : Option ChangeSummary := do
  let [added, modified, deleted, totalChanges] ←
    Json.record? ["added", "modified", "deleted", "totalChanges"] v | none
  return {
    added := ← Json.required Json.count? added
    modified := ← Json.required Json.count? modified
    deleted := ← Json.required Json.count? deleted
    totalChanges := ← Json.required Json.count? totalChanges }

def filesToJson (files : List FileChange) : Json :=
  .object (files.map fun f => (f.file, f.toJson))

/-- Files by their paths; a file has the path it is listed under. -/
def filesOfJson? : Json → Option (List FileChange)
  | .object fields =>
    fields.mapM fun (path, v) => (FileChange.ofJson? v).map fun f => { f with file := path }
  | _ => none

def ChangeAnalysis.toJson (a : ChangeAnalysis) : Json :=
  .object ([("files", filesToJson a.files), ("summary", a.summary.toJson)] ++
    if a.fallback then [("fallback", .bool true)] else [])

def ChangeAnalysis.ofJson? (v : Json) : Option ChangeAnalysis := do
  let [files, summary, fallback] ← Json.record? ["files", "summary", "fallback"] v | none
  return {
    files := ← Json.required filesOfJson? files
    summary := ← Json.required ChangeSummary.ofJson? summary
    fallback := ← Json.withDefault false Json.bool? fallback }

end TestImpact
