import TestImpact.Change
import TestImpact.Diff.Hunk

/-! The changes of one file, and of all files of a run with their counts. -/

namespace TestImpact

/-- What changed in a file: its lines and hunks, the declarations they touch, and what these changes
may affect, as tags. -/
structure FileChange where
  file : String
  lines : Diff.LineChanges
  functions : ChangeRecord
  hunks : List Diff.Hunk
  impact : List String
  deriving DecidableEq

namespace FileChange

def hasImpact (f : FileChange) (tag : String) : Bool :=
  f.impact.contains tag

end FileChange

/-- How many declarations changed, by kind of change. -/
structure ChangeSummary where
  added : Nat
  modified : Nat
  deleted : Nat
  totalChanges : Nat
  deriving DecidableEq

namespace ChangeSummary

def ofFiles (files : List FileChange) : ChangeSummary :=
  let changes := files.flatMap fun f => f.functions.entries.map Prod.snd
  let added := changes.count .added
  let modified := changes.count .modified
  let deleted := changes.count .deleted
  { added, modified, deleted, totalChanges := added + modified + deleted }

end ChangeSummary

/-- The analysis of a run. `fallback` tells that there was no history to compare with, so that every
declaration counts as modified. -/
structure ChangeAnalysis where
  files : List FileChange
  summary : ChangeSummary
  fallback : Bool
  deriving DecidableEq

namespace ChangeAnalysis

def ofFiles (files : List FileChange) (fallback : Bool) : ChangeAnalysis :=
  { files, summary := .ofFiles files, fallback }

def file? (a : ChangeAnalysis) (path : String) : Option FileChange :=
  a.files.find? fun f => f.file == path

end ChangeAnalysis

end TestImpact
