import TestImpact.Diff.Section
import TestImpact.FileChange
import TestImpact.FileFilter
import TestImpact.Impact.Tags
import TestImpact.Pool
import TestImpact.Source.Attribution
import TestImpact.Source.Grammar

/-! The changes of files told by diffs. A diff that is malformed has no changes, and a source that is
missing or has no tree has no declarations; neither stops the analysis of other files. Line numbers
past the last one do: they end the whole run, and then there is no answer. -/

namespace TestImpact

/-- What is told by a diff, which is nothing where it is malformed. -/
def readDiff? (diff : String) : Option Diff.FileDiff :=
  match Diff.FileDiff.parse diff with
  | .ok d => some d
  | .error (.malformed _) => some {}
  | .error .overflow => none

/-- The change of a file with the given changed lines and the given present source. -/
def changeOf (g : Grammar) (file : String) (d : Diff.FileDiff) (source : Option String) : FileChange :=
  let functions : ChangeRecord :=
    match source with
    | some source =>
      if d.lines.isEmpty then ∅
      else
        match g.declarations file source with
        | .ok found => touchedDeclarations found d.lines
        | .error _ => ∅
    | none => ∅
  { file, lines := d.lines, functions, hunks := d.hunks, impact := impactTags file functions }

/-- The changes of one file, told by its diff and its present source. -/
def analyzeFile (g : Grammar) (file diff : String) (source : Option String) : Option FileChange :=
  (readDiff? diff).map fun d => changeOf g file d source

/-- The changes of the files of a diff that are worth targets and still exist, in the order of the
diff. `load` gives the present source of a file. Where one analysis ends the run, all do. -/
def analyzeDiff (g : Grammar) (diff : String) (filter : FileFilter) (workers : Nat)
    (load : String → Option String) : Option (List FileChange) :=
  let sections := (Diff.Section.split diff).filter fun s => !s.deleted && filter.accepts s.path
  (Pool.runOrdered (fun s => analyzeFile g s.path s.body (load s.path)) workers sections).mapM id

/-- The change of a file that has no history: every declaration of its source is modified. -/
def assumeFileModified (g : Grammar) (file : String) (source : Option String) : FileChange :=
  let functions : ChangeRecord :=
    match source with
    | some source =>
      match g.declarations file source with
      | .ok found => assumeModified found
      | .error _ => ∅
    | none => ∅
  { file, lines := {}, functions, hunks := [], impact := impactTags file functions }

end TestImpact
