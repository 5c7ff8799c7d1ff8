import TestImpact.Analysis.Diff
import TestImpact.Config.Basic
import TestImpact.History.Git
import TestImpact.Storage.FileSystem

/-! The changes of a repository. With its history, the changed files are those that git names, and
each is told by its own diff. Without it, every file that is worth targets counts as changed, and
every declaration in it as modified. -/

namespace TestImpact

/-- A repository that cannot be analyzed: it has no history, and its root is no directory. -/
inductive AnalysisError where
  | rootNotDirectory (root : String)
  deriving DecidableEq

def AnalysisError.message : AnalysisError → String
  | rootNotDirectory root => "cannot read " ++ root ++ ": root is not a directory"

/-! ## With history -/

/-- The revision to compare with: where the present state parted from the base branch, or the branch
itself if that cannot be told. -/
def baseRevision (git : Git) (config : Config) : Asked (Except HistoryError String) := do
  if !(← git.isWorkTree) then return .error (.notWorkTree config.root)
  let base ← match config.baseRef with
    | some base => pure base
    | none => git.baseBranch
  match ← git.mergeBase base with
  | .ok revision => return .ok revision
  | .error _ => return .ok base

/-- The diffs of the changed files that are worth targets, in the order in which git names them. A
file whose diff cannot be had is left out. -/
def repositoryDiffs (git : Git) (config : Config) (filter : FileFilter) :
    Asked (Except HistoryError (List (String × String))) := do
  match ← baseRevision git config with
  | .error e => return .error e
  | .ok revision =>
    match ← git.changedFiles revision with
    | .error e => return .error e
    | .ok paths =>
      let answers := Pool.runOrdered (fun path => (path, git.fileDiff revision path)) config.workers
        (paths.filter filter.accepts)
      let diffs := answers.filterMap fun (path, diff) => diff.value.toOption.map fun body => (path, body)
      ⟨.ok diffs, answers.flatMap fun (_, diff) => diff.queries⟩

/-! ## Without history -/

/-- The paths below a root that are worth targets, in ascending order. Backslashes in names become
slashes. -/
def testablePaths (fs : FileSystem) (root : String) (filter : FileFilter) : List String :=
  match fs.find root with
  | .error _ => []
  | .ok tree =>
    let paths := (tree.files ignoredNames.contains).map fun (names, _) =>
      Text.replaceChar '\\' '/' ("/".intercalate names)
    (paths.filter filter.accepts).mergeSort (· ≤ ·)

/-- The changes of all files below a root that are worth targets. -/
def analyzeWithoutHistory (g : Grammar) (fs : FileSystem) (root : String) (filter : FileFilter)
    (workers : Nat) : Except AnalysisError (List FileChange) :=
  if fs.isDirectory root then
    let change (path : String) : FileChange :=
      assumeFileModified g path (fs.readText (Path.join root path)).toOption
    .ok (Pool.runOrdered change workers (testablePaths fs root filter))
  else .error (.rootNotDirectory root)

/-! ## Either way -/

/-- The analysis of the repository at the root of a configuration, unless the diff of a file ends the
run. -/
def analyzeRepository (g : Grammar) (git : Git) (fs : FileSystem) (config : Config) :
    Asked (Option (Except AnalysisError ChangeAnalysis)) := do
  let filter := FileFilter.ofPatterns config.exclude
  match ← repositoryDiffs git config filter with
  | .ok diffs =>
    let change (diff : String × String) : Option FileChange :=
      analyzeFile g diff.1 diff.2 (fs.readText (Path.join config.root diff.1)).toOption
    return ((Pool.runOrdered change config.workers diffs).mapM id).map fun files =>
      .ok (.ofFiles files false)
  | .error _ =>
    return some ((analyzeWithoutHistory g fs config.root filter config.workers).map fun files =>
      .ofFiles files true)

end TestImpact
