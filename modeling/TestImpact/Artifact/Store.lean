import TestImpact.Artifact.Analysis
import TestImpact.Artifact.Healing
import TestImpact.Artifact.Target
import TestImpact.Json.Reader
import TestImpact.Json.Writer
import TestImpact.Storage.FileSystem

/-! Artifacts as files: each kind has its name, and its content is indented JSON. -/

namespace TestImpact

inductive StoreError where
  | unwritable (path : String) (cause : FileError)
  | unreadable (path : String) (cause : FileError)
  | malformed (path : String)
  deriving DecidableEq

def StoreError.message : StoreError → String
  | unwritable path cause => "cannot write " ++ path ++ ": " ++ cause.message
  | unreadable path cause => "cannot read " ++ path ++ ": " ++ cause.message
  | malformed path => "invalid json in " ++ path

namespace Artifact

def analysisFile : String := "change-analysis.json"

def targetsFile : String := "test-targets.json"

def healingFile : String := "healing-report.json"

/-! ## Saving -/

/-- The files after a save, and the path of the artifact or what went wrong. -/
structure Saved where
  files : FileSystem
  outcome : Except StoreError String

/-- Writes an artifact into a directory, which is made if it is missing. A file of that name is
written over. -/
def save (fs : FileSystem) (directory name : String) (content : Json) : Saved :=
  let path := Path.join directory name
  let holder := (Path.parent? path).getD ""
  match fs.createDirectories holder with
  | (fs, some cause) => ⟨fs, .error (.unwritable holder cause)⟩
  | (fs, none) =>
    match fs.writeText path content.pretty with
    | .error cause => ⟨fs, .error (.unwritable path cause)⟩
    | .ok fs => ⟨fs, .ok path⟩

def saveAnalysis (fs : FileSystem) (directory : String) (a : ChangeAnalysis) : Saved :=
  save fs directory analysisFile a.toJson

def saveTargets (fs : FileSystem) (directory : String) (index : TestTargetsIndex) : Saved :=
  save fs directory targetsFile index.toJson

def saveReport (fs : FileSystem) (directory : String) (r : HealingReport) : Saved :=
  save fs directory healingFile r.toJson

/-! ## Loading -/

def loadAnalysis (fs : FileSystem) (path : String) : Except StoreError ChangeAnalysis :=
  match fs.readText path with
  | .error cause => .error (.unreadable path cause)
  | .ok text =>
    match (Json.read? text).bind ChangeAnalysis.ofJson? with
    | some a => .ok a
    | none => .error (.malformed path)

end Artifact

end TestImpact
