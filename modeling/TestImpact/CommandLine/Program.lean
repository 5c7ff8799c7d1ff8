import TestImpact.Analysis.Repository
import TestImpact.Artifact.Store
import TestImpact.CommandLine.Help
import TestImpact.Config.Layers
import TestImpact.Diff.Unified
import TestImpact.Healing.Batch
import TestImpact.Http.Transport
import TestImpact.Target.Generate

/-! The commands of the program. Each takes the files as they are and gives the files as they become,
with what is printed or why it failed. -/

namespace TestImpact.CommandLine

structure World where
  files : FileSystem
  environment : Config.Environment
  /-- The git of the repository at a root. -/
  gitAt : String → Git
  grammar : TestImpact.Grammar
  network : Network
  names : Url.NameRules
  now : Timestamp
  /-- How many workers there are unless settings tell. -/
  workers : Nat

inductive Failure where
  | config (cause : ConfigError)
  | analysis (cause : AnalysisError)
  | store (cause : StoreError)
  | file (cause : FileError)
  | transport (cause : TransportError)
  | resolve (cause : ResolveError)
  | noBaseUrl
  /-- A line number of a diff is past the last one, which ends the run at once. -/
  | overflow
  deriving DecidableEq

def Failure.message : Failure → String
  | config cause => cause.message
  | analysis cause => cause.message
  | store cause => cause.message
  | file cause => cause.message
  | transport cause => cause.message
  | resolve cause => cause.message
  | noBaseUrl => "API_BASE_URL is not configured"
  | overflow => "attempt to add with overflow"

/-- The exit code of a run with this failure. -/
def Failure.code : Failure → Nat
  | overflow => 101
  | _ => 1

/-- The files after a command, and what it prints or why it failed. -/
structure Ended where
  files : FileSystem
  outcome : Except Failure Json

namespace World

def config (w : World) (root : String) : Except Failure Config :=
  (Config.load w.files w.environment root w.workers).mapError .config

/-- Goes on after a save, unless it failed. -/
def afterSave (s : Artifact.Saved) (next : FileSystem → Ended) : Ended :=
  match s.outcome with
  | .error e => ⟨s.files, .error (.store e)⟩
  | .ok _ => next s.files

/-- A command that leaves the files alone until its result is there. -/
def ended (w : World) (outcome : Except Failure Ended) : Ended :=
  match outcome with
  | .error e => ⟨w.files, .error e⟩
  | .ok e => e

/-! ## Commands -/

/-- Saves the analysis of a repository and its targets, and prints the counts. -/
def analyze (w : World) (root : String) (base out : Option String) : Ended :=
  w.ended do
    let loaded ← w.config root
    let config := { loaded with
      baseRef := base <|> loaded.baseRef, outputDir := out.getD loaded.outputDir }
    let run := analyzeRepository w.grammar (w.gitAt root) w.files config
    let some outcome := run.value | throw .overflow
    let a ← outcome.mapError .analysis
    return afterSave (Artifact.saveAnalysis w.files config.outputDir a) fun fs =>
      afterSave (Artifact.saveTargets fs config.outputDir (.ofFiles a.files)) fun fs =>
        ⟨fs, .ok a.summary.toJson⟩

def targets (w : World) (root : String) (analysis : Option String) : Ended :=
  w.ended do
    let config ← w.config root
    let path := analysis.getD (Path.join config.outputDir Artifact.analysisFile)
    let a ← (Artifact.loadAnalysis w.files path).mapError .store
    return ⟨w.files, .ok (.array ((generateTargets a.files).map TestTarget.toJson))⟩

def diffFiles (w : World) (old new : String) (path : Option String) : Ended :=
  w.ended do
    let before ← (w.files.readText old).mapError .file
    let after ← (w.files.readText new).mapError .file
    let path := path.getD (Text.replaceChar '\\' '/' new)
    let diff := Diff.renderSection path before after
    let some change := analyzeFile w.grammar path diff (some after) | throw .overflow
    return ⟨w.files, .ok change.toJson⟩

/-- Looks an endpoint up, saves a report on it, and prints where it is. -/
def resolve (w : World) (path : String) (method : HttpMethod) (root : String) : Ended :=
  w.ended do
    let config ← w.config root
    let some address := config.apiBaseUrl | throw .noBaseUrl
    let transport ← (HttpTransport.ofBase w.names address).mapError .transport
    let run := resolveEndpoint (transport.through w.network) config.tierTimeout w.now method path ∅
    let outcome : TargetOutcome :=
      match run.result with
      | .ok resolution => .ofTier resolution.tier
      | .error e => .failed e.message
    let report : TargetReport :=
      { id := method.label ++ " " ++ path, name := path, kind := .api, outcome }
    let saved := Artifact.saveReport w.files config.outputDir (.make run.ledger [report] w.now)
    return afterSave saved fun fs =>
      ⟨fs, (run.result.map EndpointResolution.toJson).mapError .resolve⟩

def runCommand (w : World) : Command → Ended
  | .analyze root base out => w.analyze root base out
  | .targets root analysis => w.targets root analysis
  | .diffFiles old new path => w.diffFiles old new path
  | .resolveEndpoint path method root => w.resolve path method root

end World

/-! ## Runs -/

/-- How a run of the program ends: its exit code, what it prints, the message of a failure, and the
files. -/
structure Exit where
  code : Nat
  stdout : String
  message : Option String
  files : FileSystem

/-- Runs the program. Wrong arguments print nothing and end with the code 2, a failure with its code. -/
def run (w : World) (args : List String) : Exit :=
  let prints (text : String) : Exit := ⟨0, text, none, w.files⟩
  match read? args with
  | none => ⟨2, "", none, w.files⟩
  | some .version => prints versionText
  | some .programHelp => prints programHelp
  | some (.commandHelp spec) => prints (commandHelp spec)
  | some .helpHelp => prints helpHelp
  | some (.command command _ _) =>
    let e := w.runCommand command
    match e.outcome with
    | .ok result => ⟨0, result.pretty ++ "\n", none, e.files⟩
    | .error cause => ⟨cause.code, "", some cause.message, e.files⟩

end TestImpact.CommandLine
