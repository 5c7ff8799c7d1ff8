import TestImpact.Healing.Element
import TestImpact.Healing.Endpoint
import TestImpact.Pool
import TestImpact.Target.TestTarget

/-! Looking up all targets of a run. Targets do not depend on each other: each has exactly one
outcome, and one that fails stops no other. -/

namespace TestImpact

inductive TargetOutcome where
  | resolved (tier : UInt8)
  | healed (tier : UInt8)
  | failed (error : String)
  | notTested (reason : String)
  deriving DecidableEq

namespace TargetOutcome

/-- The outcome of a look-up that a tier settled. -/
def ofTier (tier : UInt8) : TargetOutcome :=
  if 1 < tier then healed tier else resolved tier

end TargetOutcome

structure TargetReport where
  id : String
  name : String
  kind : TargetKind
  outcome : TargetOutcome
  deriving DecidableEq

/-- What targets are tried out with. Without one of them its targets stay untested. -/
structure Collaborators where
  surface : Option Surface := none
  transport : Option Transport := none

structure TargetRun where
  outcome : TargetOutcome
  asked : List ElementQuery := []
  sent : List EndpointRequest := []
  attempts : List HealingAttempt := []

def resolveTarget (c : Collaborators) (timeout : Option Nat) (now : Timestamp) (t : TestTarget) :
    TargetRun :=
  match t.kind with
  | .visual => { outcome := .notTested "visual comparison is not resolved" }
  | .ui =>
    match c.surface, t.selectors with
    | some surface, some selectors =>
      let run := resolveElement surface timeout now selectors ∅
      { outcome :=
          match run.result with
          | .ok element => .ofTier element.tier
          | .error e => .failed e.message
        asked := run.asked
        attempts := run.ledger.entries }
    | _, _ => { outcome := .notTested "no UI surface or selectors" }
  | .api =>
    match c.transport, t.endpoint with
    | some transport, some endpoint =>
      let run := resolveEndpoint transport timeout now (t.method.getD .get) endpoint ∅
      { outcome :=
          match run.result with
          | .ok resolution => .ofTier resolution.tier
          | .error e => .failed e.message
        sent := run.sent
        attempts := run.ledger.entries }
    | _, _ => { outcome := .notTested "no transport or endpoint" }

def TargetRun.report (run : TargetRun) (t : TestTarget) : TargetReport :=
  { id := t.id, name := t.name, kind := t.kind, outcome := run.outcome }

structure BatchRun where
  reports : List TargetReport
  asked : List ElementQuery
  sent : List EndpointRequest
  ledger : HealingLedger

/-- Looks all targets up with a number of workers; the ledger gets the attempts in the order of the
targets. -/
def resolveTargets (targets : List TestTarget) (c : Collaborators) (timeout : Option Nat)
    (now : Timestamp) (workers : Nat) (ledger : HealingLedger) : BatchRun :=
  let runs := Pool.runOrdered (fun t => (t, resolveTarget c timeout now t)) workers targets
  { reports := runs.map fun (t, run) => run.report t
    asked := runs.flatMap fun (_, run) => run.asked
    sent := runs.flatMap fun (_, run) => run.sent
    ledger := ⟨ledger.entries ++ runs.flatMap fun (_, run) => run.attempts⟩ }

structure HealingReport where
  generatedAt : Timestamp
  stats : HealingStats
  targets : List TargetReport
  deriving DecidableEq

namespace HealingReport

def make (ledger : HealingLedger) (targets : List TargetReport) (now : Timestamp) :
    HealingReport :=
  { generatedAt := now, stats := ledger.stats, targets }

end HealingReport

end TestImpact
