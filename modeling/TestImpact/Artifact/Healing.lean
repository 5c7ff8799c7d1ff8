import TestImpact.Artifact.Target
import TestImpact.Healing.Batch

/-! The JSON form of look-ups and reports on them. The subject of an attempt and the outcome of a
target are written among the fields of what holds them. -/

namespace TestImpact

def Timestamp.toJson (t : Timestamp) : Json := .string t.text

def Timestamp.ofJson? (v : Json) : Option Timestamp :=
  (Json.string? v).bind Timestamp.parse?

def TierOutcome.toJson : TierOutcome → Json
  | tier number => .natural number.toNat
  | failed => .string "failed"

def TierOutcome.ofJson? : Json → Option TierOutcome
  | .string "failed" => some failed
  | v => (Json.uint8? v).map tier

def HealingSubject.toField : HealingSubject → String × Json
  | selectors descriptor => ("selectors", descriptor.toJson)
  | endpoint path => ("endpoint", .string path)

/-- The subject among some fields: the first field that names a kind of subject counts. -/
def HealingSubject.ofFields? : List (String × Json) → Option HealingSubject
  | [] => none
  | ("selectors", v) :: _ => (SelectorDescriptor.ofJson? v).map selectors
  | ("endpoint", v) :: _ => (Json.string? v).map endpoint
  | _ :: rest => ofFields? rest

def HealingAttempt.toJson (a : HealingAttempt) : Json :=
  .object [a.subject.toField, ("tier", a.tier.toJson), ("success", .bool a.success),
    ("timestamp", a.timestamp.toJson)]

/-- The fields of an object that have none of the given names, if all of them can be read. -/
def otherFields? (names : List String) (fields : List (String × Json)) :
    Option (List (String × Json)) :=
  let rest := fields.filter fun (name, _) => !names.contains name
  if Json.fieldsReadable rest then some rest else none

def HealingAttempt.ofJson? : Json → Option HealingAttempt
  | .object fields => do
    let own := ["tier", "success", "timestamp"]
    let [tier, success, timestamp] ← Json.named? own fields | none
    return {
      subject := ← HealingSubject.ofFields? (← otherFields? own fields)
      tier := ← Json.required TierOutcome.ofJson? tier
      success := ← Json.required Json.bool? success
      timestamp := ← Json.required Timestamp.ofJson? timestamp }
  | _ => none

def Tally.toJson (t : Tally) : Json :=
  .object (t.map fun (name, count) => (name, .natural count))

/-- Counts by name, of which the last one of each name counts. -/
def Tally.ofJson? : Json → Option Tally
  | .object fields => do
    let counts ← fields.mapM fun (name, v) => (Json.count? v).map fun n => (name, n)
    return counts.foldl (fun tally (name, n) => Tally.put name n tally) []
  | _ => none

def HealingStats.toJson (s : HealingStats) : Json :=
  .object [("attempts", .natural s.attempts), ("successes", .natural s.successes),
    ("healed", .natural s.healed), ("healingRate", .real s.healingRate),
    ("byTier", s.byTier.toJson)]

def HealingStats.ofJson? (v : Json) : Option HealingStats := do
  let [attempts, successes, healed, healingRate, byTier] ←
    Json.record? ["attempts", "successes", "healed", "healingRate", "byTier"] v | none
  return {
    attempts := ← Json.required Json.count? attempts
    successes := ← Json.required Json.count? successes
    healed := ← Json.required Json.count? healed
    healingRate := ← Json.required Json.fraction? healingRate
    byTier := ← Json.required Tally.ofJson? byTier }

def TargetOutcome.toFields : TargetOutcome → List (String × Json)
  | resolved tier => [("status", .string "resolved"), ("tier", .natural tier.toNat)]
  | healed tier => [("status", .string "healed"), ("tier", .natural tier.toNat)]
  | failed error => [("status", .string "failed"), ("error", .string error)]
  | notTested reason => [("status", .string "not-tested"), ("reason", .string reason)]

/-- The words for outcomes; their places in this list may stand for them. -/
def TargetOutcome.statuses : List String := ["resolved", "healed", "failed", "not-tested"]

def TargetOutcome.ofFields? (fields : List (String × Json)) : Option TargetOutcome := do
  let (status, rest) ← Json.tagged? "status" fields
  let status ← match status with
    | .string s => some s
    | .natural n => statuses[n]?
    | _ => none
  let field (name : String) : Option (Option Json) := Json.single? rest name
  match status with
  | "resolved" => return resolved (← Json.required Json.uint8? (← field "tier"))
  | "healed" => return healed (← Json.required Json.uint8? (← field "tier"))
  | "failed" => return failed (← Json.required Json.string? (← field "error"))
  | "not-tested" => return notTested (← Json.required Json.string? (← field "reason"))
  | _ => none

def TargetReport.toJson (r : TargetReport) : Json :=
  .object ([("id", .string r.id), ("name", .string r.name), ("type", r.kind.toJson)] ++
    r.outcome.toFields)

def TargetReport.ofJson? : Json → Option TargetReport
  | .object fields => do
    let own := ["id", "name", "type"]
    let [id, name, kind] ← Json.named? own fields | none
    return {
      id := ← Json.required Json.string? id
      name := ← Json.required Json.string? name
      kind := ← Json.required TargetKind.ofJson? kind
      outcome := ← TargetOutcome.ofFields? (← otherFields? own fields) }
  | _ => none

def HealingReport.toJson (r : HealingReport) : Json :=
  .object [("generatedAt", r.generatedAt.toJson), ("stats", r.stats.toJson),
    ("targets", .array (r.targets.map TargetReport.toJson))]

def HealingReport.ofJson? (v : Json) : Option HealingReport := do
  let [generatedAt, stats, targets] ← Json.record? ["generatedAt", "stats", "targets"] v | none
  return {
    generatedAt := ← Json.required Timestamp.ofJson? generatedAt
    stats := ← Json.required HealingStats.ofJson? stats
    targets := ← Json.required (Json.list? TargetReport.ofJson?) targets }

def EndpointResolution.toJson (r : EndpointResolution) : Json :=
  .object ([("requested", .string r.requested), ("resolvedPath", .string r.resolvedPath),
      ("tier", .natural r.tier.toNat)] ++
    Json.optionalField "version" Json.string r.version ++
    [("healed", .bool r.healed), ("status", .natural r.status.toNat)])

def EndpointResolution.ofJson? (v : Json) : Option EndpointResolution := do
  let [requested, resolvedPath, tier, version, healed, status] ←
    Json.record? ["requested", "resolvedPath", "tier", "version", "healed", "status"] v | none
  return {
    requested := ← Json.required Json.string? requested
    resolvedPath := ← Json.required Json.string? resolvedPath
    tier := ← Json.required Json.uint8? tier
    version := ← Json.optional Json.string? version
    healed := ← Json.required Json.bool? healed
    status := ← Json.required Json.uint16? status }

end TestImpact
