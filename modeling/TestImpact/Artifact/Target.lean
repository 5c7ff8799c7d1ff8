import TestImpact.Artifact.Analysis
import TestImpact.Target.Index
import TestImpact.Target.TestTarget

/-! The JSON form of test targets and their index. Optional fields are left out when they have no
value; actions and validations carry their kind in a field `type`. -/

namespace TestImpact

def HttpMethod.ofJson? : Json → Option HttpMethod :=
  Json.word? (Json.words HttpMethod.all HttpMethod.label)

def HttpMethod.toJson (m : HttpMethod) : Json := .string m.label

def TargetKind.ofJson? : Json → Option TargetKind :=
  Json.word? (Json.words TargetKind.all TargetKind.label)

def TargetKind.toJson (k : TargetKind) : Json := .string k.label

def SelectorDescriptor.toJson (d : SelectorDescriptor) : Json :=
  .object (d.given.map fun (name, value) => (name, .string value))

def SelectorDescriptor.ofJson? (v : Json) : Option SelectorDescriptor := do
  let [testId, id, css, xpath, text, partialText, role, name, description, context] ←
    Json.record? ["testId", "id", "css", "xpath", "text", "partialText", "role", "name",
      "description", "context"] v | none
  let hint := Json.optional Json.string?
  return {
    testId := ← hint testId
    id := ← hint id
    css := ← hint css
    xpath := ← hint xpath
    text := ← hint text
    partialText := ← hint partialText
    role := ← hint role
    name := ← hint name
    description := ← hint description
    context := ← hint context }

def Expectation.ofJson? : Json → Option Expectation :=
  Json.keptWord? (Json.words Expectation.all Expectation.label)

def Action.toJson : Action → Json
  | click => .object [("type", .string "click")]
  | input => .object [("type", .string "input")]
  | submit => .object [("type", .string "submit")]
  | verify expect => .object [("type", .string "verify"), ("expect", .string expect.label)]

def Action.ofJson? (v : Json) : Option Action := do
  let (kind, body) ← Json.variant? "type" v
  match kind with
  | "click" => (Json.noFields? body).map fun _ => click
  | "input" => (Json.noFields? body).map fun _ => input
  | "submit" => (Json.noFields? body).map fun _ => submit
  | "verify" =>
    let [expect] ← Json.record? ["expect"] body | none
    return verify (← Json.required Expectation.ofJson? expect)
  | _ => none

def Validation.toJson : Validation → Json
  | status expect => .object [("type", .string "status"), ("expect", .natural expect.toNat)]
  | hasData => .object [("type", .string "has-data")]
  | hasId => .object [("type", .string "has-id")]
  | dataUpdated => .object [("type", .string "data-updated")]
  | authCheck => .object [("type", .string "auth-check")]

def Validation.ofJson? (v : Json) : Option Validation := do
  let (kind, body) ← Json.variant? "type" v
  match kind with
  | "status" =>
    let [expect] ← Json.record? ["expect"] body | none
    return status (← Json.required Json.uint16? expect)
  | "has-data" => (Json.noFields? body).map fun _ => hasData
  | "has-id" => (Json.noFields? body).map fun _ => hasId
  | "data-updated" => (Json.noFields? body).map fun _ => dataUpdated
  | "auth-check" => (Json.noFields? body).map fun _ => authCheck
  | _ => none

def AreaScope.ofJson? : Json → Option AreaScope :=
  Json.word? (Json.words AreaScope.all AreaScope.label)

def TargetArea.toJson (a : TargetArea) : Json :=
  .object [("selector", .string a.selector), ("scope", .string a.scope.label),
    ("changedLines", .natural a.changedLines)]

def TargetArea.ofJson? (v : Json) : Option TargetArea := do
  let [selector, scope, changedLines] ←
    Json.record? ["selector", "scope", "changedLines"] v | none
  return {
    selector := ← Json.required Json.string? selector
    scope := ← Json.required AreaScope.ofJson? scope
    changedLines := ← Json.required Json.count? changedLines }

def TestTarget.toJson (t : TestTarget) : Json :=
  .object ([("name", .string t.name), ("file", .string t.file), ("function", .string t.function),
      ("changeType", t.change.toJson), ("type", t.kind.toJson)] ++
    Json.optionalField "selectors" SelectorDescriptor.toJson t.selectors ++
    Json.optionalField "actions" (fun actions => .array (actions.map Action.toJson)) t.actions ++
    Json.optionalField "endpoint" Json.string t.endpoint ++
    Json.optionalField "method" HttpMethod.toJson t.method ++
    Json.optionalField "validations"
      (fun validations => .array (validations.map Validation.toJson)) t.validations ++
    Json.optionalField "targetArea" TargetArea.toJson t.area)

def TestTarget.ofJson? (v : Json) : Option TestTarget := do
  let [name, file, function, change, kind, selectors, actions, endpoint, method, validations,
      area] ←
    Json.record? ["name", "file", "function", "changeType", "type", "selectors", "actions",
      "endpoint", "method", "validations", "targetArea"] v | none
  return {
    name := ← Json.required Json.string? name
    file := ← Json.required Json.string? file
    function := ← Json.required Json.string? function
    change := ← Json.required Change.ofJson? change
    kind := ← Json.required TargetKind.ofJson? kind
    selectors := ← Json.optional SelectorDescriptor.ofJson? selectors
    actions := ← Json.optional (Json.list? Action.ofJson?) actions
    endpoint := ← Json.optional Json.string? endpoint
    method := ← Json.optional HttpMethod.ofJson? method
    validations := ← Json.optional (Json.list? Validation.ofJson?) validations
    area := ← Json.optional TargetArea.ofJson? area }

def TestTargetsIndex.toJson (i : TestTargetsIndex) : Json :=
  .object [("uiPaths", Json.strings i.uiPaths), ("apiEndpoints", Json.strings i.apiEndpoints),
    ("impactedAreas", Json.strings i.impactedAreas),
    ("specificFunctions", Json.strings i.specificFunctions)]

def TestTargetsIndex.ofJson? (v : Json) : Option TestTargetsIndex := do
  let [uiPaths, apiEndpoints, impactedAreas, specificFunctions] ←
    Json.record? ["uiPaths", "apiEndpoints", "impactedAreas", "specificFunctions"] v | none
  let texts := Json.required (Json.list? Json.string?)
  return {
    uiPaths := ← texts uiPaths
    apiEndpoints := ← texts apiEndpoints
    impactedAreas := ← texts impactedAreas
    specificFunctions := ← texts specificFunctions }

end TestImpact
