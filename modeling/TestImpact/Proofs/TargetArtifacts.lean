import TestImpact.Artifact.Target
import TestImpact.Proofs.AnalysisArtifacts

/-! Test targets and their index as JSON. What is written for them is plain and is decoded as
itself: a field that is left out comes back as no value, and a list or a descriptor without entries
as that. -/

namespace TestImpact

open Json

variable {levels : Nat}

/-! ## Words -/

theorem HttpMethod.ofJson?_toJson (m : HttpMethod) : HttpMethod.ofJson? m.toJson = some m :=
  word?_words (by cases m <;> decide) (by cases m <;> decide)

theorem TargetKind.ofJson?_toJson (k : TargetKind) : TargetKind.ofJson? k.toJson = some k :=
  word?_words (by cases k <;> decide) (by cases k <;> decide)

theorem Expectation.ofJson?_label (e : Expectation) : Expectation.ofJson? (.string e.label) = some e :=
  word?_words (by cases e <;> decide) (by cases e <;> decide)

theorem AreaScope.ofJson?_label (s : AreaScope) : AreaScope.ofJson? (.string s.label) = some s :=
  word?_words (by cases s <;> decide) (by cases s <;> decide)

/-! ## Parts of targets -/

theorem present_hints (hints : List (String × Option String)) :
    (hints.filterMap fun (name, value) => value.map (name, ·)).map
        (fun (name, value) => (name, Json.string value)) =
      present (hints.map fun (name, value) => (name, value.map .string)) := by
  induction hints with
  | nil => rfl
  | cons hint hints ih =>
    obtain ⟨name, _ | value⟩ := hint
    · exact ih
    · exact congrArg ((name, Json.string value) :: ·) ih

theorem SelectorDescriptor.ofJson?_toJson (d : SelectorDescriptor) :
    SelectorDescriptor.ofJson? d.toJson = some d := by
  have fields : record? ["testId", "id", "css", "xpath", "text", "partialText", "role", "name",
      "description", "context"] d.toJson =
        some (d.hints.map fun (_, value) => value.map .string) :=
    record?_of_present (congrArg Json.object (present_hints d.hints)) rfl (by decide)
  have hint (value : Option String) : optional string? (value.map .string) = some value :=
    optional_map (fun _ _ => rfl) (by simp)
  rw [SelectorDescriptor.ofJson?, fields]
  dsimp only [SelectorDescriptor.hints, List.map, Option.bind_eq_bind, Option.bind_some]
  simp only [hint, Option.bind_some]
  rfl

@[simp] theorem SelectorDescriptor.plain_toJson (d : SelectorDescriptor) :
    Plain (levels + 1) d.toJson := by
  simp [SelectorDescriptor.toJson]

theorem Action.ofJson?_toJson (a : Action) : Action.ofJson? a.toJson = some a := by
  cases a with
  | click | input | submit => rfl
  | verify expect => cases expect <;> rfl

@[simp] theorem Action.plain_toJson (a : Action) : Plain (levels + 1) a.toJson := by
  cases a <;> simp [Action.toJson]

theorem Validation.ofJson?_toJson (v : Validation) : Validation.ofJson? v.toJson = some v := by
  cases v with
  | status expect =>
    have tagged : variant? "type" (Validation.status expect).toJson =
        some ("status", .object [("expect", .natural expect.toNat)]) := rfl
    have field : record? ["expect"] (.object [("expect", .natural expect.toNat)]) =
        some [some (.natural expect.toNat)] := rfl
    simp [Validation.ofJson?, tagged, field]
  | hasData | hasId | dataUpdated | authCheck => rfl

@[simp] theorem Validation.plain_toJson (v : Validation) : Plain (levels + 1) v.toJson := by
  cases v <;> simp [Validation.toJson]

theorem TargetArea.ofJson?_toJson {a : TargetArea} (word : a.changedLines < UInt64.size) :
    TargetArea.ofJson? a.toJson = some a := by
  have fields : record? ["selector", "scope", "changedLines"] a.toJson =
      some [some (.string a.selector), some (.string a.scope.label),
        some (.natural a.changedLines)] :=
    record?_of_present rfl rfl (by decide)
  simp [TargetArea.ofJson?, fields, string?, AreaScope.ofJson?_label, count?_natural word]

theorem TargetArea.plain_toJson {a : TargetArea} (word : a.changedLines < UInt64.size) :
    Plain (levels + 1) a.toJson := by
  simp [TargetArea.toJson, plain_count word]

/-! ## Targets and their index -/

/-- The number of changed lines is a word of 64 bits. -/
def TestTarget.Words (t : TestTarget) : Prop :=
  ∀ area ∈ t.area, area.changedLines < UInt64.size

theorem TestTarget.ofJson?_toJson {t : TestTarget} (words : t.Words) :
    TestTarget.ofJson? t.toJson = some t := by
  have fields : record? ["name", "file", "function", "changeType", "type", "selectors", "actions",
      "endpoint", "method", "validations", "targetArea"] t.toJson =
      some [some (.string t.name), some (.string t.file), some (.string t.function),
        some t.change.toJson, some t.kind.toJson, t.selectors.map SelectorDescriptor.toJson,
        t.actions.map fun actions => .array (actions.map Action.toJson), t.endpoint.map .string,
        t.method.map HttpMethod.toJson,
        t.validations.map fun validations => .array (validations.map Validation.toJson),
        t.area.map TargetArea.toJson] :=
    record?_of_present (by simp [TestTarget.toJson]) rfl (by decide)
  have selectors : optional SelectorDescriptor.ofJson? (t.selectors.map SelectorDescriptor.toJson) =
      some t.selectors :=
    optional_map (fun d _ => SelectorDescriptor.ofJson?_toJson d)
      (by simp [SelectorDescriptor.toJson])
  have actions : optional (list? Action.ofJson?)
      (t.actions.map fun actions => .array (actions.map Action.toJson)) = some t.actions :=
    optional_map (fun _ _ => list?_map fun a _ => Action.ofJson?_toJson a) (by simp)
  have endpoint : optional string? (t.endpoint.map .string) = some t.endpoint :=
    optional_map (fun _ _ => rfl) (by simp)
  have method : optional HttpMethod.ofJson? (t.method.map HttpMethod.toJson) = some t.method :=
    optional_map (fun m _ => HttpMethod.ofJson?_toJson m) (by simp [HttpMethod.toJson])
  have validations : optional (list? Validation.ofJson?)
      (t.validations.map fun validations => .array (validations.map Validation.toJson)) =
        some t.validations :=
    optional_map (fun _ _ => list?_map fun v _ => Validation.ofJson?_toJson v) (by simp)
  have area : optional TargetArea.ofJson? (t.area.map TargetArea.toJson) = some t.area :=
    optional_map (fun a given => TargetArea.ofJson?_toJson (words a given))
      (by simp [TargetArea.toJson])
  rw [TestTarget.ofJson?, fields]
  dsimp only [Option.bind_eq_bind, Option.bind_some, required_some]
  rw [Change.ofJson?_toJson, TargetKind.ofJson?_toJson, selectors, actions, endpoint, method,
    validations, area]
  rfl

theorem TestTarget.plain_toJson {t : TestTarget} (words : t.Words) : Plain (levels + 3) t.toJson := by
  have area : ∀ a ∈ t.area, Plain (levels + 2) a.toJson :=
    fun a given => TargetArea.plain_toJson (words a given)
  simpa [TestTarget.toJson, Change.toJson, TargetKind.toJson, HttpMethod.toJson] using area

theorem TestTargetsIndex.ofJson?_toJson (i : TestTargetsIndex) :
    TestTargetsIndex.ofJson? i.toJson = some i := by
  have fields : record? ["uiPaths", "apiEndpoints", "impactedAreas", "specificFunctions"] i.toJson =
      some [some (strings i.uiPaths), some (strings i.apiEndpoints), some (strings i.impactedAreas),
        some (strings i.specificFunctions)] :=
    record?_of_present rfl rfl (by decide)
  simp [TestTargetsIndex.ofJson?, fields]

theorem TestTargetsIndex.plain_toJson (i : TestTargetsIndex) : Plain (levels + 2) i.toJson := by
  simp [TestTargetsIndex.toJson]

end TestImpact
