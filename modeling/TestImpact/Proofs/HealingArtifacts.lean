import TestImpact.Artifact.Healing
import TestImpact.Proofs.TargetArtifacts
import TestImpact.Proofs.TimestampText

/-! Look-ups and reports on them as JSON. What is written for them is plain and is decoded as
itself: the subject of an attempt and the outcome of a target are found among the fields of what
holds them. -/

namespace TestImpact

open Json

variable {levels : Nat}

theorem otherFields?_eq_some {names : List String} {fields rest : List (String × Json)}
    (kept : (fields.filter fun field => !names.contains field.1) = rest)
    (plain : PlainFields 1 rest) : otherFields? names fields = some rest := by
  have readable : fieldsReadable rest = true :=
    fieldsReadable_iff.2 fun field member => (plain field member).isReadable
  show (if fieldsReadable (fields.filter fun field => !names.contains field.1) then
    some (fields.filter fun field => !names.contains field.1) else none) = some rest
  rw [kept, if_pos readable]

/-! ## Attempts -/

theorem Timestamp.ofJson?_toJson {t : Timestamp} (valid : t.Valid) :
    Timestamp.ofJson? t.toJson = some t := by
  rw [Timestamp.ofJson?, Timestamp.toJson, string?, Option.bind_some, Timestamp.parse?_text valid]

theorem TierOutcome.ofJson?_toJson (t : TierOutcome) : TierOutcome.ofJson? t.toJson = some t := by
  cases t with
  | tier number => simp [TierOutcome.ofJson?, TierOutcome.toJson]
  | failed => rfl

theorem TierOutcome.plain_toJson (t : TierOutcome) : Plain levels t.toJson := by
  cases t <;> simp [TierOutcome.toJson]

theorem HealingSubject.ofFields?_toField (s : HealingSubject) (rest : List (String × Json)) :
    HealingSubject.ofFields? (s.toField :: rest) = some s := by
  cases s with
  | selectors d =>
    rw [HealingSubject.toField, HealingSubject.ofFields?, SelectorDescriptor.ofJson?_toJson]
    rfl
  | endpoint path => rfl

theorem HealingSubject.plain_toField (s : HealingSubject) :
    Plain (levels + 1) s.toField.2 := by
  cases s with
  | selectors d => exact d.plain_toJson
  | endpoint path => exact plain_string path

theorem HealingAttempt.ofJson?_toJson {a : HealingAttempt} (valid : a.timestamp.Valid) :
    HealingAttempt.ofJson? a.toJson = some a := by
  have fields : named? ["tier", "success", "timestamp"] [a.subject.toField, ("tier", a.tier.toJson),
      ("success", .bool a.success), ("timestamp", a.timestamp.toJson)] =
        some [some a.tier.toJson, some (.bool a.success), some a.timestamp.toJson] := by
    cases a.subject <;> rfl
  have others : otherFields? ["tier", "success", "timestamp"] [a.subject.toField,
      ("tier", a.tier.toJson), ("success", .bool a.success), ("timestamp", a.timestamp.toJson)] =
        some [a.subject.toField] := by
    refine otherFields?_eq_some ?_ (by simp [a.subject.plain_toField])
    cases a.subject <;> rfl
  simp [HealingAttempt.ofJson?, HealingAttempt.toJson, fields, others, bool?,
    HealingSubject.ofFields?_toField, TierOutcome.ofJson?_toJson, Timestamp.ofJson?_toJson valid]

theorem HealingAttempt.plain_toJson (a : HealingAttempt) : Plain (levels + 2) a.toJson := by
  simp [HealingAttempt.toJson, a.subject.plain_toField, a.tier.plain_toJson, Timestamp.toJson]

/-! ## Reports -/

/-- The fields of an outcome with a tier. -/
theorem TargetOutcome.tagged?_tier (status : String) (tier : UInt8) :
    tagged? "status" [("status", .string status), ("tier", .natural tier.toNat)] =
      some (.string status, [("tier", .natural tier.toNat)]) := rfl

theorem TargetOutcome.ofFields?_toFields (o : TargetOutcome) :
    TargetOutcome.ofFields? o.toFields = some o := by
  have field (tier : UInt8) : single? [("tier", .natural tier.toNat)] "tier" =
      some (some (.natural tier.toNat)) := rfl
  cases o with
  | resolved tier =>
    simp [TargetOutcome.toFields, TargetOutcome.ofFields?, TargetOutcome.tagged?_tier, field]
  | healed tier =>
    simp [TargetOutcome.toFields, TargetOutcome.ofFields?, TargetOutcome.tagged?_tier, field]
  | failed error => rfl
  | notTested reason => rfl

theorem TargetOutcome.plain_toFields (o : TargetOutcome) :
    PlainFields levels o.toFields := by
  cases o <;> simp [TargetOutcome.toFields]

theorem TargetReport.ofJson?_toJson (r : TargetReport) :
    TargetReport.ofJson? r.toJson = some r := by
  have fields : named? ["id", "name", "type"] (("id", .string r.id) :: ("name", .string r.name) ::
      ("type", r.kind.toJson) :: r.outcome.toFields) =
        some [some (.string r.id), some (.string r.name), some r.kind.toJson] := by
    cases r.outcome <;> rfl
  have others : otherFields? ["id", "name", "type"] (("id", .string r.id) ::
      ("name", .string r.name) :: ("type", r.kind.toJson) :: r.outcome.toFields) =
        some r.outcome.toFields := by
    refine otherFields?_eq_some ?_ r.outcome.plain_toFields
    cases r.outcome <;> rfl
  simp [TargetReport.ofJson?, TargetReport.toJson, fields, others, string?,
    TargetKind.ofJson?_toJson, TargetOutcome.ofFields?_toFields]

theorem TargetReport.plain_toJson (r : TargetReport) : Plain (levels + 1) r.toJson := by
  simp [TargetReport.toJson, TargetKind.toJson, r.outcome.plain_toFields]

theorem EndpointResolution.ofJson?_toJson (r : EndpointResolution) :
    EndpointResolution.ofJson? r.toJson = some r := by
  have fields : record? ["requested", "resolvedPath", "tier", "version", "healed", "status"] r.toJson =
      some [some (.string r.requested), some (.string r.resolvedPath),
        some (.natural r.tier.toNat), r.version.map .string, some (.bool r.healed),
        some (.natural r.status.toNat)] :=
    record?_of_present (by simp [EndpointResolution.toJson]) rfl (by decide)
  have version : optional string? (r.version.map .string) = some r.version :=
    optional_map (fun _ _ => rfl) (by simp)
  simp [EndpointResolution.ofJson?, fields, string?, bool?, version]

theorem EndpointResolution.plain_toJson (r : EndpointResolution) : Plain (levels + 1) r.toJson := by
  simp [EndpointResolution.toJson]

end TestImpact
