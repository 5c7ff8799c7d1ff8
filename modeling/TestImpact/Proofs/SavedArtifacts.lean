import TestImpact.Proofs.HealingArtifacts
import TestImpact.Target.Generate

/-! Artifacts in the text of files. A value that was written is read back from both forms of its
text, so targets that are generated from a saved analysis are those of the analysis itself. In
whatever text is read, the first word on a name counts, and a file has the path it is listed under.
-/

namespace TestImpact

namespace Json

/-- What a text of JSON is decoded as. -/
def decodeText? {α : Type} (decode : Json → Option α) (text : String) : Option α :=
  (read? text).bind decode

/-- The value is read back from the texts that are written for it, indented and compact. -/
def Survives {α : Type} (encode : α → Json) (decode : Json → Option α) (a : α) : Prop :=
  decodeText? decode (encode a).pretty = some a ∧ decodeText? decode (encode a).compact = some a

theorem survives_of_plain {α : Type} {encode : α → Json} {decode : Json → Option α} {a : α}
    (plain : Plain depthLimit (encode a)) (back : decode (encode a) = some a) :
    Survives encode decode a := by
  simp [Survives, decodeText?, read?_pretty plain, read?_compact plain, back]

end Json

open Json

/-- **Artifacts survive being written and read.** Every value whose counts are words and whose times
a clock can show is read back as itself from its text, a saved analysis has the targets of the
analysis, and in a text of any origin the first word on a name counts and each file has the path it
is listed under. -/
theorem artifacts_survive :
    (∀ a : ChangeAnalysis, a.summary.Words →
      Survives ChangeAnalysis.toJson ChangeAnalysis.ofJson? a ∧
        (decodeText? ChangeAnalysis.ofJson? a.toJson.pretty).map
          (fun saved => generateTargets saved.files) = some (generateTargets a.files)) ∧
    (∀ f : FileChange, Survives FileChange.toJson FileChange.ofJson? f) ∧
    (∀ r : ChangeRecord, Survives ChangeRecord.toJson ChangeRecord.ofJson? r) ∧
    (∀ c : Diff.LineChanges, Survives Diff.LineChanges.toJson Diff.LineChanges.ofJson? c) ∧
    (∀ t : TestTarget, t.Words → Survives TestTarget.toJson TestTarget.ofJson? t) ∧
    (∀ i : TestTargetsIndex, Survives TestTargetsIndex.toJson TestTargetsIndex.ofJson? i) ∧
    (∀ d : SelectorDescriptor, Survives SelectorDescriptor.toJson SelectorDescriptor.ofJson? d) ∧
    (∀ a : HealingAttempt, a.timestamp.Valid →
      Survives HealingAttempt.toJson HealingAttempt.ofJson? a) ∧
    (∀ r : TargetReport, Survives TargetReport.toJson TargetReport.ofJson? r) ∧
    (∀ r : EndpointResolution, Survives EndpointResolution.toJson EndpointResolution.ofJson? r) ∧
    (∀ text r, decodeText? ChangeRecord.ofJson? text = some r →
      ∃ fields, read? text = some (.object fields) ∧ r.TellsFirst fields) ∧
    (∀ text f, decodeText? FileChange.ofJson? text = some f →
      ∃ fields, decodeText? FileChange.functionsField? text = some (.object fields) ∧
        f.functions.TellsFirst fields) ∧
    (∀ text a, decodeText? ChangeAnalysis.ofJson? text = some a →
      ∃ fields, decodeText? ChangeAnalysis.filesField? text = some (.object fields) ∧
        List.Forall₂ (fun field f => FileChange.TellsField f field) fields a.files) := by
  have saved {a : ChangeAnalysis} (words : a.summary.Words) :
      Survives ChangeAnalysis.toJson ChangeAnalysis.ofJson? a :=
    survives_of_plain (ChangeAnalysis.plain_toJson words) (ChangeAnalysis.ofJson?_toJson words)
  refine ⟨fun a words => ⟨saved words, ?_⟩, fun f => ?_, fun r => ?_, fun c => ?_, fun t words => ?_,
    fun i => ?_, fun d => ?_, fun a valid => ?_, fun r => ?_, fun r => ?_, fun text r decoded => ?_,
    fun text f decoded => ?_, fun text a decoded => ?_⟩
  · rw [(saved words).1, Option.map_some]
  · exact survives_of_plain f.plain_toJson f.ofJson?_toJson
  · exact survives_of_plain r.plain_toJson r.ofJson?_toJson
  · exact survives_of_plain c.plain_toJson c.ofJson?_toJson
  · exact survives_of_plain (TestTarget.plain_toJson words) (TestTarget.ofJson?_toJson words)
  · exact survives_of_plain i.plain_toJson i.ofJson?_toJson
  · exact survives_of_plain d.plain_toJson d.ofJson?_toJson
  · exact survives_of_plain a.plain_toJson (HealingAttempt.ofJson?_toJson valid)
  · exact survives_of_plain r.plain_toJson r.ofJson?_toJson
  · exact survives_of_plain r.plain_toJson r.ofJson?_toJson
  · obtain ⟨v, read, record⟩ := Option.bind_eq_some_iff.1 decoded
    obtain ⟨fields, rfl, tells⟩ := ChangeRecord.tellsFirst_of_ofJson? record
    exact ⟨fields, read, tells⟩
  · obtain ⟨v, read, file⟩ := Option.bind_eq_some_iff.1 decoded
    rw [decodeText?, read]
    exact FileChange.tellsFirst_of_ofJson? file
  · obtain ⟨v, read, analysis⟩ := Option.bind_eq_some_iff.1 decoded
    rw [decodeText?, read]
    exact ChangeAnalysis.tellsFields_of_ofJson? analysis

/-- An analysis that lists a file twice, a target with an empty descriptor and a look-up that failed
in a leap second are read back, and of a name that is given twice the first change counts. -/
theorem artifacts_survive_repeated :
    let f : FileChange := ⟨"app.js", ⟨.ofList [3], ∅, .ofList [7, 5]⟩,
      .ofList [("save", .modified), ("load", .added)], [⟨3, 4, ["+x"]⟩], ["Core"]⟩
    let a : ChangeAnalysis := .ofFiles [f, { f with functions := ∅ }] true
    let t : TestTarget := {
      name := "Form", file := "app.js", function := "save", change := .modified, kind := .visual
      selectors := some {}, actions := some [], area := some ⟨"#form", .partly, 12⟩ }
    let failed : HealingAttempt := .make (.selectors {}) .failed ⟨17166, 86399, 1500000000⟩
    let text := "\x7b\"b\":\"added\",\"a\":\"modified\",\"b\":\"deleted\"\x7d"
    let r : ChangeRecord := .ofList [("b", .added), ("a", .modified)]
    a.summary.Words ∧ Survives ChangeAnalysis.toJson ChangeAnalysis.ofJson? a ∧
      t.Words ∧ Survives TestTarget.toJson TestTarget.ofJson? t ∧
      failed.timestamp.Valid ∧ Survives HealingAttempt.toJson HealingAttempt.ofJson? failed ∧
      decodeText? ChangeRecord.ofJson? text = some r ∧
      ∃ fields, read? text = some (.object fields) ∧ r.TellsFirst fields := by
  intro f a t failed text r
  have words : a.summary.Words := by constructor <;> decide
  have area : t.Words := by rintro _ ⟨⟩; decide
  have valid : failed.timestamp.Valid := by constructor <;> decide
  have decoded : decodeText? ChangeRecord.ofJson? text = some r := by decide +kernel
  obtain ⟨analyses, -, -, -, targets, -, -, attempts, -, -, records, -, -⟩ := artifacts_survive
  exact ⟨words, (analyses a words).1, area, targets t area, valid, attempts failed valid, decoded,
    records text r decoded⟩

end TestImpact
