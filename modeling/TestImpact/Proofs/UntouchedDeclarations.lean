import TestImpact.Proofs.Attribution
import TestImpact.Proofs.UnifiedDiff

/-! What a unified diff says of a declaration that it does not change inside. A deleted line has no
place in the new file, and the scan records it under the number of the line that comes next; so a
deletion just above a declaration counts as one in its first line. Apart from these only a hunk that
leaves no line of the new file can be reported in such a declaration, and only just below it. -/

namespace TestImpact

namespace Diff

/-- The hunks turn the old lines into the new ones, where `before` lines of the new file are already
dealt with. -/
inductive Turns : Nat → List String → List String → List PlacedHunk → Prop
  | done (before : Nat) (rest : List String) : Turns before rest rest []
  | hunk {before : Nat} {skipped old new : List String} {h : PlacedHunk} {hunks : List PlacedHunk}
      (place : h.before = before + skipped.length) (headed : h.Headed)
      (tail : Turns (h.before + h.newLines.length) old new hunks) :
      Turns before (skipped ++ h.oldLines ++ old) (skipped ++ h.newLines ++ new) (h :: hunks)

theorem Turns.headed {before : Nat} {old new : List String} {hunks : List PlacedHunk}
    (turns : Turns before old new hunks) : ∀ h ∈ hunks, h.Headed := by
  induction turns with
  | done => simp
  | hunk place headed tail ih =>
    intro g member
    rcases List.mem_cons.1 member with rfl | member
    · exact headed
    · exact ih g member

/-- No hunk ends past the last line number where the texts have few lines. -/
theorem Turns.stop_le {before : Nat} {old new : List String} {hunks : List PlacedHunk}
    (turns : Turns before old new hunks) :
    ∀ h ∈ hunks, h.start + HunkLine.contentCount h.lines ≤ before + old.length + new.length + 1 := by
  induction turns with
  | done => exact List.forall_mem_nil _
  | @hunk before skipped old new h hunks place headed tail ih =>
    simp only [List.length_append]
    refine List.forall_mem_cons.2 ⟨?_, fun g member => ?_⟩
    · have content : HunkLine.contentCount h.lines ≤ h.oldLines.length + h.newLines.length :=
        HunkLine.contentCount_le h.lines
      have lead : h.lead ≤ 1 := by
        unfold PlacedHunk.lead
        split <;> omega
      rw [PlacedHunk.start]
      omega
    · have below := ih g member
      omega

end Diff

/-- A deletion outside the lines of a declaration is recorded in it only from just above, or from
just below where its hunk has no new line. -/
theorem Declaration.bound_of_recorded {d : Declaration} {h : Diff.PlacedHunk} {place : Nat}
    (outside : ¬ (d.startLine ≤ .ofNat place ∧ .ofNat place < d.endLine))
    (recorded : d.contains (h.recorded place) = true) :
    h.newLines ≠ [] ∧ h.recorded place = d.startLine ∨
      h.newLines = [] ∧ h.recorded place = d.endLine := by
  simp only [contains, Bool.and_eq_true, decide_eq_true_eq] at recorded
  obtain ⟨low, high⟩ := recorded
  unfold Diff.PlacedHunk.recorded Diff.PlacedHunk.lead at *
  by_cases empty : h.newLines = []
  · rw [if_pos empty, Nat.add_zero] at *
    refine Or.inr ⟨empty, UInt32.le_antisymm high ?_⟩
    exact UInt32.not_lt.1 fun below => outside ⟨low, below⟩
  · rw [if_neg empty, UInt32.ofNat_add] at *
    refine Or.inl ⟨empty, ?_⟩
    simp only [UInt32.le_iff_toNat_le, UInt32.lt_iff_toNat_lt, ← UInt32.toNat_inj,
      UInt32.toNat_add] at *
    have one : (UInt32.ofNat 1).toNat = 1 := rfl
    have small := (UInt32.ofNat place).toNat_lt
    omega

/-- **A declaration with no added line and no deletion inside is reported exactly where a deletion
recorded on its first or last line stays unpaired.** Such a deletion stands just above the
declaration, or just below it in a hunk without new lines. The diff is read unless one of its hunks
ends past the last line number, as none does where the texts have few lines. -/
theorem unreported_iff_no_lone_deletion_at_bounds {diff : String} {u : Diff.UnifiedDiff}
    {old new : List String} {d : Declaration} (written : Text.lines diff = u.lines)
    (clear : ∀ line ∈ u.preamble, Text.hasPrefix Diff.headerSign line = false)
    (turns : Diff.Turns 0 old new u.hunks) (range : d.startLine ≤ d.endLine)
    (none_inserted : ∀ h ∈ u.hunks, ∀ n ∈ h.insertedNumbers, d.contains (.ofNat n) = false)
    (none_inside : ∀ h ∈ u.hunks, ∀ place ∈ h.removedPlaces,
      ¬ (d.startLine ≤ .ofNat place ∧ .ofNat place < d.endLine)) :
    (old.length + new.length + 1 < UInt32.size → ∃ file, Diff.FileDiff.parse diff = .ok file) ∧
    (∀ file, Diff.FileDiff.parse diff = .ok file →
      ∃ marks, Diff.markLines 0 none (Text.lines diff) = .ok marks ∧
        file = Diff.FileDiff.ofMarks marks ∧
        (d.change? file.lines = none ↔
          d.startLine ∉ (Diff.pairingOf marks).loneDeleted ∧
            d.endLine ∉ (Diff.pairingOf marks).loneDeleted)) ∧
    ∀ h ∈ u.hunks, ∀ place ∈ h.removedPlaces, d.contains (h.recorded place) = true →
      h.newLines ≠ [] ∧ h.recorded place = d.startLine ∨
        h.newLines = [] ∧ h.recorded place = d.endLine := by
  have formed : u.WellFormed := ⟨clear, turns.headed⟩
  have bound : ∀ h ∈ u.hunks, ∀ place ∈ h.removedPlaces, d.contains (h.recorded place) = true →
      h.newLines ≠ [] ∧ h.recorded place = d.startLine ∨
        h.newLines = [] ∧ h.recorded place = d.endLine :=
    fun h hm place pm => Declaration.bound_of_recorded (none_inside h hm place pm)
  refine ⟨fun few => ?_, fun file accepted => ?_, bound⟩
  · have scanned : Diff.markLines 0 none (Text.lines diff) = .ok u.marks := by
      rw [written]
      refine Diff.UnifiedDiff.markLines_lines formed (fun h hm => ?_) 0
      have stop := turns.stop_le h hm
      omega
    exact ⟨_, Diff.parse_eq_ok_iff.2 ⟨_, scanned, rfl⟩⟩
  obtain ⟨marks, scanned, rfl⟩ := Diff.parse_eq_ok_iff.1 accepted
  obtain rfl : marks = u.marks := Diff.UnifiedDiff.marks_of_lines formed (written ▸ scanned)
  refine ⟨u.marks, scanned, rfl, ?_⟩
  have not_inserted : ∀ n ∈ Diff.insertedNumbers u.marks, d.contains n = false := by
    intro n hn
    obtain ⟨h, hm, k, hk, rfl⟩ := Diff.UnifiedDiff.mem_insertedNumbers_marks.1 hn
    exact none_inserted h hm k hk
  have at_bound : ∀ n ∈ (Diff.pairingOf u.marks).loneDeleted, d.contains n = true →
      n = d.startLine ∨ n = d.endLine := by
    intro n lone inside
    have removed := Diff.mem_removedNumbers_iff.2 (Or.inr lone)
    obtain ⟨h, hm, place, pm, rfl⟩ := Diff.UnifiedDiff.mem_removedNumbers_marks.1 removed
    rcases bound h hm place pm inside with ⟨_, he⟩ | ⟨_, he⟩
    · exact Or.inl he
    · exact Or.inr he
  rw [← Option.not_isSome_iff_eq_none, Declaration.change?_isSome_iff]
  simp only [Diff.mem_reported_ofMarks, not_exists, not_and]
  have first : d.contains d.startLine = true := by simp [Declaration.contains, range]
  have last : d.contains d.endLine = true := by simp [Declaration.contains, range]
  constructor
  · intro unreported
    exact ⟨fun lone => unreported _ first (Or.inr lone), fun lone => unreported _ last (Or.inr lone)⟩
  · rintro ⟨noneFirst, noneLast⟩ n inside (inserted | lone)
    · exact Bool.false_ne_true ((not_inserted n inserted).symm.trans inside)
    · rcases at_bound n lone inside with rfl | rfl
      · exact noneFirst lone
      · exact noneLast lone

def importHunk : Diff.PlacedHunk where
  before := 0
  header := "@@ -1,3 +1,2 @@"
  lines := [.removed "import x;", .kept "function a() \x7b", .kept "\x7d"]

/-- A diff that removes the line above a function. -/
def removedImport : Diff.UnifiedDiff where
  preamble := []
  hunks := [importHunk]

def removedImportText : String :=
  "@@ -1,3 +1,2 @@\n-import x;\n function a() \x7b\n \x7d\n"

/-- The function below the removed line. -/
def keptFunction : Declaration :=
  { name := "a", startLine := 1, endLine := 2, kind := .function }

theorem removedImport_written : Text.lines removedImportText = removedImport.lines := by
  decide +kernel

theorem removedImport_turns :
    Diff.Turns 0 ["import x;", "function a() \x7b", "\x7d"] ["function a() \x7b", "\x7d"]
      removedImport.hunks :=
  have headed : importHunk.Headed := ⟨⟨1, 2⟩, by decide +kernel, rfl⟩
  @Diff.Turns.hunk 0 [] [] [] importHunk [] rfl headed (.done _ [])

theorem removedImport_none_inserted :
    ∀ h ∈ removedImport.hunks, ∀ n ∈ h.insertedNumbers, keptFunction.contains (.ofNat n) = false := by
  decide

theorem removedImport_none_inside :
    ∀ h ∈ removedImport.hunks, ∀ place ∈ h.removedPlaces,
      ¬ (keptFunction.startLine ≤ .ofNat place ∧ .ofNat place < keptFunction.endLine) := by
  decide

theorem unreported_iff_no_lone_deletion_at_bounds_import :
    Text.lines removedImportText = removedImport.lines ∧
      (∀ line ∈ removedImport.preamble, Text.hasPrefix Diff.headerSign line = false) ∧
      Diff.Turns 0 ["import x;", "function a() \x7b", "\x7d"] ["function a() \x7b", "\x7d"]
        removedImport.hunks ∧
      keptFunction.startLine ≤ keptFunction.endLine ∧
      (∀ h ∈ removedImport.hunks, ∀ n ∈ h.insertedNumbers,
        keptFunction.contains (.ofNat n) = false) ∧
      (∀ h ∈ removedImport.hunks, ∀ place ∈ h.removedPlaces,
        ¬ (keptFunction.startLine ≤ .ofNat place ∧ .ofNat place < keptFunction.endLine)) ∧
      (["import x;", "function a() \x7b", "\x7d"].length + ["function a() \x7b", "\x7d"].length + 1 <
          UInt32.size → ∃ file, Diff.FileDiff.parse removedImportText = .ok file) ∧
      (∀ file, Diff.FileDiff.parse removedImportText = .ok file →
        ∃ marks, Diff.markLines 0 none (Text.lines removedImportText) = .ok marks ∧
          file = Diff.FileDiff.ofMarks marks ∧
          (keptFunction.change? file.lines = none ↔
            keptFunction.startLine ∉ (Diff.pairingOf marks).loneDeleted ∧
              keptFunction.endLine ∉ (Diff.pairingOf marks).loneDeleted)) ∧
      ∀ h ∈ removedImport.hunks, ∀ place ∈ h.removedPlaces,
        keptFunction.contains (h.recorded place) = true →
        h.newLines ≠ [] ∧ h.recorded place = keptFunction.startLine ∨
          h.newLines = [] ∧ h.recorded place = keptFunction.endLine :=
  ⟨removedImport_written, by decide, removedImport_turns, by decide, removedImport_none_inserted,
    removedImport_none_inside,
    unreported_iff_no_lone_deletion_at_bounds removedImport_written (by decide) removedImport_turns
      (by decide) removedImport_none_inserted removedImport_none_inside⟩

/-- The function below the removed line is reported, as deleted. -/
theorem line_above_reported :
    ¬ ∀ (diff : String) (u : Diff.UnifiedDiff) (old new : List String) (d : Declaration)
      (file : Diff.FileDiff),
      Text.lines diff = u.lines →
      (∀ line ∈ u.preamble, Text.hasPrefix Diff.headerSign line = false) →
      Diff.Turns 0 old new u.hunks →
      1 ≤ d.startLine → d.startLine ≤ d.endLine → d.endLine.toNat ≤ new.length →
      (∀ h ∈ u.hunks, ∀ n ∈ h.insertedNumbers, d.contains (.ofNat n) = false) →
      (∀ h ∈ u.hunks, ∀ place ∈ h.removedPlaces,
        ¬ (d.startLine ≤ .ofNat place ∧ .ofNat place < d.endLine)) →
      Diff.FileDiff.parse diff = .ok file → d.change? file.lines = none := by
  intro unreported
  have scanned : Diff.FileDiff.parse removedImportText =
      .ok (Diff.FileDiff.ofMarks removedImport.marks) := by decide +kernel
  have key := unreported removedImportText removedImport _ _ keptFunction _ removedImport_written
    (by decide) removedImport_turns (by decide) (by decide) (by decide) removedImport_none_inserted
    removedImport_none_inside scanned
  exact absurd key (by decide)

end TestImpact
