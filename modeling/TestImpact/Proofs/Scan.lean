import TestImpact.Diff.Hunk
import TestImpact.Proofs.Pairing

/-! What the scan of a diff records: a number for every added line and one for every deleted line.
The changed lines of the diff are these numbers after pairing. The scan goes from line to line, and
all that a line can be for it is told here, once. -/

namespace TestImpact.Diff

/-- The numbers of the added lines of a marked diff. -/
def insertedNumbers (marks : List Mark) : List LineNumber :=
  marks.filterMap Mark.insertedNumber?

def removedNumbers (marks : List Mark) : List LineNumber :=
  marks.filterMap Mark.removedNumber?

/-- How the deleted lines of a marked diff are paired with its added ones. -/
def pairingOf (marks : List Mark) : Pairing :=
  pairing (LineSet.ofList (insertedNumbers marks)) (LineSet.ofList (removedNumbers marks))

theorem parse_eq_ok_iff {diff : String} {file : FileDiff} :
    FileDiff.parse diff = .ok file ↔
      ∃ marks, markLines 0 none (Text.lines diff) = .ok marks ∧ FileDiff.ofMarks marks = file := by
  unfold FileDiff.parse
  cases markLines 0 none (Text.lines diff) with
  | error e => simp [Except.map]
  | ok marks => simp [Except.map]

theorem mem_touched_ofMarks {marks : List Mark} {n : LineNumber} :
    n ∈ (FileDiff.ofMarks marks).lines.touched ↔ n ∈ insertedNumbers marks :=
  mem_touched_reconcile.trans LineSet.mem_ofList

/-- A number is reported exactly where it is that of an added line or of a deleted line that stayed
alone. -/
theorem mem_reported_ofMarks {marks : List Mark} {n : LineNumber} :
    n ∈ (FileDiff.ofMarks marks).lines.deleted ∨ n ∈ (FileDiff.ofMarks marks).lines.touched ↔
      n ∈ insertedNumbers marks ∨ n ∈ (pairingOf marks).loneDeleted := by
  rw [← LineSet.mem_ofList (l := insertedNumbers marks)]
  exact mem_reported_reconcile

theorem mem_removedNumbers_iff {marks : List Mark} {n : LineNumber} :
    n ∈ removedNumbers marks ↔
      (∃ a, (n, a) ∈ (pairingOf marks).pairs) ∨ n ∈ (pairingOf marks).loneDeleted :=
  LineSet.mem_ofList.symm.trans mem_deleted_iff

/-- The partner of a deleted line is an added line at its number or next to it. -/
theorem mem_pairs_ofMarks {marks : List Mark} {n a : LineNumber}
    (h : (n, a) ∈ (pairingOf marks).pairs) :
    a ∈ insertedNumbers marks ∧ a.toNat ≤ n.toNat + 1 ∧ n.toNat ≤ a.toNat + 1 := by
  refine ⟨?_, distance_le_reach_iff.1 (pairUp_near h)⟩
  rw [← mem_touched_ofMarks, LineChanges.mem_touched]
  exact Or.inr (mem_reconcile_modified.2 ⟨n, h⟩)

/-! ## One line -/

/-- The line begins a hunk or a section. -/
def isBoundaryLine (line : String) : Bool :=
  Text.hasPrefix headerSign line || Text.hasPrefix sectionSign line

/-- The line begins like a header and is none. -/
def IsMalformed (line : String) : Prop :=
  Text.hasPrefix headerSign line = true ∧ NewRange.ofHeader? line = none

variable {position : Nat} {cursor next : Option Cursor} {mark : Mark} {line : String}

theorem hasPrefix_of_ofHeader? {line : String} {range : NewRange}
    (h : NewRange.ofHeader? line = some range) : Text.hasPrefix headerSign line = true := by
  unfold NewRange.ofHeader? parseHeader? at h
  obtain ⟨rest, hr, -⟩ := Option.bind_eq_some_iff.1 h
  rw [Text.hasPrefix_iff, Text.afterPrefix?_eq_some_iff.1 hr]
  exact ⟨" -".toList ++ rest, rfl⟩

theorem not_header_of_section (opens : Text.hasPrefix sectionSign line = true) :
    ¬ Text.hasPrefix headerSign line = true :=
  ne_true_of_eq_false (Text.hasPrefix_eq_false_of_sign rfl rfl (by decide) opens)

theorem markLine_of_header {range : NewRange} (found : NewRange.ofHeader? line = some range) :
    markLine position cursor line = .ok (.opens range.start, some (.ofStart range.start)) := by
  rw [markLine.eq_def, if_pos (hasPrefix_of_ofHeader? found), found]

theorem markLine_of_section (opens : Text.hasPrefix sectionSign line = true) :
    markLine position cursor line = .ok (.closes, none) := by
  rw [markLine.eq_def, if_neg (not_header_of_section opens), if_pos opens]

/-- Outside of hunks a line that begins nothing says nothing. -/
theorem markLine_of_idle (plain : isBoundaryLine line = false) :
    markLine position none line = .ok (.ignored, none) := by
  obtain ⟨no_header, no_section⟩ := Bool.or_eq_false_iff.1 plain
  rw [markLine.eq_def, if_neg (ne_true_of_eq_false no_header), if_neg (ne_true_of_eq_false no_section)]

theorem markLine_of_inside (inside : isBoundaryLine line = false) {c behind : Cursor}
    (moves : c.advance? line = some behind) :
    markLine position (some c) line = .ok (.ofLine c.number line, some behind) := by
  obtain ⟨no_header, no_section⟩ := Bool.or_eq_false_iff.1 inside
  rw [markLine.eq_def, if_neg (ne_true_of_eq_false no_header), if_neg (ne_true_of_eq_false no_section)]
  simp only [moves]

theorem markLine_of_stuck (inside : isBoundaryLine line = false) {c : Cursor}
    (stuck : c.advance? line = none) :
    markLine position (some c) line = .error .overflow := by
  obtain ⟨no_header, no_section⟩ := Bool.or_eq_false_iff.1 inside
  rw [markLine.eq_def, if_neg (ne_true_of_eq_false no_header), if_neg (ne_true_of_eq_false no_section)]
  simp only [stuck]

/-- What a line can be, for the scan. -/
theorem markLine_cases (h : markLine position cursor line = .ok (mark, next)) :
    (Text.hasPrefix headerSign line = true ∧ ∃ range, NewRange.ofHeader? line = some range ∧
        mark = .opens range.start ∧ next = some (.ofStart range.start)) ∨
      (Text.hasPrefix headerSign line = false ∧ Text.hasPrefix sectionSign line = true ∧
        mark = .closes ∧ next = none) ∨
      (isBoundaryLine line = false ∧ cursor = none ∧ mark = .ignored ∧ next = none) ∨
      (isBoundaryLine line = false ∧ ∃ c behind, cursor = some c ∧ c.advance? line = some behind ∧
        mark = .ofLine c.number line ∧ next = some behind) := by
  unfold markLine at h
  split at h
  · next header =>
    split at h
    · cases h
    · next range found =>
      cases h
      exact .inl ⟨header, range, found, rfl, rfl⟩
  · next header =>
    have no_header := Bool.eq_false_iff.2 header
    split at h
    · next opens =>
      cases h
      exact .inr (.inl ⟨no_header, opens, rfl, rfl⟩)
    · next opens =>
      have inside : isBoundaryLine line = false := by
        rw [isBoundaryLine, no_header, Bool.eq_false_iff.2 opens]
        rfl
      split at h
      · cases h
        exact .inr (.inr (.inl ⟨inside, rfl, rfl, rfl⟩))
      · next c =>
        split at h
        · cases h
        · next behind moves =>
          cases h
          exact .inr (.inr (.inr ⟨inside, c, behind, rfl, moves, rfl, rfl⟩))

/-- A line is refused as malformed whatever the cursor, and no other line is. -/
theorem markLine_eq_malformed_iff {e : MalformedHeader} :
    markLine position cursor line = .error (.malformed e) ↔
      IsMalformed line ∧ e = { line := position + 1, header := line } := by
  unfold markLine IsMalformed
  split
  · next header =>
    cases NewRange.ofHeader? line with
    | none => simp [header, eq_comm]
    | some range => simp
  · next header =>
    refine iff_of_false ?_ fun malformed => header malformed.1.1
    split
    · exact nofun
    · split
      · exact nofun
      · split <;> exact nofun

theorem not_malformed_of_marked (h : markLine position cursor line = .ok (mark, next)) :
    ¬ IsMalformed line := by
  intro malformed
  rw [markLine_eq_malformed_iff.2 ⟨malformed, rfl⟩] at h
  cases h

/-! ## All lines -/

theorem markLines_cons_of {rest : List String} (h : markLine position cursor line = .ok (mark, next)) :
    markLines position cursor (line :: rest) =
      (markLines (position + 1) next rest).map (mark :: ·) := by
  rw [markLines, h]

theorem markLines_cons_eq_ok {rest : List String} {marks : List Mark}
    (h : markLines position cursor (line :: rest) = .ok marks) :
    ∃ mark next below, markLine position cursor line = .ok (mark, next) ∧
      markLines (position + 1) next rest = .ok below ∧ marks = mark :: below := by
  rw [markLines] at h
  split at h
  · cases h
  · next mark next step =>
    cases scanned : markLines (position + 1) next rest with
    | error e =>
      rw [scanned] at h
      cases h
    | ok below =>
      rw [scanned] at h
      cases h
      exact ⟨mark, next, below, step, scanned, rfl⟩

end TestImpact.Diff
