import TestImpact.Proofs.HunkBlocks

/-! How the scan of a diff ends. It goes through the whole diff where every block begins with a header
and keeps its numbers line numbers. Else the first other block decides: the scan is halted by its
header, or by a number that is past the last one. -/

namespace TestImpact.Diff

variable {line : String} {position : Nat} {cursor : Option Cursor} {ls : List String}

/-! ## The scan -/

theorem map_eq_error_iff {ε α β : Type} {f : α → β} {x : Except ε α} {e : ε} :
    x.map f = .error e ↔ x = .error e := by
  cases x with
  | error _ => simp [Except.map]
  | ok _ => simp [Except.map]

theorem exists_map_eq_ok_iff {ε α β : Type} {f : α → β} {x : Except ε α} :
    (∃ b, x.map f = .ok b) ↔ ∃ a, x = .ok a := by
  cases x with
  | error _ => simp [Except.map]
  | ok _ => simp [Except.map]

/-- What is left of the hunk below a header is the body of its block. -/
theorem fitsFrom_ofStart_iff {range : NewRange} (found : NewRange.ofHeader? line = some range)
    (rest : List String) :
    FitsFrom (some (.ofStart range.start)) rest ↔ Block.Fits ⟨line, linesInside rest⟩ := by
  rw [Block.Fits, Block.start_of_found found]
  simp only [FitsFrom, Option.mem_def, Option.some.injEq, forall_eq']

/-- What the scan of some lines has to do with that of the lines below the first. -/
inductive ScanStep (position : Nat) (cursor : Option Cursor) (line : String) (rest : List String) : Prop
  | malformed (e : MalformedHeader)
      (halted : markLines position cursor (line :: rest) = .error (.malformed e))
      (fits : FitsFrom cursor (line :: rest))
      (blocks : blocksOf (line :: rest) = ⟨line, linesInside rest⟩ :: blocksOf rest)
      (unreadable : ¬ Block.Readable ⟨line, linesInside rest⟩)
  | opens (mark : Mark) (opened : Cursor)
      (scanned : markLines position cursor (line :: rest) =
        (markLines (position + 1) (some opened) rest).map (mark :: ·))
      (fits : FitsFrom cursor (line :: rest))
      (blocks : blocksOf (line :: rest) = ⟨line, linesInside rest⟩ :: blocksOf rest)
      (readable : Block.Readable ⟨line, linesInside rest⟩)
      (fits_block : FitsFrom (some opened) rest ↔ Block.Fits ⟨line, linesInside rest⟩)
  | stuck (halted : markLines position cursor (line :: rest) = .error .overflow)
      (unfit : ¬ FitsFrom cursor (line :: rest))
  | goesOn (mark : Mark) (next : Option Cursor)
      (scanned : markLines position cursor (line :: rest) =
        (markLines (position + 1) next rest).map (mark :: ·))
      (fits : FitsFrom cursor (line :: rest) ↔ FitsFrom next rest)
      (blocks : blocksOf (line :: rest) = blocksOf rest)

theorem scanStep (position : Nat) (cursor : Option Cursor) (line : String) (rest : List String) :
    ScanStep position cursor line rest := by
  by_cases header : Text.hasPrefix headerSign line = true
  · have fits : FitsFrom cursor (line :: rest) :=
      fitsFrom_of_boundary (isBoundaryLine_of_header header) rest
    have blocks : blocksOf (line :: rest) = ⟨line, linesInside rest⟩ :: blocksOf rest := by
      rw [blocksOf, if_pos header]
    cases found : NewRange.ofHeader? line with
    | none =>
      have malformed : IsMalformed line := ⟨header, found⟩
      refine .malformed { line := position + 1, header := line } ?_ fits blocks ?_
      · rw [markLines, markLine_eq_malformed_iff.2 ⟨malformed, rfl⟩]
      · rintro ⟨range, readable⟩
        exact Option.some_ne_none range (readable.symm.trans found)
    | some range =>
      exact .opens _ _ (markLines_cons_of (markLine_of_header found)) fits blocks ⟨range, found⟩
        (fitsFrom_ofStart_iff found rest)
  · have blocks : blocksOf (line :: rest) = blocksOf rest := by
      rw [blocksOf, if_neg header]
    by_cases opens : Text.hasPrefix sectionSign line = true
    · have fits : FitsFrom cursor (line :: rest) :=
        fitsFrom_of_boundary (isBoundaryLine_of_section opens) rest
      exact .goesOn _ _ (markLines_cons_of (markLine_of_section opens))
        (iff_of_true fits (fitsFrom_none rest)) blocks
    · have inside : isBoundaryLine line = false :=
        Bool.or_eq_false_iff.2 ⟨Bool.eq_false_iff.2 header, Bool.eq_false_iff.2 opens⟩
      cases cursor with
      | none =>
        exact .goesOn _ _ (markLines_cons_of (markLine_of_idle inside))
          (iff_of_true (fitsFrom_none _) (fitsFrom_none rest)) blocks
      | some c =>
        cases moves : c.advance? line with
        | none =>
          refine .stuck ?_ (not_fitsFrom_of_stuck inside moves rest)
          rw [markLines, markLine_of_stuck inside moves]
        | some behind =>
          exact .goesOn _ _ (markLines_cons_of (markLine_of_inside inside moves))
            (fitsFrom_of_inside inside moves rest) blocks

/-- **The scan goes through exactly where it can go through every block.** -/
theorem exists_markLines_iff :
    (∃ marks, markLines position cursor ls = .ok marks) ↔
      FitsFrom cursor ls ∧ ∀ b ∈ blocksOf ls, b.Accepted := by
  induction ls generalizing position cursor with
  | nil => exact iff_of_true ⟨[], rfl⟩ ⟨fun _ _ => rfl, List.forall_mem_nil _⟩
  | cons line rest ih =>
    cases scanStep position cursor line rest with
    | malformed e halted fits blocks unreadable =>
      rw [halted, blocks, List.forall_mem_cons]
      refine iff_of_false ?_ fun accepted => unreadable accepted.2.1.readable
      rintro ⟨marks, scanned⟩
      cases scanned
    | opens mark opened scanned fits blocks readable fits_block =>
      rw [scanned, exists_map_eq_ok_iff, ih, fits_block, blocks, List.forall_mem_cons,
        and_iff_right fits]
      exact and_congr_left' ⟨fun fits => ⟨readable, fits⟩, Block.Accepted.fits⟩
    | stuck halted unfit =>
      rw [halted]
      refine iff_of_false ?_ fun accepted => unfit accepted.1
      rintro ⟨marks, scanned⟩
      cases scanned
    | goesOn mark next scanned fits blocks =>
      rw [scanned, exists_map_eq_ok_iff, ih, fits, blocks]

/-- The scan stops at a line that begins like a header and is none, if it goes through the lines
before. -/
theorem markLines_eq_malformed_iff {e : MalformedHeader} :
    markLines position cursor ls = .error (.malformed e) ↔
      ∃ before header after, ls = before ++ header :: after ∧
        (∃ marks, markLines position cursor before = .ok marks) ∧ IsMalformed header ∧
        e = { line := position + before.length + 1, header } := by
  induction ls generalizing position cursor with
  | nil =>
    refine iff_of_false nofun ?_
    rintro ⟨before, header, after, split, -⟩
    exact absurd split.symm (List.append_ne_nil_of_right_ne_nil before (List.cons_ne_nil header after))
  | cons line rest ih =>
    cases step : markLine position cursor line with
    | error halt =>
      have stopped (below : List String) : markLines position cursor (line :: below) = .error halt := by
        rw [markLines, step]
      have here : (Except.error halt : Except Halt (List Mark)) = .error (.malformed e) ↔
          IsMalformed line ∧ e = { line := position + 1, header := line } := by
        rw [← @markLine_eq_malformed_iff position cursor line, step, Except.error.injEq,
          Except.error.injEq]
      rw [stopped, here]
      constructor
      · rintro ⟨malformed, rfl⟩
        exact ⟨[], line, rest, rfl, ⟨[], rfl⟩, malformed, rfl⟩
      · rintro ⟨before, header, after, split, ⟨marks, scanned⟩, malformed, rfl⟩
        cases before with
        | nil =>
          cases split
          exact ⟨malformed, rfl⟩
        | cons first before =>
          cases split
          rw [stopped] at scanned
          cases scanned
    | ok found =>
      obtain ⟨mark, next⟩ := found
      rw [markLines_cons_of step, map_eq_error_iff, ih]
      constructor
      · rintro ⟨before, header, after, rfl, scanned, malformed, rfl⟩
        refine ⟨line :: before, header, after, rfl, ?_, malformed, ?_⟩
        · rw [markLines_cons_of step, exists_map_eq_ok_iff]
          exact scanned
        · rw [List.length_cons, Nat.add_right_comm position 1, Nat.add_assoc position]
      · rintro ⟨before, header, after, split, scanned, malformed, rfl⟩
        cases before with
        | nil =>
          cases split
          exact absurd malformed (not_malformed_of_marked step)
        | cons first before =>
          cases split
          rw [markLines_cons_of step, exists_map_eq_ok_iff] at scanned
          refine ⟨before, header, after, rfl, scanned, malformed, ?_⟩
          rw [List.length_cons, Nat.add_right_comm position 1]
          rfl

/-- The first block that the scan cannot go through has a header, and its numbers do not fit. -/
def Overflows : List Block → Prop
  | [] => False
  | b :: rest => b.Readable ∧ (¬ b.Fits ∨ Overflows rest)

theorem overflows_iff {blocks : List Block} :
    Overflows blocks ↔ ∃ above b below, blocks = above ++ b :: below ∧
      (∀ a ∈ above, a.Readable) ∧ b.Readable ∧ ¬ b.Fits := by
  induction blocks with
  | nil =>
    refine iff_of_false id ?_
    rintro ⟨above, b, below, split, -⟩
    exact absurd split.symm (List.append_ne_nil_of_right_ne_nil above (List.cons_ne_nil b below))
  | cons first rest ih =>
    rw [Overflows, ih]
    constructor
    · rintro ⟨readable, beyond | ⟨above, b, below, rfl, all_readable, beyond⟩⟩
      · exact ⟨[], first, rest, rfl, List.forall_mem_nil _, readable, beyond⟩
      · exact ⟨first :: above, b, below, rfl, List.forall_mem_cons.2 ⟨readable, all_readable⟩, beyond⟩
    · rintro ⟨above, b, below, split, all_readable, readable, beyond⟩
      cases above with
      | nil =>
        cases split
        exact ⟨readable, .inl beyond⟩
      | cons a above =>
        cases split
        obtain ⟨first_readable, others⟩ := List.forall_mem_cons.1 all_readable
        exact ⟨first_readable, .inr ⟨above, b, below, rfl, others, readable, beyond⟩⟩

theorem markLines_eq_overflow_iff :
    markLines position cursor ls = .error .overflow ↔
      ¬ FitsFrom cursor ls ∨ Overflows (blocksOf ls) := by
  induction ls generalizing position cursor with
  | nil =>
    refine iff_of_false (fun same => by cases same) ?_
    exact fun beyond => beyond.elim (fun open_over => open_over fun _ _ => rfl) id
  | cons line rest ih =>
    cases scanStep position cursor line rest with
    | malformed e halted fits blocks unreadable =>
      rw [halted, blocks, Overflows, or_iff_right (not_not_intro fits)]
      exact iff_of_false (fun same => by cases same) fun beyond => unreadable beyond.1
    | opens mark opened scanned fits blocks readable fits_block =>
      rw [scanned, map_eq_error_iff, ih, fits_block, blocks, Overflows,
        or_iff_right (not_not_intro fits), and_iff_right readable]
    | stuck halted unfit => exact iff_of_true halted (.inl unfit)
    | goesOn mark next scanned fits blocks =>
      rw [scanned, map_eq_error_iff, ih, fits, blocks]

/-! ## The diff -/

theorem exists_parse_iff {diff : String} :
    (∃ file, FileDiff.parse diff = .ok file) ↔ ∀ b ∈ blocksOf (Text.lines diff), b.Accepted := by
  rw [FileDiff.parse, exists_map_eq_ok_iff, exists_markLines_iff]
  exact and_iff_right (fitsFrom_none _)

/-- **A diff is read exactly where the scan can go through every block, and then as its blocks say.** -/
theorem parse_eq_ok_iff_blocks {diff : String} {file : FileDiff} :
    FileDiff.parse diff = .ok file ↔
      (∀ b ∈ blocksOf (Text.lines diff), b.Accepted) ∧
        file = .ofBlocks (blocksOf (Text.lines diff)) := by
  constructor
  · intro accepted
    obtain ⟨marks, scanned, rfl⟩ := parse_eq_ok_iff.1 accepted
    exact ⟨exists_parse_iff.1 ⟨_, accepted⟩, ofMarks_markLines scanned⟩
  · rintro ⟨accepted, rfl⟩
    obtain ⟨file, read⟩ := exists_parse_iff.2 accepted
    obtain ⟨marks, scanned, rfl⟩ := parse_eq_ok_iff.1 read
    rw [read, ofMarks_markLines scanned]

theorem parse_eq_malformed_iff {diff : String} {e : MalformedHeader} :
    FileDiff.parse diff = .error (.malformed e) ↔
      ∃ before header after, Text.lines diff = before ++ header :: after ∧
        (∀ b ∈ blocksOf before, b.Accepted) ∧ IsMalformed header ∧
        e = { line := before.length + 1, header } := by
  simp only [FileDiff.parse, map_eq_error_iff, markLines_eq_malformed_iff, exists_markLines_iff,
    fitsFrom_none, true_and, Nat.zero_add]

theorem parse_eq_overflow_iff {diff : String} :
    FileDiff.parse diff = .error .overflow ↔ Overflows (blocksOf (Text.lines diff)) := by
  rw [FileDiff.parse, map_eq_error_iff, markLines_eq_overflow_iff]
  exact or_iff_right (not_not_intro (fitsFrom_none _))

/-! ## Numbers that fit -/

/-- Counting on from a number does not wrap around below the size of a word. -/
theorem toNat_add_ofNat {number : LineNumber} {count : Nat}
    (bounded : number.toNat + count < UInt32.size) :
    (number + .ofNat count).toNat = number.toNat + count := by
  have small : count < UInt32.size := by omega
  rw [UInt32.toNat_add, UInt32.toNat_ofNat_of_lt' small, Nat.mod_eq_of_lt bounded]

namespace Cursor

variable {c behind : Cursor} {body : List String}

theorem advance?_of_remark (slash : Text.hasPrefix "\\" line = true) : c.advance? line = some c := by
  simp [advance?_eq_some_iff, isNewLine, slash]

/-- Going behind a line of the content counts it, and counts it as a line of the new file if it is
one. -/
theorem advance?_of_content (shown : ¬ Text.hasPrefix "\\" line = true) {next : Cursor}
    (moves : c.advance? line = some next) :
    c.start.toNat + (c.length + 1) % UInt32.size < UInt32.size ∧ next.start = c.start ∧
      next.length = c.length + 1 ∧
      next.number.toNat = c.number.toNat + if !Text.hasPrefix "-" line then 1 else 0 := by
  obtain ⟨counts, grows, rfl⟩ := advance?_eq_some_iff.1 moves
  have no_remark := Bool.eq_false_iff.2 shown
  rw [isNewLine, no_remark, Bool.not_false, Bool.and_true] at counts ⊢
  refine ⟨grows no_remark, rfl, rfl, ?_⟩
  dsimp only
  split
  · next new_line => exact toNat_add_ofNat (counts new_line)
  · rfl

/-- Where the end of a hunk is a line number, the scan goes through the hunk: its cursor is never ahead
of that end. -/
theorem isSome_behind? (ahead : c.number.toNat ≤ c.start.toNat + c.length)
    (bounded : c.start.toNat + c.length + (contentOf body).length < UInt32.size) :
    (c.behind? body).isSome = true := by
  induction body generalizing c with
  | nil => rfl
  | cons line rest ih =>
    rw [contentOf_cons] at bounded
    by_cases slash : Text.hasPrefix "\\" line = true
    · rw [if_pos slash] at bounded
      rw [behind?, advance?_of_remark slash]
      exact ih ahead bounded
    · rw [if_neg slash, List.length_cons] at bounded
      have word : (c.length + 1) % UInt32.size = c.length + 1 := Nat.mod_eq_of_lt (by omega)
      have moves : c.advance? line = some _ :=
        advance?_eq_some_iff.2 ⟨fun _ => by omega, fun _ => by omega, rfl⟩
      obtain ⟨-, start, length, number⟩ := advance?_of_content slash moves
      rw [behind?, moves]
      refine ih ?_ ?_
      · rw [start, length, number]
        split <;> omega
      · rw [start, length]
        omega

/-- Behind the lines of a hunk the cursor has counted every line that the new file has. -/
theorem number_behind (moves : c.behind? body = some behind) :
    behind.number.toNat =
      c.number.toNat + (contentOf body).countP fun line => !Text.hasPrefix "-" line := by
  induction body generalizing c with
  | nil =>
    cases moves
    rfl
  | cons line rest ih =>
    obtain ⟨next, first, others⟩ := Option.bind_eq_some_iff.1 moves
    rw [ih others, contentOf_cons]
    by_cases slash : Text.hasPrefix "\\" line = true
    · rw [advance?_of_remark slash] at first
      cases first
      rw [if_pos slash]
    · rw [if_neg slash, List.countP_cons, (advance?_of_content slash first).2.2.2,
        Nat.add_right_comm, Nat.add_assoc]

end Cursor

namespace Block

variable {b : Block}

/-- A hunk whose end is a line number fits. -/
theorem fits_of_lt (bounded : b.start.toNat + (contentOf b.body).length < UInt32.size) : b.Fits :=
  Cursor.isSome_behind? (Nat.le_refl _) bounded

/-- The number behind the last line of the new file is a line number. -/
theorem Fits.count_lt (fits : b.Fits) :
    b.start.toNat + ((contentOf b.body).countP fun line => !Text.hasPrefix "-" line) < UInt32.size := by
  obtain ⟨behind, moves⟩ := Option.isSome_iff_exists.1 fits
  have counted := Cursor.number_behind moves
  rw [Cursor.ofStart] at counted
  rw [← counted]
  exact behind.number.toNat_lt

end Block

end TestImpact.Diff
