import TestImpact.Proofs.ScanEnd

/-! Unified diffs as data: lines in front of the hunks, and hunks whose lines know their kind. The
scan of the written diff records every added and every deleted line under the number of the new line
that comes next, where the header names the first line of the hunk. It goes through the whole diff
where all hunks end at line numbers. -/

namespace TestImpact.Diff

inductive HunkLine where
  | kept (text : String)
  | removed (text : String)
  | inserted (text : String)
  | remark (text : String)
  deriving DecidableEq

namespace HunkLine

def written : HunkLine → String
  | kept text => " " ++ text
  | removed text => "-" ++ text
  | inserted text => "+" ++ text
  | remark text => "\\" ++ text

def old? : HunkLine → Option String
  | kept text | removed text => some text
  | inserted _ | remark _ => none

def new? : HunkLine → Option String
  | kept text | inserted text => some text
  | removed _ | remark _ => none

def mark (line : HunkLine) (number : LineNumber) : Mark :=
  match line with
  | kept _ => .kept number line.written
  | removed _ => .removed number line.written
  | inserted _ => .inserted number line.written
  | remark _ => .ignored

def newCount (lines : List HunkLine) : Nat :=
  (lines.filterMap new?).length

theorem newCount_cons (line : HunkLine) (lines : List HunkLine) :
    newCount (line :: lines) = newCount [line] + newCount lines := by
  rw [newCount, ← List.singleton_append, List.filterMap_append, List.length_append]
  rfl

/-- Every line with the number of new lines before it. -/
def placed (before : Nat) : List HunkLine → List (HunkLine × Nat)
  | [] => []
  | line :: rest => (line, before) :: placed (before + newCount [line]) rest

theorem placed_add (number k : Nat) (lines : List HunkLine) :
    placed (number + k) lines = (placed number lines).map fun (line, n) => (line, n + k) := by
  induction lines generalizing number with
  | nil => rfl
  | cons line lines ih => simp only [placed, List.map_cons, Nat.add_right_comm number k, ih]

def isInserted : HunkLine → Bool
  | inserted _ => true
  | _ => false

def isRemoved : HunkLine → Bool
  | removed _ => true
  | _ => false

def isRemark : HunkLine → Bool
  | remark _ => true
  | _ => false

/-- How many lines are lines of a file, the old or the new one. -/
def contentCount (lines : List HunkLine) : Nat :=
  lines.countP fun line => !line.isRemark

theorem contentCount_cons (line : HunkLine) (lines : List HunkLine) :
    contentCount (line :: lines) = contentCount [line] + contentCount lines :=
  @List.countP_append _ _ [line] lines

theorem contentCount_le (lines : List HunkLine) :
    contentCount lines ≤ (lines.filterMap old?).length + (lines.filterMap new?).length := by
  induction lines with
  | nil => exact Nat.le_refl 0
  | cons line lines ih =>
    rw [contentCount_cons]
    cases line with
    | kept text =>
      show 1 + _ ≤ (lines.filterMap old?).length + 1 + ((lines.filterMap new?).length + 1)
      omega
    | removed text =>
      show 1 + _ ≤ (lines.filterMap old?).length + 1 + (lines.filterMap new?).length
      omega
    | inserted text =>
      show 1 + _ ≤ (lines.filterMap old?).length + ((lines.filterMap new?).length + 1)
      omega
    | remark text => exact (Nat.zero_add _).symm ▸ ih

/-- The numbers of the inserted lines, where the first new line has the given one. -/
def insertedFrom (number : Nat) (lines : List HunkLine) : List Nat :=
  ((placed number lines).filter fun (line, _) => line.isInserted).map Prod.snd

/-- For every deleted line the number of the new line that comes next. -/
def removedFrom (number : Nat) (lines : List HunkLine) : List Nat :=
  ((placed number lines).filter fun (line, _) => line.isRemoved).map Prod.snd

theorem insertedFrom_cons (number : Nat) (line : HunkLine) (lines : List HunkLine) :
    insertedFrom number (line :: lines) =
      (if line.isInserted then [number] else []) ++ insertedFrom (number + newCount [line]) lines := by
  cases line <;> rfl

theorem removedFrom_add (number k : Nat) (lines : List HunkLine) :
    removedFrom (number + k) lines = (removedFrom number lines).map (· + k) := by
  simp [removedFrom, placed_add, List.filter_map, Function.comp_def]

/-- Where nothing is new, nothing is inserted. -/
theorem insertedFrom_eq_nil {lines : List HunkLine} (h : lines.filterMap new? = []) (number : Nat) :
    insertedFrom number lines = [] := by
  induction lines generalizing number with
  | nil => rfl
  | cons line lines ih =>
    cases line with
    | kept text => simp [new?] at h
    | inserted text => simp [new?] at h
    | removed text => exact ih (by simpa [new?] using h) _
    | remark text => exact ih (by simpa [new?] using h) _

/-- A part of the scan that picks lines of one kind picks their numbers. -/
theorem filterMap_placed {pick : Mark → Option LineNumber} {wanted : HunkLine → Bool}
    (picks : ∀ line n, pick (line.mark n) = if wanted line then some n else none) (number : Nat)
    (lines : List HunkLine) :
    ((placed number lines).map fun (line, n) => line.mark (.ofNat n)).filterMap pick =
      (((placed number lines).filter fun (line, _) => wanted line).map Prod.snd).map .ofNat := by
  induction lines generalizing number with
  | nil => rfl
  | cons line lines ih =>
    simp only [placed, List.map_cons, List.filterMap_cons, List.filter_cons, picks]
    split
    · next other =>
      have unwanted : ¬ wanted line = true := by simpa using other
      rw [if_neg unwanted]
      exact ih _
    · next n one =>
      have chosen : wanted line = true ∧ UInt32.ofNat number = n := by simpa using one
      rw [if_pos chosen.1, ← chosen.2]
      exact congrArg (_ :: ·) (ih _)

theorem insertedNumbers_placed (number : Nat) (lines : List HunkLine) :
    insertedNumbers ((placed number lines).map fun (line, n) => line.mark (.ofNat n)) =
      (insertedFrom number lines).map .ofNat :=
  filterMap_placed (fun line _ => by cases line <;> rfl) number lines

theorem removedNumbers_placed (number : Nat) (lines : List HunkLine) :
    removedNumbers ((placed number lines).map fun (line, n) => line.mark (.ofNat n)) =
      (removedFrom number lines).map .ofNat :=
  filterMap_placed (fun line _ => by cases line <;> rfl) number lines

theorem hasPrefix_sign {word sign : String} {c d : Char} {s t : List Char}
    (hw : word.toList = c :: s) (hs : sign.toList = d :: t) (h : c ≠ d) (text : String) :
    Text.hasPrefix word (sign ++ text) = false :=
  Text.hasPrefix_eq_false_of_sign hw hs h (Text.hasPrefix_append sign text)

/-- A line with its sign begins neither a hunk nor a section. -/
theorem written_no_boundary (line : HunkLine) :
    Text.hasPrefix headerSign line.written = false ∧
      Text.hasPrefix sectionSign line.written = false := by
  cases line with
  | kept text => exact ⟨hasPrefix_sign rfl rfl (by decide) text, hasPrefix_sign rfl rfl (by decide) text⟩
  | removed text =>
    exact ⟨hasPrefix_sign rfl rfl (by decide) text, hasPrefix_sign rfl rfl (by decide) text⟩
  | inserted text =>
    exact ⟨hasPrefix_sign rfl rfl (by decide) text, hasPrefix_sign rfl rfl (by decide) text⟩
  | remark text =>
    exact ⟨hasPrefix_sign rfl rfl (by decide) text, hasPrefix_sign rfl rfl (by decide) text⟩

theorem inside_written (line : HunkLine) : isBoundaryLine line.written = false :=
  Bool.or_eq_false_iff.2 line.written_no_boundary

/-- A written line begins with the sign of its kind. -/
theorem signs_written (line : HunkLine) :
    Text.hasPrefix "+" line.written = line.isInserted ∧
      Text.hasPrefix "-" line.written = line.isRemoved ∧
      Text.hasPrefix "\\" line.written = line.isRemark := by
  cases line with
  | kept text =>
    exact ⟨hasPrefix_sign rfl rfl (by decide) text, hasPrefix_sign rfl rfl (by decide) text,
      hasPrefix_sign rfl rfl (by decide) text⟩
  | removed text =>
    exact ⟨hasPrefix_sign rfl rfl (by decide) text, Text.hasPrefix_append ..,
      hasPrefix_sign rfl rfl (by decide) text⟩
  | inserted text =>
    exact ⟨Text.hasPrefix_append .., hasPrefix_sign rfl rfl (by decide) text,
      hasPrefix_sign rfl rfl (by decide) text⟩
  | remark text =>
    exact ⟨hasPrefix_sign rfl rfl (by decide) text, hasPrefix_sign rfl rfl (by decide) text,
      Text.hasPrefix_append ..⟩

/-- Inside a hunk the scan reads back the kind of every line. -/
theorem ofLine_written (line : HunkLine) (number : LineNumber) :
    Mark.ofLine number line.written = line.mark number := by
  obtain ⟨plus, minus, slash⟩ := line.signs_written
  rw [Mark.ofLine, plus, minus, slash]
  cases line <;> rfl

/-- The scan counts the new lines. -/
theorem number_advance {line : HunkLine} {c behind : Cursor} {number : Nat}
    (moves : c.advance? line.written = some behind) (stands : c.number = .ofNat number) :
    behind.number = .ofNat (number + newCount [line]) := by
  obtain ⟨-, minus, slash⟩ := line.signs_written
  have one : (UInt32.ofNat number : LineNumber) + 1 = .ofNat (number + 1) := (UInt32.ofNat_add ..).symm
  rw [Cursor.number_advance moves, isNewLine, minus, slash, stands, one]
  cases line <;> rfl

theorem length_contentOf (lines : List HunkLine) :
    (contentOf (lines.map written)).length = contentCount lines := by
  induction lines with
  | nil => rfl
  | cons line lines ih =>
    obtain ⟨-, -, slash⟩ := line.signs_written
    rw [List.map_cons, contentOf_cons, slash, contentCount_cons, ← ih]
    cases line with
    | remark text => exact (Nat.zero_add _).symm
    | kept text => exact Nat.add_comm ..
    | removed text => exact Nat.add_comm ..
    | inserted text => exact Nat.add_comm ..

end HunkLine

/-! ## Hunks -/

/-- A hunk with the number of lines that the new file has before it. -/
structure PlacedHunk where
  before : Nat
  header : String
  lines : List HunkLine
  deriving DecidableEq

namespace PlacedHunk

def oldLines (h : PlacedHunk) : List String :=
  h.lines.filterMap HunkLine.old?

def newLines (h : PlacedHunk) : List String :=
  h.lines.filterMap HunkLine.new?

/-- What a header adds to the number of the line before the hunk. A hunk without new lines is named
by that line itself. -/
def lead (h : PlacedHunk) : Nat :=
  if h.newLines = [] then 0 else 1

def start (h : PlacedHunk) : Nat :=
  h.before + h.lead

def Headed (h : PlacedHunk) : Prop :=
  ∃ range, NewRange.ofHeader? h.header = some range ∧ range.start.toNat = h.start

def written (h : PlacedHunk) : List String :=
  h.header :: h.lines.map HunkLine.written

/-- The numbers of the inserted lines in the new file. -/
def insertedNumbers (h : PlacedHunk) : List Nat :=
  HunkLine.insertedFrom (h.before + 1) h.lines

/-- For every deleted line how many lines the new file has before it. -/
def removedPlaces (h : PlacedHunk) : List Nat :=
  HunkLine.removedFrom h.before h.lines

/-- The number that the scan records for a deleted line: that of the line it stands before, or of
the line it stands behind where the hunk has no new line. -/
def recorded (h : PlacedHunk) (place : Nat) : LineNumber :=
  .ofNat (place + h.lead)

/-- What the scan says of the lines of the hunk. -/
def marks (h : PlacedHunk) : List Mark :=
  .opens (.ofNat h.start) ::
    (HunkLine.placed h.start h.lines).map fun (line, number) => line.mark (.ofNat number)

theorem insertedFrom_start (h : PlacedHunk) :
    HunkLine.insertedFrom h.start h.lines = h.insertedNumbers := by
  unfold insertedNumbers start lead
  split
  · next none_new => rw [HunkLine.insertedFrom_eq_nil none_new, HunkLine.insertedFrom_eq_nil none_new]
  · rfl

theorem insertedNumbers_marks (h : PlacedHunk) :
    Diff.insertedNumbers h.marks = h.insertedNumbers.map .ofNat := by
  rw [← insertedFrom_start]
  exact HunkLine.insertedNumbers_placed h.start h.lines

theorem removedNumbers_marks (h : PlacedHunk) :
    removedNumbers h.marks = h.removedPlaces.map h.recorded := by
  have read : removedNumbers h.marks = (HunkLine.removedFrom h.start h.lines).map .ofNat :=
    HunkLine.removedNumbers_placed h.start h.lines
  rw [read, start, HunkLine.removedFrom_add, List.map_map]
  rfl

end PlacedHunk

theorem marks_of_hunkLines {lines : List HunkLine} {position number : Nat} {c : Cursor}
    {rest : List String} {marks : List Mark} (stands : c.number = .ofNat number)
    (scanned : markLines position (some c) (lines.map HunkLine.written ++ rest) = .ok marks) :
    ∃ position cursor below, markLines position cursor rest = .ok below ∧
      marks = ((HunkLine.placed number lines).map fun (line, n) => line.mark (.ofNat n)) ++ below := by
  induction lines generalizing position number c marks with
  | nil => exact ⟨position, some c, marks, scanned, rfl⟩
  | cons line lines ih =>
    obtain ⟨mark, next, marks, step, rest_scanned, rfl⟩ := markLines_cons_eq_ok scanned
    have inside := line.inside_written
    rcases markLine_cases step with ⟨header, -⟩ | ⟨-, opens, -⟩ | ⟨-, idle, -⟩ |
      ⟨-, _, behind, same, moves, rfl, rfl⟩
    · exact absurd header (not_header_of_inside inside)
    · exact absurd (isBoundaryLine_of_section opens) (ne_true_of_eq_false inside)
    · cases idle
    · cases same
      obtain ⟨position, cursor, below, read, rfl⟩ :=
        ih (HunkLine.number_advance moves stands) rest_scanned
      refine ⟨position, cursor, below, read, ?_⟩
      rw [HunkLine.ofLine_written, stands]
      rfl

/-- A hunk under a header that gives its start. -/
theorem marks_of_hunk {h : PlacedHunk} (headed : h.Headed) {position : Nat} {cursor : Option Cursor}
    {rest : List String} {marks : List Mark}
    (scanned : markLines position cursor (h.written ++ rest) = .ok marks) :
    ∃ position cursor below, markLines position cursor rest = .ok below ∧ marks = h.marks ++ below := by
  obtain ⟨range, found, given⟩ := headed
  have start : range.start = .ofNat h.start := by rw [← given, UInt32.ofNat_toNat]
  obtain ⟨mark, next, marks, step, rest_scanned, rfl⟩ := markLines_cons_eq_ok scanned
  rw [markLine_of_header found] at step
  cases step
  obtain ⟨position, cursor, below, read, rfl⟩ := marks_of_hunkLines start rest_scanned
  refine ⟨position, cursor, below, read, ?_⟩
  rw [start]
  rfl

namespace PlacedHunk

/-- The block that the written hunk is. -/
def block (h : PlacedHunk) : Block where
  header := h.header
  body := h.lines.map HunkLine.written

/-- The scan goes through a hunk that ends at a line number. -/
theorem accepted_block {h : PlacedHunk} (headed : h.Headed)
    (short : h.start + HunkLine.contentCount h.lines < UInt32.size) : h.block.Accepted := by
  obtain ⟨range, found, given⟩ := headed
  refine ⟨⟨range, found⟩, Block.fits_of_lt ?_⟩
  rw [block, Block.start_of_found found, given, HunkLine.length_contentOf]
  exact short

theorem linesInside_written (lines : List HunkLine) {rest : List String}
    (closed : linesInside rest = []) :
    linesInside (lines.map HunkLine.written ++ rest) = lines.map HunkLine.written := by
  induction lines with
  | nil => exact closed
  | cons line lines ih =>
    rw [List.map_cons, List.cons_append, linesInside_of_inside line.inside_written, ih]

theorem blocksOf_written {hunks : List PlacedHunk} (headed : ∀ h ∈ hunks, h.Headed) :
    linesInside (hunks.flatMap written) = [] ∧ blocksOf (hunks.flatMap written) = hunks.map block := by
  induction hunks with
  | nil => exact ⟨rfl, rfl⟩
  | cons h hunks ih =>
    obtain ⟨first, others⟩ := List.forall_mem_cons.1 headed
    obtain ⟨range, found, -⟩ := first
    obtain ⟨closed, blocks⟩ := ih others
    have header := hasPrefix_of_ofHeader? found
    have plain : ∀ line ∈ h.lines.map HunkLine.written, ¬ Text.hasPrefix headerSign line = true :=
      List.forall_mem_map.2 fun line _ => not_header_of_inside line.inside_written
    rw [List.flatMap_cons, written, List.cons_append, blocksOf, if_pos header,
      linesInside_written h.lines closed, blocksOf_plain_append plain, blocks]
    exact ⟨linesInside_of_boundary (isBoundaryLine_of_header header) _, rfl⟩

end PlacedHunk

/-- A diff of one file: the lines in front of its hunks, and the hunks. -/
structure UnifiedDiff where
  preamble : List String
  hunks : List PlacedHunk
  deriving DecidableEq

namespace UnifiedDiff

def lines (u : UnifiedDiff) : List String :=
  u.preamble ++ u.hunks.flatMap PlacedHunk.written

/-- No line in front of the hunks looks like a header, and every header gives the start of its
hunk. -/
structure WellFormed (u : UnifiedDiff) : Prop where
  preamble : ∀ line ∈ u.preamble, Text.hasPrefix headerSign line = false
  headed : ∀ h ∈ u.hunks, h.Headed

/-- What the scan says of the lines of the diff. -/
def marks (u : UnifiedDiff) : List Mark :=
  (u.preamble.map fun line => if Text.hasPrefix sectionSign line then .closes else .ignored) ++
    u.hunks.flatMap PlacedHunk.marks

theorem marks_of_hunks {hunks : List PlacedHunk} (headed : ∀ h ∈ hunks, h.Headed) {position : Nat}
    {cursor : Option Cursor} {marks : List Mark}
    (scanned : markLines position cursor (hunks.flatMap PlacedHunk.written) = .ok marks) :
    marks = hunks.flatMap PlacedHunk.marks := by
  induction hunks generalizing position cursor marks with
  | nil =>
    cases scanned
    rfl
  | cons h hunks ih =>
    obtain ⟨first, others⟩ := List.forall_mem_cons.1 headed
    rw [List.flatMap_cons] at scanned ⊢
    obtain ⟨position, cursor, below, rest_scanned, rfl⟩ := marks_of_hunk first scanned
    rw [ih others rest_scanned]

/-- **A scan that goes through a well-formed diff reads its hunks.** -/
theorem marks_of_lines {u : UnifiedDiff} (h : u.WellFormed) {position : Nat} {marks : List Mark}
    (scanned : markLines position none u.lines = .ok marks) : marks = u.marks := by
  obtain ⟨preamble, hunks⟩ := u
  obtain ⟨clear, headed⟩ := h
  unfold lines at scanned
  unfold UnifiedDiff.marks
  induction preamble generalizing position marks with
  | nil => exact marks_of_hunks headed scanned
  | cons line preamble ih =>
    obtain ⟨first, others⟩ := List.forall_mem_cons.1 clear
    obtain ⟨mark, next, marks, step, rest_scanned, rfl⟩ := markLines_cons_eq_ok scanned
    rw [List.map_cons, List.cons_append]
    rcases markLine_cases step with ⟨header, -⟩ | ⟨-, opens, rfl, rfl⟩ | ⟨inside, -, rfl, rfl⟩ |
      ⟨-, _, _, idle, -⟩
    · rw [first] at header
      cases header
    · rw [ih rest_scanned others headed, if_pos opens]
    · rw [ih rest_scanned others headed, if_neg (ne_true_of_eq_false (Bool.or_eq_false_iff.1 inside).2)]
    · cases idle

/-- **The scan goes through a well-formed diff whose hunks end at line numbers, and reads them.** -/
theorem markLines_lines {u : UnifiedDiff} (h : u.WellFormed)
    (short : ∀ h ∈ u.hunks, h.start + HunkLine.contentCount h.lines < UInt32.size) (position : Nat) :
    markLines position none u.lines = .ok u.marks := by
  have plain : ∀ line ∈ u.preamble, ¬ Text.hasPrefix headerSign line = true :=
    fun line member => ne_true_of_eq_false (h.preamble line member)
  have blocks : blocksOf u.lines = u.hunks.map PlacedHunk.block := by
    rw [lines, blocksOf_plain_append plain, (PlacedHunk.blocksOf_written h.headed).2]
  obtain ⟨marks, scanned⟩ : ∃ marks, markLines position none u.lines = .ok marks := by
    rw [exists_markLines_iff, blocks]
    refine ⟨fitsFrom_none _, List.forall_mem_map.2 fun g member => ?_⟩
    exact PlacedHunk.accepted_block (h.headed g member) (short g member)
  rw [scanned, marks_of_lines h scanned]

theorem filterMap_marks {β : Type} (f : Mark → Option β) (closes : f .closes = none)
    (ignored : f .ignored = none) (u : UnifiedDiff) :
    u.marks.filterMap f = u.hunks.flatMap fun h => h.marks.filterMap f := by
  have front : (u.preamble.map fun line =>
      if Text.hasPrefix sectionSign line then Mark.closes else .ignored).filterMap f = [] := by
    rw [List.filterMap_map, List.filterMap_eq_nil_iff]
    intro line _
    simp only [Function.comp_apply]
    split
    · exact closes
    · exact ignored
  rw [marks, List.filterMap_append, front, List.nil_append, List.filterMap_flatMap]

theorem insertedNumbers_marks (u : UnifiedDiff) :
    insertedNumbers u.marks = u.hunks.flatMap fun h => h.insertedNumbers.map .ofNat := by
  rw [insertedNumbers, filterMap_marks _ rfl rfl]
  simp only [← PlacedHunk.insertedNumbers_marks]
  rfl

theorem removedNumbers_marks (u : UnifiedDiff) :
    removedNumbers u.marks =
      u.hunks.flatMap fun h => h.removedPlaces.map h.recorded := by
  rw [removedNumbers, filterMap_marks _ rfl rfl]
  simp only [← PlacedHunk.removedNumbers_marks]
  rfl

theorem mem_insertedNumbers_marks {u : UnifiedDiff} {n : LineNumber} :
    n ∈ insertedNumbers u.marks ↔ ∃ h ∈ u.hunks, ∃ k ∈ h.insertedNumbers, .ofNat k = n := by
  simp only [insertedNumbers_marks, List.mem_flatMap, List.mem_map]

theorem mem_removedNumbers_marks {u : UnifiedDiff} {n : LineNumber} :
    n ∈ removedNumbers u.marks ↔ ∃ h ∈ u.hunks, ∃ place ∈ h.removedPlaces, h.recorded place = n := by
  simp only [removedNumbers_marks, List.mem_flatMap, List.mem_map]

/-- A diff without hunks says nothing. -/
theorem ofMarks_marks_of_no_hunk {u : UnifiedDiff} (no_hunk : u.hunks = []) :
    FileDiff.ofMarks u.marks = {} := by
  have inserted : u.marks.filterMap Mark.insertedNumber? = [] := by
    rw [filterMap_marks _ rfl rfl, no_hunk]
    rfl
  have removed : u.marks.filterMap Mark.removedNumber? = [] := by
    rw [filterMap_marks _ rfl rfl, no_hunk]
    rfl
  have hunks : hunksOf u.marks = [] := by
    rw [marks, no_hunk, List.flatMap_nil, List.append_nil]
    induction u.preamble with
    | nil => rfl
    | cons line preamble ih =>
      rw [List.map_cons]
      split
      · exact ih
      · exact ih
  rw [FileDiff.ofMarks, inserted, removed, hunks]
  rfl

end UnifiedDiff

end TestImpact.Diff
