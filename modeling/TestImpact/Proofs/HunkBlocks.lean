import TestImpact.Proofs.Scan

/-! Diffs read by position. The lines of a diff fall into blocks, a header and what stands below it up
to the next header or section, and lines outside of blocks. The scan keeps a cursor from line to
line; here the number of a line is counted from the header of its block, and the two agree. -/

namespace TestImpact.Diff

/-- The lines that belong to a hunk: all but the remarks. -/
def contentOf (body : List String) : List String :=
  body.filter fun line => !Text.hasPrefix "\\" line

/-- The numbers of the lines with the given sign, where the first line has `number`. A deleted line
has the number of the line below it. -/
def signedNumbers (sign : String) (number : LineNumber) : List String → List LineNumber
  | [] => []
  | line :: rest =>
    let below := if Text.hasPrefix "-" line then number else number + 1
    (if Text.hasPrefix sign line then [number] else []) ++ signedNumbers sign below rest

/-- A line that begins like a header, and the lines below it up to the next boundary. -/
structure Block where
  header : String
  body : List String

namespace Block

def start (b : Block) : LineNumber :=
  ((NewRange.ofHeader? b.header).map NewRange.start).getD 0

/-- The block begins with a header. -/
def Readable (b : Block) : Prop :=
  ∃ range, NewRange.ofHeader? b.header = some range

def hunk (b : Block) : Hunk :=
  Hunk.ofContent b.start (contentOf b.body)

def numbers (sign : String) (b : Block) : List LineNumber :=
  signedNumbers sign b.start (contentOf b.body)

theorem start_hunk (b : Block) : b.hunk.start = b.start := rfl

theorem content_hunk (b : Block) : b.hunk.content = contentOf b.body := rfl

theorem stop_hunk (b : Block) : b.hunk.stop = b.start + .ofNat (contentOf b.body).length := rfl

end Block

/-- The lines up to the next boundary. -/
def linesInside (ls : List String) : List String :=
  ls.takeWhile fun line => !isBoundaryLine line

def blocksOf : List String → List Block
  | [] => []
  | line :: rest =>
    if Text.hasPrefix headerSign line then ⟨line, linesInside rest⟩ :: blocksOf rest
    else blocksOf rest

/-- What blocks say of a file. -/
def FileDiff.ofBlocks (blocks : List Block) : FileDiff where
  lines := reconcile (LineSet.ofList (blocks.flatMap (Block.numbers "+")))
    (LineSet.ofList (blocks.flatMap (Block.numbers "-")))
  hunks := blocks.map Block.hunk

/-! ## One line -/

variable {line : String} {c behind : Cursor}

/-- A line inside a hunk has at most one of the three signs, which decides its mark and what is
counted. -/
theorem ofLine_cases (number : LineNumber) (line : String) :
    (Text.hasPrefix "+" line = true ∧ Text.hasPrefix "-" line = false ∧
        Text.hasPrefix "\\" line = false ∧ Mark.ofLine number line = .inserted number line) ∨
      (Text.hasPrefix "+" line = false ∧ Text.hasPrefix "-" line = true ∧
        Text.hasPrefix "\\" line = false ∧ Mark.ofLine number line = .removed number line) ∨
      (Text.hasPrefix "+" line = false ∧ Text.hasPrefix "-" line = false ∧
        Text.hasPrefix "\\" line = true ∧ Mark.ofLine number line = .ignored) ∨
      (Text.hasPrefix "+" line = false ∧ Text.hasPrefix "-" line = false ∧
        Text.hasPrefix "\\" line = false ∧ Mark.ofLine number line = .kept number line) := by
  by_cases plus : Text.hasPrefix "+" line = true
  · have minus : Text.hasPrefix "-" line = false :=
      Text.hasPrefix_eq_false_of_sign rfl rfl (by decide) plus
    have slash : Text.hasPrefix "\\" line = false :=
      Text.hasPrefix_eq_false_of_sign rfl rfl (by decide) plus
    exact .inl ⟨plus, minus, slash, by rw [Mark.ofLine, if_pos plus]⟩
  · have no_plus := Bool.eq_false_iff.2 plus
    by_cases minus : Text.hasPrefix "-" line = true
    · have slash : Text.hasPrefix "\\" line = false :=
        Text.hasPrefix_eq_false_of_sign rfl rfl (by decide) minus
      exact .inr (.inl ⟨no_plus, minus, slash, by rw [Mark.ofLine, if_neg plus, if_pos minus]⟩)
    · have no_minus := Bool.eq_false_iff.2 minus
      by_cases slash : Text.hasPrefix "\\" line = true
      · exact .inr (.inr (.inl ⟨no_plus, no_minus, slash,
          by rw [Mark.ofLine, if_neg plus, if_neg minus, if_pos slash]⟩))
      · exact .inr (.inr (.inr ⟨no_plus, no_minus, Bool.eq_false_iff.2 slash,
          by rw [Mark.ofLine, if_neg plus, if_neg minus, if_neg slash]⟩))

theorem content?_ofLine (number : LineNumber) (line : String) :
    (Mark.ofLine number line).content? = if Text.hasPrefix "\\" line then none else some line := by
  rcases ofLine_cases number line with ⟨-, -, slash, he⟩ | ⟨-, -, slash, he⟩ |
    ⟨-, -, slash, he⟩ | ⟨-, -, slash, he⟩ <;> simp [slash, he, Mark.content?]

theorem insertedNumber?_ofLine (number : LineNumber) (line : String) :
    (Mark.ofLine number line).insertedNumber? =
      if Text.hasPrefix "+" line then some number else none := by
  rcases ofLine_cases number line with ⟨plus, -, -, he⟩ | ⟨plus, -, -, he⟩ |
    ⟨plus, -, -, he⟩ | ⟨plus, -, -, he⟩ <;> simp [plus, he, Mark.insertedNumber?]

theorem removedNumber?_ofLine (number : LineNumber) (line : String) :
    (Mark.ofLine number line).removedNumber? =
      if Text.hasPrefix "-" line then some number else none := by
  rcases ofLine_cases number line with ⟨-, minus, -, he⟩ | ⟨-, minus, -, he⟩ |
    ⟨-, minus, -, he⟩ | ⟨-, minus, -, he⟩ <;> simp [minus, he, Mark.removedNumber?]

theorem isBoundary_ofLine (number : LineNumber) (line : String) :
    (Mark.ofLine number line).isBoundary = false := by
  rcases ofLine_cases number line with ⟨-, -, -, he⟩ | ⟨-, -, -, he⟩ | ⟨-, -, -, he⟩ |
    ⟨-, -, -, he⟩ <;> rw [he] <;> rfl

theorem Cursor.count?_eq_some_iff :
    c.count? = some behind ↔
      c.number.toNat + 1 < UInt32.size ∧ behind = { c with number := c.number + 1 } := by
  simp only [count?, Option.map_eq_some_iff, LineNumber.add?_eq_some_iff]
  constructor
  · rintro ⟨next, ⟨fits, rfl⟩, rfl⟩
    exact ⟨fits, rfl⟩
  · rintro ⟨fits, rfl⟩
    exact ⟨_, ⟨fits, rfl⟩, rfl⟩

theorem Cursor.grow?_eq_some_iff :
    c.grow? = some behind ↔ c.start.toNat + (c.length + 1) % UInt32.size < UInt32.size ∧
      behind = { c with length := c.length + 1 } := by
  simp only [grow?, Option.map_eq_some_iff, LineNumber.add?_eq_some_iff]
  constructor
  · rintro ⟨_, ⟨fits, -⟩, rfl⟩
    exact ⟨fits, rfl⟩
  · rintro ⟨fits, rfl⟩
    exact ⟨_, ⟨fits, rfl⟩, rfl⟩

/-- Whether the new file has a line of a hunk. -/
def isNewLine (line : String) : Bool :=
  !Text.hasPrefix "-" line && !Text.hasPrefix "\\" line

/-- A line moves the cursor by one number where the new file has it, and makes the hunk longer where it
is no remark; both counts have to stay words. -/
theorem Cursor.advance?_eq_some_iff :
    c.advance? line = some behind ↔
      (isNewLine line = true → c.number.toNat + 1 < UInt32.size) ∧
      (Text.hasPrefix "\\" line = false →
        c.start.toNat + (c.length + 1) % UInt32.size < UInt32.size) ∧
      behind =
        { start := c.start
          number := if isNewLine line then c.number + 1 else c.number
          length := if Text.hasPrefix "\\" line then c.length else c.length + 1 } := by
  rw [advance?, isNewLine]
  rcases ofLine_cases c.number line with ⟨-, minus, slash, -⟩ | ⟨-, minus, slash, -⟩ |
    ⟨-, minus, slash, -⟩ | ⟨-, minus, slash, -⟩
  · simp [minus, slash, Option.bind_eq_some_iff, count?_eq_some_iff, grow?_eq_some_iff, and_assoc]
  · simp [minus, slash, grow?_eq_some_iff]
  · simp [minus, slash, eq_comm (a := c)]
  · simp [minus, slash, Option.bind_eq_some_iff, count?_eq_some_iff, grow?_eq_some_iff, and_assoc]

theorem Cursor.number_advance (moves : c.advance? line = some behind) :
    behind.number = if isNewLine line then c.number + 1 else c.number := by
  rw [(advance?_eq_some_iff.1 moves).2.2]

/-- The cursor behind some lines of a hunk, if all numbers stay line numbers. -/
def Cursor.behind? (c : Cursor) : List String → Option Cursor
  | [] => some c
  | line :: rest => (c.advance? line).bind fun next => next.behind? rest

/-- The numbers of a block are line numbers throughout. -/
def Block.Fits (b : Block) : Prop :=
  ((Cursor.ofStart b.start).behind? b.body).isSome = true

/-- A block that the scan goes through. -/
structure Block.Accepted (b : Block) : Prop where
  readable : b.Readable
  fits : b.Fits

/-! ## All lines -/

/-- What stands in front of the first block counts only where a hunk is open. -/
def contentFrom (cursor : Option Cursor) (ls : List String) : List String :=
  if cursor.isSome then contentOf (linesInside ls) else []

def numbersFrom (sign : String) (cursor : Option Cursor) (ls : List String) : List LineNumber :=
  match cursor with
  | none => []
  | some c => signedNumbers sign c.number (contentOf (linesInside ls))

/-- The lines that are left of the hunk that is open keep its numbers line numbers. -/
def FitsFrom (cursor : Option Cursor) (ls : List String) : Prop :=
  ∀ c ∈ cursor, (c.behind? (linesInside ls)).isSome = true

variable {position : Nat} {cursor : Option Cursor} {ls : List String} {marks : List Mark}

theorem linesInside_of_boundary (boundary : isBoundaryLine line = true) (rest : List String) :
    linesInside (line :: rest) = [] :=
  List.takeWhile_cons_of_neg (by simp [boundary])

theorem linesInside_of_inside (inside : isBoundaryLine line = false) (rest : List String) :
    linesInside (line :: rest) = line :: linesInside rest :=
  List.takeWhile_cons_of_pos (by simp [inside])

theorem contentOf_cons (line : String) (rest : List String) :
    contentOf (line :: rest) =
      if Text.hasPrefix "\\" line then contentOf rest else line :: contentOf rest := by
  rw [contentOf, List.filter_cons]
  cases Text.hasPrefix "\\" line with
  | true => rfl
  | false => rfl

theorem isBoundaryLine_of_header (header : Text.hasPrefix headerSign line = true) :
    isBoundaryLine line = true := by
  rw [isBoundaryLine, header, Bool.true_or]

theorem isBoundaryLine_of_section (opens : Text.hasPrefix sectionSign line = true) :
    isBoundaryLine line = true := by
  rw [isBoundaryLine, opens, Bool.or_true]

theorem not_header_of_inside (inside : isBoundaryLine line = false) :
    ¬ Text.hasPrefix headerSign line = true :=
  Bool.eq_false_iff.1 (Bool.or_eq_false_iff.1 inside).1

theorem fitsFrom_none (ls : List String) : FitsFrom none ls :=
  fun c held => absurd held (Option.not_mem_none c)

theorem fitsFrom_of_boundary (boundary : isBoundaryLine line = true) (rest : List String) :
    FitsFrom cursor (line :: rest) := by
  intro c _
  rw [linesInside_of_boundary boundary]
  rfl

theorem fitsFrom_of_inside (inside : isBoundaryLine line = false)
    (moves : c.advance? line = some behind) (rest : List String) :
    FitsFrom (some c) (line :: rest) ↔ FitsFrom (some behind) rest := by
  simp only [FitsFrom, linesInside_of_inside inside, Cursor.behind?, moves, Option.mem_def,
    Option.some.injEq, forall_eq', Option.bind_some]

theorem not_fitsFrom_of_stuck (inside : isBoundaryLine line = false)
    (stuck : c.advance? line = none) (rest : List String) : ¬ FitsFrom (some c) (line :: rest) := by
  intro fits
  have moves := fits c rfl
  rw [linesInside_of_inside inside, Cursor.behind?, stuck] at moves
  cases moves

theorem Block.start_of_found {range : NewRange} (found : NewRange.ofHeader? line = some range)
    (body : List String) : Block.start ⟨line, body⟩ = range.start := by
  rw [Block.start, found]
  rfl

theorem hunksOf_of_no_boundary {mark : Mark} (h : mark.isBoundary = false) (below : List Mark) :
    hunksOf (mark :: below) = hunksOf below := by
  cases mark with
  | opens start => cases h
  | closes => cases h
  | ignored => rfl
  | inserted number text => rfl
  | removed number text => rfl
  | kept number text => rfl

/-- Up to the first boundary the marks tell the content of the hunk that is open. -/
theorem content_markLines (scanned : markLines position cursor ls = .ok marks) :
    (marks.takeWhile fun m => !m.isBoundary).filterMap Mark.content? = contentFrom cursor ls := by
  induction ls generalizing position cursor marks with
  | nil =>
    cases scanned
    cases cursor with
    | none => rfl
    | some c => rfl
  | cons line rest ih =>
    obtain ⟨mark, next, below, step, rest_scanned, rfl⟩ := markLines_cons_eq_ok scanned
    have tail := ih rest_scanned
    rcases markLine_cases step with ⟨header, range, -, rfl, rfl⟩ | ⟨-, opens, rfl, rfl⟩ |
      ⟨inside, rfl, rfl, rfl⟩ | ⟨inside, c, behind, rfl, -, rfl, rfl⟩
    · rw [contentFrom, linesInside_of_boundary (isBoundaryLine_of_header header)]
      exact (ite_self []).symm
    · rw [contentFrom, linesInside_of_boundary (isBoundaryLine_of_section opens)]
      exact (ite_self []).symm
    · exact tail
    · rw [List.takeWhile_cons_of_pos (by rw [isBoundary_ofLine]; rfl), List.filterMap_cons, tail,
        content?_ofLine]
      simp only [contentFrom, Option.isSome_some, if_true, linesInside_of_inside inside, contentOf_cons]
      cases Text.hasPrefix "\\" line with
      | true => rfl
      | false => rfl

/-- **The hunks of a diff are its blocks.** -/
theorem hunksOf_markLines (scanned : markLines position cursor ls = .ok marks) :
    hunksOf marks = (blocksOf ls).map Block.hunk := by
  induction ls generalizing position cursor marks with
  | nil =>
    cases scanned
    rfl
  | cons line rest ih =>
    obtain ⟨mark, next, below, step, rest_scanned, rfl⟩ := markLines_cons_eq_ok scanned
    have tail := ih rest_scanned
    rcases markLine_cases step with ⟨header, range, found, rfl, rfl⟩ | ⟨no_header, -, rfl, -⟩ |
      ⟨inside, -, rfl, -⟩ | ⟨inside, c, behind, -, -, rfl, -⟩
    · rw [hunksOf, blocksOf, if_pos header, List.map_cons, tail, content_markLines rest_scanned,
        Block.hunk, Block.start_of_found found]
      rfl
    · rw [blocksOf, if_neg (ne_true_of_eq_false no_header), ← tail]
      rfl
    · rw [blocksOf, if_neg (not_header_of_inside inside), ← tail]
      rfl
    · rw [blocksOf, if_neg (not_header_of_inside inside), ← tail,
        hunksOf_of_no_boundary (isBoundary_ofLine c.number line)]

theorem numbersFrom_of_boundary {sign : String} (boundary : isBoundaryLine line = true)
    (cursor : Option Cursor) (rest : List String) :
    numbersFrom sign cursor (line :: rest) = [] := by
  cases cursor with
  | none => rfl
  | some c =>
    rw [numbersFrom, linesInside_of_boundary boundary]
    rfl

/-- The next line has the number of this one behind a deleted line or a remark. -/
theorem numbersFrom_of_inside {sign : String} (inside : isBoundaryLine line = false)
    (signs : Text.hasPrefix "\\" line = true → Text.hasPrefix sign line = false)
    (moves : c.advance? line = some behind) (rest : List String) :
    numbersFrom sign (some c) (line :: rest) =
      (if Text.hasPrefix sign line then [c.number] else []) ++
        numbersFrom sign (some behind) rest := by
  rw [numbersFrom, numbersFrom, linesInside_of_inside inside, contentOf_cons,
    Cursor.number_advance moves, isNewLine]
  by_cases slash : Text.hasPrefix "\\" line = true
  · rw [if_pos slash, signs slash, slash, Bool.not_true, Bool.and_false]
    rfl
  · rw [if_neg slash, signedNumbers, Bool.eq_false_iff.2 slash, Bool.not_false, Bool.and_true]
    cases Text.hasPrefix "-" line with
    | true => rfl
    | false => rfl

/-- A part of the scan that picks the lines with a sign picks their numbers in the blocks. -/
theorem filterMap_markLines {pick : Mark → Option LineNumber} {sign : String}
    (opens : ∀ start, pick (.opens start) = none) (closes : pick .closes = none)
    (ignored : pick .ignored = none)
    (picks : ∀ number line, pick (.ofLine number line) =
      if Text.hasPrefix sign line then some number else none)
    (remarks : ∀ line, Text.hasPrefix "\\" line = true → Text.hasPrefix sign line = false)
    (scanned : markLines position cursor ls = .ok marks) :
    marks.filterMap pick = numbersFrom sign cursor ls ++ (blocksOf ls).flatMap (Block.numbers sign) := by
  -- The lines in front of the first block belong to a hunk that opened above, hence `numbersFrom`.
  induction ls generalizing position cursor marks with
  | nil =>
    cases scanned
    cases cursor with
    | none => rfl
    | some c => rfl
  | cons line rest ih =>
    obtain ⟨mark, next, below, step, rest_scanned, rfl⟩ := markLines_cons_eq_ok scanned
    have tail := ih rest_scanned
    rcases markLine_cases step with ⟨header, range, found, rfl, rfl⟩ | ⟨no_header, first, rfl, rfl⟩ |
      ⟨inside, rfl, rfl, rfl⟩ | ⟨inside, c, behind, rfl, moves, rfl, rfl⟩
    · rw [List.filterMap_cons_none (opens _), tail, blocksOf, if_pos header, List.flatMap_cons,
        numbersFrom_of_boundary (isBoundaryLine_of_header header), List.nil_append, Block.numbers,
        Block.start_of_found found]
      rfl
    · rw [List.filterMap_cons_none closes, tail, blocksOf, if_neg (ne_true_of_eq_false no_header),
        numbersFrom_of_boundary (isBoundaryLine_of_section first)]
      rfl
    · rw [List.filterMap_cons_none ignored, tail, blocksOf, if_neg (not_header_of_inside inside)]
      rfl
    · rw [blocksOf, if_neg (not_header_of_inside inside),
        numbersFrom_of_inside inside (remarks line) moves, List.append_assoc, ← tail,
        List.filterMap_cons, picks]
      cases Text.hasPrefix sign line with
      | true => rfl
      | false => rfl

theorem insertedNumbers_markLines (scanned : markLines position none ls = .ok marks) :
    insertedNumbers marks = (blocksOf ls).flatMap (Block.numbers "+") :=
  filterMap_markLines (fun _ => rfl) rfl rfl insertedNumber?_ofLine
    (fun _ => Text.hasPrefix_eq_false_of_sign rfl rfl (by decide)) scanned

theorem removedNumbers_markLines (scanned : markLines position none ls = .ok marks) :
    removedNumbers marks = (blocksOf ls).flatMap (Block.numbers "-") :=
  filterMap_markLines (fun _ => rfl) rfl rfl removedNumber?_ofLine
    (fun _ => Text.hasPrefix_eq_false_of_sign rfl rfl (by decide)) scanned

theorem ofMarks_markLines (scanned : markLines position none ls = .ok marks) :
    FileDiff.ofMarks marks = .ofBlocks (blocksOf ls) := by
  have inserted := insertedNumbers_markLines scanned
  have removed := removedNumbers_markLines scanned
  unfold insertedNumbers at inserted
  unfold removedNumbers at removed
  rw [FileDiff.ofMarks, FileDiff.ofBlocks, inserted, removed, hunksOf_markLines scanned]

/-! ## The lines of the diff -/

theorem map_header_blocksOf (ls : List String) :
    (blocksOf ls).map Block.header = ls.filter (Text.hasPrefix headerSign) := by
  induction ls with
  | nil => rfl
  | cons line rest ih =>
    rw [blocksOf, List.filter_cons]
    split
    · rw [List.map_cons, ih]
    · exact ih

theorem readable_iff {ls : List String} :
    (∀ b ∈ blocksOf ls, b.Readable) ↔ ∀ line ∈ ls, ¬ IsMalformed line := by
  have headers : (∀ b ∈ blocksOf ls, b.Readable) ↔
      ∀ header ∈ (blocksOf ls).map Block.header, ∃ range, NewRange.ofHeader? header = some range := by
    rw [List.forall_mem_map]
    rfl
  rw [headers, map_header_blocksOf]
  constructor
  · intro readable line member malformed
    obtain ⟨range, found⟩ := readable line (List.mem_filter.2 ⟨member, malformed.1⟩)
    exact Option.some_ne_none range (found.symm.trans malformed.2)
  · intro none_malformed header member
    obtain ⟨member, sign⟩ := List.mem_filter.1 member
    exact Option.ne_none_iff_exists'.1 fun none_read => none_malformed header member ⟨sign, none_read⟩

/-! ## Blocks of several lists -/

theorem linesInside_append_boundary (boundary : isBoundaryLine line = true) (above below : List String) :
    linesInside (above ++ line :: below) = linesInside above := by
  induction above with
  | nil => exact linesInside_of_boundary boundary below
  | cons first above ih =>
    cases inside : isBoundaryLine first with
    | true =>
      rw [List.cons_append, linesInside_of_boundary inside, linesInside_of_boundary inside]
    | false =>
      rw [List.cons_append, linesInside_of_inside inside, linesInside_of_inside inside, ih]

/-- Blocks do not reach over a boundary. -/
theorem blocksOf_append_boundary (boundary : isBoundaryLine line = true) (above below : List String) :
    blocksOf (above ++ line :: below) = blocksOf above ++ blocksOf (line :: below) := by
  induction above with
  | nil => rfl
  | cons first above ih =>
    rw [List.cons_append, blocksOf, blocksOf, linesInside_append_boundary boundary, ih]
    split
    · rfl
    · rfl

theorem blocksOf_section (opens : Text.hasPrefix sectionSign line = true) (rest : List String) :
    blocksOf (line :: rest) = blocksOf rest := by
  rw [blocksOf, if_neg (not_header_of_section opens)]

theorem blocksOf_plain_append {plain : List String}
    (no_header : ∀ line ∈ plain, ¬ Text.hasPrefix headerSign line = true) (rest : List String) :
    blocksOf (plain ++ rest) = blocksOf rest := by
  induction plain with
  | nil => rfl
  | cons line plain ih =>
    obtain ⟨first, others⟩ := List.forall_mem_cons.1 no_header
    rw [List.cons_append, blocksOf, if_neg first, ih others]

end TestImpact.Diff
