import TestImpact.Proofs.RenderedSections

/-! A diff of several files read whole, and read section by section. The blocks of the whole are those
of the sections, one after another, since no block reaches over the first line of a section. What a
section keeps of a line is all but a carriage return at its end, which neither a header nor a sign
depends on. -/

namespace TestImpact

namespace Text

theorem mem_of_mem_splitLines {s line : List Char} {c : Char} (h : line ∈ splitLines s)
    (member : c ∈ line) : c ∈ s ∧ c ≠ '\n' := by
  fun_induction splitLines s generalizing line with
  | case1 => cases h
  | case2 rest ih =>
    rcases List.mem_cons.1 h with rfl | h
    · cases member
    · exact (ih h member).imp_left (.tail _)
  | case3 rest ih =>
    rcases List.mem_cons.1 h with rfl | h
    · cases member
    · exact (ih h member).imp_left fun inside => .tail _ (.tail _ inside)
  | case4 d rest not_feed not_both no_line ih =>
    obtain rfl := List.mem_singleton.1 h
    obtain rfl := List.mem_singleton.1 member
    exact ⟨.head _, not_feed⟩
  | case5 d rest not_feed not_both first more split ih =>
    rcases List.mem_cons.1 h with rfl | h
    · rcases List.mem_cons.1 member with rfl | member
      · exact ⟨.head _, not_feed⟩
      · exact (ih (by rw [split]; exact .head _) member).imp_left (.tail _)
    · exact (ih (by rw [split]; exact .tail _ h) member).imp_left (.tail _)

theorem mem_of_mem_lines {text line : String} {c : Char} (h : line ∈ lines text)
    (member : c ∈ line.toList) : c ∈ text.toList ∧ c ≠ '\n' := by
  obtain ⟨chars, inside, rfl⟩ := List.mem_map.1 h
  rw [String.toList_ofList] at member
  exact mem_of_mem_splitLines inside member

/-- A word without returns stands at the start of the line that is read as of the line that was
written. -/
theorem hasPrefix_reread {word : String} (ret : '\r' ∉ word.toList) (line : String) :
    hasPrefix word (reread line) = hasPrefix word line := by
  rw [Bool.eq_iff_iff, hasPrefix_iff, hasPrefix_iff, reread, String.toList_ofList]
  rcases dropReturn_cases line.toList with same | longer
  · rw [← same]
  · constructor
    · exact fun begins => longer ▸ begins.trans (List.prefix_append _ _)
    · intro begins
      rw [longer] at begins
      rcases List.prefix_concat_iff.1 begins with whole | begins
      · rw [whole] at ret
        exact absurd (List.mem_append_right _ (.head [])) ret
      · exact begins

theorem afterPrefix?_concat {word : List Char} {c : Char} (absent : c ∉ word) (s : List Char) :
    afterPrefix? word (s ++ [c]) = (afterPrefix? word s).map (· ++ [c]) := by
  cases found : afterPrefix? word s with
  | some rest =>
    rw [afterPrefix?_eq_some_iff.1 found, List.append_assoc, afterPrefix?_append]
    rfl
  | none =>
    refine Option.eq_none_iff_forall_ne_some.2 fun rest longer => ?_
    have whole := afterPrefix?_eq_some_iff.1 longer
    rcases List.eq_nil_or_concat rest with rfl | ⟨front, last, rfl⟩
    · rw [List.append_nil] at whole
      exact absent (whole ▸ List.mem_append_right s (.head []))
    · rw [List.concat_eq_append, ← List.append_assoc] at whole
      have shorter := afterPrefix?_eq_some_iff.2 (List.append_inj_left' whole rfl)
      rw [found] at shorter
      cases shorter

end Text

namespace Diff

/-! ## Headers -/

theorem readDigitRun?_return (s : List Char) :
    readDigitRun? (s ++ ['\r']) =
      (readDigitRun? s).map fun (digits, rest) => (digits, rest ++ ['\r']) := by
  have no_digit : ¬ Text.isDecimalDigit '\r' = true := by decide
  have cut (t : List Char) :
      (t ++ ['\r']).takeWhile Text.isDecimalDigit = t.takeWhile Text.isDecimalDigit ∧
        (t ++ ['\r']).dropWhile Text.isDecimalDigit =
          t.dropWhile Text.isDecimalDigit ++ ['\r'] := by
    induction t with
    | nil => exact ⟨List.takeWhile_cons_of_neg no_digit, List.dropWhile_cons_of_neg no_digit⟩
    | cons c t ih =>
      rw [List.cons_append, List.takeWhile_cons, List.takeWhile_cons, List.dropWhile_cons,
        List.dropWhile_cons, ih.1, ih.2]
      cases Text.isDecimalDigit c with
      | true => exact ⟨rfl, rfl⟩
      | false => exact ⟨rfl, rfl⟩
  unfold readDigitRun?
  rw [(cut s).1, (cut s).2]
  cases s.takeWhile Text.isDecimalDigit with
  | nil => rfl
  | cons d digits => rfl

theorem readRange?_return (s : List Char) :
    readRange? (s ++ ['\r']) = (readRange? s).map fun (range, rest) => (range, rest ++ ['\r']) := by
  unfold readRange?
  rw [readDigitRun?_return]
  cases readDigitRun? s with
  | none => rfl
  | some found =>
    obtain ⟨start, rest⟩ := found
    cases rest with
    | nil => rfl
    | cons c tail =>
      by_cases comma : c = ','
      · subst comma
        simp only [Option.map_some, Option.bind_eq_bind, Option.bind_some, List.cons_append,
          readDigitRun?_return]
        cases readDigitRun? tail with
        | none => rfl
        | some length => rfl
      · simp [comma]

theorem parseHeader?_return (s : List Char) : parseHeader? (s ++ ['\r']) = parseHeader? s := by
  have opens := @Text.afterPrefix?_concat "@@ -".toList '\r' (by decide)
  have plus := @Text.afterPrefix?_concat " +".toList '\r' (by decide)
  have closes := @Text.afterPrefix?_concat " @@".toList '\r' (by decide)
  simp only [parseHeader?, opens, plus, closes, readRange?_return, Option.bind_eq_bind,
    Option.bind_map, Function.comp_def]

theorem ofHeader?_reread (line : String) :
    NewRange.ofHeader? (Text.reread line) = NewRange.ofHeader? line := by
  rw [NewRange.ofHeader?, NewRange.ofHeader?, Text.reread, String.toList_ofList]
  rcases Text.dropReturn_cases line.toList with same | longer
  · rw [← same]
  · rw [longer, parseHeader?_return, ← longer]

/-! ## Blocks -/

/-- The block where every line is read again. -/
def Block.reread (b : Block) : Block where
  header := Text.reread b.header
  body := b.body.map Text.reread

theorem contentOf_map_reread (body : List String) :
    contentOf (body.map Text.reread) = (contentOf body).map Text.reread := by
  induction body with
  | nil => rfl
  | cons line body ih =>
    rw [List.map_cons, contentOf_cons, contentOf_cons, Text.hasPrefix_reread (by decide), ih]
    split
    · rfl
    · rfl

theorem signedNumbers_map_reread {sign : String} (ret : '\r' ∉ sign.toList) (number : LineNumber)
    (content : List String) :
    signedNumbers sign number (content.map Text.reread) = signedNumbers sign number content := by
  have minus (line : String) : Text.hasPrefix "-" (Text.reread line) = Text.hasPrefix "-" line :=
    Text.hasPrefix_reread (by decide) line
  induction content generalizing number with
  | nil => rfl
  | cons line content ih =>
    simp only [List.map_cons, signedNumbers, Text.hasPrefix_reread ret, minus, ih]

/-- What the scan counts is told by the signs of lines alone. -/
theorem behind?_map_reread (c : Cursor) (body : List String) :
    c.behind? (body.map Text.reread) = c.behind? body := by
  have step (c : Cursor) (line : String) : c.advance? (Text.reread line) = c.advance? line := by
    rw [Cursor.advance?, Cursor.advance?, Text.hasPrefix_reread (by decide),
      Text.hasPrefix_reread (by decide)]
  induction body generalizing c with
  | nil => rfl
  | cons line body ih => simp only [List.map_cons, Cursor.behind?, step, ih]

namespace Block

theorem readable_reread {b : Block} : b.reread.Readable ↔ b.Readable := by
  unfold Readable reread
  rw [ofHeader?_reread]

theorem start_reread (b : Block) : b.reread.start = b.start := by
  unfold start reread
  rw [ofHeader?_reread]

theorem fits_reread {b : Block} : b.reread.Fits ↔ b.Fits := by
  rw [Fits, Fits, start_reread, reread, behind?_map_reread]

theorem accepted_reread {b : Block} : b.reread.Accepted ↔ b.Accepted :=
  ⟨fun h => ⟨readable_reread.1 h.readable, fits_reread.1 h.fits⟩,
    fun h => ⟨readable_reread.2 h.readable, fits_reread.2 h.fits⟩⟩

theorem numbers_reread {sign : String} (ret : '\r' ∉ sign.toList) (b : Block) :
    b.reread.numbers sign = b.numbers sign := by
  rw [numbers, numbers, start_reread, reread, contentOf_map_reread, signedNumbers_map_reread ret]

theorem bounds_hunk_reread (b : Block) :
    (b.reread.hunk.start, b.reread.hunk.stop) = (b.hunk.start, b.hunk.stop) := by
  have content : contentOf b.reread.body = (contentOf b.body).map Text.reread :=
    contentOf_map_reread b.body
  rw [start_hunk, start_hunk, stop_hunk, stop_hunk, start_reread, content, List.length_map]

end Block

theorem linesInside_map_reread (ls : List String) :
    linesInside (ls.map Text.reread) = (linesInside ls).map Text.reread := by
  induction ls with
  | nil => rfl
  | cons line ls ih =>
    have same : isBoundaryLine (Text.reread line) = isBoundaryLine line := by
      rw [isBoundaryLine, isBoundaryLine, Text.hasPrefix_reread (by decide),
        Text.hasPrefix_reread (by decide)]
    rw [List.map_cons]
    cases boundary : isBoundaryLine line with
    | true =>
      rw [linesInside_of_boundary boundary, linesInside_of_boundary (same.trans boundary)]
      rfl
    | false =>
      rw [linesInside_of_inside boundary, linesInside_of_inside (same.trans boundary), ih]
      rfl

theorem blocksOf_map_reread (ls : List String) :
    blocksOf (ls.map Text.reread) = (blocksOf ls).map Block.reread := by
  induction ls with
  | nil => rfl
  | cons line ls ih =>
    rw [List.map_cons, blocksOf, blocksOf, Text.hasPrefix_reread (by decide), linesInside_map_reread, ih]
    split
    · rfl
    · rfl

/-! ## Sections -/

/-- The lines up to the next section. -/
def linesOfSection (ls : List String) : List String :=
  ls.takeWhile fun line => !Text.hasPrefix sectionSign line

theorem linesOfSection_of_section {line : String} (opens : Text.hasPrefix sectionSign line = true)
    (rest : List String) : linesOfSection (line :: rest) = [] :=
  List.takeWhile_cons_of_neg (by simp [opens])

theorem linesOfSection_of_plain {line : String} (plain : Text.hasPrefix sectionSign line = false)
    (rest : List String) : linesOfSection (line :: rest) = line :: linesOfSection rest :=
  List.takeWhile_cons_of_pos (by simp [plain])

theorem exists_sectionsOf_cons {line : String} (opens : Text.hasPrefix sectionSign line = true)
    (rest : List String) :
    ∃ first, sectionsOf (line :: rest) =
      Section.ofLines first (linesOfSection rest) :: sectionsOf rest := by
  obtain ⟨first, found⟩ := Option.isSome_iff_exists.1 opens
  have stripped : Text.stripPrefix? sectionSign line = some (String.ofList first) := by
    rw [Text.stripPrefix?, found]
    rfl
  rw [sectionsOf, stripped]
  exact ⟨String.ofList first, rfl⟩

theorem linesInside_linesOfSection (ls : List String) :
    linesInside (linesOfSection ls) = linesInside ls := by
  induction ls with
  | nil => rfl
  | cons line ls ih =>
    cases opens : Text.hasPrefix sectionSign line with
    | true =>
      rw [linesOfSection_of_section opens, linesInside_of_boundary (isBoundaryLine_of_section opens)]
      rfl
    | false =>
      rw [linesOfSection_of_plain opens]
      cases boundary : isBoundaryLine line with
      | true => rw [linesInside_of_boundary boundary, linesInside_of_boundary boundary]
      | false => rw [linesInside_of_inside boundary, linesInside_of_inside boundary, ih]

theorem blocksOf_body {ls : List String} (feed : ∀ line ∈ ls, '\n' ∉ line.toList) (first : String) :
    blocksOf (Text.lines (Section.ofLines first ls).body) = (blocksOf ls).map Block.reread := by
  have written : (Section.ofLines first ls).body = Text.joinLines ls := rfl
  rw [written, (Text.spells_joinLines feed).lines_eq, blocksOf_map_reread]

/-- **The blocks of the whole are those of the first lines and of the sections in order.** -/
theorem map_reread_blocksOf {ls : List String} (feed : ∀ line ∈ ls, '\n' ∉ line.toList) :
    (blocksOf ls).map Block.reread =
      (blocksOf (linesOfSection ls)).map Block.reread ++
        (sectionsOf ls).flatMap fun s => blocksOf (Text.lines s.body) := by
  induction ls with
  | nil => rfl
  | cons line rest ih =>
    obtain ⟨-, rest_feed⟩ := List.forall_mem_cons.1 feed
    have rest_blocks := ih rest_feed
    cases opens : Text.hasPrefix sectionSign line with
    | true =>
      obtain ⟨first, found⟩ := exists_sectionsOf_cons opens rest
      have section_feed : ∀ line ∈ linesOfSection rest, '\n' ∉ line.toList :=
        fun line member => rest_feed line ((List.takeWhile_sublist _).subset member)
      rw [blocksOf_section opens, rest_blocks, linesOfSection_of_section opens, found,
        List.flatMap_cons, blocksOf_body section_feed]
      rfl
    | false =>
      -- A block that begins here ends at the next section at the latest, so both sides have it whole.
      rw [linesOfSection_of_plain opens, sectionsOf, Text.stripPrefix?_eq_none opens, blocksOf, blocksOf,
        linesInside_linesOfSection]
      split
      · rw [List.map_cons, rest_blocks]
        rfl
      · exact rest_blocks

/-- In a diff that begins with a section every block belongs to a section. -/
theorem map_reread_blocksOf_lines {text : String} (begins : BeginsSection text) :
    (blocksOf (Text.lines text)).map Block.reread =
      (Section.split text).flatMap fun s => blocksOf (Text.lines s.body) := by
  have feed : ∀ line ∈ Text.lines text, '\n' ∉ line.toList :=
    fun line member inside => (Text.mem_of_mem_lines member inside).2 rfl
  obtain ⟨header, below, lines, sign⟩ := begins
  have blocks := map_reread_blocksOf feed
  rw [lines, linesOfSection_of_section sign, ← lines] at blocks
  exact blocks

theorem accepted_sections {text : String} (begins : BeginsSection text) :
    (∀ b ∈ blocksOf (Text.lines text), b.Accepted) ↔
      ∀ s ∈ Section.split text, ∀ b ∈ blocksOf (Text.lines s.body), b.Accepted := by
  rw [← List.forall_mem_flatMap, ← map_reread_blocksOf_lines begins, List.forall_mem_map]
  exact forall₂_congr fun b _ => Block.accepted_reread.symm

theorem numbers_sections {text sign : String} (begins : BeginsSection text) (ret : '\r' ∉ sign.toList) :
    (blocksOf (Text.lines text)).flatMap (Block.numbers sign) =
      (Section.split text).flatMap fun s =>
        (blocksOf (Text.lines s.body)).flatMap (Block.numbers sign) := by
  rw [← List.flatMap_assoc, ← map_reread_blocksOf_lines begins, List.flatMap_map]
  exact congrArg (List.flatMap · _) (funext fun b => (b.numbers_reread ret).symm)

theorem mem_touched_ofBlocks {blocks : List Block} {n : LineNumber} :
    n ∈ (FileDiff.ofBlocks blocks).lines.touched ↔ n ∈ blocks.flatMap (Block.numbers "+") := by
  rw [FileDiff.ofBlocks, mem_touched_reconcile, LineSet.mem_ofList]

/-- What sections tell of their hunks is told by their blocks. -/
theorem flatMap_hunks {α : Type} (tell : Hunk → α) (sections : List Section) :
    ((sections.map fun s => FileDiff.ofBlocks (blocksOf (Text.lines s.body))).flatMap
        fun f => f.hunks.map tell) =
      (sections.flatMap fun s => blocksOf (Text.lines s.body)).map fun b => tell b.hunk := by
  rw [List.flatMap_map, List.map_flatMap]
  simp only [FileDiff.ofBlocks, List.map_map]
  rfl

/-- **Reading a diff whole and reading its sections agree.** The whole can be read exactly where every
section can. Then its hunks are those of the sections, in order, with their bounds, and its touched
lines are the union of theirs; the lines of the hunks are the same too, unless a carriage return is
lost to a section. -/
theorem parse_agrees_with_sections {text : String} (begins : BeginsSection text) :
    ((∃ file, FileDiff.parse text = .ok file) ↔
        ∀ s ∈ Section.split text, ∃ file, FileDiff.parse s.body = .ok file) ∧
      ∀ file, FileDiff.parse text = .ok file →
        ∃ files, List.Forall₂ (fun s f => FileDiff.parse s.body = .ok f) (Section.split text) files ∧
          (file.hunks.map fun h => (h.start, h.stop)) =
            (files.flatMap fun f => f.hunks.map fun h => (h.start, h.stop)) ∧
          (∀ n, n ∈ file.lines.touched ↔ ∃ f ∈ files, n ∈ f.lines.touched) ∧
          ('\r' ∉ text.toList →
            file.hunks.map Hunk.content = files.flatMap fun f => f.hunks.map Hunk.content) := by
  have blocks := map_reread_blocksOf_lines begins
  refine ⟨?_, fun file accepted => ?_⟩
  · rw [exists_parse_iff, accepted_sections begins]
    exact forall₂_congr fun s _ => exists_parse_iff.symm
  · obtain ⟨all_accepted, rfl⟩ := parse_eq_ok_iff_blocks.1 accepted
    refine ⟨(Section.split text).map fun s => .ofBlocks (blocksOf (Text.lines s.body)), ?_, ?_, ?_, ?_⟩
    · refine List.forall₂_map_right_iff.2 (List.forall₂_same.2 fun s member => ?_)
      exact parse_eq_ok_iff_blocks.2 ⟨(accepted_sections begins).1 all_accepted s member, rfl⟩
    · rw [flatMap_hunks, ← blocks, FileDiff.ofBlocks, List.map_map, List.map_map]
      exact List.map_congr_left fun b _ => b.bounds_hunk_reread.symm
    · intro n
      rw [mem_touched_ofBlocks, numbers_sections begins (by decide), List.mem_flatMap]
      simp only [← mem_touched_ofBlocks]
      constructor
      · rintro ⟨s, member, touched⟩
        exact ⟨_, List.mem_map_of_mem member, touched⟩
      · rintro ⟨f, member, touched⟩
        obtain ⟨s, inside, rfl⟩ := List.mem_map.1 member
        exact ⟨s, inside, touched⟩
    · intro ret
      have unchanged : (Text.lines text).map Text.reread = Text.lines text := by
        refine (List.map_congr_left fun line member => ?_).trans (List.map_id _)
        exact Text.reread_of_notMem fun inside => ret (Text.mem_of_mem_lines member inside).1
      rw [flatMap_hunks, ← blocks, ← blocksOf_map_reread, unchanged, FileDiff.ofBlocks, List.map_map]
      rfl

/-- Three files, the second one without hunks. Lines of the hunks look like names of files, and a
return ends the last line. -/
def threeSections : String :=
  "diff --git a b\n@@ -2 +2 @@\r\n-x\n+++ y\ndiff --git c c\n+z\ndiff --git d d\n@@ -1 +1 @@\n--- y\n+z\r"

def threeSectionsFile : FileDiff where
  lines := { modified := .ofList [1, 2] }
  hunks := [⟨2, 4, ["-x", "+++ y"]⟩, ⟨1, 3, ["--- y", "+z\r"]⟩]

theorem threeSections_accepted : FileDiff.parse threeSections = .ok threeSectionsFile := by
  decide +kernel

theorem parse_agrees_with_sections_three :
    BeginsSection threeSections ∧ FileDiff.parse threeSections = .ok threeSectionsFile ∧
      ((∃ file, FileDiff.parse threeSections = .ok file) ↔
        ∀ s ∈ Section.split threeSections, ∃ file, FileDiff.parse s.body = .ok file) ∧
      ∀ file, FileDiff.parse threeSections = .ok file →
        ∃ files,
          List.Forall₂ (fun s f => FileDiff.parse s.body = .ok f) (Section.split threeSections) files ∧
          (file.hunks.map fun h => (h.start, h.stop)) =
            (files.flatMap fun f => f.hunks.map fun h => (h.start, h.stop)) ∧
          (∀ n, n ∈ file.lines.touched ↔ ∃ f ∈ files, n ∈ f.lines.touched) ∧
          ('\r' ∉ threeSections.toList →
            file.hunks.map Hunk.content = files.flatMap fun f => f.hunks.map Hunk.content) :=
  have begins : BeginsSection threeSections :=
    ⟨"diff --git a b", ["@@ -2 +2 @@", "-x", "+++ y", "diff --git c c", "+z", "diff --git d d",
      "@@ -1 +1 @@", "--- y", "+z\r"], by decide +kernel, by decide +kernel⟩
  ⟨begins, threeSections_accepted, parse_agrees_with_sections begins⟩

end Diff

end TestImpact
