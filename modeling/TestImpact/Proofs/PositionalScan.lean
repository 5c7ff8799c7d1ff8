import Mathlib.Data.List.Forall2
import TestImpact.Proofs.ScanEnd

/-! The numbers of changed lines, by position. What the scan records for a line of a hunk is the start
in the header plus the lines above it that the new file has; there is no other source of numbers. A
diff is refused at its first line that begins like a header and is none, if the numbers above it
fit. -/

namespace TestImpact.Diff

variable {number : LineNumber}

theorem mem_signedNumbers_iff {sign : String} {content : List String} {n : LineNumber} :
    n ∈ signedNumbers sign number content ↔
      ∃ i line, content[i]? = some line ∧ Text.hasPrefix sign line = true ∧
        n = number + .ofNat ((content.take i).countP fun above => !Text.hasPrefix "-" above) := by
  induction content generalizing number with
  | nil => simp [signedNumbers]
  | cons first rest ih =>
    have here : n ∈ (if Text.hasPrefix sign first then [number] else []) ↔
        Text.hasPrefix sign first = true ∧ n = number := by
      cases Text.hasPrefix sign first with
      | true => simp
      | false => simp
    have below (k : Nat) : (if Text.hasPrefix "-" first then number else number + 1) + .ofNat k =
        number + .ofNat (k + if !Text.hasPrefix "-" first then 1 else 0) := by
      cases Text.hasPrefix "-" first with
      | true => rfl
      | false =>
        have next : (UInt32.ofNat (k + 1) : LineNumber) = 1 + .ofNat k := by
          rw [Nat.add_comm, UInt32.ofNat_add]
          rfl
        exact (UInt32.add_assoc number 1 _).trans (congrArg (number + ·) next.symm)
    simp only [signedNumbers, List.mem_append, here, ih, below]
    constructor
    · rintro (⟨signed, rfl⟩ | ⟨i, line, found, signed, rfl⟩)
      · exact ⟨0, first, rfl, signed, (UInt32.add_zero n).symm⟩
      · exact ⟨i + 1, line, found, signed, by rw [List.take_succ_cons, List.countP_cons]⟩
    · rintro ⟨i, line, found, signed, rfl⟩
      cases i with
      | zero =>
        cases found
        exact .inl ⟨signed, UInt32.add_zero number⟩
      | succ i =>
        exact .inr ⟨i, line, found, signed, by rw [List.take_succ_cons, List.countP_cons]⟩

/-- A line of the hunk has the sign and, counted from the start of the hunk, the number. The lines above
it count but for deleted ones, which the new file does not have. -/
def Hunk.HasLine (h : Hunk) (sign : String) (n : LineNumber) : Prop :=
  ∃ i line, h.content[i]? = some line ∧ Text.hasPrefix sign line = true ∧
    n.toNat = h.start.toNat + (h.content.take i).countP fun above => !Text.hasPrefix "-" above

/-- The hunk tells the lines of a block, from the start that the header gives. -/
structure Block.Shows (b : Block) (h : Hunk) : Prop where
  start : (NewRange.ofHeader? b.header).map NewRange.start = some h.start
  content : h.content = contentOf b.body
  stop : h.stop.toNat = h.start.toNat + h.content.length

/-- No hunk is open behind these lines: there are none, or the last one begins a section. -/
def NoneOpen (front : List String) : Prop :=
  front = [] ∨ ∃ above first, front = above ++ [first] ∧ Text.hasPrefix sectionSign first = true

theorem Block.mem_numbers_iff {b : Block} {sign : String} {n : LineNumber} (fits : b.Fits) :
    n ∈ b.numbers sign ↔ b.hunk.HasLine sign n := by
  have counted (i : Nat) : n = b.start + .ofNat ((contentOf b.body).take i |>.countP
      fun above => !Text.hasPrefix "-" above) ↔ n.toNat = b.start.toNat +
        ((contentOf b.body).take i).countP fun above => !Text.hasPrefix "-" above := by
    have few : ((contentOf b.body).take i).countP (fun above => !Text.hasPrefix "-" above) ≤
        (contentOf b.body).countP fun above => !Text.hasPrefix "-" above :=
      (List.take_sublist i _).countP_le
    rw [← UInt32.toNat_inj,
      toNat_add_ofNat (Nat.lt_of_le_of_lt (Nat.add_le_add_left few _) fits.count_lt)]
  rw [Block.numbers, mem_signedNumbers_iff]
  simp only [counted]
  rfl

theorem mem_numbers_iff_hasLine {blocks : List Block} {sign : String} {n : LineNumber}
    (fits : ∀ b ∈ blocks, b.Fits) :
    n ∈ blocks.flatMap (Block.numbers sign) ↔
      ∃ h ∈ (FileDiff.ofBlocks blocks).hunks, h.HasLine sign n := by
  rw [List.mem_flatMap]
  constructor
  · rintro ⟨b, member, listed⟩
    exact ⟨b.hunk, List.mem_map_of_mem member, (Block.mem_numbers_iff (fits b member)).1 listed⟩
  · rintro ⟨h, member, has⟩
    obtain ⟨b, listed, rfl⟩ := List.mem_map.1 member
    exact ⟨b, listed, (Block.mem_numbers_iff (fits b listed)).2 has⟩

/-- Lines where no hunk is open, and which open none, make no block. -/
theorem blocksOf_without_idle {front idle : List String} (closed : NoneOpen front)
    (no_header : ∀ line ∈ idle, ¬ Text.hasPrefix headerSign line = true) (rest : List String) :
    blocksOf (front ++ idle ++ rest) = blocksOf (front ++ rest) := by
  rcases closed with rfl | ⟨above, first, rfl, opens⟩
  · exact blocksOf_plain_append no_header rest
  · have boundary := isBoundaryLine_of_section opens
    simp only [List.append_assoc, List.cons_append, List.nil_append]
    rw [blocksOf_append_boundary boundary, blocksOf_append_boundary boundary, blocksOf_section opens,
      blocksOf_section opens, blocksOf_plain_append no_header]

theorem accepted_iff {ls : List String} :
    (∀ b ∈ blocksOf ls, b.Accepted) ↔
      (∀ line ∈ ls, ¬ IsMalformed line) ∧ ∀ b ∈ blocksOf ls, b.Fits := by
  rw [← readable_iff]
  constructor
  · exact fun accepted => ⟨fun b member => (accepted b member).readable,
      fun b member => (accepted b member).fits⟩
  · exact fun ⟨readable, fits⟩ b member => ⟨readable b member, fits b member⟩

theorem Block.shows_hunk {b : Block} (readable : b.Readable)
    (bounded : b.hunk.start.toNat + b.hunk.content.length < UInt32.size) : b.Shows b.hunk where
  start := by
    obtain ⟨range, found⟩ := readable
    rw [Block.start_hunk, Block.start, found]
    rfl
  content := b.content_hunk
  stop := by
    rw [Block.start_hunk, Block.content_hunk] at bounded ⊢
    rw [Block.stop_hunk, toNat_add_ofNat bounded]

/-- **The scan numbers lines by their positions.** It is halted by the first line that begins like a
header and is none, where the hunks above it fit, and where all hunks end at line numbers by nothing
else. If it is not halted there is one hunk for each header, with the lines below it up to the next
boundary, and the numbers that it pairs are those of the lines with a sign in the hunks. Lines where
no hunk is open change nothing. -/
theorem parse_counts_positions (diff : String) :
    (∀ e, FileDiff.parse diff = .error (.malformed e) ↔
      ∃ before header after, Text.lines diff = before ++ header :: after ∧
        (∀ line ∈ before, ¬ IsMalformed line) ∧ (∀ b ∈ blocksOf before, b.Fits) ∧
        IsMalformed header ∧ e = { line := before.length + 1, header }) ∧
    ((∀ b ∈ blocksOf (Text.lines diff), b.Readable →
        b.hunk.start.toNat + b.hunk.content.length < UInt32.size) →
      ∀ halt, FileDiff.parse diff = .error halt ↔
        ∃ before header after, Text.lines diff = before ++ header :: after ∧
          (∀ line ∈ before, ¬ IsMalformed line) ∧ IsMalformed header ∧
          halt = .malformed { line := before.length + 1, header }) ∧
    ∀ file, FileDiff.parse diff = .ok file →
      (∀ h ∈ file.hunks, h.start.toNat + h.content.length < UInt32.size) →
      (blocksOf (Text.lines diff)).map Block.header =
          (Text.lines diff).filter (Text.hasPrefix headerSign) ∧
        List.Forall₂ Block.Shows (blocksOf (Text.lines diff)) file.hunks ∧
        (∃ added deleted, file.lines = reconcile added deleted ∧
          (∀ n, n ∈ added ↔ ∃ h ∈ file.hunks, h.HasLine "+" n) ∧
          ∀ n, n ∈ deleted ↔ ∃ h ∈ file.hunks, h.HasLine "-" n) ∧
        ∀ front idle rest other, Text.lines diff = front ++ idle ++ rest → NoneOpen front →
          (∀ line ∈ idle, ¬ Text.hasPrefix headerSign line = true) →
          Text.lines other = front ++ rest → FileDiff.parse other = .ok file := by
  have halted (e : MalformedHeader) : FileDiff.parse diff = .error (.malformed e) ↔
      ∃ before header after, Text.lines diff = before ++ header :: after ∧
        (∀ line ∈ before, ¬ IsMalformed line) ∧ (∀ b ∈ blocksOf before, b.Fits) ∧
        IsMalformed header ∧ e = { line := before.length + 1, header } := by
    simp only [parse_eq_malformed_iff, accepted_iff, and_assoc]
  refine ⟨halted, fun bounded halt => ?_, fun file accepted bounded => ?_⟩
  · have fits : ∀ b ∈ blocksOf (Text.lines diff), b.Readable → b.Fits :=
      fun b member readable => Block.fits_of_lt (bounded b member readable)
    cases halt with
    | malformed e =>
      rw [halted]
      constructor
      · rintro ⟨before, header, after, split, none_malformed, -, malformed, rfl⟩
        exact ⟨before, header, after, split, none_malformed, malformed, rfl⟩
      · rintro ⟨before, header, after, split, none_malformed, malformed, same⟩
        cases same
        refine ⟨before, header, after, split, none_malformed, fun b member => ?_, malformed, rfl⟩
        refine fits b ?_ (readable_iff.2 none_malformed b member)
        rw [split, blocksOf_append_boundary (isBoundaryLine_of_header malformed.1)]
        exact List.mem_append_left _ member
    | overflow =>
      rw [parse_eq_overflow_iff, overflows_iff]
      refine iff_of_false ?_ ?_
      · rintro ⟨above, b, below, split, -, readable, beyond⟩
        exact beyond (fits b (split ▸ List.mem_append_cons_self) readable)
      · rintro ⟨_, _, _, _, _, _, same⟩
        cases same
  · obtain ⟨all_accepted, rfl⟩ := parse_eq_ok_iff_blocks.1 accepted
    have block_bounded : ∀ b ∈ blocksOf (Text.lines diff),
        b.hunk.start.toNat + b.hunk.content.length < UInt32.size :=
      fun b member => bounded b.hunk (List.mem_map_of_mem member)
    have numbered (sign : String) (n : LineNumber) :
        n ∈ LineSet.ofList ((blocksOf (Text.lines diff)).flatMap (Block.numbers sign)) ↔
          ∃ h ∈ (FileDiff.ofBlocks (blocksOf (Text.lines diff))).hunks, h.HasLine sign n :=
      LineSet.mem_ofList.trans (mem_numbers_iff_hasLine fun b member => (all_accepted b member).fits)
    refine ⟨map_header_blocksOf _, ?_, ⟨_, _, rfl, numbered "+", numbered "-"⟩, ?_⟩
    · refine List.forall₂_map_right_iff.2 (List.forall₂_same.2 fun b member => ?_)
      exact Block.shows_hunk (all_accepted b member).readable (block_bounded b member)
    · intro front idle rest other split closed no_header kept
      have same : blocksOf (Text.lines other) = blocksOf (Text.lines diff) := by
        rw [kept, split, blocksOf_without_idle closed no_header]
      rw [parse_eq_ok_iff_blocks, same]
      exact ⟨all_accepted, rfl⟩

/-- Two hunks that overlap, the second one with a line that looks like a name; before, between and
behind them lines that look like changes. -/
def overlappingHunks : String :=
  "+++ b/a.js\n@@ -9 +9,2 @@ f\n+a\n\\ No newline\n--- b\n\ndiff --git a/b b/b\n+b\n@@ -1 +11 @@\n+++ c"

def overlappingFile : FileDiff where
  lines := { added := .ofList [11], modified := .ofList [9] }
  hunks := [⟨9, 12, ["+a", "--- b", ""]⟩, ⟨11, 12, ["+++ c"]⟩]

theorem overlappingHunks_accepted : FileDiff.parse overlappingHunks = .ok overlappingFile := by
  decide +kernel

theorem parse_counts_positions_overlapping :
    FileDiff.parse overlappingHunks = .ok overlappingFile ∧
      (∀ h ∈ overlappingFile.hunks, h.start.toNat + h.content.length < UInt32.size) ∧
      (blocksOf (Text.lines overlappingHunks)).map Block.header =
          (Text.lines overlappingHunks).filter (Text.hasPrefix headerSign) ∧
        List.Forall₂ Block.Shows (blocksOf (Text.lines overlappingHunks)) overlappingFile.hunks ∧
        (∃ added deleted, overlappingFile.lines = reconcile added deleted ∧
          (∀ n, n ∈ added ↔ ∃ h ∈ overlappingFile.hunks, h.HasLine "+" n) ∧
          ∀ n, n ∈ deleted ↔ ∃ h ∈ overlappingFile.hunks, h.HasLine "-" n) ∧
        ∀ front idle rest other, Text.lines overlappingHunks = front ++ idle ++ rest →
          NoneOpen front → (∀ line ∈ idle, ¬ Text.hasPrefix headerSign line = true) →
          Text.lines other = front ++ rest → FileDiff.parse other = .ok overlappingFile :=
  have bounded : ∀ h ∈ overlappingFile.hunks, h.start.toNat + h.content.length < UInt32.size := by decide
  ⟨overlappingHunks_accepted, bounded,
    (parse_counts_positions overlappingHunks).2.2 overlappingFile overlappingHunks_accepted bounded⟩

end TestImpact.Diff
