import Mathlib.Data.List.TakeWhile
import TestImpact.Http.Transport

/-! A text read relative to a base, for texts of characters that a path holds as they are. Without a
scheme at its front and without dot segments the text stands behind the path of the base, as far as
this leads down from the last slash. A scheme makes it a URL of its own, and every dot segment makes
the path shorter. -/

namespace TestImpact

theorem Text.dropEndWhile_of_none {p : Char → Bool} {s : List Char} (none : ∀ c ∈ s, p c = false) :
    dropEndWhile p s = s :=
  dropEndWhile_of_getLast? fun c last => none c (List.mem_of_getLast? last)

theorem Text.cutFirst?_of_notMem {mark : Char} {s : List Char} (absent : mark ∉ s) :
    cutFirst? [mark] s = none :=
  cutFirst?_eq_none_iff.2 fun occurs => absent (occurs.subset (List.mem_singleton_self mark))

namespace Url

/-- A character that a path holds as it is. No such character ends the path or stands for a colon. -/
def isVerbatim (c : Char) : Bool :=
  !pathSet c && c != '\\' && c != '|'

theorem pathSet_of_isVerbatim {c : Char} (verbatim : isVerbatim c = true) : pathSet c = false := by
  rw [isVerbatim, Bool.and_eq_true, Bool.and_eq_true, Bool.not_eq_true'] at verbatim
  exact verbatim.1.1

theorem lt_toNat_of_isVerbatim {c : Char} (verbatim : isVerbatim c = true) : 0x20 < c.toNat := by
  have outside := pathSet_of_isVerbatim verbatim
  simp only [pathSet, fragmentSet, controlSet, Bool.or_eq_false_iff, decide_eq_false_iff_not,
    List.mem_cons, not_or] at outside
  obtain ⟨⟨⟨low, -⟩, not_space, -⟩, -⟩ := outside
  refine Nat.lt_of_le_of_ne (Nat.not_lt.1 low) fun same => not_space ?_
  exact Char.ext (UInt32.toNat_inj.1 same.symm)

section

variable {s : List Char} (verbatim : ∀ c ∈ s, isVerbatim c = true)

include verbatim

theorem notMem_of_verbatim (mark : Char) (marks : isVerbatim mark = false) : mark ∉ s := by
  intro mem
  rw [verbatim mark mem] at marks
  cases marks

theorem clean_eq_self : clean s = s := by
  have visible : ∀ c ∈ s, decide (c.toNat ≤ 0x20) = false := fun c mem =>
    decide_eq_false (Nat.not_le.2 (lt_toNat_of_isVerbatim (verbatim c mem)))
  have front : s.dropWhile (·.toNat ≤ 0x20) = s := by
    refine List.dropWhile_eq_self_iff.2 fun some_char => ?_
    simpa using visible _ (List.getElem_mem some_char)
  rw [clean, front, Text.dropEndWhile_of_none visible]
  refine List.filter_eq_self.2 fun c mem => ?_
  have marks : ['\t', '\n', '\r'].any isVerbatim = false := by decide
  simp only [Bool.not_eq_true', decide_eq_false_iff_not]
  intro mark
  exact List.any_eq_false.1 marks c mark (verbatim c mem)

theorem pieces_eq : Pieces.of s = ⟨s, none, none⟩ := by
  have no_fragment := Text.cutFirst?_of_notMem (notMem_of_verbatim verbatim '#' (by decide))
  have no_query := Text.cutFirst?_of_notMem (notMem_of_verbatim verbatim '?' (by decide))
  simp only [Pieces.of, cutAt, no_fragment, no_query]

end

/-! ## Schemes -/

/-- A letter and more characters of schemes. -/
def IsScheme (written : List Char) : Prop :=
  ∃ first more, written = first :: more ∧ first.isAlpha = true ∧ ∀ c ∈ more, isSchemeChar c = true

/-- A scheme and a colon stand at the front. -/
def BeginsWithScheme (s : List Char) : Prop :=
  ∃ written behind, IsScheme written ∧ s = written ++ ':' :: behind

theorem isSchemeChar_of_isAlpha {c : Char} (alpha : c.isAlpha = true) : isSchemeChar c = true := by
  rw [isSchemeChar, Char.isAlphanum, alpha]
  rfl

theorem cutScheme?_append {written : List Char} (isScheme : IsScheme written) (behind : List Char) :
    cutScheme? (written ++ ':' :: behind) = some (written.map Char.toLower, behind) := by
  obtain ⟨first, more, rfl, alpha, chars⟩ := isScheme
  have all_chars : ∀ c ∈ first :: more, isSchemeChar c = true :=
    List.forall_mem_cons.2 ⟨isSchemeChar_of_isAlpha alpha, chars⟩
  have colon : isSchemeChar ':' = false := by decide
  have taken : (first :: more ++ ':' :: behind).takeWhile isSchemeChar = first :: more := by
    rw [List.takeWhile_append_of_pos all_chars, List.takeWhile_cons_of_neg (by simp [colon]),
      List.append_nil]
  have dropped : (first :: more ++ ':' :: behind).dropWhile isSchemeChar = ':' :: behind := by
    rw [List.dropWhile_append_of_pos all_chars, List.dropWhile_cons_of_neg (by simp [colon])]
  rw [cutScheme?, dropped, taken]
  simp [alpha]

theorem cutScheme?_eq_none_iff {s : List Char} : cutScheme? s = none ↔ ¬ BeginsWithScheme s := by
  constructor
  · rintro none ⟨written, behind, isScheme, rfl⟩
    rw [cutScheme?_append isScheme] at none
    cases none
  · intro plain
    rw [cutScheme?]
    cases s with
    | nil => rfl
    | cons first more =>
      by_cases alpha : first.isAlpha
      · have parted := List.takeWhile_append_dropWhile (p := isSchemeChar) (l := first :: more)
        rw [List.takeWhile_cons_of_pos (isSchemeChar_of_isAlpha alpha)] at parted
        cases dropped : (first :: more).dropWhile isSchemeChar with
        | nil => exact ite_self none
        | cons c behind =>
          by_cases colon : c = ':'
          · have isScheme : IsScheme (first :: more.takeWhile isSchemeChar) :=
              ⟨first, _, rfl, alpha, fun c mem => List.mem_takeWhile_imp mem⟩
            rw [dropped, colon] at parted
            exact absurd ⟨_, behind, isScheme, parted.symm⟩ plain
          · simp [colon]
      · simp [alpha]

/-! ## Segments -/

/-- A segment that stays where it is or leads upwards. -/
def isDots (segment : List Char) : Bool :=
  isSingleDot segment || isDoubleDot segment

theorem text_segments_append (front back : List (List Char)) :
    (UrlPath.segments (front ++ back)).text =
      (UrlPath.segments front).text ++ (UrlPath.segments back).text :=
  List.flatMap_append

theorem text_segments {pieces : List (List Char)} (some_piece : pieces ≠ []) :
    (UrlPath.segments pieces).text = '/' :: Text.joinWith '/' pieces :=
  (Text.cons_joinWith '/' some_piece).symm

theorem text_splitAt (s : List Char) :
    (UrlPath.segments (Text.splitAt '/' s)).text = '/' :: s := by
  rw [text_segments (Text.splitAt_ne_nil '/' s), Text.joinWith_splitAt]

/-- A letter of a drive is rewritten only if a bar follows it. -/
theorem settle_eq_self {kind : SchemeKind} {segment : List Char} (noBar : '|' ∉ segment)
    (done : List (List Char)) : settle kind done segment = segment := by
  rw [settle]
  split
  · next drive =>
    obtain ⟨-, -, letter⟩ := drive
    match segment, letter with
    | [c, mark], letter =>
      rw [isDriveLetter, Bool.and_eq_true, Bool.or_eq_true, beq_iff_eq, beq_iff_eq] at letter
      have colon : mark = ':' := letter.2.resolve_right fun bar => noBar (by simp [bar])
      rw [colon]
      rfl
  · rfl

theorem walk_eq_append {kind : SchemeKind} {segments : List (List Char)}
    (plain : ∀ segment ∈ segments, isDots segment = false)
    (noBar : ∀ segment ∈ segments, '|' ∉ segment) (done : List (List Char)) :
    walk kind done segments = done ++ segments := by
  induction segments generalizing done with
  | nil => exact (List.append_nil done).symm
  | cons segment rest ih =>
    obtain ⟨stays, plain⟩ := List.forall_mem_cons.1 plain
    obtain ⟨bare, noBar⟩ := List.forall_mem_cons.1 noBar
    obtain ⟨not_single, not_double⟩ := Bool.or_eq_false_iff.1 stays
    rw [walk, not_double, not_single, if_neg Bool.false_ne_true, if_neg Bool.false_ne_true,
      settle_eq_self bare, ih plain noBar, List.append_assoc]
    rfl

theorem shorten_concat_nil (kind : SchemeKind) (front : List (List Char)) :
    shorten kind (front ++ [[]]) = front := by
  rw [shorten.eq_def]
  split
  · next segment same =>
    obtain ⟨rfl, same⟩ := List.append_inj' (same.trans (List.nil_append [segment]).symm) rfl
    cases same
    rfl
  · exact List.dropLast_concat

theorem dropEmptyFront_of_head {segments : List (List Char)} (named : segments.head? ≠ some []) :
    dropEmptyFront segments = segments := by
  match segments with
  | [] | (_ :: _) :: _ => rfl
  | [] :: _ => exact absurd rfl named

theorem dropEmptyFront_suffix (segments : List (List Char)) :
    dropEmptyFront segments <:+ segments := by
  induction segments using dropEmptyFront.induct with
  | case1 next rest ih => exact ih.trans (List.suffix_cons _ _)
  | case2 segments other => exact ⟨[], dropEmptyFront.eq_2 segments other⟩

theorem tidy_suffix (kind : SchemeKind) (segments : List (List Char)) :
    tidy kind segments <:+ segments := by
  rw [tidy]
  split
  · exact dropEmptyFront_suffix segments
  · exact List.suffix_rfl

theorem length_pos_of_isDots {segment : List Char} (dots : isDots segment = true) :
    0 < segment.length := by
  cases segment with
  | nil => cases dots
  | cons c rest => exact Nat.succ_pos _

/-- How many characters the path of some segments has. -/
def textLength (segments : List (List Char)) : Nat :=
  (UrlPath.segments segments).text.length

theorem textLength_append (front back : List (List Char)) :
    textLength (front ++ back) = textLength front + textLength back := by
  rw [textLength, text_segments_append, List.length_append, textLength, textLength]

theorem textLength_cons (segment : List Char) (rest : List (List Char)) :
    textLength (segment :: rest) = segment.length + 1 + textLength rest := by
  rw [textLength, UrlPath.text, List.flatMap_cons, List.length_append, List.length_cons]
  rfl

theorem textLength_le_of_suffix {segments others : List (List Char)} (suffix : segments <:+ others) :
    textLength segments ≤ textLength others := by
  obtain ⟨front, rfl⟩ := suffix
  rw [textLength_append]
  exact Nat.le_add_left _ _

theorem textLength_shorten_le (kind : SchemeKind) (segments : List (List Char)) :
    textLength (shorten kind segments) ≤ textLength segments := by
  have shorter : textLength segments.dropLast ≤ textLength segments := by
    obtain ⟨back, same⟩ := List.dropLast_prefix segments
    calc textLength segments.dropLast ≤ textLength (segments.dropLast ++ back) := by
          rw [textLength_append]
          exact Nat.le_add_right _ _
      _ = textLength segments := by rw [same]
  rw [shorten.eq_def]
  split
  · split
    · exact Nat.le_refl _
    · exact Nat.zero_le _
  · exact shorter

theorem length_settle (kind : SchemeKind) (done : List (List Char)) (segment : List Char) :
    (settle kind done segment).length = segment.length := by
  rw [settle]
  split
  · next drive =>
    obtain ⟨-, -, letter⟩ := drive
    match segment, letter with
    | [_, _], _ => rfl
  · rfl

/-- Each segment of dots takes at least one character off the path. -/
theorem textLength_walk (kind : SchemeKind) (done segments : List (List Char)) :
    textLength (walk kind done segments) + segments.countP isDots ≤
      textLength done + textLength segments := by
  induction segments generalizing done with
  | nil => exact Nat.le_refl _
  | cons segment rest ih =>
    have ending : textLength (if rest.isEmpty then [[]] else []) ≤ 1 := by
      cases rest with
      | nil => exact Nat.le_refl 1
      | cons next rest => exact Nat.zero_le 1
    rw [walk, textLength_cons]
    by_cases double : isDoubleDot segment
    · have dots : isDots segment = true := by rw [isDots, double, Bool.or_true]
      have shorter := ih (shorten kind done ++ if rest.isEmpty then [[]] else [])
      have front := textLength_shorten_le kind done
      have chars := length_pos_of_isDots dots
      rw [textLength_append] at shorter
      rw [if_pos double, List.countP_cons_of_pos dots]
      omega
    by_cases single : isSingleDot segment
    · have dots : isDots segment = true := by rw [isDots, single, Bool.true_or]
      have shorter := ih (done ++ if rest.isEmpty then [[]] else [])
      have chars := length_pos_of_isDots dots
      rw [textLength_append] at shorter
      rw [if_neg double, if_pos single, List.countP_cons_of_pos dots]
      omega
    · have stays : ¬ isDots segment = true := by simp [isDots, single, double]
      have kept := ih (done ++ [settle kind done segment])
      have nothing : textLength [] = 0 := rfl
      rw [textLength_append, textLength_cons, length_settle] at kept
      rw [if_neg double, if_neg single, List.countP_cons_of_neg stays]
      omega

theorem textLength_tidy_walk (kind : SchemeKind) (done segments : List (List Char)) :
    textLength (tidy kind (walk kind done segments)) + segments.countP isDots ≤
      textLength done + textLength segments := by
  have shorter := textLength_le_of_suffix (tidy_suffix kind (walk kind done segments))
  have walked := textLength_walk kind done segments
  omega

/-- The path from the root that a text leads to is no longer than the text with a slash in front. -/
theorem length_rooted_le (kind : SchemeKind) (rest : List Char) :
    (UrlPath.segments (tidy kind (walk kind [] (Text.splitAt '/' rest)))).text.length ≤
      ('/' :: rest).length := by
  have walked := textLength_tidy_walk kind [] (Text.splitAt '/' rest)
  have whole : textLength (Text.splitAt '/' rest) = ('/' :: rest).length :=
    congrArg List.length (text_splitAt rest)
  have nothing : textLength [] = 0 := rfl
  change textLength _ ≤ _
  omega

/-! ## Without a scheme -/

section

variable {s : List Char} (verbatim : ∀ c ∈ s, isVerbatim c = true)

include verbatim

theorem resolvePath_eq (kind : SchemeKind) (done : List (List Char)) :
    resolvePath kind done s = .segments (tidy kind (walk kind done (Text.splitAt '/' s))) := by
  have slashed : s.map (fun c => if isSlash kind c then '/' else c) = s := by
    have kept : ∀ c ∈ s, (if isSlash kind c then '/' else c) = id c := by
      intro c mem
      have no_backslash : c ≠ '\\' := by
        rintro rfl
        exact notMem_of_verbatim verbatim '\\' (by decide) mem
      by_cases slash : c = '/'
      · rw [slash, id_eq, ite_self]
      · rw [if_neg (by simp [isSlash, slash, no_backslash]), id_eq]
    rw [List.map_congr_left kept, List.map_id]
  have encoded : ∀ piece ∈ Text.splitAt '/' s, percentEncode pathSet piece = id piece := by
    intro piece mem
    refine percentEncode_of_none fun c below => ?_
    have inside : c ∈ '/' :: s := by
      rw [← text_splitAt]
      exact List.mem_flatMap.2 ⟨piece, mem, List.mem_cons_of_mem _ below⟩
    rcases List.mem_cons.1 inside with rfl | inside
    · rfl
    · exact pathSet_of_isVerbatim (verbatim c inside)
  rw [resolvePath, resolveSegments, splitSegments, slashed, List.map_congr_left encoded, List.map_id]

theorem takeWhile_isAnySlash_of_head (head : s.head? ≠ some '/') : s.takeWhile isAnySlash = [] := by
  cases s with
  | nil => rfl
  | cons c rest =>
    have no_slash : c ≠ '/' := fun same => head (congrArg some same)
    have no_backslash : c ≠ '\\' := by
      rintro rfl
      exact notMem_of_verbatim verbatim '\\' (by decide) List.mem_cons_self
    exact List.takeWhile_cons_of_neg (by simp [isAnySlash, no_slash, no_backslash])

theorem readRelative_of_head (names : NameRules) (base : Url) (some_char : s ≠ [])
    (head : s.head? ≠ some '/') :
    readRelative names base s =
      .ok ⟨base.scheme, base.authority, .segments (tidy (kindOf base.scheme)
        (walk (kindOf base.scheme) base.holdingSegments (Text.splitAt '/' s))), none, none⟩ := by
  have not_empty : s.isEmpty = false := by simpa using some_char
  simp only [readRelative, pieces_eq verbatim, takeWhile_isAnySlash_of_head verbatim head,
    not_empty, resolvePath_eq verbatim]
  rfl

omit verbatim in
theorem readRelative_of_slash (names : NameRules) (base : Url)
    (verbatim : ∀ c ∈ '/' :: s, isVerbatim c = true) (head : s.head? ≠ some '/') :
    readRelative names base ('/' :: s) =
      .ok ⟨base.scheme, base.authority, .segments (tidy (kindOf base.scheme)
        (walk (kindOf base.scheme) [] (Text.splitAt '/' s))), none, none⟩ := by
  have verbatim_rest := (List.forall_mem_cons.1 verbatim).2
  have slash : ('/' :: s).takeWhile isAnySlash = ['/'] := by
    rw [List.takeWhile_cons_of_pos (by decide), takeWhile_isAnySlash_of_head verbatim_rest head]
  simp only [readRelative, pieces_eq verbatim, slash, List.tail_cons, resolvePath_eq verbatim_rest]
  rfl

theorem bar_notMem_of_mem_splitAt {segment : List Char} (mem : segment ∈ Text.splitAt '/' s) :
    '|' ∉ segment := by
  intro bar
  have inside : '|' ∈ '/' :: s := by
    rw [← text_splitAt]
    exact List.mem_flatMap.2 ⟨segment, mem, List.mem_cons_of_mem _ bar⟩
  exact notMem_of_verbatim verbatim '|' (by decide) ((List.mem_cons.1 inside).resolve_left (by decide))

omit verbatim in
/-- The first segment is there, since no slash is at the front. -/
theorem head?_splitAt_ne_nil (some_char : s ≠ []) (head : s.head? ≠ some '/') :
    (Text.splitAt '/' s).head? ≠ some [] := by
  intro none
  obtain ⟨rest, same⟩ := List.head?_eq_some_iff.1 none
  have whole := text_splitAt s
  rw [same] at whole
  obtain ⟨-, rest_text⟩ := List.cons.inj whole
  cases rest with
  | nil => exact some_char rest_text.symm
  | cons next rest => exact head (by rw [← rest_text]; rfl)

/-- A directory that a path of a file can be: it does not begin with an empty segment. -/
def IsDirectory (base : Url) (front : List (List Char)) : Prop :=
  base.path = .segments (front ++ [[]]) ∧ (kindOf base.scheme = .file → front.head? ≠ some [])

omit verbatim in
theorem IsDirectory.holdingSegments_eq {base : Url} {front : List (List Char)}
    (directory : IsDirectory base front) : base.holdingSegments = front := by
  rw [holdingSegments, directory.1]
  exact shorten_concat_nil _ front

/-- A text goes on from a directory, and each segment of dots makes the path shorter. -/
theorem readRelative_directory (names : NameRules) {base : Url} {front : List (List Char)}
    (directory : IsDirectory base front) (head : s.head? ≠ some '/') :
    ∃ url, readRelative names base s = .ok url ∧ url.scheme = base.scheme ∧
      url.authority = base.authority ∧
      url.path.text.length + (Text.splitAt '/' s).countP isDots ≤
        base.path.text.length + s.length ∧
      ((∀ segment ∈ Text.splitAt '/' s, isDots segment = false) →
        url.path.text = base.path.text ++ s) := by
  by_cases none_left : s = []
  · subst none_left
    exact ⟨{ base with fragment := none }, rfl, rfl, rfl, Nat.le_refl _, fun _ =>
      (List.append_nil _).symm⟩
  have base_text : base.path.text ++ s = (UrlPath.segments (front ++ Text.splitAt '/' s)).text := by
    rw [directory.1, text_segments_append, text_segments_append, text_splitAt, List.append_assoc]
    rfl
  refine ⟨_, readRelative_of_head verbatim names base none_left head, rfl, rfl, ?_, fun plain => ?_⟩
  · rw [← List.length_append, base_text, directory.holdingSegments_eq, text_segments_append,
      List.length_append]
    exact textLength_tidy_walk _ front (Text.splitAt '/' s)
  · have kept : tidy (kindOf base.scheme) (front ++ Text.splitAt '/' s) =
        front ++ Text.splitAt '/' s := by
      rw [tidy]
      split
      · next file =>
        refine dropEmptyFront_of_head ?_
        cases front with
        | nil => exact head?_splitAt_ne_nil none_left head
        | cons first more => exact directory.2 file
      · rfl
    rw [base_text, directory.holdingSegments_eq,
      walk_eq_append plain fun segment => bar_notMem_of_mem_splitAt verbatim, kept]

end

/-- Without a slash in front, what does not begin with the letter of a drive is read relative to a
file. -/
theorem readFile_of_head {s : List Char} (verbatim : ∀ c ∈ s, isVerbatim c = true)
    (head : s.head? ≠ some '/') (names : NameRules) (base : Option Url) :
    readFile names base s =
      ((base.filter fun _ => !beginsWithDrive s).map fun b => readRelative names b s).getD
        (.ok (fileUrl localHost (resolvePath .file [] s) (Pieces.of s))) := by
  have none_taken : ((s.take 2).takeWhile isAnySlash).length = 0 := by
    have first : (s.take 2).head? ≠ some '/' := by
      rw [List.head?_take]
      simpa using head
    rw [takeWhile_isAnySlash_of_head (fun c mem => verbatim c (List.mem_of_mem_take mem)) first]
    rfl
  simp only [readFile, pieces_eq verbatim, none_taken]
  cases base.filter fun _ => !beginsWithDrive s <;> rfl

/-- With a colon behind it the letter of a drive is a scheme. -/
theorem beginsWithScheme_of_drive {s : List Char} (verbatim : ∀ c ∈ s, isVerbatim c = true)
    (drive : beginsWithDrive s = true) : BeginsWithScheme s := by
  rw [beginsWithDrive] at drive
  have parted := List.takeWhile_append_dropWhile (p := fun c => !isAnySlash c) (l := s)
  match s.takeWhile (fun c => !isAnySlash c), drive, parted with
  | [letter, mark], drive, parted =>
    rw [isDriveLetter, Bool.and_eq_true, Bool.or_eq_true, beq_iff_eq, beq_iff_eq] at drive
    have colon : mark = ':' := by
      refine drive.2.resolve_right fun bar => notMem_of_verbatim verbatim '|' (by decide) ?_
      rw [← parted, bar]
      simp
    have isScheme : IsScheme [letter] := ⟨letter, [], rfl, drive.1, List.forall_mem_nil _⟩
    exact ⟨[letter], _, isScheme, by rw [← parted, colon]; rfl⟩

/-! ## With a scheme -/

/-- The scheme of a URL, and the host and port to which it leads. -/
def server (u : Url) : List Char × Option (Host × Option Nat) :=
  (u.scheme, u.authority.map fun a => (a.host, a.port))

theorem exists_of_bind_eq_ok {α β : Type} {first : Except UrlError α} {next : α → Except UrlError β}
    {b : β} (read : first >>= next = .ok b) : ∃ a, first = .ok a ∧ next a = .ok b := by
  cases first with
  | error e => cases read
  | ok a => exact ⟨a, rfl, read⟩

theorem scheme_readBehindSlashes {names : NameRules} {scheme s : List Char} {url : Url}
    (read : readBehindSlashes names scheme s = .ok url) : url.scheme = scheme := by
  obtain ⟨_, -, read⟩ := exists_of_bind_eq_ok read
  cases read
  rfl

theorem rootOf_cases (base : Url) : (rootOf base).2 = localHost ∨ (rootOf base).1 = [] := by
  rw [rootOf]
  split
  · split
    · exact .inl rfl
    · exact .inr rfl
  · exact .inr rfl

section

variable {s : List Char} (verbatim : ∀ c ∈ s, isVerbatim c = true)
  (single : ¬ ['/', '/'] <+: s)

include single

theorem head_ne_slash_or_exists :
    s.head? ≠ some '/' ∨ ∃ rest, s = '/' :: rest ∧ rest.head? ≠ some '/' := by
  refine or_iff_not_imp_left.2 fun head => ?_
  obtain ⟨rest, rfl⟩ := List.head?_eq_some_iff.1 (Classical.not_not.1 head)
  refine ⟨rest, rfl, fun again => ?_⟩
  obtain ⟨more, rfl⟩ := List.head?_eq_some_iff.1 again
  exact single ⟨more, rfl⟩

include verbatim

theorem length_takeWhile_isAnySlash_lt : (s.takeWhile isAnySlash).length < 2 := by
  rcases head_ne_slash_or_exists single with head | ⟨rest, rfl, head⟩
  · rw [takeWhile_isAnySlash_of_head verbatim head]
    exact Nat.zero_lt_two
  · have verbatim_rest := (List.forall_mem_cons.1 verbatim).2
    rw [List.takeWhile_cons_of_pos (by decide), takeWhile_isAnySlash_of_head verbatim_rest head]
    exact Nat.one_lt_two

theorem length_readRelative_le {names : NameRules} {base url : Url} {front : List (List Char)}
    (directory : IsDirectory base front) (read : readRelative names base s = .ok url) :
    url.path.text.length ≤ base.path.text.length + s.length := by
  rcases head_ne_slash_or_exists single with head | ⟨rest, rfl, head⟩
  · obtain ⟨other, same, -, -, shorter, -⟩ := readRelative_directory verbatim names directory head
    rw [read] at same
    cases same
    omega
  · rw [readRelative_of_slash names base verbatim head] at read
    cases read
    exact (length_rooted_le _ rest).trans (Nat.le_add_left _ _)

/-- A file lies at no host or at that of the base, and then its path is no longer than the text behind
that of the base. -/
theorem length_readFile_le {names : NameRules} {base url : Url} {front : List (List Char)}
    (directory : IsDirectory base front) {own : Option Url} (mem : ∀ b ∈ own, b = base)
    (read : readFile names own s = .ok url) :
    url.authority = some localHost ∨
      url.path.text.length ≤ base.path.text.length + s.length := by
  rcases head_ne_slash_or_exists single with head | ⟨rest, rfl, head⟩
  · rw [readFile_of_head verbatim head] at read
    cases relative : own.filter fun _ => !beginsWithDrive s with
    | none =>
      rw [relative, Option.map_none, Option.getD_none] at read
      cases read
      exact .inl rfl
    | some b =>
      rw [relative, Option.map_some, Option.getD_some] at read
      obtain rfl := mem b (Option.filter_eq_some_iff.1 relative).1
      exact .inr (length_readRelative_le verbatim single directory read)
  · have verbatim_rest := (List.forall_mem_cons.1 verbatim).2
    have one_taken : ((('/' :: rest).take 2).takeWhile isAnySlash).length = 1 := by
      have first : (rest.take 1).head? ≠ some '/' := by
        rw [List.head?_take]
        simpa using head
      rw [List.take_succ_cons, List.takeWhile_cons_of_pos (by decide),
        takeWhile_isAnySlash_of_head (fun c mem => verbatim_rest c (List.mem_of_mem_take mem)) first]
      rfl
    simp only [readFile, pieces_eq verbatim, one_taken, List.tail_cons] at read
    cases relative : own.filter fun _ => !beginsWithDrive rest with
    | none =>
      simp only [relative] at read
      cases read
      exact .inl rfl
    | some b =>
      simp only [relative, Option.map_some, Option.getD_some] at read
      cases read
      refine (rootOf_cases b).imp (congrArg some) fun onHost => ?_
      rw [onHost, fileUrl, close, resolvePath_eq verbatim_rest]
      exact (length_rooted_le _ rest).trans (Nat.le_add_left _ _)

/-- What follows a scheme leads to the server of the base only in the scheme of the base, and then what
stands before it is missing in the path. -/
theorem length_readBehindScheme_le {names : NameRules} {base url : Url}
    {front : List (List Char)} (directory : IsDirectory base front) {a : Authority}
    (authority : base.authority = some a) (named : a.host.isEmpty = false) {scheme : List Char}
    (read : readBehindScheme names (some base) scheme s = .ok url)
    (same : url.server = base.server) :
    url.path.text.length ≤ base.path.text.length + s.length := by
  obtain ⟨same_scheme, same_place⟩ := Prod.mk.inj same
  rw [authority] at same_place
  rw [readBehindScheme] at read
  cases kind : kindOf scheme with
  | server =>
    simp only [kind, length_takeWhile_isAnySlash_lt verbatim single] at read
    -- Behind the scheme of the base a text is still relative to it.
    by_cases own : base.scheme = scheme
    · simp only [Option.filter, own] at read
      exact length_readRelative_le verbatim single directory (by simpa using read)
    · have elsewhere : url.scheme = scheme := by
        refine scheme_readBehindSlashes (by simpa [Option.filter, own] using read)
      exact absurd (same_scheme.symm.trans elsewhere) own
  | file =>
    simp only [kind] at read
    have mem : ∀ b ∈ (some base).filter fun b => b.scheme == scheme, b = base := by
      intro b mem
      exact (Option.some.inj (Option.filter_eq_some_iff.1 mem).1).symm
    refine (length_readFile_le verbatim single directory mem read).resolve_left fun unnamed => ?_
    rw [unnamed] at same_place
    cases a
    cases same_place
    cases named
  | other =>
    have no_slashes : Text.afterPrefix? ['/', '/'] s = none := by
      refine Option.eq_none_iff_forall_ne_some.2 fun rest found => single ?_
      exact ⟨rest, (Text.afterPrefix?_eq_some_iff.1 found).symm⟩
    simp only [kind, no_slashes] at read
    cases read
    cases same_place

end

/-! ## Either way -/

theorem parse_eq (names : NameRules) {base : Url} {front : List (List Char)}
    (directory : IsDirectory base front) {s : List Char} (verbatim : ∀ c ∈ s, isVerbatim c = true) :
    parse names (some base) (String.ofList s) =
      match cutScheme? s with
      | some (scheme, behind) => readBehindScheme names (some base) scheme behind
      | none => readReference names base s := by
  have parts : base.isOpaque = false := by rw [isOpaque, directory.1]
  simp only [parse, String.toList_ofList, clean_eq_self verbatim, parts, Bool.false_and]
  rfl

theorem head_ne_slash_of_single {s : List Char} (single : ¬ ['/', '/'] <:+: '/' :: s) :
    s.head? ≠ some '/' := by
  intro slash
  obtain ⟨rest, rfl⟩ := List.head?_eq_some_iff.1 slash
  exact single (List.IsPrefix.isInfix ⟨rest, rfl⟩)

theorem readReference_eq_readRelative (names : NameRules) (base : Url) {s : List Char}
    (verbatim : ∀ c ∈ s, isVerbatim c = true) (head : s.head? ≠ some '/')
    (plain : ¬ BeginsWithScheme s) : readReference names base s = readRelative names base s := by
  have noDrive : beginsWithDrive s = false :=
    Bool.eq_false_iff.2 fun drive => plain (beginsWithScheme_of_drive verbatim drive)
  rw [readReference]
  split
  · simp only [readFile_of_head verbatim head, noDrive]
    rfl
  · rfl

/-- A text that is read relative to a directory on a server leads to the place below it that the text
spells out, unless the text begins with a scheme or has a segment of dots. -/
theorem parse_below_iff (names : NameRules) {base : Url} {front : List (List Char)}
    (directory : IsDirectory base front) {a : Authority} (authority : base.authority = some a)
    (named : a.host.isEmpty = false) {s : List Char} (verbatim : ∀ c ∈ s, isVerbatim c = true)
    (single : ¬ ['/', '/'] <:+: '/' :: s) :
    (∃ url, parse names (some base) (String.ofList s) = .ok url ∧ url.server = base.server ∧
      url.path.text = base.path.text ++ s) ↔
      ¬ BeginsWithScheme s ∧ ∀ segment ∈ Text.splitAt '/' s, isDots segment = false := by
  rw [parse_eq names directory verbatim]
  by_cases begins : BeginsWithScheme s
  · refine iff_of_false ?_ fun plain => plain.1 begins
    rintro ⟨url, read, same, below⟩
    obtain ⟨written, behind, isScheme, rfl⟩ := begins
    rw [cutScheme?_append isScheme] at read
    have verbatim_behind : ∀ c ∈ behind, isVerbatim c = true := fun c mem =>
      verbatim c (List.mem_append_right _ (List.mem_cons_of_mem _ mem))
    have single_behind : ¬ ['/', '/'] <+: behind := fun double =>
      single (double.isInfix.trans (((List.suffix_cons ':' behind).trans
        (List.suffix_append ('/' :: written) _)).isInfix))
    have shorter := length_readBehindScheme_le verbatim_behind single_behind directory authority
      named read same
    rw [below, List.length_append, List.length_append, List.length_cons] at shorter
    omega
  · have head := head_ne_slash_of_single single
    rw [cutScheme?_eq_none_iff.2 begins]
    simp only [readReference_eq_readRelative names base verbatim head begins]
    obtain ⟨url, read, scheme, place, shorter, plain⟩ :=
      readRelative_directory verbatim names directory head
    have same : url.server = base.server := by rw [server, server, scheme, place]
    constructor
    · rintro ⟨other, read_other, -, below⟩
      rw [read] at read_other
      cases read_other
      rw [below, List.length_append] at shorter
      have no_dots : (Text.splitAt '/' s).countP isDots = 0 := by omega
      exact ⟨begins, fun segment mem =>
        Bool.eq_false_iff.2 (List.countP_eq_zero.1 no_dots segment mem)⟩
    · rintro ⟨-, no_dots⟩
      exact ⟨url, read, same, plain no_dots⟩

end Url

end TestImpact
