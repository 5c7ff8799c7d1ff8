import TestImpact.Proofs.RelativeReference

/-! The addresses of requests. The path of each tier is a text that is read relative to the base of a
transport, which has a slash at its end. So the request stays below the base, unless the text begins
with a scheme or has a segment that leads elsewhere. -/

namespace TestImpact

namespace Url

/-! ## Bases -/

/-- A path of segments that hold no slash. In the path of a file only the last one may be empty. -/
def UrlPath.IsSegmented (kind : SchemeKind) (path : UrlPath) : Prop :=
  ∃ parts, path = .segments parts ∧ (∀ part ∈ parts, '/' ∉ part) ∧
    (kind = .file → parts.head? = some [] → parts = [[]])

theorem slash_notMem_percentByte (b : UInt8) : '/' ∉ percentByte b := by
  have digits : ∀ n < 16, (Nat.digitChar n).toUpper ≠ '/' := by decide
  have high : b.toNat / 16 < 16 := Nat.div_lt_of_lt_mul (UInt8.toNat_lt b)
  have low : b.toNat % 16 < 16 := Nat.mod_lt _ (by decide)
  simp [percentByte, (digits _ high).symm, (digits _ low).symm]

theorem slash_notMem_percentEncode (set : EncodeSet) {s : List Char} (absent : '/' ∉ s) :
    '/' ∉ percentEncode set s := by
  intro mem
  obtain ⟨c, below, mem⟩ := List.mem_flatMap.1 mem
  by_cases encoded : set c
  · rw [if_pos encoded] at mem
    obtain ⟨b, -, mem⟩ := List.mem_flatMap.1 mem
    exact slash_notMem_percentByte b mem
  · rw [if_neg encoded] at mem
    exact absent (List.mem_singleton.1 mem ▸ below)

theorem slash_notMem_settle {kind : SchemeKind} {segment : List Char} (absent : '/' ∉ segment)
    (done : List (List Char)) : '/' ∉ settle kind done segment := by
  rw [settle]
  split
  · intro mem
    rcases List.mem_append.1 mem with letter | colon
    · exact absent (List.mem_of_mem_take letter)
    · exact absurd (List.mem_singleton.1 colon) (by decide)
  · exact absent

theorem shorten_subset (kind : SchemeKind) (done : List (List Char)) : shorten kind done ⊆ done := by
  rw [shorten.eq_def]
  split
  · split
    · exact List.Subset.refl _
    · exact List.nil_subset _
  · exact List.dropLast_subset done

theorem slash_notMem_walk {kind : SchemeKind} {done segments : List (List Char)}
    (before : ∀ part ∈ done, '/' ∉ part) (more : ∀ part ∈ segments, '/' ∉ part) :
    ∀ part ∈ walk kind done segments, '/' ∉ part := by
  induction segments generalizing done with
  | nil => exact before
  | cons segment rest ih =>
    obtain ⟨here, later⟩ := List.forall_mem_cons.1 more
    have ending : ∀ part ∈ (if rest.isEmpty then [[]] else [] : List (List Char)), '/' ∉ part := by
      cases rest with
      | nil => exact List.forall_mem_singleton.2 List.not_mem_nil
      | cons next rest => exact List.forall_mem_nil _
    rw [walk]
    by_cases double : isDoubleDot segment
    · rw [if_pos double]
      refine ih (List.forall_mem_append.2 ⟨fun part mem => ?_, ending⟩) later
      exact before part (shorten_subset kind done mem)
    by_cases single : isSingleDot segment
    · rw [if_neg double, if_pos single]
      exact ih (List.forall_mem_append.2 ⟨before, ending⟩) later
    · rw [if_neg double, if_neg single]
      exact ih (List.forall_mem_append.2
        ⟨before, List.forall_mem_singleton.2 (slash_notMem_settle here done)⟩) later

theorem dropEmptyFront_eq_of_head (segments : List (List Char))
    (empty : (dropEmptyFront segments).head? = some []) : dropEmptyFront segments = [[]] := by
  induction segments using dropEmptyFront.induct with
  | case1 next rest ih => exact ih empty
  | case2 segments single =>
    rw [dropEmptyFront] at empty ⊢
    · obtain ⟨rest, rfl⟩ := List.head?_eq_some_iff.1 empty
      cases rest with
      | nil => rfl
      | cons next rest => exact absurd rfl (single next rest)
    all_goals assumption

theorem isSegmented_resolvePath (kind : SchemeKind) (s : List Char) :
    (resolvePath kind [] s).IsSegmented kind := by
  refine ⟨_, rfl, fun part mem => ?_, fun file empty => ?_⟩
  · refine slash_notMem_walk (List.forall_mem_nil _) ?_ part ((tidy_suffix kind _).subset mem)
    refine List.forall_mem_map.2 fun piece mem => slash_notMem_percentEncode pathSet ?_
    exact Text.notMem_of_mem_splitAt mem
  · rw [tidy, if_pos file] at empty ⊢
    exact dropEmptyFront_eq_of_head _ empty

theorem isSegmented_readBehindSlashes {names : NameRules} {scheme s : List Char} {url : Url}
    (read : readBehindSlashes names scheme s = .ok url) : url.path.IsSegmented (kindOf url.scheme) := by
  obtain ⟨_, -, read⟩ := exists_of_bind_eq_ok read
  cases read
  dsimp only [close]
  split
  · exact ⟨[], rfl, List.forall_mem_nil _, nofun⟩
  · exact isSegmented_resolvePath _ _

theorem isSegmented_fileUrl (authority : Authority) (s : List Char) (p : Pieces) :
    (fileUrl authority (resolvePath .file [] s) p).path.IsSegmented
      (kindOf (fileUrl authority (resolvePath .file [] s) p).scheme) :=
  isSegmented_resolvePath .file s

theorem isSegmented_readFileHost {names : NameRules} {behind : List Char} {p : Pieces} {url : Url}
    (read : readFileHost names behind p = .ok url) : url.path.IsSegmented (kindOf url.scheme) := by
  rw [readFileHost] at read
  split at read
  · cases read
    exact isSegmented_fileUrl _ _ _
  · dsimp only at read
    split at read
    · cases read
      exact isSegmented_fileUrl _ _ _
    · obtain ⟨_, -, read⟩ := exists_of_bind_eq_ok read
      cases read
      exact isSegmented_fileUrl _ _ _

theorem isSegmented_readFile {names : NameRules} {s : List Char} {url : Url}
    (read : readFile names none s = .ok url) : url.path.IsSegmented (kindOf url.scheme) := by
  rw [readFile] at read
  split at read
  · cases read
    exact isSegmented_fileUrl _ _ _
  · cases read
    exact isSegmented_fileUrl _ _ _
  · exact isSegmented_readFileHost read

/-- A URL with an authority has a path of segments. -/
theorem isSegmented_of_parse {names : NameRules} {text : String} {base : Url} {a : Authority}
    (parsed : parse names none text = .ok base) (authority : base.authority = some a) :
    base.path.IsSegmented (kindOf base.scheme) := by
  rw [parse] at parsed
  cases cut : cutScheme? (clean text.toList) with
  | none =>
    simp only [cut] at parsed
    cases parsed
  | some parts =>
    obtain ⟨scheme, s⟩ := parts
    simp only [cut, readBehindScheme, Option.filter_none] at parsed
    cases kind : kindOf scheme with
    | server =>
      simp only [kind] at parsed
      exact isSegmented_readBehindSlashes parsed
    | file =>
      simp only [kind] at parsed
      exact isSegmented_readFile parsed
    | other =>
      simp only [kind] at parsed
      cases slashes : Text.afterPrefix? ['/', '/'] s with
      | some behind =>
        simp only [slashes] at parsed
        exact isSegmented_readBehindSlashes parsed
      | none =>
        simp only [slashes] at parsed
        cases parsed
        cases authority

/-- A path with a slash at its end. -/
def withSlash (path : List Char) : List Char :=
  if path.getLast? = some '/' then path else path ++ ['/']

theorem asDirectory_spec {base : Url} (segmented : base.path.IsSegmented (kindOf base.scheme)) :
    base.asDirectory.scheme = base.scheme ∧ base.asDirectory.authority = base.authority ∧
      base.asDirectory.path.text = withSlash base.path.text ∧
      ∃ front, base.asDirectory.IsDirectory front := by
  obtain ⟨parts, path, noSlash, neat⟩ := segmented
  rw [asDirectory]
  simp only [path]
  rcases parts.eq_nil_or_concat with rfl | ⟨front, part, rfl⟩
  · exact ⟨rfl, rfl, rfl, [], rfl, nofun⟩
  have whole : (UrlPath.segments [part]).text = '/' :: part := List.append_nil _
  simp only [List.concat_eq_append, List.getLast?_concat, Option.some.injEq, text_segments_append,
    whole]
  by_cases ends : part = []
  · rw [if_pos ends, path, List.concat_eq_append, text_segments_append, whole, ends]
    refine ⟨rfl, rfl, ?_, front, by rw [path, ends, List.concat_eq_append], fun file empty => ?_⟩
    · rw [withSlash, List.getLast?_concat, if_pos rfl]
    · -- A front with an empty segment makes the path longer than one that begins so.
      obtain ⟨rest, rfl⟩ := List.head?_eq_some_iff.1 empty
      have alone := congrArg List.length (neat file (by simp))
      simp at alone
  · rw [if_neg ends]
    refine ⟨rfl, rfl, ?_, front ++ [part], rfl, fun file empty => ?_⟩
    · have last : ((UrlPath.segments front).text ++ '/' :: part).getLast? ≠ some '/' := by
        obtain ⟨before, c, rfl⟩ := part.eq_nil_or_concat.resolve_left ends
        rw [List.concat_eq_append, ← List.cons_append, ← List.append_assoc, List.getLast?_concat]
        intro slash
        refine noSlash (before.concat c) (by simp) ?_
        simp [Option.some.inj slash]
      rw [withSlash, if_neg last, text_segments_append, text_segments_append, whole]
      rfl
    · rw [List.concat_eq_append] at neat
      have alone := neat file empty
      rw [← List.nil_append [[]]] at alone
      exact ends (List.singleton_inj.1 (List.append_inj' alone rfl).2)

end Url

/-! ## Paths of endpoints -/

/-- Marks that have no other meaning in a path. A percent sign stands before the digits of a byte. -/
def pathMarks : List Char :=
  ['-', '.', '_', '~', '!', '$', '&', '\'', '(', ')', '*', '+', ',', ';', '=', ':', '@', '%']

/-- Characters that a segment of a path is made of. -/
def isPathChar (c : Char) : Bool :=
  c.isAlphanum || c ∈ pathMarks

theorem toNat_lt_of_isPathChar {c : Char} (allowed : isPathChar c = true) : c.toNat < 0x7F := by
  rw [isPathChar, Bool.or_eq_true, decide_eq_true_eq] at allowed
  rcases allowed with word | mark
  · change (decide (65 ≤ c.toNat ∧ c.toNat ≤ 90) ||
      decide (97 ≤ c.toNat) && decide (c.toNat ≤ 122) ||
      decide (48 ≤ c.toNat) && decide (c.toNat ≤ 57)) = true at word
    simp only [Bool.or_eq_true, Bool.and_eq_true, decide_eq_true_eq] at word
    omega
  · have marks : pathMarks.all (·.toNat < 0x7F) = true := by decide
    exact of_decide_eq_true (List.all_eq_true.1 marks c mark)

theorem isVerbatim_of_isPathChar {c : Char} (allowed : isPathChar c = true) :
    Url.isVerbatim c = true := by
  have checked : (List.range 0x7F).all
      (fun n => !isPathChar (Char.ofNat n) || Url.isVerbatim (Char.ofNat n)) = true := by
    decide +kernel
  have here := List.all_eq_true.1 checked c.toNat
    (List.mem_range.2 (toNat_lt_of_isPathChar allowed))
  rwa [Char.ofNat_toNat, allowed, Bool.not_true, Bool.false_or] at here

/-- The segments of a path. Only the last one may be empty, where the path ends with a slash. -/
structure PathSegments (segments : List (List Char)) : Prop where
  some_segment : segments ≠ []
  chars : ∀ segment ∈ segments, segment.all isPathChar = true
  inner : ∀ segment ∈ segments.dropLast, segment ≠ []

namespace PathSegments

variable {segments : List (List Char)} (plain : PathSegments segments)

include plain

theorem slash_notMem : ∀ segment ∈ segments, '/' ∉ segment := by
  intro segment mem slash
  have allowed := List.all_eq_true.1 (plain.chars segment mem) '/' slash
  cases allowed

theorem splitAt_join : Text.splitAt '/' (Text.joinWith '/' segments) = segments :=
  Text.splitAt_joinWith plain.some_segment plain.slash_notMem

theorem verbatim : ∀ c ∈ Text.joinWith '/' segments, Url.isVerbatim c = true := by
  intro c mem
  have inside : c ∈ (Url.UrlPath.segments segments).text := by
    rw [Url.text_segments plain.some_segment]
    exact List.mem_cons_of_mem _ mem
  obtain ⟨segment, below, inside⟩ := List.mem_flatMap.1 inside
  rcases List.mem_cons.1 inside with rfl | inside
  · rfl
  · exact isVerbatim_of_isPathChar (List.all_eq_true.1 (plain.chars segment below) c inside)

theorem single_slashes : ¬ ['/', '/'] <:+: '/' :: Text.joinWith '/' segments := by
  rintro ⟨front, back, double⟩
  have pieces := congrArg (Text.splitAt '/') double
  have left : Text.splitAt '/' (front ++ ['/', '/'] ++ back) =
      Text.splitAt '/' front ++ [] :: Text.splitAt '/' back := by
    rw [List.append_assoc]
    exact (Text.splitAt_append_cons '/' front ('/' :: back)).trans
      (congrArg _ (Text.splitAt_append_cons '/' [] back))
  have right : Text.splitAt '/' ('/' :: Text.joinWith '/' segments) = [] :: segments :=
    (Text.splitAt_append_cons '/' [] _).trans (congrArg _ plain.splitAt_join)
  -- The piece between two slashes is empty, and it is not the last one.
  rw [left, right] at pieces
  cases before : Text.splitAt '/' front with
  | nil => exact Text.splitAt_ne_nil '/' front before
  | cons first more =>
    rw [before, List.cons_append] at pieces
    obtain ⟨-, tail⟩ := List.cons.inj pieces
    refine plain.inner [] ?_ rfl
    rw [← tail, List.dropLast_append_of_ne_nil (List.cons_ne_nil _ _),
      List.dropLast_cons_of_ne_nil (Text.splitAt_ne_nil '/' back)]
    exact List.mem_append_right _ List.mem_cons_self

end PathSegments

/-! ## The paths of the tiers -/

/-- Where no slash ends the last segment of a path, none is taken off. -/
theorem dropEndWhile_text (front : List (List Char)) {last : List Char} (some_char : last ≠ [])
    (noSlash : '/' ∉ last) :
    Text.dropEndWhile (· == '/') (Url.UrlPath.segments (front ++ [last])).text =
      (Url.UrlPath.segments (front ++ [last])).text := by
  obtain ⟨before, c, rfl⟩ := last.eq_nil_or_concat.resolve_left some_char
  have whole : (Url.UrlPath.segments [before.concat c]).text = '/' :: before ++ [c] := by
    rw [List.concat_eq_append]
    exact List.append_nil _
  have no_slash : c ≠ '/' := by
    rintro rfl
    exact noSlash (by simp)
  rw [Url.text_segments_append, whole, ← List.append_assoc, Text.dropEndWhile_concat,
    if_neg (by simpa using no_slash)]

/-- A path with a slash in front of its segments. -/
def IsRooted (path : String) (segments : List (List Char)) : Prop :=
  path.toList = '/' :: Text.joinWith '/' segments

section

variable {segments : List (List Char)} (plain : PathSegments segments) {path : String}

include plain

theorem isRooted_normalizePath (written : path.toList = Text.joinWith '/' segments ∨
    IsRooted path segments) : IsRooted (normalizePath path) segments := by
  rw [normalizePath]
  rcases written with bare | rooted
  · have no_slash : Text.hasPrefix "/" path = false := by
      refine Bool.eq_false_iff.2 fun begins => plain.single_slashes ?_
      obtain ⟨rest, same⟩ := Text.hasPrefix_iff.1 begins
      exact ⟨[], rest, by rw [← bare, ← same]; rfl⟩
    rw [no_slash, if_neg Bool.false_ne_true, IsRooted, String.toList_append, bare]
    rfl
  · have begins : Text.hasPrefix "/" path = true :=
      Text.hasPrefix_iff.2 ⟨Text.joinWith '/' segments, rooted.symm⟩
    rwa [begins, if_pos rfl]

omit plain in
theorem PathSegments.cons {segment : List Char} (plain : PathSegments segments)
    (some_char : segment ≠ []) (chars : segment.all isPathChar = true) :
    PathSegments (segment :: segments) where
  some_segment := List.cons_ne_nil segment segments
  chars := List.forall_mem_cons.2 ⟨chars, plain.chars⟩
  inner := by
    rw [List.dropLast_cons_of_ne_nil plain.some_segment]
    exact List.forall_mem_cons.2 ⟨some_char, plain.inner⟩

theorem isRooted_versioned {version : String} (rooted : IsRooted path segments) :
    IsRooted ((EndpointTier.versioned version).change path) (version.toList :: segments) := by
  obtain ⟨first, more, rfl⟩ := List.exists_cons_of_ne_nil plain.some_segment
  rw [IsRooted, EndpointTier.versioned, String.toList_append, String.toList_append, rooted]
  rfl

omit plain in
theorem isRooted_stripTrailingSlashes
    (kept : Text.dropEndWhile (· == '/') path.toList = '/' :: Text.joinWith '/' segments) :
    IsRooted (stripTrailingSlashes path) segments := by
  rw [stripTrailingSlashes, kept]
  exact String.toList_ofList

theorem exists_isRooted_stripped (rooted : IsRooted path segments) :
    ∃ others, PathSegments others ∧ IsRooted (stripTrailingSlashes path) others := by
  obtain ⟨front, last, rfl⟩ := segments.eq_nil_or_concat.resolve_left plain.some_segment
  rw [List.concat_eq_append] at plain rooted
  have inner := plain.inner
  rw [List.dropLast_concat] at inner
  have text := (Url.text_segments plain.some_segment).symm
  by_cases open_end : last = []
  · -- Only the slash behind the last name goes, since no name before it is empty.
    subst open_end
    rcases front.eq_nil_or_concat with rfl | ⟨init, segment, rfl⟩
    · refine ⟨_, plain, ?_⟩
      rw [IsRooted, stripTrailingSlashes, rooted]
      rfl
    rw [List.concat_eq_append] at plain rooted inner text
    have some_front : init ++ [segment] ≠ [] := by simp
    have mem : segment ∈ init ++ [segment] := List.mem_append_right _ List.mem_cons_self
    refine ⟨init ++ [segment], ⟨some_front, ?_, ?_⟩, isRooted_stripTrailingSlashes ?_⟩
    · exact fun other below => plain.chars other (List.mem_append_left _ below)
    · exact fun other below => inner other (List.dropLast_subset _ below)
    · have closed : (Url.UrlPath.segments (init ++ [segment] ++ [[]])).text =
          (Url.UrlPath.segments (init ++ [segment])).text ++ ['/'] :=
        Url.text_segments_append _ _
      rw [rooted, text, closed, Text.dropEndWhile_concat, if_pos (beq_self_eq_true '/'),
        ← Url.text_segments some_front]
      exact dropEndWhile_text init (inner segment mem)
        (plain.slash_notMem segment (List.mem_append_left _ mem))
  · refine ⟨_, plain, isRooted_stripTrailingSlashes ?_⟩
    rw [rooted, text]
    exact dropEndWhile_text front open_end
      (plain.slash_notMem last (List.mem_append_right _ List.mem_cons_self))

end

/-! ## Plurals -/

theorem isEmpty_pluralWord {word : List Char} (some_char : word ≠ []) :
    (pluralWord word).isEmpty = false := by
  rw [pluralWord]
  split
  · simp
  · split
    · simpa using some_char
    · simp

theorem all_isPathChar_pluralWord {word : List Char} (chars : word.all isPathChar = true) :
    (pluralWord word).all isPathChar = true := by
  rw [pluralWord]
  cases found : Text.beforeSuffix? ['y'] word with
  | some stem =>
    obtain rfl := Text.beforeSuffix?_eq_some_iff.1 found
    rw [List.all_append, Bool.and_eq_true] at chars ⊢
    exact ⟨chars.1, by decide⟩
  | none =>
    by_cases plural : word.getLast? = some 's'
    · simpa only [plural, if_true] using chars
    · simp only [plural, if_false]
      rw [List.all_append, Bool.and_eq_true]
      exact ⟨chars, by decide⟩

theorem map_isEmpty_pluralizeFirst (segments : List (List Char)) :
    (pluralizeFirst segments).map List.isEmpty = segments.map List.isEmpty := by
  induction segments with
  | nil => rfl
  | cons segment rest ih =>
    rw [pluralizeFirst]
    by_cases names : namesResource segment
    · have some_char : segment.isEmpty = false := by
        rw [namesResource, Bool.and_eq_true, Bool.not_eq_true'] at names
        exact names.1
      rw [if_pos names, List.map_cons, List.map_cons, some_char,
        isEmpty_pluralWord (by simpa using some_char)]
    · rw [if_neg names, List.map_cons, List.map_cons, ih]

theorem all_isPathChar_pluralizeFirst {segments : List (List Char)}
    (chars : ∀ segment ∈ segments, segment.all isPathChar = true) :
    ∀ segment ∈ pluralizeFirst segments, segment.all isPathChar = true := by
  induction segments with
  | nil => exact chars
  | cons segment rest ih =>
    obtain ⟨here, later⟩ := List.forall_mem_cons.1 chars
    rw [pluralizeFirst]
    by_cases names : namesResource segment
    · rw [if_pos names]
      exact List.forall_mem_cons.2 ⟨all_isPathChar_pluralWord here, later⟩
    · rw [if_neg names]
      exact List.forall_mem_cons.2 ⟨here, ih later⟩

/-- What stands in front of the first slash names no resource. -/
theorem pluralizeFirst_append_nil (segments : List (List Char)) :
    pluralizeFirst (segments ++ [[]]) = pluralizeFirst segments ++ [[]] := by
  induction segments with
  | nil => rfl
  | cons segment rest ih =>
    rw [List.cons_append, pluralizeFirst, pluralizeFirst, ih]
    by_cases names : namesResource segment
    · rw [if_pos names, if_pos names]
      rfl
    · rw [if_neg names, if_neg names]
      rfl

theorem PathSegments.pluralized {segments : List (List Char)} (plain : PathSegments segments) :
    PathSegments (pluralizeFirst segments.reverse).reverse := by
  have same : (pluralizeFirst segments.reverse).reverse.map List.isEmpty =
      segments.map List.isEmpty := by
    rw [List.map_reverse, map_isEmpty_pluralizeFirst, List.map_reverse, List.reverse_reverse]
  refine ⟨fun none => ?_, fun segment mem => ?_, fun segment mem empty => ?_⟩
  · rw [none] at same
    exact plain.some_segment (List.map_eq_nil_iff.1 same.symm)
  · refine all_isPathChar_pluralizeFirst (fun other below => ?_) segment (List.mem_reverse.1 mem)
    exact plain.chars other (List.mem_reverse.1 below)
  · have ends : segment.isEmpty ∈ (segments.map List.isEmpty).dropLast := by
      rw [← same, ← List.map_dropLast]
      exact List.mem_map_of_mem mem
    rw [← List.map_dropLast] at ends
    obtain ⟨other, below, both⟩ := List.mem_map.1 ends
    rw [empty] at both
    exact plain.inner other below (List.isEmpty_iff.1 both)

theorem isRooted_pluralizeResource {segments : List (List Char)} (plain : PathSegments segments)
    {path : String} (rooted : IsRooted path segments) :
    IsRooted (pluralizeResource path) (pluralizeFirst segments.reverse).reverse := by
  have pieces : Text.splitAt '/' path.toList = [] :: segments := by
    rw [rooted]
    exact (Text.splitAt_append_cons '/' [] _).trans (congrArg _ plain.splitAt_join)
  obtain ⟨first, more, same⟩ := List.exists_cons_of_ne_nil plain.pluralized.some_segment
  rw [IsRooted, pluralizeResource, String.toList_ofList, pieces, List.reverse_cons,
    pluralizeFirst_append_nil, List.reverse_concat, same]
  rfl

theorem exists_isRooted_change {segments : List (List Char)} (plain : PathSegments segments)
    {path : String} (rooted : IsRooted path segments) {tier : EndpointTier}
    (mem : tier ∈ EndpointTier.all) :
    ∃ others, PathSegments others ∧ IsRooted (tier.change path) others := by
  simp only [EndpointTier.all, List.mem_cons, List.not_mem_nil, or_false] at mem
  rcases mem with rfl | rfl | rfl | rfl | rfl | rfl
  · exact ⟨segments, plain, rooted⟩
  · exact ⟨_, plain.cons (by decide) (by decide), isRooted_versioned plain rooted⟩
  · exact ⟨_, plain.cons (by decide) (by decide), isRooted_versioned plain rooted⟩
  · exact ⟨_, plain.cons (by decide) (by decide), isRooted_versioned plain rooted⟩
  · exact exists_isRooted_stripped plain rooted
  · exact ⟨_, plain.pluralized, isRooted_pluralizeResource plain rooted⟩

/-! ## Requests -/

theorem PathSegments.dropWhile_of_isRooted {segments : List (List Char)}
    (plain : PathSegments segments) {path : String} (rooted : IsRooted path segments) :
    path.toList.dropWhile (· == '/') = Text.joinWith '/' segments := by
  have head := Url.head_ne_slash_of_single plain.single_slashes
  rw [rooted, List.dropWhile_cons_of_pos (by decide)]
  cases chars : Text.joinWith '/' segments with
  | nil => rfl
  | cons c rest =>
    rw [chars] at head
    have no_slash : c ≠ '/' := fun same => head (congrArg some same)
    exact List.dropWhile_cons_of_neg (by simpa using no_slash)

theorem HttpTransport.urlFor_eq_ok_iff {t : HttpTransport} {path : String} {url : Url} :
    t.urlFor path = .ok url ↔
      Url.parse t.names (some t.base) (String.ofList (path.toList.dropWhile (· == '/'))) =
        .ok url := by
  delta HttpTransport.urlFor
  cases Url.parse t.names (some t.base) (String.ofList (path.toList.dropWhile (· == '/'))) with
  | ok other => simp only [Except.ok.injEq]
  | error e => simp only [reduceCtorEq]

/-- **The request of a tier stays below the base of its transport, unless the path is read as something
else.** For a base with a host and a path of segments, with a slash or none at its front, the address
that is requested has the scheme, the host and the port of the base, and its path is that of the base
with a slash at the end and then the path of the tier without its first slash, exactly where the latter
does not begin with a scheme and none of its segments is one or two dots, as they are or in digits. How
international names are read does not matter. -/
theorem urlFor_below_base_iff {names : Url.NameRules} {address : String} {base : Url}
    {a : Url.Authority} (parsed : Url.parse names none address = .ok base)
    (authority : base.authority = some a) (named : a.host.isEmpty = false)
    {segments : List (List Char)} (plain : PathSegments segments) {path : String}
    (written : path.toList = Text.joinWith '/' segments ∨ IsRooted path segments)
    {tier : EndpointTier} (mem : tier ∈ EndpointTier.all) :
    let candidate := tier.change (normalizePath path)
    ∃ transport below, HttpTransport.ofBase names address = .ok transport ∧
      candidate.toList = '/' :: below ∧
      ((∃ url, transport.urlFor candidate = .ok url ∧ url.server = base.server ∧
          url.path.text = Url.withSlash base.path.text ++ below) ↔
        ¬ Url.BeginsWithScheme below ∧
          ∀ segment ∈ Text.splitAt '/' below, Url.isDots segment = false) := by
  intro candidate
  obtain ⟨others, plain_others, rooted⟩ :=
    exists_isRooted_change plain (isRooted_normalizePath plain written) mem
  obtain ⟨same_scheme, same_authority, base_text, front, directory⟩ :=
    Url.asDirectory_spec (Url.isSegmented_of_parse parsed authority)
  refine ⟨⟨base.asDirectory, names⟩, Text.joinWith '/' others, ?_, rooted, ?_⟩
  · rw [HttpTransport.ofBase, parsed]
  have same_server : base.asDirectory.server = base.server := by
    rw [Url.server, Url.server, same_scheme, same_authority]
  have iff := Url.parse_below_iff names directory (same_authority.trans authority) named
    plain_others.verbatim plain_others.single_slashes
  rw [same_server, base_text] at iff
  rw [← iff]
  refine exists_congr fun url => and_congr_left fun _ => ?_
  rw [HttpTransport.urlFor_eq_ok_iff, plain_others.dropWhile_of_isRooted rooted]

/-- Rules that know no international name. -/
def plainNames : Url.NameRules := fun _ => none

/-- The base at `http://127.0.0.1:1/app`. -/
def appBase : Url :=
  ⟨"http".toList, some ⟨[], [], .ipv4 0x7F000001, some 1⟩, .segments ["app".toList], none, none⟩

theorem appBase_parsed : Url.parse plainNames none "http://127.0.0.1:1/app" = .ok appBase := by
  rfl

/-- A path with a parameter, in the tier that puts it in the plural. -/
theorem urlFor_below_base_parameter :
    Url.parse plainNames none "http://127.0.0.1:1/app" = .ok appBase ∧
      PathSegments ["user".toList, ":id".toList] ∧
      ∃ transport url,
        HttpTransport.ofBase plainNames "http://127.0.0.1:1/app" = .ok transport ∧
        transport.urlFor (pluralizeResource (normalizePath "user/:id")) = .ok url ∧
        url.server = appBase.server ∧ url.path.text = "/app/users/:id".toList := by
  have plain : PathSegments ["user".toList, ":id".toList] :=
    ⟨by decide, by decide, by decide⟩
  have last : (⟨pluralizeResource, none⟩ : EndpointTier) ∈ EndpointTier.all := by
    simp [EndpointTier.all]
  have written : "user/:id".toList = Text.joinWith '/' ["user".toList, ":id".toList] := by decide
  obtain ⟨transport, below, made, candidate, iff⟩ :=
    urlFor_below_base_iff appBase_parsed rfl (by decide) plain (.inl written) last
  have plural : (pluralizeResource (normalizePath "user/:id")).toList = "/users/:id".toList := by
    decide +kernel
  obtain rfl : "users/:id".toList = below := (List.cons.inj (plural.symm.trans candidate)).2
  have no_scheme : ¬ Url.BeginsWithScheme "users/:id".toList :=
    Url.cutScheme?_eq_none_iff.1 (by decide)
  obtain ⟨url, read, same, text⟩ := iff.2 ⟨no_scheme, by decide⟩
  exact ⟨appBase_parsed, plain, transport, url, made, read, same, text⟩

/-- A colon in the first segment makes what stands before it a scheme: that of the base, which is then
missing in the path, or one that leads to no host. -/
theorem colon_read_as_scheme :
    PathSegments ["http:list".toList] ∧ PathSegments ["users:list".toList] ∧
      Url.parse plainNames none "http://127.0.0.1:1/app" = .ok appBase ∧
      ∃ transport own other,
        HttpTransport.ofBase plainNames "http://127.0.0.1:1/app" = .ok transport ∧
        transport.urlFor (normalizePath "/http:list") = .ok own ∧
        own.text = "http://127.0.0.1:1/app/list" ∧
        transport.urlFor (normalizePath "/users:list") = .ok other ∧
        other.text = "users:list" ∧ other.server ≠ appBase.server := by
  have plain (segment : List Char) (allowed : segment.all isPathChar = true) :
      PathSegments [segment] :=
    ⟨List.cons_ne_nil _ _, List.forall_mem_singleton.2 allowed, List.forall_mem_nil _⟩
  refine ⟨plain _ (by decide), plain _ (by decide), appBase_parsed,
    ⟨appBase.asDirectory, plainNames⟩,
    { appBase with path := .segments ["app".toList, "list".toList] },
    ⟨"users".toList, none, .opaqueText "list".toList, none, none⟩, ?_, ?_, by decide, ?_,
    by decide, by decide⟩
  · rw [HttpTransport.ofBase, appBase_parsed]
  · rfl
  · rfl

end TestImpact
