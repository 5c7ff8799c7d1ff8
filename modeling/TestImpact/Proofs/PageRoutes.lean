import Mathlib.Data.List.Basic
import TestImpact.Target.Index

/-! The routes of pages. A file is a page where one of its directories is `pages`: with a slash in front
of its path such a directory stands between two slashes, and the first one is where this first occurs.
The extension begins at the last dot, which is in the name of the file, and `index` is the whole name
where a slash stands in front of it or nothing. -/

namespace TestImpact

namespace Text

variable {mark : Char} {word : List Char}

/-- What stands between two marks is one of the pieces, and not the last one. -/
theorem enclosed_infix_iff (absent : mark ∉ word) {s : List Char} :
    mark :: word ++ [mark] <:+: mark :: s ↔ word ∈ (splitAt mark s).dropLast := by
  constructor
  · intro occurs
    obtain ⟨front, back, written⟩ := occurs
    have here : splitAt mark (word ++ mark :: back) = word :: splitAt mark back := by
      rw [splitAt_append_cons, splitAt_of_notMem absent, List.singleton_append]
    have first : word ∈ (word :: splitAt mark back).dropLast := by
      rw [List.dropLast_cons_of_ne_nil (splitAt_ne_nil mark back)]
      exact List.mem_cons_self
    cases front with
    | nil =>
      have same : word ++ mark :: back = s := by simpa using written
      rw [← same, here]
      exact first
    | cons c front =>
      have same : c = mark ∧ front ++ mark :: (word ++ mark :: back) = s := by simpa using written
      rw [← same.2, splitAt_append_cons, here, List.dropLast_append_of_ne_nil (List.cons_ne_nil _ _)]
      exact List.mem_append_right _ first
  · intro mem
    obtain ⟨front, back, pieces⟩ := List.append_of_mem mem
    have whole := List.dropLast_concat_getLast (splitAt_ne_nil mark s)
    rw [pieces, List.append_assoc, List.cons_append] at whole
    have marked : mark :: s = (splitAt mark s).flatMap (mark :: ·) := by
      rw [← cons_joinWith mark (splitAt_ne_nil mark s), joinWith_splitAt]
    have next (last : List Char) : [mark] <+: (back ++ [last]).flatMap (mark :: ·) := by
      cases back <;> simp
    rw [marked, ← whole, List.flatMap_append, List.flatMap_cons]
    exact ((List.prefix_append_right_inj _).2 (next _)).isInfix.trans (List.suffix_append _ _).isInfix

end Text

/-! ## Directories in a row -/

/-- Directories with a slash behind each. -/
def directoryRow (directories : List (List Char)) : List Char :=
  directories.flatMap fun directory => directory ++ ['/']

theorem directoryRow_concat (directories : List (List Char)) (last : List Char) :
    directoryRow (directories ++ [last]) = directoryRow directories ++ last ++ ['/'] := by
  rw [directoryRow, List.flatMap_append, List.flatMap_singleton, List.append_assoc]
  rfl

theorem directoryRow_cases (directories : List (List Char)) :
    directoryRow directories = [] ∨ ∃ front, directoryRow directories = front ++ ['/'] := by
  rcases directories.eq_nil_or_concat with rfl | ⟨front, last, rfl⟩
  · exact Or.inl rfl
  · rw [List.concat_eq_append]
    exact Or.inr ⟨_, directoryRow_concat front last⟩

theorem directoryRow_append (directories : List (List Char)) (last : List Char) :
    directoryRow directories ++ last = Text.joinWith '/' (directories ++ [last]) := by
  induction directories with
  | nil => rfl
  | cons directory more ih =>
    rw [directoryRow, List.flatMap_cons, List.append_assoc, ← directoryRow, ih, List.append_assoc]
    cases more <;> rfl

theorem getLast?_joinWith_ne {directories : List (List Char)}
    (named : ∀ directory ∈ directories, directory ≠ [] ∧ '/' ∉ directory) :
    (Text.joinWith '/' directories).getLast? ≠ some '/' := by
  rcases directories.eq_nil_or_concat with rfl | ⟨front, last, rfl⟩
  · nofun
  · rw [List.concat_eq_append] at named ⊢
    obtain ⟨some_char, no_slash⟩ := named last (List.mem_append_right _ List.mem_cons_self)
    rw [← directoryRow_append, List.getLast?_append_of_ne_nil _ some_char]
    exact fun slash => no_slash (List.mem_of_getLast? slash)

/-- The slash behind the last directory is the only one at the end. -/
theorem dropEndWhile_directoryRow {directories : List (List Char)}
    (named : ∀ directory ∈ directories, directory ≠ [] ∧ '/' ∉ directory) :
    Text.dropEndWhile (· == '/') (directoryRow directories) = Text.joinWith '/' directories := by
  have ends := getLast?_joinWith_ne named
  rcases directories.eq_nil_or_concat with rfl | ⟨front, last, rfl⟩
  · rfl
  · rw [List.concat_eq_append] at ends ⊢
    rw [directoryRow_concat, Text.dropEndWhile_concat, if_pos (beq_self_eq_true '/'),
      directoryRow_append]
    refine Text.dropEndWhile_of_getLast? fun c last_char => beq_eq_false_iff_ne.2 fun slash => ends ?_
    rw [last_char, slash]

/-! ## The directory of pages -/

/-- With a slash in front of the path there is one in front of its first directory too. -/
theorem belowPages?_eq (path : List Char) :
    belowPages? path = (Text.cutFirst? ('/' :: pagesDirectory) ('/' :: path)).map Prod.snd := by
  have front : Text.afterPrefix? ('/' :: pagesDirectory) ('/' :: path) =
      Text.afterPrefix? pagesDirectory path := rfl
  rw [belowPages?, Text.cutFirst?, front]
  cases Text.afterPrefix? pagesDirectory path with
  | some rest => rfl
  | none =>
    rw [Option.map_map]
    rfl

theorem enclosed_pagesDirectory : '/' :: "pages".toList ++ ['/'] = '/' :: pagesDirectory := rfl

theorem belowPages?_eq_none_iff {path : List Char} :
    belowPages? path = none ↔ "pages".toList ∉ (path.splitOn '/').dropLast := by
  rw [belowPages?_eq, Option.map_eq_none_iff, Text.cutFirst?_eq_none_iff, ← enclosed_pagesDirectory,
    Text.enclosed_infix_iff (by decide), Text.splitAt_eq_splitOn]

theorem pageRoute?_eq_none_iff {path : String} :
    pageRoute? path = none ↔ "pages".toList ∉ (path.toList.splitOn '/').dropLast := by
  rw [pageRoute?, Option.map_eq_none_iff, belowPages?_eq_none_iff]

/-- The path of a page: what stands above the first directory `pages`, the directories below it, and the
name of the file, which has an extension. -/
structure PageFile where
  above : List Char
  directories : List (List Char)
  stem : List Char
  extension : List Char
  closed : above = [] ∨ above.getLast? = some '/'
  not_first : ¬ "pages/".toList <+: above
  not_inside : ¬ "/pages/".toList <:+: above
  directory_named : ∀ directory ∈ directories, directory ≠ [] ∧ '/' ∉ directory
  stem_named : stem ≠ [] ∧ '/' ∉ stem
  extension_plain : '.' ∉ extension ∧ '/' ∉ extension

namespace PageFile

variable (p : PageFile)

/-- The path below `pages`, without the extension. -/
def below : List Char := directoryRow p.directories ++ p.stem

def path : String :=
  String.ofList (p.above ++ "pages/".toList ++ (p.below ++ '.' :: p.extension))

/-- The directories and the stem with slashes between them, without a stem `index`. -/
def route : List Char :=
  '/' :: Text.joinWith '/' (p.directories ++ if p.stem = "index".toList then [] else [p.stem])

theorem exists_above_eq : ∃ front, '/' :: p.above = front ++ ['/'] := by
  cases p.closed with
  | inl none =>
    rw [none]
    exact ⟨[], rfl⟩
  | inr closed =>
    obtain ⟨front, written⟩ := List.getLast?_eq_some_iff.1 closed
    exact ⟨'/' :: front, by rw [written]; rfl⟩

theorem belowPages?_path : belowPages? p.path.toList = some (p.below ++ '.' :: p.extension) := by
  obtain ⟨front, written⟩ := p.exists_above_eq
  have first : ¬ '/' :: "pages".toList ++ ['/'] <:+: front ++ '/' :: "pages".toList := by
    have shifted : front ++ '/' :: "pages".toList = '/' :: p.above ++ "pages".toList := by
      rw [written, List.append_assoc]
      rfl
    rw [shifted, Text.infix_append_iff_of_last (by decide), List.infix_cons_iff, not_or]
    exact ⟨fun begins => p.not_first (List.cons_prefix_cons.1 begins).2, p.not_inside⟩
  have parted : '/' :: p.path.toList =
      front ++ ('/' :: "pages".toList ++ ['/'] ++ (p.below ++ '.' :: p.extension)) := by
    rw [path, String.toList_ofList, List.append_assoc, ← List.cons_append, written, List.append_assoc]
    rfl
  rw [belowPages?_eq, ← enclosed_pagesDirectory, parted, Text.cutFirst?_append _ first]
  rfl

theorem below_eq : p.below = Text.joinWith '/' (p.directories ++ [p.stem]) :=
  directoryRow_append p.directories p.stem

theorem cutLast?_below :
    Text.cutLast? ['.'] (p.below ++ '.' :: p.extension) = some (p.below, p.extension) := by
  have last : ¬ ['.'] <:+: [] ++ p.extension := by
    intro occurs
    exact p.extension_plain.1 (occurs.subset (List.mem_singleton_self '.'))
  have cut := Text.cutLast?_append p.below last
  rwa [List.append_assoc] at cut

/-- A stem that is not `index` may end in it, but then neither a slash nor nothing stands in front. -/
theorem front_of_index {front : List Char} (other : p.stem ≠ "index".toList)
    (ends : p.below = front ++ "index".toList) :
    (front.isEmpty || front.getLast? == some '/') = false := by
  rw [below, List.append_eq_append_iff] at ends
  rcases ends with ⟨more, rfl, stem⟩ | ⟨more, row, word⟩
  · -- The stem is longer than the word, and what it has more holds no slash.
    rcases more.eq_nil_or_concat with rfl | ⟨before, c, rfl⟩
    · exact absurd stem other
    · have differs : c ≠ '/' := by
        rintro rfl
        exact p.stem_named.2 (by simp [stem])
      simp [← List.append_assoc, differs]
  · -- The word is longer than the stem, and the last character that it has more ends a directory.
    rcases more.eq_nil_or_concat with rfl | ⟨before, c, rfl⟩
    · exact absurd word.symm other
    · rw [List.concat_eq_append, ← List.append_assoc] at row
      rcases directoryRow_cases p.directories with none | ⟨init, closed⟩
      · simp [none] at row
      · have slash : '/' = c := List.singleton_inj.1 (List.append_inj' (closed.symm.trans row) rfl).2
        have inside : '/' ∈ "index".toList := by simp [word, ← slash]
        exact absurd inside (by decide)

theorem routeBelow_path : '/' :: routeBelow (p.below ++ '.' :: p.extension) = p.route := by
  rw [routeBelow, cutLast?_below, route]
  simp only [Option.map_some, Option.getD_some]
  by_cases index : p.stem = "index".toList
  · have found : Text.beforeSuffix? "index".toList p.below = some (directoryRow p.directories) := by
      rw [Text.beforeSuffix?_eq_some_iff, below, index]
    have whole : ((directoryRow p.directories).isEmpty ||
        (directoryRow p.directories).getLast? == some '/') = true := by
      rcases directoryRow_cases p.directories with none | ⟨init, closed⟩
      · simp [none]
      · simp [closed]
    simp only [found, whole, if_true, if_pos index, List.append_nil]
    rw [dropEndWhile_directoryRow p.directory_named]
  · rw [if_neg index, ← below_eq]
    cases found : Text.beforeSuffix? "index".toList p.below with
    | none => rfl
    | some front =>
      have kept := p.front_of_index index (Text.beforeSuffix?_eq_some_iff.1 found)
      simp only [kept]
      rfl

/-- Only the route `/` ends with a slash. -/
theorem route_eq_of_slash (ends : p.route.getLast? = some '/') : p.route = ['/'] := by
  have named : ∀ piece ∈ p.directories ++ (if p.stem = "index".toList then [] else [p.stem]),
      piece ≠ [] ∧ '/' ∉ piece := by
    refine List.forall_mem_append.2 ⟨p.directory_named, ?_⟩
    split
    · exact List.forall_mem_nil _
    · exact List.forall_mem_singleton.2 p.stem_named
  have inner := getLast?_joinWith_ne named
  rw [route] at ends ⊢
  cases pieces : Text.joinWith '/' (p.directories ++ if p.stem = "index".toList then [] else [p.stem]) with
  | nil => rfl
  | cons c rest =>
    rw [pieces, List.getLast?_cons_cons] at ends
    rw [pieces] at inner
    exact absurd ends inner

end PageFile

/-- A page below two directories `pages`, and below one whose name only ends in this. Its own name has two
dots, and ends in `index` before the last one. -/
def reindexPage : PageFile where
  above := "old.pages/src/".toList
  directories := ["users.v2".toList, "pages".toList]
  stem := "profile.reindex".toList
  extension := "tsx".toList
  closed := by decide
  not_first := by decide
  not_inside := by decide +kernel
  directory_named := by decide
  stem_named := by decide
  extension_plain := by decide

/-- **The route of a page is its path below the first directory `pages`.** It has the directories and the
name of the file without the extension, and without the name where this is `index`, so it ends with a
slash only where nothing is left. A path without such a directory has no route, and every other one
has one. -/
theorem pageRoute?_below_pages :
    (∀ p : PageFile, pageRoute? p.path = some (String.ofList p.route) ∧
      (p.route.getLast? = some '/' → p.route = ['/'])) ∧
      ∀ path : String, pageRoute? path = none ↔ "pages".toList ∉ (path.toList.splitOn '/').dropLast := by
  refine ⟨fun p => ⟨?_, p.route_eq_of_slash⟩, fun path => pageRoute?_eq_none_iff⟩
  rw [pageRoute?, p.belowPages?_path, Option.map_some, p.routeBelow_path]

theorem pageRoute?_below_pages_reindex :
    reindexPage.path = "old.pages/src/pages/users.v2/pages/profile.reindex.tsx" ∧
      pageRoute? reindexPage.path = some "/users.v2/pages/profile.reindex" := by
  have route : String.ofList reindexPage.route = "/users.v2/pages/profile.reindex" := by decide +kernel
  refine ⟨by decide +kernel, ?_⟩
  rw [(pageRoute?_below_pages.1 reindexPage).1, route]

example : pageRoute? "src/pages/users/index.jsx" = some "/users" ∧
    pageRoute? "pages/index.tsx" = some "/" ∧ pageRoute? "src/pages" = none := by decide +kernel

end TestImpact
