import TestImpact.Proofs.FileTreeWalk

/-! The place that a path leads to, for a path that is put together from names: the names are the
parts of its text, and they are walked one by one from the place of the directory that it is seen
from. -/

namespace TestImpact

namespace Path

/-- The path that names make. -/
def ofNames (names : List String) : String :=
  "/".intercalate names

theorem toList_ofNames (names : List String) :
    (ofNames names).toList = Text.joinWith '/' (names.map String.toList) := by
  rw [ofNames, String.toList_intercalate, Text.joinWith_eq_intercalate]
  rfl

theorem toList_ofNames_cons (name : String) {rest : List String} (more : rest ≠ []) :
    (ofNames (name :: rest)).toList = name.toList ++ '/' :: (ofNames rest).toList := by
  rw [ofNames, String.intercalate_cons_of_ne_nil more, String.append_assoc, String.toList_append,
    String.toList_append]
  rfl

theorem parts_ofNames {names : List String} (some_name : names ≠ [])
    (noSlash : ∀ name ∈ names, '/' ∉ name.toList) :
    parts (ofNames names) = names.map String.toList := by
  rw [parts, toList_ofNames]
  exact Text.splitAt_joinWith (mt List.map_eq_nil_iff.1 some_name) (List.forall_mem_map.2 noSlash)

/-- The names are told by the path. -/
theorem ofNames_injOn {names others : List String} (some_name : names ≠ [])
    (some_other : others ≠ []) (noSlash : ∀ name ∈ names, '/' ∉ name.toList)
    (noSlash_other : ∀ name ∈ others, '/' ∉ name.toList) (same : ofNames names = ofNames others) :
    names = others := by
  have parts_same := congrArg parts same
  rw [parts_ofNames some_name noSlash, parts_ofNames some_other noSlash_other] at parts_same
  exact List.map_injective_iff.2 (fun _ _ => String.toList_inj.1) parts_same

theorem mem_ofNames {c : Char} {names : List String} (mem : c ∈ (ofNames names).toList) :
    c = '/' ∨ ∃ name ∈ names, c ∈ name.toList := by
  induction names with
  | nil => exact absurd mem List.not_mem_nil
  | cons name rest ih =>
    by_cases more : rest = []
    · subst more
      rw [ofNames, String.intercalate_singleton] at mem
      exact .inr ⟨name, List.mem_cons_self, mem⟩
    · rw [toList_ofNames_cons name more, List.mem_append, List.mem_cons] at mem
      rcases mem with here | slash | later
      · exact .inr ⟨name, List.mem_cons_self, here⟩
      · exact .inl slash
      · refine (ih later).imp_right ?_
        rintro ⟨other, below, here⟩
        exact ⟨other, List.mem_cons_of_mem name below, here⟩

theorem isAbsolute_ofNames {names : List String} (some_name : names ≠ [])
    (named : ∀ name ∈ names, IsEntryName name) : isAbsolute (ofNames names) = false := by
  refine Bool.eq_false_iff.2 fun absolute => ?_
  obtain ⟨rest, same⟩ := Text.hasPrefix_iff.1 absolute
  have pieces := parts_ofNames some_name fun name mem => (named name mem).noSlash
  rw [parts, ← same] at pieces
  cases names with
  | nil => exact some_name rfl
  | cons name names =>
    have no_name : [] = name.toList := (List.cons.inj pieces).1
    have isName := (named name List.mem_cons_self).isName
    rw [← no_name] at isName
    cases isName

/-! ## Paths seen from a directory -/

theorem isAbsolute_append {base : String} (some_base : base ≠ "") (path : String) :
    isAbsolute (base ++ path) = isAbsolute base := by
  have begins : base.toList ≠ [] := mt String.toList_eq_nil_iff.1 some_base
  rw [Bool.eq_iff_iff, isAbsolute, isAbsolute, Text.hasPrefix_iff, Text.hasPrefix_iff,
    String.toList_append]
  cases chars : base.toList with
  | nil => exact absurd chars begins
  | cons c rest => simp

theorem join_relative {base path : String} (some_base : base ≠ "")
    (relative : isAbsolute path = false) :
    join base path = if Text.hasSuffix "/" base then base ++ path else base ++ ("/" ++ path) := by
  rw [join, relative]
  simp only [String.append_assoc, Bool.false_or, String.isEmpty_iff, some_base, if_false]

/-- A relative path goes on behind the path that it is seen from, and a slash at its end says
nothing. -/
theorem exists_join_eq {base path : String} (some_base : base ≠ "")
    (relative : isAbsolute path = false) :
    ∃ rest front, join base path = base ++ rest ∧ (rest = path ∨ rest = "/" ++ path) ∧
      (parts base = front ∨ parts base = front ++ [[]]) ∧
      parts (join base path) = front ++ parts path := by
  rw [join_relative some_base relative]
  by_cases closed : Text.hasSuffix "/" base
  · obtain ⟨front, same⟩ := Text.hasSuffix_iff.1 closed
    have pieces (back : List Char) := Text.splitAt_append_cons '/' front back
    rw [if_pos closed]
    refine ⟨path, Text.splitAt '/' front, rfl, .inl rfl, .inr ?_, ?_⟩
    · rw [parts, ← same]
      exact pieces []
    · rw [parts, String.toList_append, ← same, List.append_assoc]
      exact pieces path.toList
  · rw [if_neg closed]
    refine ⟨"/" ++ path, parts base, rfl, .inr rfl, .inl rfl, ?_⟩
    rw [parts, String.toList_append, String.toList_append]
    exact Text.splitAt_append_cons '/' base.toList path.toList

end Path

namespace FileSystem

variable {fs : FileSystem} {place : List String} {tree : FileTree}

theorem step_entry (there : fs.tree.find? place = some tree) (isDirectory : tree.isDirectory)
    {name : String} (named : IsEntryName name) :
    fs.step place name.toList = .ok (place ++ [name]) := by
  have not_up : name.toList ≠ ['.', '.'] := fun same => named.notUpwards (String.toList_inj.1 same)
  cases tree with
  | file content => cases isDirectory
  | directory entries =>
    rw [step, there]
    dsimp only
    rw [named.isName, if_neg (by simp), if_neg not_up, if_neg (Nat.not_lt.2 named.short),
      String.ofList_toList]

theorem foldlM_step_names (there : fs.tree.find? place = some tree) {names : List String}
    {content : List UInt8} (held : tree.Holds names content)
    (named : ∀ name ∈ names, IsEntryName name) :
    (names.map String.toList).foldlM fs.step place = .ok (place ++ names) := by
  induction names generalizing place tree with
  | nil => rw [List.append_nil]; rfl
  | cons name names ih =>
    cases tree with
    | file content => cases held
    | directory entries =>
      obtain ⟨here, later⟩ := List.forall_mem_cons.1 named
      rw [FileTree.Holds, FileTree.find?, Option.bind_eq_some_iff] at held
      obtain ⟨below, entered, held⟩ := held
      have next : fs.tree.find? (place ++ [name]) = some below := by
        rw [FileTree.find?_append, there, Option.bind_some, FileTree.find?, entered]
        exact FileTree.find?_nil below
      rw [List.map_cons, List.foldlM_cons, step_entry there rfl here]
      exact (ih next held later).trans (by rw [List.append_assoc]; rfl)

theorem eq_of_step_nothing {next : List String} (stepped : fs.step place [] = .ok next) :
    next = place := by
  rw [step] at stepped
  cases there : fs.tree.find? place with
  | none =>
    rw [there] at stepped
    cases stepped
  | some tree =>
    rw [there] at stepped
    cases tree with
    | file content => cases stepped
    | directory entries =>
      cases stepped
      rfl

/-- An empty part at the end says nothing. -/
theorem foldlM_step_front {front : List (List Char)} {start : List String}
    (reached : (front ++ [[]]).foldlM fs.step start = .ok place) :
    front.foldlM fs.step start = .ok place := by
  rw [List.foldlM_append] at reached
  cases before : front.foldlM fs.step start with
  | error e =>
    rw [before] at reached
    cases reached
  | ok next =>
    rw [before] at reached
    have stepped : fs.step next [] = .ok place := by
      rw [← reached]
      exact (bind_pure _).symm
    rw [eq_of_step_nothing stepped]

theorem locate_eq_ok {path : String} (found : fs.locate path = .ok place) :
    '\x00' ∉ path.toList ∧ path ≠ "" ∧
      (Path.parts path).foldlM fs.step (if Path.isAbsolute path then [] else fs.current) =
        .ok place := by
  rw [locate] at found
  by_cases nul : path.toList.contains '\x00'
  · rw [if_pos nul] at found
    cases found
  by_cases nothing : path.isEmpty
  · rw [if_neg nul, if_pos nothing] at found
    cases found
  by_cases long : pathLimit ≤ Text.byteLength path.toList
  · rw [if_neg nul, if_neg nothing, if_pos long] at found
    cases found
  rw [if_neg nul, if_neg nothing, if_neg long] at found
  exact ⟨by simpa using nul, by simpa using nothing, found⟩

/-- Names below the place of a directory are walked from there. -/
theorem locate_join {root : String} (found : fs.locate root = .ok place)
    (there : fs.tree.find? place = some tree) {names : List String} (some_name : names ≠ [])
    {content : List UInt8} (held : tree.Holds names content)
    (named : ∀ name ∈ names, IsEntryName name) :
    let path := Path.join root (Path.ofNames names)
    fs.locate path =
      if pathLimit ≤ Text.byteLength path.toList then .error .nameTooLong
      else .ok (place ++ names) := by
  intro path
  obtain ⟨root_noNul, some_root, reached⟩ := locate_eq_ok found
  have relative := Path.isAbsolute_ofNames some_name named
  obtain ⟨rest, front, longer, rest_eq, parts_root, parts_path⟩ :=
    Path.exists_join_eq some_root relative
  have walked := foldlM_step_names there held named
  have noNul : '\x00' ∉ (Path.ofNames names).toList := by
    intro mem
    rcases Path.mem_ofNames mem with slash | ⟨name, below, here⟩
    · cases slash
    · exact (named name below).noNul here
  have path_noNul : path.toList.contains '\x00' = false := by
    rw [show path = root ++ rest from longer, String.toList_append]
    rcases rest_eq with rfl | rfl
    · simp [root_noNul, noNul]
    · simp [root_noNul, noNul]
  have some_path : path.isEmpty = false := by
    simp [show path = root ++ rest from longer, some_root]
  have front_reached :
      front.foldlM fs.step (if Path.isAbsolute root then [] else fs.current) = .ok place := by
    rcases parts_root with same | same
    · rw [← same, reached]
    · exact foldlM_step_front (same ▸ reached)
  have path_reached :
      (Path.parts path).foldlM fs.step (if Path.isAbsolute path then [] else fs.current) =
        .ok (place ++ names) := by
    rw [parts_path, Path.parts_ofNames some_name fun name mem => (named name mem).noSlash,
      show path = root ++ rest from longer, Path.isAbsolute_append some_root, List.foldlM_append,
      front_reached]
    exact walked
  rw [locate, path_noNul, some_path, path_reached, if_neg (by simp), if_neg (by simp)]

/-- The text that a file with these bytes has when it is opened under a path. -/
def openedText? (path : String) (content : List UInt8) : Option String :=
  if pathLimit ≤ Text.byteLength path.toList then none else Text.decode? content

theorem find_eq_ok {path : String} (found : fs.find path = .ok tree) :
    ∃ place, fs.locate path = .ok place ∧ fs.tree.find? place = some tree := by
  rw [find] at found
  cases located : fs.locate path with
  | error e =>
    rw [located] at found
    cases found
  | ok place =>
    rw [located] at found
    refine ⟨place, rfl, ?_⟩
    cases there : fs.tree.find? place with
    | none => simp [there, bind, Except.bind] at found
    | some other =>
      simp only [there, bind, Except.bind, Except.ok.injEq] at found
      rw [found]

/-- A file below a directory is read under the path that the names below it make. -/
theorem readText_join {root : String} (found : fs.find root = .ok tree) {names : List String}
    (some_name : names ≠ []) {content : List UInt8} (held : tree.Holds names content)
    (named : ∀ name ∈ names, IsEntryName name) :
    let path := Path.join root (Path.ofNames names)
    (fs.readText path).toOption = openedText? path content := by
  intro path
  obtain ⟨place, located, there⟩ := find_eq_ok found
  have located_path := locate_join located there some_name held named
  have file_there : fs.tree.find? (place ++ names) = some (.file content) := by
    rw [FileTree.find?_append, there]
    exact held
  rw [readText, readBytes, find, located_path, openedText?]
  by_cases long : pathLimit ≤ Text.byteLength path.toList
  · rw [if_pos long, if_pos long]
    rfl
  · rw [if_neg long, if_neg long]
    simp only [bind, Except.bind, file_there]
    cases Text.decode? content with
    | none => rfl
    | some text => rfl

end FileSystem

end TestImpact
