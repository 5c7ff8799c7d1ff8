import TestImpact.Analysis.Repository
import TestImpact.Proofs.FilePlaces
import TestImpact.Proofs.Pool

/-! Analysis without history: one change for each file below the root that is worth targets. A path is
told, tested and opened again with its backslashes as slashes. For a name that has none this is the path
of the file; for one that has some it is the path of another file or of none. -/

namespace TestImpact

/-- The path under which a file is analyzed: that of its names, with slashes for backslashes. -/
def slashedPath (names : List String) : String :=
  Text.replaceChar '\\' '/' (Path.ofNames names)

/-- Each file below a directory that is worth targets has one change, under its own path and told by its
own text. The changes stand in the order of the paths, and there are no others. -/
structure Covers (g : Grammar) (filter : FileFilter) (root : String) (tree : FileTree)
    (changes : List FileChange) : Prop where
  ascending : (changes.map (·.file)).Pairwise (· < ·)
  files : ∀ path, path ∈ changes.map (·.file) ↔
    ∃ names content, tree.Holds names content ∧ Path.ofNames names = path ∧ filter.accepts path
  own : ∀ names content, tree.Holds names content → filter.accepts (Path.ofNames names) →
    assumeFileModified g (Path.ofNames names)
      (FileSystem.openedText? (Path.join root (Path.ofNames names)) content) ∈ changes

/-- The changes of the paths below a root that are worth targets. -/
def assumedChanges (g : Grammar) (fs : FileSystem) (root : String) (filter : FileFilter) :
    List FileChange :=
  (testablePaths fs root filter).map fun path =>
    assumeFileModified g path (fs.readText (Path.join root path)).toOption

theorem map_file_assumedChanges (g : Grammar) (fs : FileSystem) (root : String)
    (filter : FileFilter) :
    (assumedChanges g fs root filter).map (·.file) = testablePaths fs root filter := by
  rw [assumedChanges, List.map_map]
  exact List.map_id _

/-! ## Slashes for backslashes -/

theorem map_slashed_of_notMem {text : List Char} (absent : '\\' ∉ text) :
    text.map (fun c => if c = '\\' then '/' else c) = text := by
  have kept : ∀ c ∈ text, (if c = '\\' then '/' else c) = id c := by
    intro c mem
    refine if_neg ?_
    rintro rfl
    exact absent mem
  rw [List.map_congr_left kept, List.map_id]

theorem slashedPath_eq_of_notMem {names : List String}
    (absent : '\\' ∉ (Path.ofNames names).toList) : slashedPath names = Path.ofNames names := by
  rw [slashedPath, Text.replaceChar, map_slashed_of_notMem absent, String.ofList_toList]

theorem backslash_notMem_slashedPath (names : List String) :
    '\\' ∉ (slashedPath names).toList := by
  rw [slashedPath, Text.replaceChar, String.toList_ofList, List.mem_map]
  rintro ⟨c, -, same⟩
  by_cases backslash : c = '\\'
  · rw [if_pos backslash] at same
    cases same
  · rw [if_neg backslash] at same
    exact backslash same

/-- A name without slashes of either kind stays a part of the path. -/
theorem mem_parts_slashedPath {name : String} {names : List String} (mem : name ∈ names)
    (noSlash : '/' ∉ name.toList) (noBackslash : '\\' ∉ name.toList) :
    name.toList ∈ Path.parts (slashedPath names) := by
  have kept := map_slashed_of_notMem noBackslash
  rw [Path.parts, slashedPath, Text.replaceChar, String.toList_ofList]
  induction names with
  | nil => cases mem
  | cons first rest ih =>
    by_cases more : rest = []
    · subst more
      obtain rfl := List.mem_singleton.1 mem
      rw [Path.ofNames, String.intercalate_singleton, kept, Text.splitAt_of_notMem noSlash]
      exact List.mem_singleton_self _
    · rw [Path.toList_ofNames_cons first more, List.map_append, List.map_cons, if_neg (by decide),
        Text.splitAt_append_cons, List.mem_append]
      rcases List.mem_cons.1 mem with rfl | later
      · rw [kept, Text.splitAt_of_notMem noSlash]
        exact .inl (List.mem_singleton_self _)
      · exact .inr (ih later)

/-- A file that is worth targets is below no directory that is skipped. -/
theorem not_ignored_of_accepts {filter : FileFilter} {names : List String}
    (named : ∀ name ∈ names, IsEntryName name)
    (accepted : filter.accepts (slashedPath names) = true) :
    ∀ name ∈ names, ignoredNames.contains name = false := by
  intro name mem
  refine Bool.eq_false_iff.2 fun ignored => ?_
  have noBackslash : ∀ other ∈ ignoredNames, '\\' ∉ other.toList := by decide
  have part := mem_parts_slashedPath mem (named name mem).noSlash
    (noBackslash name (List.contains_iff_mem.1 ignored))
  have below : name ∈ Path.names (slashedPath names) := by
    refine List.mem_map.2 ⟨name.toList, List.mem_filter.2 ⟨part, (named name mem).isName⟩, ?_⟩
    exact String.ofList_toList
  have isIgnored : isIgnored (slashedPath names) = true := List.any_eq_true.2 ⟨name, below, ignored⟩
  simp [FileFilter.accepts, isIgnored] at accepted

/-! ## The paths -/

/-- The names of the files that are met below a tree and are worth targets. -/
def testableNames (tree : FileTree) (filter : FileFilter) : List (List String) :=
  ((tree.files ignoredNames.contains).map Prod.fst).filter fun names =>
    filter.accepts (slashedPath names)

/-- To skip directories loses no file that is worth targets. -/
theorem mem_testableNames {tree : FileTree} (sound : tree.Sound) {filter : FileFilter}
    {names : List String} :
    names ∈ testableNames tree filter ↔
      (∃ content, tree.Holds names content) ∧ filter.accepts (slashedPath names) = true := by
  rw [testableNames, List.mem_filter, sound.mem_map_files]
  refine and_congr_left fun accepted => and_iff_left_of_imp ?_
  rintro ⟨content, held⟩
  exact not_ignored_of_accepts (sound.isEntryName held) accepted

section

variable {fs : FileSystem} {root : String} {entries : List (String × FileTree)}
  (found : fs.find root = .ok (.directory entries)) (filter : FileFilter)

include found

theorem testablePaths_eq :
    testablePaths fs root filter =
      ((testableNames (.directory entries) filter).map slashedPath).mergeSort (· ≤ ·) := by
  rw [testablePaths, found, testableNames, ← Function.comp_def filter.accepts, ← List.filter_map,
    List.map_map]
  rfl

theorem pairwise_testablePaths : (testablePaths fs root filter).Pairwise (· ≤ ·) := by
  rw [testablePaths_eq found]
  refine List.Pairwise.imp of_decide_eq_true (List.pairwise_mergeSort ?_ ?_ _)
  · intro first second third le later
    exact decide_eq_true (String.le_trans (of_decide_eq_true le) (of_decide_eq_true later))
  · intro first second
    simpa using String.le_total first second

variable (sound : (FileTree.directory entries).Sound)

include sound

theorem mem_testablePaths {path : String} :
    path ∈ testablePaths fs root filter ↔
      ∃ names content, (FileTree.directory entries).Holds names content ∧
        slashedPath names = path ∧ filter.accepts path := by
  rw [testablePaths_eq found, (List.mergeSort_perm _ _).mem_iff, List.mem_map]
  constructor
  · rintro ⟨names, testable, rfl⟩
    obtain ⟨⟨content, held⟩, accepted⟩ := (mem_testableNames sound).1 testable
    exact ⟨names, content, held, rfl, accepted⟩
  · rintro ⟨names, content, held, rfl, accepted⟩
    exact ⟨names, (mem_testableNames sound).2 ⟨⟨content, held⟩, accepted⟩, rfl⟩

/-- No path is told twice exactly where no two files share a path that is worth targets. -/
theorem nodup_testablePaths_iff :
    (testablePaths fs root filter).Nodup ↔
      ∀ names content others other, (FileTree.directory entries).Holds names content →
        (FileTree.directory entries).Holds others other → filter.accepts (slashedPath names) →
        slashedPath names = slashedPath others → names = others := by
  rw [testablePaths_eq found, (List.mergeSort_perm _ _).nodup_iff]
  constructor
  · intro distinct names content others other held held_other accepted same
    have testable := (mem_testableNames sound).2 ⟨⟨content, held⟩, accepted⟩
    rw [same] at accepted
    have testable_other := (mem_testableNames sound).2 ⟨⟨other, held_other⟩, accepted⟩
    exact List.inj_on_of_nodup_map distinct testable testable_other same
  · intro apart
    refine List.Nodup.map_on ?_ ((sound.nodup_files _).filter _)
    intro names testable others testable_other same
    obtain ⟨⟨content, held⟩, accepted⟩ := (mem_testableNames sound).1 testable
    obtain ⟨⟨other, held_other⟩, -⟩ := (mem_testableNames sound).1 testable_other
    exact apart names content others other held held_other accepted same

/-! ## The changes -/

omit sound in
theorem analyzeWithoutHistory_eq_ok (g : Grammar) (workers : Nat) :
    analyzeWithoutHistory g fs root filter workers =
      .ok (assumedChanges g fs root filter) := by
  have there : fs.isDirectory root = true := by
    rw [FileSystem.isDirectory, found]
    rfl
  rw [analyzeWithoutHistory, if_pos there]
  dsimp only
  rw [Pool.runOrdered_eq_map, assumedChanges]

theorem covers_of_plain (g : Grammar)
    (plain : ∀ names content, (FileTree.directory entries).Holds names content →
      '\\' ∈ (Path.ofNames names).toList →
      ¬ filter.accepts (Path.ofNames names) ∧ ¬ filter.accepts (slashedPath names)) :
    Covers g filter root (.directory entries) (assumedChanges g fs root filter) := by
  have told_own {names content} (held : (FileTree.directory entries).Holds names content)
      (accepted : filter.accepts (slashedPath names) ∨ filter.accepts (Path.ofNames names)) :
      slashedPath names = Path.ofNames names := by
    refine slashedPath_eq_of_notMem fun backslash => ?_
    obtain ⟨not_own, not_slashed⟩ := plain names content held backslash
    exact accepted.elim not_slashed not_own
  refine ⟨?_, fun path => ?_, fun names content held accepted => ?_⟩
  · have distinct : (testablePaths fs root filter).Nodup := by
      refine (nodup_testablePaths_iff found filter sound).2 ?_
      intro names content others other held held_other accepted same
      have own := told_own held (.inl accepted)
      have own_other := told_own held_other (.inl (same ▸ accepted))
      refine Path.ofNames_injOn held.ne_nil held_other.ne_nil
        (fun name mem => (sound.isEntryName held name mem).noSlash)
        (fun name mem => (sound.isEntryName held_other name mem).noSlash) ?_
      rw [← own, ← own_other, same]
    rw [map_file_assumedChanges]
    refine ((pairwise_testablePaths found filter).and distinct).imp ?_
    rintro first second ⟨le, ne⟩
    exact String.not_le.1 fun ge => ne (String.le_antisymm le ge)
  · rw [map_file_assumedChanges, mem_testablePaths found filter sound]
    constructor
    · rintro ⟨names, content, held, rfl, accepted⟩
      exact ⟨names, content, held, (told_own held (.inl accepted)).symm, accepted⟩
    · rintro ⟨names, content, held, rfl, accepted⟩
      exact ⟨names, content, held, told_own held (.inr accepted), accepted⟩
  · refine List.mem_map.2 ⟨Path.ofNames names, ?_, ?_⟩
    · have own := told_own held (.inr accepted)
      exact (mem_testablePaths found filter sound).2 ⟨names, content, held, own, accepted⟩
    · rw [FileSystem.readText_join found held.ne_nil held (sound.isEntryName held)]

/-- A file with a backslash in its path has no change of its own, and under its path with slashes it
would be told beside the file of this path. -/
theorem plain_of_covers {g : Grammar}
    (covers : Covers g filter root (.directory entries) (assumedChanges g fs root filter))
    {names : List String} {content : List UInt8}
    (held : (FileTree.directory entries).Holds names content)
    (backslash : '\\' ∈ (Path.ofNames names).toList) :
    ¬ filter.accepts (Path.ofNames names) ∧ ¬ filter.accepts (slashedPath names) := by
  obtain ⟨ascending, files, -⟩ := covers
  rw [map_file_assumedChanges] at ascending files
  constructor
  · -- The file would be told under its own path, but no path is told that has a backslash.
    intro accepted
    have told := (files _).2 ⟨names, content, held, rfl, accepted⟩
    obtain ⟨others, -, -, same, -⟩ := (mem_testablePaths found filter sound).1 told
    exact backslash_notMem_slashedPath others (same ▸ backslash)
  · -- The path with slashes is told, so it is that of another file, and both tell it.
    intro accepted
    have told := (mem_testablePaths found filter sound).2 ⟨names, content, held, rfl, accepted⟩
    obtain ⟨others, other, held_other, same, -⟩ := (files _).1 told
    have plain : '\\' ∉ (Path.ofNames others).toList :=
      same ▸ backslash_notMem_slashedPath names
    have shared : slashedPath names = slashedPath others := by
      rw [slashedPath_eq_of_notMem plain, same]
    have distinct := ascending.imp fun less => String.ne_of_lt less
    have eq := (nodup_testablePaths_iff found filter sound).1 distinct names content others other
      held held_other accepted shared
    exact plain (eq ▸ backslash)

end

/-- **Without history there is one change for each path that is worth targets when its backslashes are
slashes, and no directory that is skipped holds one.** These are the changes of the files, each under its
own path and told by its own text, exactly where no file with a backslash in its path would be analyzed
under this path or with slashes. -/
theorem analyzeWithoutHistory_covers_iff (g : Grammar) {fs : FileSystem} {root : String}
    {entries : List (String × FileTree)} (found : fs.find root = .ok (.directory entries))
    (sound : (FileTree.directory entries).Sound) (filter : FileFilter) (workers : Nat) :
    ∃ changes, analyzeWithoutHistory g fs root filter workers = .ok changes ∧
      (changes.map (·.file)).Pairwise (· ≤ ·) ∧
      (∀ path, path ∈ changes.map (·.file) ↔
        ∃ names content, (FileTree.directory entries).Holds names content ∧
          slashedPath names = path ∧ filter.accepts path) ∧
      (Covers g filter root (.directory entries) changes ↔
        ∀ names content, (FileTree.directory entries).Holds names content →
          '\\' ∈ (Path.ofNames names).toList →
          ¬ filter.accepts (Path.ofNames names) ∧ ¬ filter.accepts (slashedPath names)) := by
  refine ⟨_, analyzeWithoutHistory_eq_ok found filter g workers, ?_, ?_, ?_, ?_⟩
  · rw [map_file_assumedChanges]
    exact pairwise_testablePaths found filter
  · intro path
    rw [map_file_assumedChanges]
    exact mem_testablePaths found filter sound
  · intro covers names content held backslash
    exact plain_of_covers found filter sound covers held backslash
  · exact covers_of_plain found filter sound g

/-- The text of a function, and a grammar that finds it in every source. -/
def functionText : String := "function f() \x7b\x7d"

def functionGrammar : Grammar where
  tree? _ _ _ := some <|
    .mk "program" none ⟨0, 15, 0, 0⟩
      [.mk "function_declaration" none ⟨0, 15, 0, 0⟩
        [.mk "identifier" (some "name") ⟨9, 10, 0, 0⟩ []]]

/-- A name with a backslash does no harm where it is no name of a source. -/
theorem analyzeWithoutHistory_covers_notes :
    let function := FileTree.file (Text.encode functionText)
    let entries := [("src", .directory [("a.js", function)]),
      ("build", .directory [("b.js", function)]), ("old\\notes.md", .file [])]
    let fs : FileSystem := ⟨.directory entries, []⟩
    fs.find "/" = .ok (.directory entries) ∧ (FileTree.directory entries).Sound ∧
      ∃ changes, analyzeWithoutHistory functionGrammar fs "/" {} 2 = .ok changes ∧
        Covers functionGrammar {} "/" (.directory entries) changes := by
  intro function entries fs
  have found : fs.find "/" = .ok (.directory entries) := by rfl
  have source (name : String) (named : IsEntryName name) :
      (FileTree.directory [(name, function)]).Sound :=
    .directory (List.nodup_singleton name) (List.forall_mem_singleton.2 named)
      (List.forall_mem_singleton.2 (.file _))
  have sound : (FileTree.directory entries).Sound := by
    refine .directory (by decide) (by decide) ?_
    simp only [entries, List.forall_mem_cons]
    exact ⟨source "a.js" (by decide), source "b.js" (by decide), .file _, List.forall_mem_nil _⟩
  have plain : ∀ file ∈ (FileTree.directory entries).files fun _ => false,
      '\\' ∈ (Path.ofNames file.1).toList → ¬ FileFilter.accepts {} (Path.ofNames file.1) ∧
        ¬ FileFilter.accepts {} (slashedPath file.1) := by decide +kernel
  obtain ⟨changes, analyzed, -, -, covers⟩ :=
    analyzeWithoutHistory_covers_iff functionGrammar found sound {} 2
  refine ⟨found, sound, changes, analyzed, covers.2 ?_⟩
  intro names content held
  exact plain (names, content) ((sound.mem_files _).2 ⟨held, fun _ _ => rfl⟩)

/-- A source with a backslash in its name is told under a name of no file, and without its function. -/
theorem backslash_name_told_otherwise :
    let entries := [("src\\a.js", FileTree.file (Text.encode functionText))]
    let fs : FileSystem := ⟨.directory entries, []⟩
    (FileTree.directory entries).Sound ∧ fs.find "/" = .ok (.directory entries) ∧
      FileFilter.accepts {} "src\\a.js" = true ∧
      (assumeFileModified functionGrammar "src\\a.js" (some functionText)).functions.names = ["f"] ∧
      ∃ changes, analyzeWithoutHistory functionGrammar fs "/" {} 2 = .ok changes ∧
        changes.map (·.file) = ["src/a.js"] ∧ changes.map (·.functions.names) = [[]] ∧
        ¬ Covers functionGrammar {} "/" (.directory entries) changes := by
  intro entries fs
  have found : fs.find "/" = .ok (.directory entries) := by rfl
  have sound : (FileTree.directory entries).Sound :=
    .directory (by decide) (by decide) (List.forall_mem_singleton.2 (.file _))
  have accepted : FileFilter.accepts {} "src\\a.js" = true := by decide
  have paths : testablePaths fs "/" {} = ["src/a.js"] := by
    have testable : (testableNames (.directory entries) {}).map slashedPath = ["src/a.js"] := by
      decide +kernel
    rw [testablePaths_eq found, testable, List.mergeSort_singleton]
  refine ⟨sound, found, accepted, by decide +kernel, _,
    analyzeWithoutHistory_eq_ok found {} functionGrammar 2, ?_, ?_, fun covers => ?_⟩
  · rw [map_file_assumedChanges, paths]
  · rw [assumedChanges, paths]
    decide +kernel
  · have held : (FileTree.directory entries).Holds ["src\\a.js"] (Text.encode functionText) := by rfl
    exact (plain_of_covers found {} sound covers held (by decide)).1 accepted

end TestImpact
