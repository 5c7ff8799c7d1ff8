import Mathlib.Data.List.Nodup
import Mathlib.Tactic.MkIffOfInductiveProp
import TestImpact.Storage.FileSystem

/-! Walks through a tree of files. Where the names in each directory differ, the walk meets what the
names lead to: each file once, unless it is below an entry that is skipped. -/

namespace TestImpact

/-- A name that an entry of a directory can have. -/
@[mk_iff]
structure IsEntryName (name : String) : Prop where
  isName : Path.isName name.toList = true
  notUpwards : name ≠ ".."
  noSlash : '/' ∉ name.toList
  noNul : '\x00' ∉ name.toList
  short : Text.byteLength name.toList ≤ FileSystem.nameLimit

instance (name : String) : Decidable (IsEntryName name) :=
  decidable_of_iff' _ (isEntryName_iff name)

namespace FileTree

/-- A tree as a file system can hold it: the entries of a directory have names of their own. -/
inductive Sound : FileTree → Prop
  | file (content : List UInt8) : Sound (.file content)
  | directory {entries : List (String × FileTree)} (distinct : (entries.map Prod.fst).Nodup)
      (named : ∀ entry ∈ entries, IsEntryName entry.1) (below : ∀ entry ∈ entries, Sound entry.2) :
      Sound (.directory entries)

/-- The names lead to a file with these bytes. -/
def Holds (tree : FileTree) (names : List String) (content : List UInt8) : Prop :=
  tree.find? names = some (.file content)

theorem find?_append (names rest : List String) (tree : FileTree) :
    find? (names ++ rest) tree = (find? names tree).bind (find? rest) := by
  induction names generalizing tree with
  | nil => rw [List.nil_append, find?_nil, Option.bind_some]
  | cons name names ih =>
    cases tree with
    | file content => rfl
    | directory entries =>
      rw [List.cons_append, find?, find?]
      cases entries.lookup name with
      | none => rfl
      | some below => exact ih below

theorem lookup_eq_some_iff_mem {entries : List (String × FileTree)}
    (distinct : (entries.map Prod.fst).Nodup) {name : String} {tree : FileTree} :
    entries.lookup name = some tree ↔ (name, tree) ∈ entries := by
  induction entries with
  | nil => exact iff_of_false nofun List.not_mem_nil
  | cons entry entries ih =>
    obtain ⟨first, below⟩ := entry
    obtain ⟨fresh, distinct⟩ := List.nodup_cons.1 distinct
    rw [List.lookup_cons, List.mem_cons, Prod.mk.injEq]
    by_cases here : name = first
    · subst here
      have later : (name, tree) ∉ entries := fun mem =>
        fresh (List.mem_map.2 ⟨_, mem, rfl⟩)
      simp [later, eq_comm]
    · rw [beq_eq_false_iff_ne.2 here, ih distinct]
      simp [here]

/-! ## The walk -/

variable (skip : String → Bool)

theorem filesOfEntries_eq_flatMap (entries : List (String × FileTree)) :
    filesOfEntries skip entries = (entries.filter fun entry => !skip entry.1).flatMap fun entry =>
      (files skip entry.2).map fun found => (entry.1 :: found.1, found.2) := by
  induction entries with
  | nil => rfl
  | cons entry entries ih =>
    rw [filesOfEntries, ih]
    by_cases skipped : skip entry.1
    · rw [if_pos skipped, List.filter_cons_of_neg (by simpa using skipped), List.nil_append]
    · rw [if_neg skipped, List.filter_cons_of_pos (by simpa using skipped), List.flatMap_cons]

theorem mem_files_directory {skip : String → Bool} {entries : List (String × FileTree)}
    {names : List String} {content : List UInt8} :
    (names, content) ∈ files skip (.directory entries) ↔
      ∃ entry ∈ entries, skip entry.1 = false ∧
        ∃ rest, (rest, content) ∈ files skip entry.2 ∧ entry.1 :: rest = names := by
  rw [files, filesOfEntries_eq_flatMap]
  simp only [List.mem_flatMap, List.mem_filter, List.mem_map, Bool.not_eq_true', Prod.mk.injEq]
  constructor
  · rintro ⟨entry, ⟨mem, kept⟩, ⟨rest, _⟩, found, rfl, rfl⟩
    exact ⟨entry, mem, kept, rest, found, rfl⟩
  · rintro ⟨entry, mem, kept, rest, found, rfl⟩
    exact ⟨entry, ⟨mem, kept⟩, (rest, content), found, rfl, rfl⟩

theorem holds_directory {entries : List (String × FileTree)}
    (distinct : (entries.map Prod.fst).Nodup) {names : List String} {content : List UInt8} :
    (directory entries).Holds names content ↔
      ∃ entry ∈ entries, ∃ rest, entry.2.Holds rest content ∧ entry.1 :: rest = names := by
  cases names with
  | nil => exact iff_of_false nofun (by rintro ⟨_, _, _, _, none⟩; cases none)
  | cons name rest =>
    rw [Holds, find?, Option.bind_eq_some_iff]
    simp only [lookup_eq_some_iff_mem distinct]
    constructor
    · rintro ⟨tree, mem, held⟩
      exact ⟨(name, tree), mem, rest, held, rfl⟩
    · rintro ⟨⟨name, tree⟩, mem, rest, held, same⟩
      cases same
      exact ⟨tree, mem, held⟩

/-- The walk meets the files that are below no entry that is skipped. -/
theorem Sound.mem_files {tree : FileTree} (sound : tree.Sound) {names : List String}
    {content : List UInt8} :
    (names, content) ∈ tree.files skip ↔
      tree.Holds names content ∧ ∀ name ∈ names, skip name = false := by
  induction sound generalizing names with
  | file bytes =>
    rw [files, List.mem_singleton, Prod.mk.injEq]
    constructor
    · rintro ⟨rfl, rfl⟩
      exact ⟨rfl, nofun⟩
    · rintro ⟨held, -⟩
      cases names with
      | nil =>
        cases held
        exact ⟨rfl, rfl⟩
      | cons name names => cases held
  | directory distinct named below ih =>
    rw [mem_files_directory, holds_directory distinct]
    constructor
    · rintro ⟨entry, mem, kept, rest, found, rfl⟩
      obtain ⟨held, all_kept⟩ := (ih entry mem).1 found
      exact ⟨⟨entry, mem, rest, held, rfl⟩, List.forall_mem_cons.2 ⟨kept, all_kept⟩⟩
    · rintro ⟨⟨entry, mem, rest, held, rfl⟩, all_kept⟩
      obtain ⟨kept, all_kept⟩ := List.forall_mem_cons.1 all_kept
      exact ⟨entry, mem, kept, rest, (ih entry mem).2 ⟨held, all_kept⟩, rfl⟩

theorem Sound.mem_map_files {tree : FileTree} (sound : tree.Sound) {names : List String} :
    names ∈ (tree.files skip).map Prod.fst ↔
      (∃ content, tree.Holds names content) ∧ ∀ name ∈ names, skip name = false := by
  simp only [List.mem_map, Prod.exists, exists_and_right, exists_eq_right, sound.mem_files skip]

/-- The walk meets no file twice. -/
theorem Sound.nodup_files {tree : FileTree} (sound : tree.Sound) :
    ((tree.files skip).map Prod.fst).Nodup := by
  induction sound with
  | file content => exact List.nodup_singleton _
  | directory distinct named below ih =>
    rw [files, filesOfEntries_eq_flatMap, List.map_flatMap, List.nodup_flatMap]
    simp only [List.map_map, Function.comp_def]
    constructor
    · intro entry kept
      have met := (ih entry (List.mem_of_mem_filter kept)).map (List.cons_injective (a := entry.1))
      rwa [List.map_map] at met
    · -- Files below different entries differ in their first name.
      have apart := (List.pairwise_map.1 distinct).filter fun entry => !skip entry.1
      refine apart.imp fun {entry other} differ => ?_
      intro names here there
      obtain ⟨_, -, rfl⟩ := List.mem_map.1 here
      obtain ⟨_, -, same⟩ := List.mem_map.1 there
      exact differ (List.cons.inj same).1.symm

/-! ## The names on the way -/

theorem Sound.isEntryName {tree : FileTree} (sound : tree.Sound) {names : List String}
    {content : List UInt8} (held : tree.Holds names content) :
    ∀ name ∈ names, IsEntryName name := by
  induction sound generalizing names with
  | file bytes =>
    cases names with
    | nil => exact fun _ none => absurd none List.not_mem_nil
    | cons name names => cases held
  | directory distinct named below ih =>
    obtain ⟨entry, mem, rest, held_below, rfl⟩ := (holds_directory distinct).1 held
    exact List.forall_mem_cons.2 ⟨named entry mem, ih entry mem held_below⟩

theorem Holds.ne_nil {entries : List (String × FileTree)} {names : List String}
    {content : List UInt8} (held : (directory entries).Holds names content) : names ≠ [] := by
  rintro rfl
  cases held

end FileTree

end TestImpact
