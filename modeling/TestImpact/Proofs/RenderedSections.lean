import Mathlib.Data.List.TakeWhile
import TestImpact.Proofs.DiffSections
import TestImpact.Proofs.FirstLine
import TestImpact.Proofs.LiveTargets
import TestImpact.Proofs.RenderedDiff
import TestImpact.Proofs.ScanEnd

/-! Diffs of several files, rendered one after another and taken apart. Every line of a hunk has a
sign in front, so only the first line of a section looks like one, whatever the texts are; the path
stands twice in that line, with as many bytes on each side of its middle. So each section comes back
with its path and its lines, and the analysis says of a file what it says of the file's diff alone.
-/

namespace TestImpact

namespace Text

theorem stripPrefix?_append (word s : String) : stripPrefix? word (word ++ s) = some s := by
  simp [stripPrefix?]

theorem stripPrefix?_eq_none {word s : String} (other : hasPrefix word s = false) :
    stripPrefix? word s = none := by
  simpa [hasPrefix, stripPrefix?] using other

theorem stripSuffix?_tab_eq_none {s : String} (last : s.toList.getLast? ≠ some '\t') :
    stripSuffix? "\t" s = none := by
  have unended : afterPrefix? ['\t'] s.toList.reverse = none := by
    rw [Option.eq_none_iff_forall_ne_some]
    intro rest ended
    apply last
    rw [← List.head?_reverse, afterPrefix?_eq_some_iff.1 ended]
    rfl
  rw [stripSuffix?, beforeSuffix?]
  exact congrArg (Option.map String.ofList) (congrArg (Option.map List.reverse) unended)

/-- Neither a feed nor a return stands in the line. -/
def Unbroken (line : String) : Prop :=
  '\n' ∉ line.toList ∧ '\r' ∉ line.toList

theorem spells_joinLines {ls : List String} (feed : ∀ line ∈ ls, '\n' ∉ line.toList) :
    Spells (joinLines ls) (ls.map reread) := by
  have spelled : Spells (joinLines ls) (ls.flatMap fun line => [reread line]) :=
    .join fun line member => .of_no_feed (feed line member)
  rwa [← List.map_eq_flatMap] at spelled

theorem lines_joinLines {ls : List String} (unbroken : ∀ line ∈ ls, Unbroken line) :
    lines (joinLines ls) = ls := by
  rw [(spells_joinLines fun line member => (unbroken line member).1).lines_eq]
  exact (List.map_congr_left fun line member => reread_of_notMem (unbroken line member).2).trans
    (List.map_id ls)

end Text

namespace Diff

/-! ## The path in a first line -/

/-- What stands in the first line of a section behind its sign. -/
def firstLine (path : String) : String :=
  "a/" ++ path ++ " b/" ++ path

/-- **The middle of a first line names the path**, also where the path has blanks or ` b/` in it. -/
theorem pathOfFirstLine?_firstLine (path : String) :
    pathOfFirstLine? (firstLine path).toList = some path.toList := by
  have halves : Halves (firstLine path).toList path.toList path.toList := by
    refine ⟨' ', rfl, ?_, rfl⟩
    rw [firstLine, String.toList_append, String.toList_append, String.toList_append, List.append_assoc]
    rfl
  rw [pathOfFirstLine?_of_halves halves, if_pos rfl]

/-! ## The lines of a section -/

/-- The lines that name a file in front of its hunks, if there are any. -/
def nameLines (path : String) (hunks : List (List Edit)) : List String :=
  if hunks = [] then [] else ["--- a/" ++ path, "+++ b/" ++ path]

theorem mem_nameLines {path line : String} {hunks : List (List Edit)}
    (member : line ∈ nameLines path hunks) : line = "--- a/" ++ path ∨ line = "+++ b/" ++ path := by
  unfold nameLines at member
  split at member
  · cases member
  · simpa using member

variable {old new : List String}

theorem unbroken_signed {sign text : String} (hs : Text.Unbroken sign) (ht : Text.Unbroken text) :
    Text.Unbroken (sign ++ text) := by
  simp [Text.Unbroken, hs.1, hs.2, ht.1, ht.2]

theorem unbroken_shown {kind : String → HunkLine} {sign line text : String}
    (written : ∀ t, (kind t).written = sign ++ t) (signed : Text.Unbroken sign)
    (stripped : Stripped line text) :
    ∀ shownLine ∈ shown kind line, Text.Unbroken shownLine.written := by
  intro shownLine member
  cases stripped with
  | closed feed ret =>
    rw [shown_closed, List.mem_singleton] at member
    rw [member, written]
    exact unbroken_signed signed ⟨feed, ret⟩
  | unclosed feed ret =>
    rw [shown_unclosed kind feed] at member
    rcases List.mem_cons.1 member with rfl | member
    · rw [written]
      exact unbroken_signed signed ⟨feed, ret⟩
    · rw [List.mem_singleton.1 member]
      exact ⟨by decide, by decide⟩

theorem unbroken_editLines (hold : Broken old) (hnew : Broken new) (e : Edit) :
    ∀ line ∈ editLines old new e, Text.Unbroken line.written := by
  have each (kind : String → HunkLine) {sign : String} {lines : List String}
      (written : ∀ t, (kind t).written = sign ++ t) (signed : Text.Unbroken sign)
      (broken : Broken lines) : ∀ line ∈ lines.flatMap (shown kind), Text.Unbroken line.written := by
    intro line member
    obtain ⟨whole, inside, shown⟩ := List.mem_flatMap.1 member
    obtain ⟨text, stripped⟩ := broken whole inside
    exact unbroken_shown written signed stripped line shown
  have old_broken : Broken (e.oldLines old) :=
    fun line member => hold line (List.mem_of_mem_drop (List.mem_of_mem_take member))
  have new_broken : Broken (e.newLines new) :=
    fun line member => hnew line (List.mem_of_mem_drop (List.mem_of_mem_take member))
  have deleted := each .removed (fun _ => rfl) ⟨by decide, by decide⟩ old_broken
  have inserted := each .inserted (fun _ => rfl) ⟨by decide, by decide⟩ new_broken
  intro line member
  unfold editLines at member
  cases hk : e.kind with
  | keep =>
    rw [hk] at member
    exact each .kept (fun _ => rfl) ⟨by decide, by decide⟩ old_broken line member
  | delete =>
    rw [hk] at member
    exact deleted line member
  | insert =>
    rw [hk] at member
    exact inserted line member
  | replace =>
    rw [hk] at member
    rcases List.mem_append.1 member with member | member
    · exact deleted line member
    · exact inserted line member

theorem unbroken_headerLine (first last : Edit) : Text.Unbroken (headerLine first last) := by
  have feed := not_mem_rangeText (c := '\n') (by decide) (by decide)
  have ret := not_mem_rangeText (c := '\r') (by decide) (by decide)
  constructor
  · simp [headerLine, feed]
  · simp [headerLine, ret]

theorem unbroken_groupHunk (hold : Broken old) (hnew : Broken new) (group : List Edit) :
    ∀ line ∈ (groupHunk old new group).written, Text.Unbroken line := by
  intro line member
  rcases List.mem_cons.1 member with rfl | member
  · show Text.Unbroken (groupHeader group)
    unfold groupHeader
    split
    · exact unbroken_headerLine _ _
    · exact ⟨by decide, by decide⟩
  · obtain ⟨hunkLine, inside, rfl⟩ := List.mem_map.1 member
    obtain ⟨e, -, shown⟩ := List.mem_flatMap.1 inside
    exact unbroken_editLines hold hnew e hunkLine shown

theorem hasPrefix_groupHeader {group : List Edit} (nonempty : group ≠ []) :
    Text.hasPrefix headerSign (groupHeader group) = true := by
  simp only [groupHeader, List.head?_eq_some_head nonempty, List.getLast?_eq_some_getLast nonempty,
    headerLine]
  have sign : ("@@ -" : String) = headerSign ++ " -" := rfl
  simp only [sign, String.append_assoc]
  exact Text.hasPrefix_append ..

/-- No line of a hunk looks like the first line of a section. -/
theorem groupHunk_no_section {group : List Edit} (nonempty : group ≠ []) :
    ∀ line ∈ (groupHunk old new group).written, Text.hasPrefix sectionSign line = false := by
  intro line member
  rcases List.mem_cons.1 member with rfl | member
  · exact Text.hasPrefix_eq_false_of_sign rfl rfl (by decide) (hasPrefix_groupHeader nonempty)
  · obtain ⟨hunkLine, -, rfl⟩ := List.mem_map.1 member
    exact (HunkLine.written_no_boundary hunkLine).2

theorem spells_unifiedText {path : String} {script : List Edit} (named : Text.Unbroken path)
    (hold : Broken old) (hnew : Broken new) :
    Text.Spells (unifiedText path old new script)
      (nameLines path (groups script) ++
        (groups script).flatMap fun group => (groupHunk old new group).written) := by
  have hunks : Text.Spells (String.join ((groups script).map (hunkText old new)))
      ((groups script).flatMap fun group => (groupHunk old new group).written) :=
    .join fun group member => spells_hunkText hold hnew (ne_nil_of_mem_groupsFrom member)
  have nameLine {sign : String} (plain : Text.Unbroken sign) :
      Text.Spells (sign ++ path ++ "\n") [sign ++ path] :=
    .closed (unbroken_signed plain named).1 (unbroken_signed plain named).2
  unfold unifiedText nameLines
  cases hg : groups script with
  | nil => exact .nil
  | cons g gs =>
    rw [hg] at hunks
    have names (body : String) : "--- a/" ++ path ++ "\n+++ b/" ++ path ++ "\n" ++ body =
        "--- a/" ++ path ++ "\n" ++ ("+++ b/" ++ path ++ "\n" ++ body) := by
      have feed : ("\n+++ b/" : String) = "\n" ++ "+++ b/" := rfl
      simp only [feed, String.append_assoc]
    rw [if_neg (List.cons_ne_nil _ _)]
    simp only [names]
    exact (nameLine ⟨by decide, by decide⟩).append ((nameLine ⟨by decide, by decide⟩).append hunks)

/-! ## The versions of a file -/

end Diff

/-- Two versions of a file. -/
structure FileVersions where
  path : String
  old : String
  new : String

namespace FileVersions

/-- The diff between the versions, as one section. -/
def diff (v : FileVersions) : String :=
  Diff.renderSection v.path v.old v.new

/-- The path is one line that does not end at a tab, and the lines of the texts end at line feeds.
-/
structure Clean (v : FileVersions) : Prop where
  path_unbroken : Text.Unbroken v.path
  path_end : v.path.toList.getLast? ≠ some '\t'
  old_ret : '\r' ∉ v.old.toList
  new_ret : '\r' ∉ v.new.toList

instance (v : FileVersions) : Decidable v.Clean :=
  decidable_of_iff ((('\n' ∉ v.path.toList ∧ '\r' ∉ v.path.toList) ∧
      v.path.toList.getLast? ≠ some '\t') ∧ '\r' ∉ v.old.toList ∧ '\r' ∉ v.new.toList)
    ⟨fun h => ⟨h.1.1, h.1.2, h.2.1, h.2.2⟩,
      fun h => ⟨⟨h.path_unbroken, h.path_end⟩, h.old_ret, h.new_ret⟩⟩

end FileVersions

namespace Diff

open FileVersions

/-- The groups of edits between the versions. -/
def groupsOf (v : FileVersions) : List (List Edit) :=
  groups (scriptBetween (linesWithEnds v.old) (linesWithEnds v.new))

/-- The lines of the section below its first line. -/
def linesBelow (v : FileVersions) : List String :=
  nameLines v.path (groupsOf v) ++
    (groupsOf v).flatMap fun group =>
      (groupHunk (linesWithEnds v.old) (linesWithEnds v.new) group).written

variable {v : FileVersions}

theorem unbroken_nameLines (clean : v.Clean) (hunks : List (List Edit)) :
    ∀ line ∈ nameLines v.path hunks, Text.Unbroken line := by
  intro line member
  rcases mem_nameLines member with rfl | rfl
  · exact unbroken_signed ⟨by decide, by decide⟩ clean.path_unbroken
  · exact unbroken_signed ⟨by decide, by decide⟩ clean.path_unbroken

theorem unbroken_linesBelow (clean : v.Clean) : ∀ line ∈ linesBelow v, Text.Unbroken line := by
  intro line member
  rcases List.mem_append.1 member with member | member
  · exact unbroken_nameLines clean _ line member
  · obtain ⟨group, -, shown⟩ := List.mem_flatMap.1 member
    exact unbroken_groupHunk (fun _ => stripped_of_mem clean.old_ret)
      (fun _ => stripped_of_mem clean.new_ret) group line shown

theorem linesBelow_no_section (v : FileVersions) :
    ∀ line ∈ linesBelow v, Text.hasPrefix sectionSign line = false := by
  intro line member
  rcases List.mem_append.1 member with member | member
  · rcases mem_nameLines member with rfl | rfl
    · exact HunkLine.hasPrefix_sign rfl rfl (by decide) _
    · exact HunkLine.hasPrefix_sign rfl rfl (by decide) _
  · obtain ⟨group, inside, shown⟩ := List.mem_flatMap.1 member
    exact groupHunk_no_section (ne_nil_of_mem_groupsFrom inside) line shown

theorem unbroken_firstLine {path : String} (named : Text.Unbroken path) :
    Text.Unbroken (sectionSign ++ firstLine path) := by
  obtain ⟨feed, ret⟩ := named
  constructor
  · simp [sectionSign, firstLine, feed]
  · simp [sectionSign, firstLine, ret]

theorem diff_eq (v : FileVersions) :
    v.diff = sectionSign ++ firstLine v.path ++ "\n" ++
      unifiedText v.path (linesWithEnds v.old) (linesWithEnds v.new)
        (scriptBetween (linesWithEnds v.old) (linesWithEnds v.new)) := by
  have written : v.diff = sectionText v.path (linesWithEnds v.old) (linesWithEnds v.new)
      (scriptBetween (linesWithEnds v.old) (linesWithEnds v.new)) := rfl
  have sign : ("diff --git a/" : String) = sectionSign ++ "a/" := rfl
  unfold sectionText at written
  unfold firstLine
  rw [written, sign]
  simp only [String.append_assoc]

/-- The lines of a rendered diff: its first line, and those below. -/
theorem spells_diff (clean : v.Clean) :
    Text.Spells v.diff ((sectionSign ++ firstLine v.path) :: linesBelow v) := by
  have plain := unbroken_firstLine clean.path_unbroken
  have first : Text.Spells (sectionSign ++ firstLine v.path ++ "\n") [_] := .closed plain.1 plain.2
  have below : Text.Spells (unifiedText v.path (linesWithEnds v.old) (linesWithEnds v.new)
      (scriptBetween (linesWithEnds v.old) (linesWithEnds v.new))) (linesBelow v) :=
    spells_unifiedText clean.path_unbroken (fun _ => stripped_of_mem clean.old_ret)
      fun _ => stripped_of_mem clean.new_ret
  rw [diff_eq, ← List.singleton_append]
  exact first.append below

/-! ## Taking apart -/

theorem sectionsOf_plain {ls : List String}
    (plain : ∀ line ∈ ls, Text.hasPrefix sectionSign line = false) : sectionsOf ls = [] := by
  induction ls with
  | nil => rfl
  | cons line ls ih =>
    rw [sectionsOf, Text.stripPrefix?_eq_none (plain line (.head _))]
    exact ih fun line member => plain line (.tail _ member)

theorem sectionsOf_section (first : String) {below : List String}
    (plain : ∀ line ∈ below, Text.hasPrefix sectionSign line = false) :
    sectionsOf ((sectionSign ++ first) :: below) = [Section.ofLines first below] := by
  have all : below.takeWhile (fun line => !Text.hasPrefix sectionSign line) = below := by
    refine List.takeWhile_eq_self_iff.2 fun line member => ?_
    rw [plain line member]
    rfl
  rw [sectionsOf, Text.stripPrefix?_append, all, sectionsOf_plain plain]

/-- Sections whose other lines do not look like first lines are found one by one. -/
theorem sectionsOf_flatMap {α : Type} {first : α → String} {below : α → List String}
    (xs : List α) (plain : ∀ x ∈ xs, ∀ line ∈ below x, Text.hasPrefix sectionSign line = false) :
    sectionsOf (xs.flatMap fun x => (sectionSign ++ first x) :: below x) =
      xs.map fun x => Section.ofLines (first x) (below x) := by
  induction xs with
  | nil => rfl
  | cons x xs ih =>
    have this := sectionsOf_section (first x) (plain x (.head _))
    have rest := ih fun y member => plain y (.tail _ member)
    rw [List.flatMap_cons, List.map_cons, ← rest]
    cases xs with
    | nil => rwa [List.flatMap_nil, List.append_nil]
    | cons y ys =>
      rw [List.flatMap_cons, List.cons_append (a := sectionSign ++ first y),
        sectionsOf_append (Text.hasPrefix_append ..), this]
      rfl

/-! ## Sections -/

theorem takeWhile_linesBelow (v : FileVersions) :
    (linesBelow v).takeWhile (fun line => !Text.hasPrefix headerSign line) =
      nameLines v.path (groupsOf v) := by
  have nonempty : ∀ g ∈ groupsOf v, g ≠ [] := fun g => ne_nil_of_mem_groupsFrom
  unfold linesBelow nameLines
  generalize groupsOf v = hunks at nonempty
  cases hunks with
  | nil => rfl
  | cons g gs =>
    have oldName : Text.hasPrefix headerSign ("--- a/" ++ v.path) = false :=
      HunkLine.hasPrefix_sign rfl rfl (by decide) _
    have newName : Text.hasPrefix headerSign ("+++ b/" ++ v.path) = false :=
      HunkLine.hasPrefix_sign rfl rfl (by decide) _
    have header := hasPrefix_groupHeader (nonempty g (.head _))
    simp [oldName, newName, PlacedHunk.written, groupHunk, header]

theorem namedPath?_old {path : String} (last : path.toList.getLast? ≠ some '\t') :
    namedPath? ("--- a/" ++ path) = some path := by
  rw [namedPath?, Text.stripPrefix?_append]
  show some ((Text.stripSuffix? "\t" path).getD path) = some path
  rw [Text.stripSuffix?_tab_eq_none last, Option.getD_none]

theorem namedPath?_new {path : String} (last : path.toList.getLast? ≠ some '\t') :
    namedPath? ("+++ b/" ++ path) = some path := by
  have other : Text.hasPrefix "--- a/" ("+++ b/" ++ path) = false :=
    HunkLine.hasPrefix_sign rfl rfl (by decide) path
  rw [namedPath?, Text.stripPrefix?_eq_none other, Text.stripPrefix?_append]
  show some ((Text.stripSuffix? "\t" path).getD path) = some path
  rw [Text.stripSuffix?_tab_eq_none last, Option.getD_none]

/-- The lines that name a file do not say that it is gone. -/
theorem tellsDeleted_nameLines (path : String) (hunks : List (List Edit)) :
    (nameLines path hunks).any tellsDeleted = false := by
  have mode {sign : String} (other : Text.hasPrefix "deleted file mode" (sign ++ path) = false)
      (name : sign ++ path ≠ "+++ /dev/null") : ¬ tellsDeleted (sign ++ path) = true := by
    simp [tellsDeleted, other, name]
  rw [List.any_eq_false]
  intro line member
  rcases mem_nameLines member with rfl | rfl
  · exact mode (HunkLine.hasPrefix_sign rfl rfl (by decide) _) (by simp [← String.toList_inj])
  · exact mode (HunkLine.hasPrefix_sign rfl rfl (by decide) _) (by simp [← String.toList_inj])

/-- **A rendered diff is one section with the path of the file and its lines.** -/
theorem ofLines_linesBelow (clean : v.Clean) :
    Section.ofLines (firstLine v.path) (linesBelow v) =
      { path := v.path, body := Text.joinLines (linesBelow v), deleted := false } := by
  have named : (((nameLines v.path (groupsOf v)).filterMap namedPath?).getLast?).getD v.path =
      v.path := by
    unfold nameLines
    split
    · rfl
    · simp [namedPath?_old clean.path_end, namedPath?_new clean.path_end]
  simp only [Section.ofLines, takeWhile_linesBelow, tellsDeleted_nameLines,
    pathOfFirstLine?_firstLine, Option.map_some, Option.getD_some, String.ofList_toList, named]

/-- **Rendered diffs, one after another, are taken apart into those of the files.** -/
theorem split_join_diff {files : List FileVersions} (clean : ∀ v ∈ files, v.Clean) :
    Section.split (String.join (files.map FileVersions.diff)) =
      files.map fun v =>
        { path := v.path, body := Text.joinLines (linesBelow v), deleted := false } := by
  have spelled : Text.Spells (String.join (files.map FileVersions.diff))
      (files.flatMap fun v => (sectionSign ++ firstLine v.path) :: linesBelow v) :=
    .join fun v member => spells_diff (clean v member)
  rw [Section.split, spelled.lines_eq, sectionsOf_flatMap files fun v _ => linesBelow_no_section v]
  exact List.map_congr_left fun v member => ofLines_linesBelow (clean v member)

/-! ## The body of a section -/

/-- The first line of a section adds no block to its diff. -/
theorem blocksOf_diff (clean : v.Clean) :
    blocksOf (Text.lines v.diff) = blocksOf (Text.lines (Text.joinLines (linesBelow v))) := by
  rw [(spells_diff clean).lines_eq, Text.lines_joinLines (unbroken_linesBelow clean)]
  exact blocksOf_section (Text.hasPrefix_append ..) _

end Diff

/-! ## Analysis -/

/-- Diffs with the same blocks are read alike. -/
theorem readDiff?_congr {diff other : String}
    (same : Diff.blocksOf (Text.lines diff) = Diff.blocksOf (Text.lines other)) :
    readDiff? diff = readDiff? other := by
  have ok (file : Diff.FileDiff) :
      Diff.FileDiff.parse diff = .ok file ↔ Diff.FileDiff.parse other = .ok file := by
    rw [Diff.parse_eq_ok_iff_blocks, Diff.parse_eq_ok_iff_blocks, same]
  have overflow : Diff.FileDiff.parse diff = .error .overflow ↔
      Diff.FileDiff.parse other = .error .overflow := by
    rw [Diff.parse_eq_overflow_iff, Diff.parse_eq_overflow_iff, same]
  unfold readDiff?
  rcases read : Diff.FileDiff.parse other with (_ | _) | file
  · rcases here : Diff.FileDiff.parse diff with (_ | _) | file
    · rfl
    · exact absurd (read.symm.trans (overflow.1 here)) nofun
    · exact absurd (read.symm.trans ((ok file).1 here)) nofun
  · rw [overflow.2 read]
  · rw [(ok file).2 read]

theorem analyzeFile_congr (g : Grammar) (file : String) {diff other : String} (source : Option String)
    (same : Diff.blocksOf (Text.lines diff) = Diff.blocksOf (Text.lines other)) :
    analyzeFile g file diff source = analyzeFile g file other source := by
  rw [analyzeFile, analyzeFile, readDiff?_congr same]

theorem analyzeFile_joinLines (g : Grammar) {v : FileVersions} (clean : v.Clean)
    (source : Option String) :
    analyzeFile g v.path (Text.joinLines (Diff.linesBelow v)) source =
      analyzeFile g v.path v.diff source :=
  analyzeFile_congr g v.path source (Diff.blocksOf_diff clean).symm

/-- **A diff of rendered files is analyzed as its files are.** The files come out in their order
with the paths that they were rendered under, whatever stands in the paths and in the texts, and
those worth targets are analyzed as if each were the only one. Equal versions leave the first line
alone, which is enough for the path. -/
theorem analyzeDiff_join_diff (g : Grammar) {files : List FileVersions}
    (clean : ∀ v ∈ files, v.Clean) (filter : FileFilter) (workers : Nat)
    (load : String → Option String) :
    (Diff.Section.split (String.join (files.map FileVersions.diff))).map (·.path) =
        files.map (·.path) ∧
      analyzeDiff g (String.join (files.map FileVersions.diff)) filter workers load =
        ((files.filter fun v => filter.accepts v.path).mapM
          fun v => analyzeFile g v.path v.diff (load v.path)) ∧
      ∀ v ∈ files, v.old = v.new → v.diff = "diff --git a/" ++ v.path ++ " b/" ++ v.path ++ "\n" := by
  refine ⟨?_, ?_, ?_⟩
  · rw [Diff.split_join_diff clean, List.map_map]
    rfl
  · rw [analyzeDiff_eq, Diff.split_join_diff clean, List.filter_map, List.mapM_map]
    simp only [Function.comp_def, Bool.not_false, Bool.true_and]
    exact Pool.mapM_congr_left fun v member =>
      analyzeFile_joinLines g (clean v (List.mem_filter.1 member).1) (load v.path)
  · intro v _ same
    have none_shown := Diff.groups_scriptBetween_self (Diff.linesWithEnds v.new)
    have sign : ("diff --git a/" : String) = Diff.sectionSign ++ "a/" := rfl
    rw [Diff.diff_eq, same]
    unfold Diff.unifiedText Diff.firstLine
    rw [none_shown, sign]
    simp only [String.append_assoc, String.append_empty]

/-- A file that stayed the same, with a path that could be cut at several places; a file that is no
source; and one with lines that look like names and headers. -/
def disguisedFiles : List FileVersions :=
  [⟨"src/x b/x y.js", "a\n", "a\n"⟩, ⟨"notes.txt", "", "diff --git a/a b/b\n"⟩,
    ⟨"api/a.js", Diff.disguised, Diff.disguisedMore⟩]

theorem analyzeDiff_join_diff_disguised :
    (∀ v ∈ disguisedFiles, v.Clean) ∧
      (Diff.Section.split (String.join (disguisedFiles.map FileVersions.diff))).map (·.path) =
        disguisedFiles.map (·.path) ∧
      analyzeDiff formGrammar (String.join (disguisedFiles.map FileVersions.diff)) {} 2
          (fun _ => some savedForm) =
        ((disguisedFiles.filter fun v => FileFilter.accepts {} v.path).mapM
          fun v => analyzeFile formGrammar v.path v.diff (some savedForm)) ∧
      ∀ v ∈ disguisedFiles, v.old = v.new →
        v.diff = "diff --git a/" ++ v.path ++ " b/" ++ v.path ++ "\n" :=
  have clean : ∀ v ∈ disguisedFiles, v.Clean := by decide +kernel
  ⟨clean, analyzeDiff_join_diff formGrammar clean {} 2 fun _ => some savedForm⟩

end TestImpact
