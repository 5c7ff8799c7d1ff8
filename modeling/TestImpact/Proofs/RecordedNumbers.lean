import Mathlib.Data.List.Basic
import TestImpact.Proofs.RenderedDiff

/-! Where recorded numbers lie. Unless the new file is empty, every hunk of a rendered diff has a line
of it: a group of edits that is cut off from another one has kept lines at the cut, and a group that
is not is the whole script. So a header names a line of the new file, and what is counted from there
is the number of a line, or the one behind the last line for a deletion at the end. An empty file has
no line that a header could name, and there every deletion is recorded under zero. -/

namespace TestImpact.Diff

variable {old new : List String}

/-! ## Groups with new lines -/

/-- One of the edits has lines of the new file. -/
def HasNew (script : List Edit) : Prop :=
  ∃ e ∈ script, 0 < e.newLength

theorem Edit.Fits.newLength_eq {e : Edit} {i j : Nat} (fits : e.Fits old new i j)
    (kept : e.kind = .keep) : e.newLength = e.oldLength := by
  cases fits with
  | keep => rfl
  | delete => cases kept
  | insert => cases kept
  | replace => cases kept

/-- Cutting a range down to the lines near a change leaves some of them. -/
theorem near_pos {e : Edit} {i j : Nat} (fits : e.Fits old new i j) (kept : e.kind = .keep)
    (some_new : 0 < e.newLength) : 0 < e.newLength - (e.oldLength - context) := by
  have same := fits.newLength_eq kept
  unfold context
  omega

theorem trimFront_hasNew {script : List Edit} {i j a b : Nat} (h : Reads old new i j script a b)
    (some_new : HasNew script) : HasNew (trimFront script) := by
  cases h with
  | nil => exact some_new
  | @cons e rest _ _ _ _ fits h =>
    unfold trimFront
    dsimp only
    split
    · next kept =>
      obtain ⟨f, member, pos⟩ := some_new
      rcases List.mem_cons.1 member with rfl | member
      · have near := near_pos fits kept pos
        exact ⟨_, .head _, near⟩
      · exact ⟨f, .tail _ member, pos⟩
    · exact some_new

theorem trimBack_hasNew {script : List Edit} {i j a b : Nat} (h : Reads old new i j script a b)
    (some_new : HasNew script) : HasNew (trimBack script) := by
  fun_induction trimBack script generalizing i j with
  | case1 => exact some_new
  | case2 e kept =>
    obtain ⟨f, member, pos⟩ := some_new
    obtain rfl := List.mem_singleton.1 member
    cases h with
    | cons fits _ => exact ⟨_, .head _, near_pos fits kept pos⟩
  | case3 e changed => exact some_new
  | case4 e rest more ih =>
    obtain ⟨f, member, pos⟩ := some_new
    rcases List.mem_cons.1 member with rfl | member
    · exact ⟨f, .head _, pos⟩
    · cases h with
      | cons _ h =>
        obtain ⟨g, listed, pos⟩ := ih h ⟨f, member, pos⟩
        exact ⟨g, .tail _ listed, pos⟩

theorem groupsFrom_hasNew {script group : List Edit} {i j a b : Nat}
    (h : Reads old new i j (group ++ script) a b) (some_new : HasNew (group ++ script)) :
    ∀ g ∈ groupsFrom group script, HasNew g := by
  -- A cut shares kept lines out to both sides; without one the whole script is left as the group.
  induction script generalizing group i j with
  | nil =>
    rw [List.append_nil] at some_new
    have alone : ∀ g ∈ [group], HasNew g := List.forall_mem_singleton.2 some_new
    unfold groupsFrom
    split
    · exact nofun
    · split
      · exact nofun
      · exact alone
    · exact alone
  | cons e script ih =>
    unfold groupsFrom
    split
    · next long =>
      obtain ⟨kept, far⟩ := long
      obtain ⟨c, d, -, rest⟩ := Reads.append_iff.1 h
      cases rest with
      | cons fits rest =>
        have same := fits.newLength_eq kept
        have near := near_pos fits kept (by omega)
        obtain ⟨lowered, ho, hn⟩ := fits.lower kept (Nat.sub_le e.oldLength context)
        dsimp only
        refine List.forall_mem_cons.2 ⟨⟨_, List.mem_append_right _ (.head _), near⟩, ?_⟩
        exact ih (.cons lowered (by rwa [ho, hn])) ⟨_, .head _, near⟩
    · have assoc : group ++ e :: script = group ++ [e] ++ script := by simp
      rw [assoc] at h some_new
      exact ih h some_new

theorem Reads.hasNew {script : List Edit} {i j a b : Nat} (h : Reads old new i j script a b)
    (longer : j < b) : HasNew script := by
  cases found : script.find? fun e => 0 < e.newLength with
  | none =>
    have same := h.stop_eq_of_none_new found
    omega
  | some e => exact ⟨e, List.mem_of_find?_eq_some found, by simpa using List.find?_some found⟩

/-- **In a diff of a file that is not empty every hunk has a line of the file.** -/
theorem groups_hasNew {script : List Edit} (right : Correct old new script) (nonempty : new ≠ []) :
    ∀ g ∈ groups script, HasNew g := by
  have some_new : HasNew script := right.hasNew (List.length_pos_iff.2 nonempty)
  obtain ⟨⟨i, j, front⟩, -⟩ := trimFront_reads right
  obtain ⟨⟨a, b, both⟩, -⟩ := trimBack_reads front
  have trimmed := trimBack_hasNew front (trimFront_hasNew right some_new)
  exact @groupsFrom_hasNew old new _ [] _ _ _ _ both trimmed

/-! ## The numbers of a hunk -/

namespace HunkLine

theorem removedFrom_cons (number : Nat) (line : HunkLine) (lines : List HunkLine) :
    removedFrom number (line :: lines) =
      (if line.isRemoved then [number] else []) ++ removedFrom (number + newCount [line]) lines := by
  cases line with
  | kept text => rfl
  | removed text => rfl
  | inserted text => rfl
  | remark text => rfl

/-- A deletion stands before, between or behind the new lines. -/
theorem mem_removedFrom {number n : Nat} {lines : List HunkLine}
    (member : n ∈ removedFrom number lines) :
    number ≤ n ∧ n ≤ number + newCount lines := by
  induction lines generalizing number with
  | nil => cases member
  | cons line lines ih =>
    rw [newCount_cons]
    rw [removedFrom_cons] at member
    rcases List.mem_append.1 member with here | below
    · split at here
      · rw [List.mem_singleton.1 here]
        omega
      · cases here
    · have := ih below
      omega

end HunkLine

theorem Reads.stop_le {script : List Edit} {i j a b : Nat} (h : Reads old new i j script a b)
    (start : j ≤ new.length) : b ≤ new.length := by
  induction h with
  | nil => exact start
  | cons fits _ ih =>
    refine ih ?_
    cases fits with
    | keep _ new_end => exact new_end
    | delete => exact start
    | insert new_end => exact new_end
    | replace _ new_end => exact new_end

section Group

variable {group : List Edit} {i j a b : Nat}

theorem groupHunk_before_le (h : Reads old new i j group a b) (some_new : HasNew group) :
    (groupHunk old new group).newLines ≠ [] ∧
      (groupHunk old new group).before + HunkLine.newCount (groupHunk old new group).lines ≤
        new.length := by
  cases found : group.find? fun e => 0 < e.newLength with
  | none =>
    obtain ⟨e, member, pos⟩ := some_new
    exact absurd (decide_eq_true pos) (List.find?_eq_none.1 found e member)
  | some e =>
    have start := (h.newStart_eq found).1
    have place : (groupHunk old new group).before = j := by
      show newBefore group = j
      rw [newBefore, found]
      exact start
    have inside := (h.bounds e (List.mem_of_find?_eq_some found)).1
    have stop := h.stop_le (start ▸ inside)
    have count : j + HunkLine.newCount (groupHunk old new group).lines = b := h.groupLines_eq.1
    refine ⟨?_, by omega⟩
    rw [Ne, groupHunk_newLines_eq_nil_iff h, found]
    exact Option.some_ne_none e

/-- Numbers from a hunk with new lines are those of lines, or the one behind the last line. -/
theorem groupHunk_numbers_bounded (h : Reads old new i j group a b) (some_new : HasNew group)
    (short : new.length + 1 < UInt32.size) :
    (∀ k ∈ (groupHunk old new group).insertedNumbers, 1 ≤ k ∧ k ≤ new.length) ∧
      ∀ place ∈ (groupHunk old new group).removedPlaces,
        1 ≤ ((groupHunk old new group).recorded place).toNat ∧
          ((groupHunk old new group).recorded place).toNat ≤ new.length + 1 := by
  obtain ⟨nonempty, stop⟩ := groupHunk_before_le h some_new
  refine ⟨fun k member => ?_, fun place member => ?_⟩
  · rw [groupHunk_insertedNumbers h] at member
    obtain ⟨e, listed, inserts⟩ := List.mem_flatMap.1 member
    have bound := (h.bounds e listed).2
    have := Edit.mem_insertedLines inserts
    omega
  · have place_le := (HunkLine.mem_removedFrom member).2
    have number : ((groupHunk old new group).recorded place).toNat = place + 1 := by
      rw [PlacedHunk.recorded, PlacedHunk.lead, if_neg nonempty]
      exact UInt32.toNat_ofNat_of_lt' (by omega)
    omega

end Group

/-- What is reported was recorded. -/
theorem recorded_of_reported {marks : List Mark} {n : LineNumber}
    (reported : n ∈ (FileDiff.ofMarks marks).lines.added ∨ n ∈ (FileDiff.ofMarks marks).lines.deleted ∨
      n ∈ (FileDiff.ofMarks marks).lines.modified) :
    n ∈ insertedNumbers marks ∨ n ∈ removedNumbers marks := by
  have shown : n ∈ (FileDiff.ofMarks marks).lines.deleted ∨
      n ∈ (FileDiff.ofMarks marks).lines.touched := by
    rw [LineChanges.mem_touched]
    exact or_left_comm.1 reported
  exact (mem_reported_ofMarks.1 shown).imp_right fun lone => mem_removedNumbers_iff.2 (.inr lone)

/-- Without added lines every deleted one is reported. -/
theorem mem_deleted_of_none_inserted {marks : List Mark} {n : LineNumber}
    (none_inserted : insertedNumbers marks = []) (removed : n ∈ removedNumbers marks) :
    n ∈ (FileDiff.ofMarks marks).lines.deleted := by
  have lone : n ∈ (pairingOf marks).loneDeleted := by
    refine (mem_removedNumbers_iff.1 removed).resolve_left ?_
    rintro ⟨a, paired⟩
    have inserted := (mem_pairs_ofMarks paired).1
    rw [none_inserted] at inserted
    cases inserted
  refine (mem_reported_ofMarks.2 (.inr lone)).resolve_right fun touched => ?_
  rw [mem_touched_ofMarks, none_inserted] at touched
  cases touched

/-! ## An emptied file -/

theorem shortestScript_nil (lines : List String) :
    shortestScript lines [] = if lines = [] then [] else [.delete 0 lines.length 0] := by
  unfold shortestScript conquer
  cases lines with
  | nil => simp [commonPrefix, commonSuffix]
  | cons line lines => simp [commonPrefix, commonSuffix_nil]

theorem repeatStep_eq_self {step : Place → Option Place} {p : Place} (stays : step p = none)
    (fuel : Nat) : Place.repeatStep step fuel p = p := by
  cases fuel with
  | zero => rfl
  | succ fuel => rw [Place.repeatStep, stays]

theorem settleAll_nil (old new : List String) (kind : EditKind) (fuel : Nat) (before : List Edit) :
    settleAll old new kind fuel before [] = before.reverse := by
  cases fuel with
  | zero => exact List.append_nil _
  | succ fuel => rfl

theorem tidy_delete (old new : List String) {e : Edit} (deletes : e.kind = .delete) :
    tidy old new [e] = [e] := by
  have up := @repeatStep_eq_self (Place.stepUp? old new) ⟨[], e, []⟩ rfl
  have down := @repeatStep_eq_self (Place.stepDown? old new) ⟨[], e, []⟩ rfl
  have alone : Place.settle old new ⟨[], e, []⟩ = ⟨[], e, []⟩ := by
    rw [Place.settle, up, down]
  have deletions : settleAll old new .delete (weight [e] + 1) [] [e] = [e] := by
    rw [settleAll, if_pos deletes, alone, settleAll_nil]
    rfl
  have insertions : settleAll old new .insert (weight [e] + 1) [] [e] = [e] := by
    rw [settleAll, if_neg (by rw [deletes]; decide), settleAll_nil]
    rfl
  rw [tidy, deletions, insertions]
  simp [joinNeighbours, deletes, Open.add, Open.change]

/-- Deleting all lines is one group. -/
theorem groups_emptied {lines : List String} (nonempty : lines ≠ []) :
    groups (scriptBetween lines []) = [[.delete 0 lines.length 0]] := by
  rw [scriptBetween, shortestScript_nil, if_neg nonempty, tidy_delete _ _ rfl]
  rfl

/-- **Where all lines are deleted, zero is the number that is recorded**, and no other. -/
theorem groupHunk_emptied {lines : List String} (nonempty : lines ≠ []) :
    (groupHunk lines [] [.delete 0 lines.length 0]).insertedNumbers = [] ∧
      ∀ n, (∃ place ∈ (groupHunk lines [] [.delete 0 lines.length 0]).removedPlaces,
        (groupHunk lines [] [.delete 0 lines.length 0]).recorded place = n) ↔ n = 0 := by
  have reads : Reads lines [] 0 0 [.delete 0 lines.length 0] (0 + lines.length) 0 :=
    .singleton (.delete (by omega) (Nat.le_refl 0))
  have none_new : (groupHunk lines [] [.delete 0 lines.length 0]).newLines = [] :=
    (groupHunk_newLines_eq_nil_iff reads).2 rfl
  have count : HunkLine.newCount (groupHunk lines [] [.delete 0 lines.length 0]).lines = 0 := by
    have := reads.groupLines_eq.1
    rwa [Nat.zero_add] at this
  have before : (groupHunk lines [] [.delete 0 lines.length 0]).before = 0 := rfl
  have shown_lines : (groupHunk lines [] [.delete 0 lines.length 0]).lines =
      lines.flatMap (shown .removed) := by
    show (lines.take lines.length).flatMap (shown .removed) ++ [] = _
    rw [List.take_length, List.append_nil]
  have recorded (place : Nat) : (groupHunk lines [] [.delete 0 lines.length 0]).recorded place =
      .ofNat place := by
    rw [PlacedHunk.recorded, PlacedHunk.lead, if_pos none_new, Nat.add_zero]
  refine ⟨groupHunk_insertedNumbers reads, fun n => ⟨?_, ?_⟩⟩
  · rintro ⟨place, member, rfl⟩
    have bound := (HunkLine.mem_removedFrom member).2
    rw [before, count] at bound
    rw [recorded, Nat.le_zero.1 bound]
    rfl
  · rintro rfl
    refine ⟨0, ?_, recorded 0⟩
    rw [PlacedHunk.removedPlaces, before, shown_lines]
    cases lines with
    | nil => exact absurd rfl nonempty
    | cons line lines =>
      rw [List.flatMap_cons]
      unfold shown
      split
      · exact .head _
      · exact .head _

theorem splitEnds_eq_nil_iff {s : List Char} : splitEnds s = [] ↔ s = [] := by
  constructor
  · intro none_left
    fun_cases splitEnds s <;> simp_all [splitEnds]
  · rintro rfl
    rfl

theorem linesWithEnds_eq_nil_iff {text : String} : linesWithEnds text = [] ↔ text = "" := by
  rw [linesWithEnds, List.map_eq_nil_iff, splitEnds_eq_nil_iff, String.toList_eq_nil_iff]

/-! ## Reading back -/

/-- The marks record the numbers of the hunks of a script, and no others. -/
structure Records (old new : List String) (script : List Edit) (marks : List Mark) : Prop where
  inserted : ∀ n, n ∈ insertedNumbers marks ↔
    ∃ g ∈ groups script, ∃ k ∈ (groupHunk old new g).insertedNumbers, .ofNat k = n
  removed : ∀ n, n ∈ removedNumbers marks ↔
    ∃ g ∈ groups script, ∃ place ∈ (groupHunk old new g).removedPlaces,
      (groupHunk old new g).recorded place = n

theorem section_records {path : String} {script : List Edit} (named : '\n' ∉ path.toList)
    (hold : Broken old) (hnew : Broken new) (short : new.length + 1 < UInt32.size)
    (right : Correct old new script) (headers : ∀ g ∈ groups script, TrueHeader g) :
    (old.length + new.length + 1 < UInt32.size →
      ∃ marks, markLines 0 none (Text.lines (sectionText path old new script)) = .ok marks) ∧
    ∀ marks, markLines 0 none (Text.lines (sectionText path old new script)) = .ok marks →
      Records old new script marks := by
  obtain ⟨u, hunks, scan, unique⟩ :=
    @scan_section old new path script named hold hnew short right headers
  refine ⟨fun few => ⟨u.marks, scan few⟩, fun marks scanned => ?_⟩
  rw [unique marks scanned]
  refine ⟨fun n => ?_, fun n => ?_⟩
  · rw [UnifiedDiff.mem_insertedNumbers_marks, hunks]
    simp only [List.mem_map, exists_exists_and_eq_and]
  · rw [UnifiedDiff.mem_removedNumbers_marks, hunks]
    simp only [List.mem_map, exists_exists_and_eq_and]

namespace Records

variable {script : List Edit} {marks : List Mark} {n : LineNumber}

/-- Where every hunk has a line of the new file, all numbers are those of lines, or the one behind the
last line. -/
theorem bounded (h : Records old new script marks) (right : Correct old new script)
    (nonempty : new ≠ []) (short : new.length + 1 < UInt32.size)
    (member : n ∈ insertedNumbers marks ∨ n ∈ removedNumbers marks) :
    1 ≤ n.toNat ∧ n.toNat ≤ new.length + 1 := by
  rcases member with member | member
  · obtain ⟨g, hg, k, hk, rfl⟩ := (h.inserted n).1 member
    obtain ⟨_, _, _, _, reads⟩ := (groups_reads right).1 g hg
    have bound := (groupHunk_numbers_bounded reads (groups_hasNew right nonempty g hg) short).1 k hk
    have number : (UInt32.ofNat k : LineNumber).toNat = k := UInt32.toNat_ofNat_of_lt' (by omega)
    omega
  · obtain ⟨g, hg, place, hp, rfl⟩ := (h.removed n).1 member
    obtain ⟨_, _, _, _, reads⟩ := (groups_reads right).1 g hg
    exact (groupHunk_numbers_bounded reads (groups_hasNew right nonempty g hg) short).2 place hp

theorem nothing (h : Records old new script marks) (unchanged : groups script = []) :
    ¬ (n ∈ insertedNumbers marks ∨ n ∈ removedNumbers marks) := by
  rw [h.inserted, h.removed, unchanged]
  rintro (⟨g, hg, -⟩ | ⟨g, hg, -⟩)
  · cases hg
  · cases hg

/-- In an emptied file zero is the only number, and it is reported as a deletion. -/
theorem reported_emptied {lines : List String} (nonempty : lines ≠ [])
    (h : Records lines [] (scriptBetween lines []) marks) :
    n ∈ (FileDiff.ofMarks marks).lines.added ∨ n ∈ (FileDiff.ofMarks marks).lines.deleted ∨
      n ∈ (FileDiff.ofMarks marks).lines.modified ↔ n = 0 := by
  obtain ⟨none_shown, zero⟩ := groupHunk_emptied nonempty
  have inserted := h.inserted
  have removed := h.removed
  rw [groups_emptied nonempty] at inserted removed
  simp only [List.mem_singleton, exists_eq_left, none_shown, zero] at inserted removed
  have none_inserted : insertedNumbers marks = [] :=
    List.eq_nil_iff_forall_not_mem.2 fun k member => by simpa using (inserted k).1 member
  constructor
  · intro reported
    rcases recorded_of_reported reported with member | member
    · rw [none_inserted] at member
      cases member
    · exact (removed n).1 member
  · rintro rfl
    exact .inr (.inl (mem_deleted_of_none_inserted none_inserted ((removed 0).2 rfl)))

end Records

/-- **Recorded numbers are those of lines of the new file, or the one behind its last line, unless the
file was emptied.** In an emptied file all that is recorded is the number zero. The headers have to
name the first new line of their groups. Texts with few lines are read for certain; with more of them
the end of a hunk may be past the last line number. -/
theorem numbers_in_file_unless_emptied {path old new : String} (named : '\n' ∉ path.toList)
    (old_ret : '\r' ∉ old.toList) (new_ret : '\r' ∉ new.toList)
    (short : (linesWithEnds new).length + 1 < UInt32.size)
    (headers : ∀ g ∈ groups (scriptBetween (linesWithEnds old) (linesWithEnds new)), TrueHeader g) :
    ((linesWithEnds old).length + (linesWithEnds new).length + 1 < UInt32.size →
      ∃ file, FileDiff.parse (renderSection path old new) = .ok file) ∧
    ∀ file, FileDiff.parse (renderSection path old new) = .ok file →
      ((∀ n, n ∈ file.lines.added ∨ n ∈ file.lines.deleted ∨ n ∈ file.lines.modified →
          1 ≤ n.toNat ∧ n.toNat ≤ (linesWithEnds new).length + 1) ↔ (new = "" → old = "")) ∧
      (new = "" → old ≠ "" →
        ∀ n, n ∈ file.lines.added ∨ n ∈ file.lines.deleted ∨ n ∈ file.lines.modified ↔ n = 0) := by
  have right := correct_scriptBetween (linesWithEnds old) (linesWithEnds new)
  obtain ⟨scan, all_records⟩ := section_records named
    (fun _ => stripped_of_mem old_ret) (fun _ => stripped_of_mem new_ret) short right headers
  refine ⟨fun few => ?_, fun file accepted => ?_⟩
  · obtain ⟨marks, scanned⟩ := scan few
    exact ⟨.ofMarks marks, parse_eq_ok_iff.2 ⟨marks, scanned, rfl⟩⟩
  obtain ⟨marks, scanned, rfl⟩ := parse_eq_ok_iff.1 accepted
  have records := all_records marks scanned
  have emptied (none_left : new = "") (some_old : old ≠ "") (n : LineNumber) :
      n ∈ (FileDiff.ofMarks marks).lines.added ∨ n ∈ (FileDiff.ofMarks marks).lines.deleted ∨
        n ∈ (FileDiff.ofMarks marks).lines.modified ↔ n = 0 := by
    rw [linesWithEnds_eq_nil_iff.2 none_left] at records
    exact records.reported_emptied (mt linesWithEnds_eq_nil_iff.1 some_old)
  refine ⟨⟨?_, ?_⟩, emptied⟩
  · intro bounded none_left
    refine Decidable.byContradiction fun some_old => ?_
    have low := (bounded 0 ((emptied none_left some_old 0).2 rfl)).1
    exact absurd low (by decide)
  · intro kept n reported
    by_cases none_left : new = ""
    · have unchanged : groups (scriptBetween (linesWithEnds old) (linesWithEnds new)) = [] := by
        rw [none_left, kept none_left]
        exact groups_scriptBetween_self _
      exact absurd (recorded_of_reported reported) (records.nothing unchanged)
    · exact records.bounded right (mt linesWithEnds_eq_nil_iff.1 none_left) short
        (recorded_of_reported reported)

/-- Without its last line. -/
def shortened : String := "a\n"

def longer : String := "a\nb\n"

theorem numbers_in_file_unless_emptied_shortened :
    '\n' ∉ "a.js".toList ∧ '\r' ∉ longer.toList ∧ '\r' ∉ shortened.toList ∧
      (linesWithEnds shortened).length + 1 < UInt32.size ∧
      (∀ g ∈ groups (scriptBetween (linesWithEnds longer) (linesWithEnds shortened)), TrueHeader g) ∧
      ((linesWithEnds longer).length + (linesWithEnds shortened).length + 1 < UInt32.size →
        ∃ file, FileDiff.parse (renderSection "a.js" longer shortened) = .ok file) ∧
      ∀ file, FileDiff.parse (renderSection "a.js" longer shortened) = .ok file →
        ((∀ n, n ∈ file.lines.added ∨ n ∈ file.lines.deleted ∨ n ∈ file.lines.modified →
            1 ≤ n.toNat ∧ n.toNat ≤ (linesWithEnds shortened).length + 1) ↔
          (shortened = "" → longer = "")) ∧
        (shortened = "" → longer ≠ "" →
          ∀ n, n ∈ file.lines.added ∨ n ∈ file.lines.deleted ∨ n ∈ file.lines.modified ↔ n = 0) :=
  have headers : ∀ g ∈ groups (scriptBetween (linesWithEnds longer) (linesWithEnds shortened)),
      TrueHeader g := by decide +kernel
  have short : (linesWithEnds shortened).length + 1 < UInt32.size := by decide +kernel
  ⟨by decide, by decide +kernel, by decide +kernel, short, headers,
    numbers_in_file_unless_emptied (by decide) (by decide +kernel) (by decide +kernel) short headers⟩

/-- The diff of a file that lost its only line. -/
def emptiedFile : FileDiff where
  lines := { deleted := .ofList [0] }
  hunks := [⟨0, 1, ["-a"]⟩]

/-- The header of an emptied file names line zero, and so does what is recorded. -/
theorem zero_recorded_in_emptied_file :
    FileDiff.parse (renderSection "a.js" shortened "") = .ok emptiedFile ∧
      ¬ ∀ old new file, '\r' ∉ old.toList → '\r' ∉ new.toList →
        FileDiff.parse (renderSection "a.js" old new) = .ok file →
          ∀ n, n ∈ file.lines.added ∨ n ∈ file.lines.deleted ∨ n ∈ file.lines.modified →
            1 ≤ n.toNat ∧ n.toNat ≤ (linesWithEnds new).length + 1 := by
  have accepted : FileDiff.parse (renderSection "a.js" shortened "") = .ok emptiedFile := by
    decide +kernel
  refine ⟨accepted, fun bounded => ?_⟩
  have low := (bounded shortened "" emptiedFile (by decide +kernel) (by decide) accepted 0
    (.inr (.inl (by decide)))).1
  exact absurd low (by decide)

end TestImpact.Diff
