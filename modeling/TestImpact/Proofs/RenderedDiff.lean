import TestImpact.Proofs.RenderedText
import TestImpact.Proofs.ShortestScript
import TestImpact.Proofs.Tidy

/-! Rendering and reading back. The hunks of a rendered diff show the changes of its script, and under
headers with the true start the scan numbers every inserted line as the new text does; so the touched
lines are those that the script inserts. -/

namespace TestImpact.Diff

variable {old new : List String}

/-! ## The groups of a script -/

/-- Less lines at its front, a kept range begins further down. -/
theorem Edit.Fits.lower {e : Edit} {i j n : Nat} (fits : e.Fits old new i j) (kept : e.kind = .keep)
    (h : n ≤ e.oldLength) :
    ((e.moveDown n).shorten n).Fits old new (i + n) (j + n) ∧
      (i + n + ((e.moveDown n).shorten n).oldLength = i + e.oldLength) ∧
      (j + n + ((e.moveDown n).shorten n).newLength = j + e.newLength) := by
  cases fits with
  | delete => cases kept
  | insert => cases kept
  | replace => cases kept
  | @keep _ _ l old_end new_end same =>
    obtain ⟨r, rfl⟩ : ∃ r, l = n + r := Nat.exists_eq_add_of_le h
    have shape : ((Edit.keep i j (n + r)).moveDown n).shorten n = .keep (i + n) (j + n) r := by
      simp [Edit.keep, Edit.moveDown, Edit.shorten]
    rw [shape]
    refine ⟨(Edit.Fits.keep_split (.keep old_end new_end same)).2, ?_, ?_⟩
    · exact Nat.add_assoc ..
    · exact Nat.add_assoc ..

/-- Less lines at its end, a kept range ends further up. -/
theorem Edit.Fits.shorten {e : Edit} {i j : Nat} (fits : e.Fits old new i j) (kept : e.kind = .keep)
    (n : Nat) : (e.shorten n).Fits old new i j := by
  cases fits with
  | delete => cases kept
  | insert => cases kept
  | replace => cases kept
  | @keep _ _ l old_end new_end same =>
    show (Edit.keep i j (l - n)).Fits old new i j
    exact .keep (by omega) (by omega) fun t ht => same t (by omega)

theorem trimFront_reads {script : List Edit} {i j a b : Nat} (h : Reads old new i j script a b) :
    (∃ i' j', Reads old new i' j' (trimFront script) a b) ∧
      insertedLines (trimFront script) = insertedLines script := by
  cases h with
  | nil => exact ⟨⟨_, _, .nil _ _⟩, rfl⟩
  | @cons e rest _ _ _ _ fits h =>
    unfold trimFront
    dsimp only
    split
    · next kept =>
      obtain ⟨lowered, ho, hn⟩ := fits.lower kept (Nat.sub_le e.oldLength context)
      refine ⟨⟨_, _, .cons lowered ?_⟩, ?_⟩
      · rwa [ho, hn]
      · rw [insertedLines_keep rest kept]
        exact insertedLines_keep rest kept
    · exact ⟨⟨_, _, .cons fits h⟩, rfl⟩

theorem trimBack_reads {script : List Edit} {i j a b : Nat} (h : Reads old new i j script a b) :
    (∃ a' b', Reads old new i j (trimBack script) a' b') ∧
      insertedLines (trimBack script) = insertedLines script := by
  fun_induction trimBack script generalizing i j with
  | case1 => exact ⟨⟨_, _, .nil _ _⟩, rfl⟩
  | case2 e kept =>
    cases h with
    | cons fits _ =>
      refine ⟨⟨_, _, .singleton (fits.shorten kept _)⟩, ?_⟩
      rw [insertedLines_keep [] kept]
      exact insertedLines_keep [] kept
  | case3 e changed => exact ⟨⟨_, _, h⟩, rfl⟩
  | case4 e rest more ih =>
    cases h with
    | cons fits h =>
      obtain ⟨⟨a', b', h'⟩, same⟩ := ih h
      exact ⟨⟨a', b', .cons fits h'⟩, congrArg (e.insertedLines ++ ·) same⟩

/-- Every group reads from somewhere to somewhere, and together they insert what the script does. -/
theorem groupsFrom_reads {script group : List Edit} {i j a b : Nat}
    (h : Reads old new i j (group ++ script) a b) :
    (∀ g ∈ groupsFrom group script, ∃ i' j' a' b', Reads old new i' j' g a' b') ∧
      (groupsFrom group script).flatMap insertedLines = insertedLines (group ++ script) := by
  induction script generalizing group i j with
  | nil =>
    rw [List.append_nil] at h ⊢
    have alone : (∀ g ∈ [group], ∃ i' j' a' b', Reads old new i' j' g a' b') ∧
        [group].flatMap insertedLines = insertedLines group := by
      refine ⟨fun g member => ?_, by simp⟩
      rw [List.mem_singleton.1 member]
      exact ⟨i, j, a, b, h⟩
    unfold groupsFrom
    split
    · exact ⟨nofun, rfl⟩
    · split
      · next e kept => exact ⟨nofun, (insertedLines_keep [] kept).symm⟩
      · exact alone
    · exact alone
  | cons e script ih =>
    unfold groupsFrom
    split
    · next long =>
      -- The first lines of a long kept range close the group, and its last ones begin the next group.
      obtain ⟨kept, far⟩ := long
      obtain ⟨c, d, first, rest⟩ := Reads.append_iff.1 h
      cases rest with
      | cons fits rest =>
        obtain ⟨lowered, ho, hn⟩ := fits.lower kept (Nat.sub_le e.oldLength context)
        have below : Reads old new (c + (e.oldLength - context)) (d + (e.oldLength - context))
            ([(e.moveDown (e.oldLength - context)).shorten (e.oldLength - context)] ++ script) a b :=
          .cons lowered (by rwa [ho, hn])
        obtain ⟨others, inserted⟩ := ih below
        dsimp only
        refine ⟨?_, ?_⟩
        · intro g member
          rcases List.mem_cons.1 member with rfl | member
          · exact ⟨_, _, _, _, first.append (.singleton (fits.shorten kept _))⟩
          · exact others g member
        · rw [List.flatMap_cons, inserted, insertedLines_append, insertedLines_append,
            insertedLines_append, insertedLines_keep script kept]
          have none_here {f : Edit} (same : f.kind = .keep) : insertedLines [f] = [] :=
            insertedLines_keep [] same
          have above : (e.shorten (e.oldLength - context)).kind = .keep := kept
          have below : ((e.moveDown (e.oldLength - context)).shorten (e.oldLength - context)).kind =
              .keep := kept
          rw [none_here above, none_here below, List.append_nil, List.nil_append]
    · have assoc : group ++ e :: script = group ++ [e] ++ script := by simp
      rw [assoc] at h ⊢
      exact ih h

/-- **Every group of a right script reads, and together they insert what the script inserts.** -/
theorem groups_reads {script : List Edit} (h : Correct old new script) :
    (∀ g ∈ groups script, ∃ i j a b, Reads old new i j g a b) ∧
      (groups script).flatMap insertedLines = insertedLines script := by
  obtain ⟨⟨i, j, front⟩, same⟩ := trimFront_reads h
  obtain ⟨⟨a, b, both⟩, same'⟩ := trimBack_reads front
  obtain ⟨reads, inserted⟩ := @groupsFrom_reads old new _ [] _ _ _ _ both
  exact ⟨reads, inserted.trans (same'.trans same)⟩

/-! ## The hunk of a group -/

namespace HunkLine

theorem newCount_append (xs ys : List HunkLine) :
    newCount (xs ++ ys) = newCount xs + newCount ys := by
  rw [newCount, List.filterMap_append, List.length_append]
  rfl

theorem contentCount_append (xs ys : List HunkLine) :
    contentCount (xs ++ ys) = contentCount xs + contentCount ys :=
  List.countP_append

theorem insertedFrom_append (number : Nat) (xs ys : List HunkLine) :
    insertedFrom number (xs ++ ys) =
      insertedFrom number xs ++ insertedFrom (number + newCount xs) ys := by
  induction xs generalizing number with
  | nil => rfl
  | cons line xs ih =>
    rw [List.cons_append, insertedFrom_cons, insertedFrom_cons, ih, newCount_cons line xs,
      Nat.add_assoc, List.append_assoc]

end HunkLine

theorem newCount_shown {kind : String → HunkLine} {count : Nat}
    (counts : ∀ t, HunkLine.newCount [kind t] = count) (lines : List String) :
    HunkLine.newCount (lines.flatMap (shown kind)) = lines.length * count := by
  induction lines with
  | nil => simp [HunkLine.newCount]
  | cons line lines ih =>
    have one : HunkLine.newCount (shown kind line) = count := by
      unfold shown
      split
      · exact counts _
      · rw [HunkLine.newCount_cons, counts]
        rfl
    rw [List.flatMap_cons, HunkLine.newCount_append, one, ih, List.length_cons, Nat.succ_mul,
      Nat.add_comm]

theorem insertedFrom_shown {kind : String → HunkLine} (other : ∀ t, (kind t).isInserted = false)
    (number : Nat) (lines : List String) :
    HunkLine.insertedFrom number (lines.flatMap (shown kind)) = [] := by
  have none_here (number : Nat) (line : String) :
      HunkLine.insertedFrom number (shown kind line) = [] := by
    unfold shown
    split
    · rw [HunkLine.insertedFrom_cons, other]
      rfl
    · rw [HunkLine.insertedFrom_cons, other]
      rfl
  induction lines generalizing number with
  | nil => rfl
  | cons line lines ih =>
    rw [List.flatMap_cons, HunkLine.insertedFrom_append, none_here, ih]
    rfl

theorem insertedFrom_shown_inserted (number : Nat) (lines : List String) :
    HunkLine.insertedFrom number (lines.flatMap (shown .inserted)) =
      List.range' number lines.length := by
  induction lines generalizing number with
  | nil => rfl
  | cons line lines ih =>
    have here : HunkLine.insertedFrom number (shown .inserted line) = [number] := by
      unfold shown
      split
      · rfl
      · rfl
    have count : HunkLine.newCount (shown .inserted line) = 1 := by
      unfold shown
      split
      · rfl
      · rfl
    rw [List.flatMap_cons, HunkLine.insertedFrom_append, here, count, ih]
    rfl

theorem contentCount_shown {kind : String → HunkLine} (content : ∀ t, (kind t).isRemark = false)
    (lines : List String) : HunkLine.contentCount (lines.flatMap (shown kind)) = lines.length := by
  induction lines with
  | nil => rfl
  | cons line lines ih =>
    have single (t : String) : HunkLine.contentCount [kind t] = 1 := by
      simp [HunkLine.contentCount, content]
    have one : HunkLine.contentCount (shown kind line) = 1 := by
      unfold shown
      split
      · exact single _
      · rw [HunkLine.contentCount_cons, single]
        rfl
    rw [List.flatMap_cons, HunkLine.contentCount_append, one, ih, List.length_cons, Nat.add_comm]

/-- The lines that show an edit have its new lines, and insert what it inserts. -/
theorem Edit.Fits.editLines_eq {e : Edit} {i j : Nat} (fits : e.Fits old new i j) :
    HunkLine.newCount (editLines old new e) = e.newLength ∧
      HunkLine.insertedFrom (j + 1) (editLines old new e) = e.insertedLines := by
  have old_length := fits.oldLines_length
  have new_length := fits.newLines_length
  have kept := @newCount_shown .kept 1 fun _ => rfl
  have removed := @newCount_shown .removed 0 fun _ => rfl
  have inserted := @newCount_shown .inserted 1 fun _ => rfl
  have kept_none := @insertedFrom_shown .kept fun _ => rfl
  have removed_none := @insertedFrom_shown .removed fun _ => rfl
  cases fits with
  | @keep _ _ n =>
    have count : HunkLine.newCount (editLines old new (.keep i j n)) = _ := kept _
    refine ⟨?_, kept_none _ _⟩
    rw [count, old_length]
    exact Nat.mul_one n
  | @delete _ _ n k => exact ⟨removed _, removed_none _ _⟩
  | @insert _ _ n k =>
    have count : HunkLine.newCount (editLines old new (.insert k j n)) = _ := inserted _
    have listed : HunkLine.insertedFrom (j + 1) (editLines old new (.insert k j n)) = _ :=
      insertedFrom_shown_inserted _ _
    rw [count, listed, new_length]
    exact ⟨Nat.mul_one n, rfl⟩
  | @replace _ _ n m =>
    have parts : editLines old new (.replace i n j m) =
        ((Edit.replace i n j m).oldLines old).flatMap (shown .removed) ++
          ((Edit.replace i n j m).newLines new).flatMap (shown .inserted) := rfl
    rw [parts, HunkLine.newCount_append, HunkLine.insertedFrom_append, removed, removed_none,
      inserted, insertedFrom_shown_inserted, new_length, Nat.mul_zero, Nat.zero_add]
    exact ⟨Nat.mul_one m, rfl⟩

/-- The lines that show a group have its new lines, and insert what it inserts. -/
theorem Reads.groupLines_eq {group : List Edit} {i j a b : Nat} (h : Reads old new i j group a b) :
    j + HunkLine.newCount (group.flatMap (editLines old new)) = b ∧
      HunkLine.insertedFrom (j + 1) (group.flatMap (editLines old new)) = insertedLines group := by
  induction h with
  | nil => exact ⟨rfl, rfl⟩
  | @cons e rest i j _ _ fits h ih =>
    obtain ⟨count, inserted⟩ := fits.editLines_eq
    obtain ⟨rest_count, rest_inserted⟩ := ih
    rw [List.flatMap_cons, HunkLine.newCount_append, HunkLine.insertedFrom_append, count, inserted]
    constructor
    · rw [← Nat.add_assoc]
      exact rest_count
    · rw [Nat.add_right_comm, rest_inserted]
      rfl

/-- An edit is shown by no more lines than it has on both sides. -/
theorem Edit.Fits.contentCount_le {e : Edit} {i j : Nat} (fits : e.Fits old new i j) :
    HunkLine.contentCount (editLines old new e) ≤ e.oldLength + e.newLength := by
  have old_length := fits.oldLines_length
  have new_length := fits.newLines_length
  have kept := @contentCount_shown .kept fun _ => rfl
  have removed := @contentCount_shown .removed fun _ => rfl
  have inserted := @contentCount_shown .inserted fun _ => rfl
  cases fits with
  | @keep i j n =>
    have count : HunkLine.contentCount (editLines old new (.keep i j n)) = _ := kept _
    omega
  | @delete i j n k =>
    have count : HunkLine.contentCount (editLines old new (.delete i n k)) = _ := removed _
    omega
  | @insert i j n k =>
    have count : HunkLine.contentCount (editLines old new (.insert k j n)) = _ := inserted _
    omega
  | @replace i j n m =>
    have parts : editLines old new (.replace i n j m) =
        ((Edit.replace i n j m).oldLines old).flatMap (shown .removed) ++
          ((Edit.replace i n j m).newLines new).flatMap (shown .inserted) := rfl
    rw [parts, HunkLine.contentCount_append, removed, inserted]
    omega

theorem Reads.contentCount_le {group : List Edit} {i j a b : Nat} (h : Reads old new i j group a b) :
    i + j + HunkLine.contentCount (group.flatMap (editLines old new)) ≤ a + b := by
  induction h with
  | nil => exact Nat.le_refl _
  | cons fits _ ih =>
    have here := fits.contentCount_le
    rw [List.flatMap_cons, HunkLine.contentCount_append]
    omega

/-- Where lines of a text are read, they are lines of the text. -/
theorem Reads.stop_inside {group : List Edit} {i j a b : Nat} (h : Reads old new i j group a b) :
    (a = i ∨ a ≤ old.length) ∧ (b = j ∨ b ≤ new.length) := by
  induction h with
  | nil => exact ⟨.inl rfl, .inl rfl⟩
  | cons fits _ ih =>
    obtain ⟨old_stop, new_stop⟩ := ih
    cases fits with
    | keep => dsimp only [Edit.keep] at *; omega
    | delete => dsimp only [Edit.delete] at *; omega
    | insert => dsimp only [Edit.insert] at *; omega
    | replace => dsimp only [Edit.replace] at *; omega

/-- No edit of a right script reaches past the new lines. -/
theorem Reads.bounds {group : List Edit} {i j a b : Nat} (h : Reads old new i j group a b) :
    ∀ e ∈ group, e.newStart ≤ new.length ∧ e.newStop ≤ new.length := by
  induction h with
  | nil => exact nofun
  | @cons e rest _ _ _ _ fits _ ih =>
    intro f member
    rcases List.mem_cons.1 member with rfl | member
    · cases fits with
      | keep _ new_end => exact ⟨Nat.le_trans (Nat.le_add_right ..) new_end, new_end⟩
      | delete _ place => exact ⟨place, place⟩
      | insert new_end => exact ⟨Nat.le_trans (Nat.le_add_right ..) new_end, new_end⟩
      | replace _ new_end => exact ⟨Nat.le_trans (Nat.le_add_right ..) new_end, new_end⟩
    · exact ih f member

theorem Reads.headerStart_le {group : List Edit} {i j a b : Nat} (h : Reads old new i j group a b) :
    headerStart group ≤ new.length + 1 := by
  unfold headerStart
  split
  · next first last begins ends =>
    have first_start := (h.bounds first (List.mem_of_head? begins)).1
    unfold rangeStart
    split <;> omega
  · exact Nat.zero_le _

/-- The first edit of a group with new lines begins where the group does. -/
theorem Reads.newStart_eq {group : List Edit} {i j a b : Nat} (h : Reads old new i j group a b)
    {e : Edit} (found : group.find? (fun e => 0 < e.newLength) = some e) : e.newStart = j ∧ j < b := by
  induction h with
  | nil => cases found
  | @cons f rest _ j _ b fits h ih =>
    rw [List.find?_cons] at found
    split at found
    · next some_new =>
      cases found
      have longer : j < b := by
        have := h.mono.2
        simp only [decide_eq_true_eq] at some_new
        omega
      cases fits with
      | keep => exact ⟨rfl, longer⟩
      | delete => exact absurd some_new (by simp [Edit.delete])
      | insert => exact ⟨rfl, longer⟩
      | replace => exact ⟨rfl, longer⟩
    · next none_new =>
      have none_new : f.newLength = 0 := by simpa using none_new
      simpa [none_new] using ih found

theorem Reads.stop_eq_of_none_new {group : List Edit} {i j a b : Nat}
    (h : Reads old new i j group a b)
    (none_new : group.find? (fun e => 0 < e.newLength) = none) : b = j := by
  induction h with
  | nil => rfl
  | @cons f rest _ _ _ _ _ _ ih =>
    simp only [List.find?_eq_none, List.mem_cons, forall_eq_or_imp, decide_eq_true_eq,
      Nat.not_lt, Nat.le_zero] at none_new ih
    simpa [none_new.1] using ih none_new.2

/-- A group has a new line exactly where one of its edits has. -/
theorem groupHunk_newLines_eq_nil_iff {group : List Edit} {i j a b : Nat}
    (h : Reads old new i j group a b) :
    (groupHunk old new group).newLines = [] ↔ group.find? (fun e => 0 < e.newLength) = none := by
  have count := h.groupLines_eq.1
  have no_line : (groupHunk old new group).newLines = [] ↔ b = j := by
    rw [← List.length_eq_zero_iff]
    show HunkLine.newCount (group.flatMap (editLines old new)) = 0 ↔ b = j
    omega
  rw [no_line]
  constructor
  · intro stop
    cases found : group.find? fun e => 0 < e.newLength with
    | none => rfl
    | some e =>
      have := (h.newStart_eq found).2
      omega
  · exact h.stop_eq_of_none_new

theorem groupHunk_insertedNumbers {group : List Edit} {i j a b : Nat}
    (h : Reads old new i j group a b) :
    (groupHunk old new group).insertedNumbers = insertedLines group := by
  have inserted := h.groupLines_eq.2
  show HunkLine.insertedFrom (newBefore group + 1) (group.flatMap (editLines old new)) = _
  unfold newBefore
  split
  · next e found => rw [(h.newStart_eq found).1, inserted]
  · next none_new =>
    have empty : (group.flatMap (editLines old new)).filterMap HunkLine.new? = [] :=
      (groupHunk_newLines_eq_nil_iff h).2 none_new
    rw [← inserted, HunkLine.insertedFrom_eq_nil empty, HunkLine.insertedFrom_eq_nil empty]

/-- The header of a group gives the number of its first new line. -/
def TrueHeader (group : List Edit) : Prop :=
  ∀ e ∈ group.find? fun e => 0 < e.newLength, headerStart group = e.newStart + 1

instance (group : List Edit) : Decidable (TrueHeader group) :=
  inferInstanceAs
    (Decidable (∀ e ∈ group.find? fun e => 0 < e.newLength, headerStart group = e.newStart + 1))

theorem groupHunk_start {group : List Edit} {i j a b : Nat} (h : Reads old new i j group a b)
    (header : TrueHeader group) : (groupHunk old new group).start = headerStart group := by
  unfold PlacedHunk.start PlacedHunk.lead
  show newBefore group + _ = _
  unfold newBefore
  split
  · next e found =>
    have some_new : (groupHunk old new group).newLines ≠ [] := by
      rw [Ne, groupHunk_newLines_eq_nil_iff h, found]
      simp
    rw [if_neg some_new, header e found]
  · next none_new => rw [if_pos ((groupHunk_newLines_eq_nil_iff h).2 none_new), Nat.add_zero]

/-- The hunk of a group ends below the number of lines that the texts have together. -/
theorem groupHunk_stop_le {group : List Edit} {i j a b : Nat} (h : Reads old new i j group a b)
    (header : TrueHeader group) :
    (groupHunk old new group).start + HunkLine.contentCount (groupHunk old new group).lines ≤
      old.length + new.length + 1 := by
  have content : i + j + HunkLine.contentCount (groupHunk old new group).lines ≤ a + b :=
    h.contentCount_le
  obtain ⟨old_stop, new_stop⟩ := h.stop_inside
  have forward := h.mono
  rw [groupHunk_start h header]
  cases found : group.find? fun e => 0 < e.newLength with
  | some e =>
    have start := h.newStart_eq found
    rw [header e found]
    omega
  | none =>
    have none_new := h.stop_eq_of_none_new found
    have start := h.headerStart_le
    omega

theorem groupHunk_headed {group : List Edit} {i j a b : Nat} (h : Reads old new i j group a b)
    (nonempty : group ≠ []) (short : new.length + 1 < UInt32.size) (header : TrueHeader group) :
    (groupHunk old new group).Headed := by
  let first := group.head nonempty
  let last := group.getLast nonempty
  have first_bound := h.bounds first (List.head_mem _)
  have last_bound := h.bounds last (List.getLast_mem _)
  have start : rangeStart first.newStart last.newStop < UInt32.size := by
    unfold rangeStart
    split <;> omega
  have length : last.newStop - first.newStart < UInt32.size := by omega
  have written : (groupHunk old new group).header = headerLine first last := by
    simp [groupHunk, groupHeader, List.head?_eq_some_head nonempty,
      List.getLast?_eq_some_getLast nonempty, first, last]
  have given : headerStart group = rangeStart first.newStart last.newStop := by
    simp [headerStart, List.head?_eq_some_head nonempty, List.getLast?_eq_some_getLast nonempty,
      first, last]
  refine ⟨_, by rw [written]; exact ofHeader?_headerLine start length, ?_⟩
  rw [groupHunk_start h header, given]
  exact UInt32.toNat_ofNat_of_lt start

/-! ## Reading back -/

/-- A written section is a well-formed diff with the groups of its script as hunks, where the headers
name the first new line of their groups. -/
theorem wellFormed_section {path : String} {script : List Edit} (named : '\n' ∉ path.toList)
    (hold : Broken old) (hnew : Broken new) (short : new.length + 1 < UInt32.size)
    (right : Correct old new script) (headers : ∀ g ∈ groups script, TrueHeader g) :
    ∃ u : UnifiedDiff, Text.lines (sectionText path old new script) = u.lines ∧ u.WellFormed ∧
      u.hunks = (groups script).map (groupHunk old new) := by
  obtain ⟨u, written, clear, hunks⟩ := @lines_section path old new script named hold hnew
  refine ⟨u, written, ⟨clear, ?_⟩, hunks⟩
  rw [hunks]
  intro h member
  obtain ⟨g, hg, rfl⟩ := List.mem_map.1 member
  obtain ⟨i, j, a, b, hr⟩ := (groups_reads right).1 g hg
  exact groupHunk_headed hr (ne_nil_of_mem_groupsFrom hg) short (headers g hg)

/-- The scan of a written section goes through where the texts are short, and reads the hunks of its
script. -/
theorem scan_section {path : String} {script : List Edit} (named : '\n' ∉ path.toList)
    (hold : Broken old) (hnew : Broken new) (short : new.length + 1 < UInt32.size)
    (right : Correct old new script) (headers : ∀ g ∈ groups script, TrueHeader g) :
    ∃ u : UnifiedDiff, u.hunks = (groups script).map (groupHunk old new) ∧
      (old.length + new.length + 1 < UInt32.size →
        markLines 0 none (Text.lines (sectionText path old new script)) = .ok u.marks) ∧
      ∀ marks, markLines 0 none (Text.lines (sectionText path old new script)) = .ok marks →
        marks = u.marks := by
  obtain ⟨u, written, formed, hunks⟩ :=
    @wellFormed_section old new path script named hold hnew short right headers
  rw [written]
  refine ⟨u, hunks, fun few => ?_, fun marks => UnifiedDiff.marks_of_lines formed⟩
  refine UnifiedDiff.markLines_lines formed ?_ 0
  rw [hunks]
  refine List.forall_mem_map.2 fun g member => ?_
  obtain ⟨i, j, a, b, reads⟩ := (groups_reads right).1 g member
  exact Nat.lt_of_le_of_lt (groupHunk_stop_le reads (headers g member)) few

/-- **Reading a section back gives the lines that its script inserts**, where the headers name the
first new line of their groups. -/
theorem parse_section {path : String} {script : List Edit} (named : '\n' ∉ path.toList)
    (hold : Broken old) (hnew : Broken new) (short_old : old.length < 0x80000000)
    (short : new.length < 0x80000000) (right : Correct old new script)
    (headers : ∀ g ∈ groups script, TrueHeader g) :
    ∃ file, FileDiff.parse (sectionText path old new script) = .ok file ∧
      (∀ n, n ∈ file.lines.touched.map UInt32.toNat ↔ n ∈ insertedLines script) ∧
      (groups script = [] → file = {}) := by
  obtain ⟨reads, inserted⟩ := groups_reads right
  have size : UInt32.size = 0x80000000 + 0x80000000 := rfl
  have word : new.length + 1 < UInt32.size := by omega
  obtain ⟨u, hunks, scan, -⟩ := @scan_section old new path script named hold hnew word right headers
  have scanned := scan (by omega)
  have numbers : insertedNumbers u.marks = (insertedLines script).map .ofNat := by
    have shown : ∀ g ∈ groups script, (groupHunk old new g).insertedNumbers = insertedLines g := by
      intro g hg
      obtain ⟨i, j, a, b, hr⟩ := reads g hg
      exact groupHunk_insertedNumbers hr
    rw [UnifiedDiff.insertedNumbers_marks, hunks, List.flatMap_map, ← inserted, List.map_flatMap]
    simp only [List.flatMap_def]
    rw [List.map_congr_left fun g hg => by rw [shown g hg]]
  have small : ∀ n ∈ insertedLines script, (UInt32.ofNat n).toNat = n := by
    intro n member
    have := (right.mem_insertedLines member).2
    exact UInt32.toNat_ofNat_of_lt (Nat.lt_of_le_of_lt this (Nat.lt_trans short (by decide)))
  have parsed : FileDiff.parse (sectionText path old new script) = .ok (.ofMarks u.marks) :=
    parse_eq_ok_iff.2 ⟨_, scanned, rfl⟩
  refine ⟨.ofMarks u.marks, parsed, fun n => ?_, fun none_shown => ?_⟩
  · rw [List.mem_map]
    simp only [mem_touched_ofMarks, numbers, List.mem_map]
    constructor
    · rintro ⟨_, ⟨m, member, rfl⟩, rfl⟩
      rwa [small m member]
    · exact fun member => ⟨_, ⟨n, member, rfl⟩, small n member⟩
  · exact UnifiedDiff.ofMarks_marks_of_no_hunk (by rw [hunks, none_shown]; rfl)

theorem commonPrefix_self (lines : List String) : commonPrefix lines lines = lines.length := by
  induction lines with
  | nil => rfl
  | cons line lines ih => simp [commonPrefix, ih]

theorem shortestScript_self (lines : List String) :
    shortestScript lines lines = if lines.length = 0 then [] else [.keep 0 0 lines.length] := by
  unfold shortestScript conquer
  simp [commonPrefix_self, commonSuffix]

theorem tidy_keep (old new : List String) {e : Edit} (kept : e.kind = .keep) :
    tidy old new [e] = [e] := by
  have enough : weight [e] + 1 = e.oldLength + e.newLength + 1 + 2 := by
    simp [weight]
  have settled {kind : EditKind} (other : EditKind.keep ≠ kind) :
      settleAll old new kind (weight [e] + 1) [] [e] = [e] := by
    rw [enough]
    simp [settleAll, kept, other]
  rw [tidy, settled (by decide), settled (by decide)]
  simp [joinNeighbours, kept, Open.add, Open.change]

/-- Kept lines alone are not shown. -/
theorem groups_keep {e : Edit} (kept : e.kind = .keep) : groups [e] = [] := by
  have back {f : Edit} (hf : f.kind = .keep) :
      trimBack [f] = [f.shorten (f.oldLength - context)] := by simp [trimBack, hf]
  have unchanged {f : Edit} (hf : f.kind = .keep) (near : f.oldLength ≤ 2 * context) :
      groupsFrom [] [f] = [] := by simp [groupsFrom, hf, Nat.not_lt.2 near]
  have lowered : ((e.moveDown (e.oldLength - context)).shorten (e.oldLength - context)).kind = .keep :=
    kept
  rw [groups, trimFront, if_pos kept]
  dsimp only
  rw [back lowered]
  refine unchanged kept ?_
  simp only [Edit.moveDown, Edit.shorten, context]
  omega

/-- Equal texts give a section without hunks. -/
theorem groups_scriptBetween_self (lines : List String) : groups (scriptBetween lines lines) = [] := by
  rw [scriptBetween, shortestScript_self]
  split
  · rfl
  · rw [tidy_keep _ _ rfl, groups_keep rfl]

theorem correct_scriptBetween (old new : List String) : Correct old new (scriptBetween old new) :=
  correct_tidy (correct_shortestScript old new)

/-- **Rendering two versions of a file and reading the diff back gives exactly the inserted lines.**
What stands on no such line stands in the old text, in the same order, and equal texts give an empty
diff. The headers have to name the first new line of their groups. -/
theorem parse_renderSection {path old new : String} (named : '\n' ∉ path.toList)
    (old_ret : '\r' ∉ old.toList) (new_ret : '\r' ∉ new.toList)
    (short_old : (linesWithEnds old).length < 0x80000000)
    (short : (linesWithEnds new).length < 0x80000000)
    (headers : ∀ g ∈ groups (scriptBetween (linesWithEnds old) (linesWithEnds new)), TrueHeader g) :
    ∃ file, FileDiff.parse (renderSection path old new) = .ok file ∧
      (∀ n, n ∈ file.lines.touched.map UInt32.toNat ↔
        n ∈ insertedLines (scriptBetween (linesWithEnds old) (linesWithEnds new))) ∧
      (without (file.lines.touched.map UInt32.toNat) 1 (linesWithEnds new)).Sublist
        (linesWithEnds old) ∧
      (old = new → file.lines.added = ∅ ∧ file.lines.deleted = ∅ ∧ file.lines.modified = ∅ ∧
        file.hunks = []) := by
  have right := correct_scriptBetween (linesWithEnds old) (linesWithEnds new)
  obtain ⟨file, parsed, touched, unchanged⟩ := parse_section named (fun _ => stripped_of_mem old_ret)
    (fun _ => stripped_of_mem new_ret) short_old short right headers
  refine ⟨file, parsed, touched, ?_, ?_⟩
  · rw [without_congr fun n _ _ => touched n]
    exact without_sublist right
  · rintro rfl
    rw [unchanged (groups_scriptBetween_self _)]
    exact ⟨rfl, rfl, rfl, rfl⟩

/-- Lines that look like names and headers of a diff, the last one without a line feed. -/
def disguised : String := "+++ b\n@@ c"

def disguisedMore : String := "+++ b\ndiff --git d\n@@ c"

theorem parse_renderSection_disguised :
    '\n' ∉ "a.js".toList ∧ '\r' ∉ disguised.toList ∧ '\r' ∉ disguisedMore.toList ∧
      (linesWithEnds disguised).length < 0x80000000 ∧
      (linesWithEnds disguisedMore).length < 0x80000000 ∧
      (∀ g ∈ groups (scriptBetween (linesWithEnds disguised) (linesWithEnds disguisedMore)),
        TrueHeader g) ∧
      ∃ file, FileDiff.parse (renderSection "a.js" disguised disguisedMore) = .ok file ∧
        (∀ n, n ∈ file.lines.touched.map UInt32.toNat ↔
          n ∈ insertedLines
            (scriptBetween (linesWithEnds disguised) (linesWithEnds disguisedMore))) ∧
        (without (file.lines.touched.map UInt32.toNat) 1 (linesWithEnds disguisedMore)).Sublist
          (linesWithEnds disguised) ∧
        (disguised = disguisedMore → file.lines.added = ∅ ∧ file.lines.deleted = ∅ ∧
          file.lines.modified = ∅ ∧ file.hunks = []) :=
  have headers : ∀ g ∈ groups (scriptBetween (linesWithEnds disguised) (linesWithEnds disguisedMore)),
      TrueHeader g := by decide +kernel
  have short_old : (linesWithEnds disguised).length < 0x80000000 := by decide +kernel
  have short : (linesWithEnds disguisedMore).length < 0x80000000 := by decide +kernel
  ⟨by decide, by decide +kernel, by decide +kernel, short_old, short, headers,
    parse_renderSection (by decide) (by decide +kernel) (by decide +kernel) short_old short headers⟩

/-- A deletion in front keeps the place that it had before an insertion slid past it. -/
example : ¬ ∀ g ∈ groups (scriptBetween ["b\n", "a\n"] ["a\n", "a\n"]), TrueHeader g := by
  decide +kernel

end TestImpact.Diff
