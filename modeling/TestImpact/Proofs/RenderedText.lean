import TestImpact.Proofs.EditScript
import TestImpact.Proofs.HunkHeader
import TestImpact.Proofs.UnifiedDiff

/-! The lines of a written diff. Each of its parts ends at a line feed, so that the lines of the whole
are those of its parts: the names, and for every group of edits a header and the lines of the edits
with their signs. -/

namespace TestImpact

namespace Text

/-- The text consists of these lines, each with its line feed. -/
def Spells (text : String) (ls : List String) : Prop :=
  ∀ rest, splitLines (text.toList ++ rest) = ls.map String.toList ++ splitLines rest

namespace Spells

theorem nil : Spells "" [] :=
  fun _ => rfl

theorem append {s t : String} {ls ms : List String} (hs : Spells s ls) (ht : Spells t ms) :
    Spells (s ++ t) (ls ++ ms) := by
  intro rest
  rw [String.toList_append, List.append_assoc, hs, ht, List.map_append, List.append_assoc]

theorem join {α : Type} {xs : List α} {text : α → String} {ls : α → List String}
    (h : ∀ x ∈ xs, Spells (text x) (ls x)) : Spells (String.join (xs.map text)) (xs.flatMap ls) := by
  induction xs with
  | nil => exact nil
  | cons x xs ih =>
    rw [List.map_cons, String.join_cons, List.flatMap_cons]
    exact (h x (.head _)).append (ih fun y hy => h y (.tail _ hy))

theorem lines_eq {text : String} {ls : List String} (h : Spells text ls) : lines text = ls := by
  have all := h []
  rw [List.append_nil, splitLines_nil, List.append_nil] at all
  rw [lines, all, List.map_map]
  simp [Function.comp_def]

theorem closed {line : String} (feed : '\n' ∉ line.toList) (ret : '\r' ∉ line.toList) :
    Spells (line ++ "\n") [line] := by
  intro rest
  rw [String.toList_append, List.append_assoc]
  exact splitLines_append_feed line.toList rest feed ret

end Spells

/-- A line less the carriage return at its end. -/
def dropReturn : List Char → List Char
  | [] => []
  | ['\r'] => []
  | c :: rest => c :: dropReturn rest

theorem dropReturn_cases (line : List Char) :
    line = dropReturn line ∨ line = dropReturn line ++ ['\r'] := by
  fun_induction dropReturn line with
  | case1 => exact .inl rfl
  | case2 => exact .inr rfl
  | case3 c rest not_last ih =>
    rcases ih with ih | ih
    · exact .inl (congrArg (c :: ·) ih)
    · exact .inr (congrArg (c :: ·) ih)

theorem dropReturn_of_notMem {line : List Char} (ret : '\r' ∉ line) : dropReturn line = line := by
  rcases dropReturn_cases line with same | longer
  · exact same.symm
  · rw [longer] at ret
    exact absurd (List.mem_append_right _ (.head [])) ret

/-- A line of any characters but feeds is read as one line, less a carriage return at its end. -/
theorem splitLines_append_feed_of_notMem {line : List Char} (feed : '\n' ∉ line) (rest : List Char) :
    splitLines (line ++ '\n' :: rest) = dropReturn line :: splitLines rest := by
  fun_induction dropReturn line with
  | case1 => rfl
  | case2 => rfl
  | case3 c line not_last ih =>
    simp only [List.mem_cons, not_or] at feed
    rw [List.cons_append, splitLines, ih feed.2]
    · exact Ne.symm feed.1
    · rintro more rfl he
      cases line with
      | nil => exact not_last rfl rfl
      | cons d line =>
        cases he
        exact feed.2 (.head _)

/-- The line that is read where this one was written. -/
def reread (line : String) : String :=
  String.ofList (dropReturn line.toList)

theorem reread_prefix (line : String) : (reread line).toList <+: line.toList := by
  rw [reread, String.toList_ofList]
  rcases dropReturn_cases line.toList with same | longer
  · exact same ▸ List.prefix_rfl
  · exact ⟨['\r'], longer.symm⟩

theorem reread_of_notMem {line : String} (ret : '\r' ∉ line.toList) : reread line = line := by
  rw [reread, dropReturn_of_notMem ret, String.ofList_toList]

theorem Spells.of_no_feed {line : String} (feed : '\n' ∉ line.toList) :
    Spells (line ++ "\n") [reread line] := by
  intro rest
  rw [String.toList_append, List.append_assoc]
  simpa [reread] using splitLines_append_feed_of_notMem feed rest

end Text

namespace Diff

/-! ## Lines with their ends -/

/-- A line without its line feed, if it has one. -/
inductive Stripped : String → String → Prop
  | closed {text : String} (feed : '\n' ∉ text.toList) (ret : '\r' ∉ text.toList) :
      Stripped (text ++ "\n") text
  | unclosed {text : String} (feed : '\n' ∉ text.toList) (ret : '\r' ∉ text.toList) :
      Stripped text text

theorem of_mem_splitEnds {s line : List Char} (ret : '\r' ∉ s) (h : line ∈ splitEnds s) :
    ∃ text, '\n' ∉ text ∧ '\r' ∉ text ∧ (line = text ++ ['\n'] ∨ line = text) := by
  fun_induction splitEnds s generalizing line with
  | case1 => cases h
  | case2 rest ih => simp at ret
  | case3 c rest not_both broken ih =>
    simp only [List.mem_cons, not_or] at ret
    rcases List.mem_cons.1 h with rfl | h
    · rcases broken with rfl | rfl
      · exact ⟨[], by simp, by simp, .inl rfl⟩
      · exact absurd rfl ret.1
    · exact ih ret.2 h
  | case4 c rest not_both unbroken none_left ih =>
    simp only [not_or] at unbroken
    obtain rfl := List.mem_singleton.1 h
    exact ⟨[c], by simp [Ne.symm unbroken.1], by simp [Ne.symm unbroken.2], .inr rfl⟩
  | case5 c rest not_both unbroken first more split ih =>
    simp only [not_or] at unbroken
    simp only [List.mem_cons, not_or] at ret
    rcases List.mem_cons.1 h with rfl | h
    · obtain ⟨text, feed, no_ret, he⟩ := ih ret.2 (by rw [split]; exact .head _)
      refine ⟨c :: text, by simp [Ne.symm unbroken.1, feed], by simp [Ne.symm unbroken.2, no_ret], ?_⟩
      rcases he with rfl | rfl
      · exact .inl rfl
      · exact .inr rfl
    · exact ih ret.2 (by rw [split]; exact .tail _ h)

theorem stripped_of_mem {text line : String} (ret : '\r' ∉ text.toList)
    (h : line ∈ linesWithEnds text) : ∃ t, Stripped line t := by
  obtain ⟨chars, hc, rfl⟩ := List.mem_map.1 h
  obtain ⟨t, feed, no_ret, he⟩ := of_mem_splitEnds ret hc
  refine ⟨String.ofList t, ?_⟩
  rcases he with rfl | rfl
  · rw [String.ofList_append]
    exact .closed (by simpa using feed) (by simpa using no_ret)
  · exact .unclosed (by simpa using feed) (by simpa using no_ret)

/-- The lines that show a line of a text: the line, and a remark where it has no line feed. -/
def shown (kind : String → HunkLine) (line : String) : List HunkLine :=
  if line.toList.getLast? = some '\n' then [kind (String.ofList line.toList.dropLast)]
  else [kind line, .remark " No newline at end of file"]

theorem shown_closed (kind : String → HunkLine) (text : String) :
    shown kind (text ++ "\n") = [kind text] := by
  simp [shown]

theorem shown_unclosed (kind : String → HunkLine) {text : String} (feed : '\n' ∉ text.toList) :
    shown kind text = [kind text, .remark " No newline at end of file"] := by
  refine if_neg fun last => feed ?_
  exact List.mem_of_getLast? last

theorem lineText_closed (sign text : String) :
    lineText sign (text ++ "\n") = sign ++ (text ++ "\n") := by
  simp [lineText]

theorem lineText_unclosed (sign : String) {text : String} (feed : '\n' ∉ text.toList)
    (ret : '\r' ∉ text.toList) :
    lineText sign text = sign ++ text ++ "\n" ++ "\\ No newline at end of file\n" := by
  unfold lineText
  split
  · next last => exact absurd (List.mem_of_getLast? last) feed
  · next last => exact absurd (List.mem_of_getLast? last) ret
  · rw [String.append_assoc, String.append_assoc, String.append_assoc]
    rfl

/-- A line with its sign is one line of the diff, and its remark another one. -/
theorem spells_lineText {line text sign : String} {kind : String → HunkLine}
    (h : Stripped line text) (written : ∀ t, (kind t).written = sign ++ t)
    (feed : '\n' ∉ sign.toList) (ret : '\r' ∉ sign.toList) :
    Text.Spells (lineText sign line) ((shown kind line).map HunkLine.written) := by
  have signed {t : String} (hf : '\n' ∉ t.toList) (hr : '\r' ∉ t.toList) :
      Text.Spells (sign ++ t ++ "\n") [(kind t).written] := by
    rw [written]
    exact .closed (by simp [feed, hf]) (by simp [ret, hr])
  cases h with
  | closed hf hr =>
    rw [lineText_closed, shown_closed, ← String.append_assoc]
    exact signed hf hr
  | unclosed hf hr =>
    rw [lineText_unclosed sign hf hr, shown_unclosed kind hf]
    have remark : Text.Spells "\\ No newline at end of file\n"
        [(HunkLine.remark " No newline at end of file").written] :=
      @Text.Spells.closed "\\ No newline at end of file" (by decide) (by decide)
    exact (signed hf hr).append remark

/-! ## Edits and groups -/

def editLines (old new : List String) (e : Edit) : List HunkLine :=
  match e.kind with
  | .keep => (e.oldLines old).flatMap (shown .kept)
  | .delete => (e.oldLines old).flatMap (shown .removed)
  | .insert => (e.newLines new).flatMap (shown .inserted)
  | .replace => (e.oldLines old).flatMap (shown .removed) ++ (e.newLines new).flatMap (shown .inserted)

/-- Every line ends at its line feed, at most. -/
def Broken (lines : List String) : Prop :=
  ∀ line ∈ lines, ∃ text, Stripped line text

theorem spells_lineTexts {lines : List String} {sign : String} {kind : String → HunkLine}
    (h : Broken lines) (written : ∀ t, (kind t).written = sign ++ t)
    (feed : '\n' ∉ sign.toList) (ret : '\r' ∉ sign.toList) :
    Text.Spells (String.join (lines.map (lineText sign)))
      ((lines.flatMap (shown kind)).map HunkLine.written) := by
  rw [List.map_flatMap]
  refine .join fun line member => ?_
  obtain ⟨text, stripped⟩ := h line member
  exact spells_lineText stripped written feed ret

theorem spells_editText {old new : List String} (hold : Broken old) (hnew : Broken new) (e : Edit) :
    Text.Spells (editText old new e) ((editLines old new e).map HunkLine.written) := by
  have old_broken : Broken (e.oldLines old) :=
    fun line member => hold line (List.mem_of_mem_drop (List.mem_of_mem_take member))
  have new_broken : Broken (e.newLines new) :=
    fun line member => hnew line (List.mem_of_mem_drop (List.mem_of_mem_take member))
  have kept : Text.Spells (String.join ((e.oldLines old).map (lineText " ")))
      (((e.oldLines old).flatMap (shown .kept)).map HunkLine.written) :=
    spells_lineTexts old_broken (fun _ => rfl) (by decide) (by decide)
  have deleted : Text.Spells (String.join ((e.oldLines old).map (lineText "-")))
      (((e.oldLines old).flatMap (shown .removed)).map HunkLine.written) :=
    spells_lineTexts old_broken (fun _ => rfl) (by decide) (by decide)
  have inserted : Text.Spells (String.join ((e.newLines new).map (lineText "+")))
      (((e.newLines new).flatMap (shown .inserted)).map HunkLine.written) :=
    spells_lineTexts new_broken (fun _ => rfl) (by decide) (by decide)
  unfold editText editLines
  cases e.kind with
  | keep => exact kept
  | delete => exact deleted
  | insert => exact inserted
  | replace =>
    simp only [List.map_append]
    exact deleted.append inserted

/-- The new start in the header of a group. -/
def headerStart (group : List Edit) : Nat :=
  match group.head?, group.getLast? with
  | some first, some last => rangeStart first.newStart last.newStop
  | _, _ => 0

/-- How many new lines stand before a group. Its first edit with new lines tells, and the header where
the group has none. -/
def newBefore (group : List Edit) : Nat :=
  match group.find? fun e => 0 < e.newLength with
  | some e => e.newStart
  | none => headerStart group

def groupHeader (group : List Edit) : String :=
  match group.head?, group.getLast? with
  | some first, some last => headerLine first last
  | _, _ => ""

def groupHunk (old new : List String) (group : List Edit) : PlacedHunk where
  before := newBefore group
  header := groupHeader group
  lines := group.flatMap (editLines old new)

theorem not_mem_rangeText {c : Char} (digit : Text.isDecimalDigit c = false) (comma : c ≠ ',')
    (start stop : Nat) : c ∉ (rangeText start stop).toList := by
  have none_decimal (n : Nat) : c ∉ Text.decimal n := fun h => by
    have := Text.isDecimalDigit_of_mem_decimal h
    simp [digit] at this
  unfold rangeText
  dsimp only
  split
  · simpa using none_decimal _
  · simp [none_decimal, comma]

theorem spells_headerText (first last : Edit) :
    Text.Spells (headerText first last) [headerLine first last] := by
  have split : headerText first last = headerLine first last ++ "\n" := by
    have close : (" @@\n" : String) = " @@" ++ "\n" := rfl
    rw [headerText, headerLine, close, ← String.append_assoc]
  have feed := not_mem_rangeText (c := '\n') (by decide) (by decide)
  have ret := not_mem_rangeText (c := '\r') (by decide) (by decide)
  rw [split]
  exact .closed (by simp [headerLine, feed]) (by simp [headerLine, ret])

theorem spells_hunkText {old new : List String} (hold : Broken old) (hnew : Broken new)
    {group : List Edit} (nonempty : group ≠ []) :
    Text.Spells (hunkText old new group) (groupHunk old new group).written := by
  have edits : Text.Spells (String.join (group.map (editText old new)))
      ((group.flatMap (editLines old new)).map HunkLine.written) := by
    rw [List.map_flatMap]
    exact .join fun e _ => spells_editText hold hnew e
  simp only [hunkText, groupHunk, groupHeader, PlacedHunk.written, List.head?_eq_some_head nonempty,
    List.getLast?_eq_some_getLast nonempty]
  exact (spells_headerText _ _).append edits

/-! ## Sections -/

theorem ne_nil_of_mem_groupsFrom {script group g : List Edit} (h : g ∈ groupsFrom group script) :
    g ≠ [] := by
  induction script generalizing group with
  | nil =>
    unfold groupsFrom at h
    split at h
    · cases h
    · split at h
      · cases h
      · rw [List.mem_singleton] at h
        simp [h]
    · next not_empty _ =>
      rw [List.mem_singleton] at h
      rw [h]
      exact not_empty
  | cons e script ih =>
    unfold groupsFrom at h
    split at h
    · rcases List.mem_cons.1 h with rfl | h
      · simp
      · exact ih h
    · exact ih h

theorem clear_of_prefix {read line : String} (h : read.toList <+: line.toList)
    (clear : Text.hasPrefix headerSign line = false) : Text.hasPrefix headerSign read = false := by
  rw [Bool.eq_false_iff, Ne, Text.hasPrefix_iff] at clear ⊢
  exact fun sign => clear (sign.trans h)

/-- The section of a file with a script. -/
def sectionText (path : String) (old new : List String) (script : List Edit) : String :=
  "diff --git a/" ++ path ++ " b/" ++ path ++ "\n" ++ unifiedText path old new script

/-- **A written section is a diff with the groups of the script as its hunks.** -/
theorem lines_section {path : String} {old new : List String} {script : List Edit}
    (named : '\n' ∉ path.toList) (hold : Broken old) (hnew : Broken new) :
    ∃ u : UnifiedDiff,
      Text.lines (sectionText path old new script) = u.lines ∧
      (∀ line ∈ u.preamble, Text.hasPrefix headerSign line = false) ∧
      u.hunks = (groups script).map (groupHunk old new) := by
  have preamble_line (line : String) (feed : '\n' ∉ line.toList)
      (clear : Text.hasPrefix headerSign line = false) :
      ∃ read, Text.hasPrefix headerSign read = false ∧ Text.Spells (line ++ "\n") [read] := by
    exact ⟨_, clear_of_prefix (Text.reread_prefix line) clear, Text.Spells.of_no_feed feed⟩
  have hunks : Text.Spells (String.join ((groups script).map (hunkText old new)))
      ((groups script).flatMap fun group => (groupHunk old new group).written) :=
    .join fun group member => spells_hunkText hold hnew (ne_nil_of_mem_groupsFrom member)
  have first_line_clear : Text.hasPrefix headerSign ("diff --git a/" ++ path ++ " b/" ++ path) = false := by
    rw [String.append_assoc, String.append_assoc]
    exact HunkLine.hasPrefix_sign rfl rfl (by decide) _
  obtain ⟨first, first_clear, first_spelled⟩ :=
    preamble_line ("diff --git a/" ++ path ++ " b/" ++ path) (by simp [named]) first_line_clear
  unfold sectionText unifiedText
  cases hg : groups script with
  | nil =>
    refine ⟨⟨[first], []⟩, ?_, by simpa using first_clear, rfl⟩
    rw [String.append_empty]
    exact first_spelled.lines_eq
  | cons g gs =>
    obtain ⟨oldName, old_clear, old_spelled⟩ := preamble_line ("--- a/" ++ path) (by simp [named])
      (HunkLine.hasPrefix_sign rfl rfl (by decide) _)
    obtain ⟨newName, new_clear, new_spelled⟩ := preamble_line ("+++ b/" ++ path) (by simp [named])
      (HunkLine.hasPrefix_sign rfl rfl (by decide) _)
    have names (body : String) : "--- a/" ++ path ++ "\n+++ b/" ++ path ++ "\n" ++ body =
        "--- a/" ++ path ++ "\n" ++ ("+++ b/" ++ path ++ "\n" ++ body) := by
      have feed : ("\n+++ b/" : String) = "\n" ++ "+++ b/" := rfl
      simp only [feed, String.append_assoc]
    rw [hg] at hunks
    refine ⟨⟨[first, oldName, newName], (g :: gs).map (groupHunk old new)⟩, ?_, ?_, rfl⟩
    · simp only [names]
      rw [(first_spelled.append (old_spelled.append (new_spelled.append hunks))).lines_eq,
        UnifiedDiff.lines, List.flatMap_map]
      rfl
    · simp [first_clear, old_clear, new_clear]

end Diff

end TestImpact
