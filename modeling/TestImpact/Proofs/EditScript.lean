import TestImpact.Diff.Script.Compact

/-! What makes a script right. Every range starts where the one before it ends, and kept lines are
the same on both sides; then reading it from the beginning to the end turns the old lines into the new
ones. -/

namespace TestImpact.Diff

variable {old new : List String}

/-- The edit stands at the given old and new line, inside the texts, and what it keeps is kept. -/
inductive Edit.Fits (old new : List String) : Edit → Nat → Nat → Prop
  | keep {i j n : Nat} (old_end : i + n ≤ old.length) (new_end : j + n ≤ new.length)
      (same : ∀ t < n, old[i + t]? = new[j + t]?) : Fits old new (.keep i j n) i j
  | delete {i j n k : Nat} (old_end : i + n ≤ old.length) (place : k ≤ new.length) :
      Fits old new (.delete i n k) i j
  | insert {i j n k : Nat} (new_end : j + n ≤ new.length) : Fits old new (.insert k j n) i j
  | replace {i j n m : Nat} (old_end : i + n ≤ old.length) (new_end : j + m ≤ new.length) :
      Fits old new (.replace i n j m) i j

/-- Reading the script at one place of the texts leads to another. -/
inductive Reads (old new : List String) : Nat → Nat → List Edit → Nat → Nat → Prop
  | nil (i j : Nat) : Reads old new i j [] i j
  | cons {e : Edit} {script : List Edit} {i j i' j' : Nat} (fits : e.Fits old new i j)
      (rest : Reads old new (i + e.oldLength) (j + e.newLength) script i' j') :
      Reads old new i j (e :: script) i' j'

/-- The script turns all old lines into all new lines. -/
def Correct (old new : List String) (script : List Edit) : Prop :=
  Reads old new 0 0 script old.length new.length

namespace Reads

theorem append {s t : List Edit} {i j a b i' j' : Nat} (first : Reads old new i j s a b)
    (second : Reads old new a b t i' j') : Reads old new i j (s ++ t) i' j' := by
  induction first with
  | nil => exact second
  | cons fits _ ih => exact .cons fits (ih second)

theorem append_iff {s t : List Edit} {i j i' j' : Nat} :
    Reads old new i j (s ++ t) i' j' ↔
      ∃ a b, Reads old new i j s a b ∧ Reads old new a b t i' j' := by
  constructor
  · intro h
    induction s generalizing i j with
    | nil => exact ⟨i, j, .nil i j, h⟩
    | cons e s ih =>
      cases h with
      | cons fits rest =>
        obtain ⟨a, b, first, second⟩ := ih rest
        exact ⟨a, b, .cons fits first, second⟩
  · rintro ⟨a, b, first, second⟩
    exact first.append second

theorem singleton {e : Edit} {i j : Nat} (fits : e.Fits old new i j) :
    Reads old new i j [e] (i + e.oldLength) (j + e.newLength) :=
  .cons fits (.nil ..)

theorem mono {script : List Edit} {i j i' j' : Nat} (h : Reads old new i j script i' j') :
    i ≤ i' ∧ j ≤ j' := by
  induction h with
  | nil => exact ⟨Nat.le_refl _, Nat.le_refl _⟩
  | cons _ _ ih => omega

end Reads

/-! ## Common lines -/

theorem commonPrefix_le (as bs : List String) :
    commonPrefix as bs ≤ as.length ∧ commonPrefix as bs ≤ bs.length := by
  induction as generalizing bs with
  | nil => simp [commonPrefix]
  | cons a as ih =>
    cases bs with
    | nil => simp [commonPrefix]
    | cons b bs =>
      simp only [commonPrefix, List.length_cons]
      have := ih bs
      split <;> omega

theorem getElem?_commonPrefix {as bs : List String} {t : Nat} (h : t < commonPrefix as bs) :
    as[t]? = bs[t]? := by
  rw [← List.getElem?_take_of_lt h, take_commonPrefix, List.getElem?_take_of_lt h]

theorem commonSuffix_le (as bs : List String) :
    commonSuffix as bs ≤ as.length ∧ commonSuffix as bs ≤ bs.length := by
  simpa [commonSuffix] using commonPrefix_le as.reverse bs.reverse

theorem commonPrefix_nil (as : List String) : commonPrefix as [] = 0 :=
  Nat.le_zero.1 (commonPrefix_le as []).2

theorem commonSuffix_nil (as : List String) : commonSuffix as [] = 0 :=
  Nat.le_zero.1 (commonSuffix_le as []).2

/-- Counted from the ends, common last lines are the same. -/
theorem getElem?_commonSuffix {as bs : List String} {t : Nat} (h : t < commonSuffix as bs) :
    as[as.length - commonSuffix as bs + t]? = bs[bs.length - commonSuffix as bs + t]? := by
  obtain ⟨ha, hb⟩ := commonSuffix_le as bs
  have mirrored : commonSuffix as bs - 1 - t < commonPrefix as.reverse bs.reverse := by
    unfold commonSuffix at *
    omega
  have same := getElem?_commonPrefix mirrored
  rw [List.getElem?_reverse (by omega), List.getElem?_reverse (by omega)] at same
  have place {n : Nat} (hn : commonSuffix as bs ≤ n) :
      n - 1 - (commonSuffix as bs - 1 - t) = n - commonSuffix as bs + t := by omega
  rwa [place ha, place hb] at same

/-! ## Fitting edits -/

namespace Edit.Fits

/-- Two neighbours of one kind fit as one edit. -/
theorem join {e f : Edit} {i j : Nat} (he : e.Fits old new i j)
    (hf : f.Fits old new (i + e.oldLength) (j + e.newLength)) (kind : e.kind = f.kind) :
    (e.join f).Fits old new i j := by
  cases he with
  | @keep _ _ n old_end new_end same =>
    cases hf with
    | @keep _ _ m old_end' new_end' same' =>
      show (Edit.keep i j (n + m)).Fits old new i j
      simp only [Edit.keep] at old_end' new_end' same'
      refine .keep (by omega) (by omega) fun t ht => ?_
      by_cases early : t < n
      · exact same t early
      · have late := same' (t - n) (by omega)
        rwa [Nat.add_assoc, Nat.add_assoc, Nat.add_sub_of_le (by omega)] at late
    | delete => cases kind
    | insert => cases kind
    | replace => cases kind
  | @delete _ _ n k old_end place =>
    cases hf with
    | @delete _ _ m _ old_end' =>
      show (Edit.delete i (n + m) k).Fits old new i j
      simp only [Edit.delete] at old_end'
      exact .delete (by omega) place
    | keep => cases kind
    | insert => cases kind
    | replace => cases kind
  | @insert _ _ n k new_end =>
    cases hf with
    | @insert _ _ m _ new_end' =>
      show (Edit.insert k j (n + m)).Fits old new i j
      simp only [Edit.insert] at new_end'
      exact .insert (by omega)
    | keep => cases kind
    | delete => cases kind
    | replace => cases kind
  | @replace _ _ n m old_end new_end =>
    cases hf with
    | @replace _ _ n' m' old_end' new_end' =>
      show (Edit.replace i (n + n') j (m + m')).Fits old new i j
      simp only [Edit.replace] at old_end' new_end'
      exact .replace (by omega) (by omega)
    | keep => cases kind
    | delete => cases kind
    | insert => cases kind

/-- A kept range fits in parts. -/
theorem keep_split {i j n m : Nat} (h : (Edit.keep i j (n + m)).Fits old new i j) :
    (Edit.keep i j n).Fits old new i j ∧
      (Edit.keep (i + n) (j + n) m).Fits old new (i + n) (j + n) := by
  cases h with
  | keep old_end new_end same =>
    refine ⟨.keep (by omega) (by omega) fun t ht => same t (by omega),
      .keep (by omega) (by omega) fun t ht => ?_⟩
    rw [Nat.add_assoc, Nat.add_assoc]
    exact same (n + t) (by omega)

theorem oldLines_length {e : Edit} {i j : Nat} (h : e.Fits old new i j) :
    (e.oldLines old).length = e.oldLength := by
  rw [Edit.oldLines, List.length_take, List.length_drop, Nat.min_eq_left]
  cases h with
  | keep old_end => exact Nat.le_sub_of_add_le' old_end
  | delete old_end => exact Nat.le_sub_of_add_le' old_end
  | insert => exact Nat.zero_le _
  | replace old_end => exact Nat.le_sub_of_add_le' old_end

theorem newLines_length {e : Edit} {i j : Nat} (h : e.Fits old new i j) :
    (e.newLines new).length = e.newLength := by
  rw [Edit.newLines, List.length_take, List.length_drop, Nat.min_eq_left]
  cases h with
  | keep _ new_end => exact Nat.le_sub_of_add_le' new_end
  | delete => exact Nat.zero_le _
  | insert new_end => exact Nat.le_sub_of_add_le' new_end
  | replace _ new_end => exact Nat.le_sub_of_add_le' new_end

end Edit.Fits

theorem Edit.getElem?_oldLines {e : Edit} {t : Nat} (h : t < e.oldLength) :
    (e.oldLines old)[t]? = old[e.oldStart + t]? := by
  rw [oldLines, List.getElem?_take_of_lt h, List.getElem?_drop]

theorem Edit.getElem?_newLines {e : Edit} {t : Nat} (h : t < e.newLength) :
    (e.newLines new)[t]? = new[e.newStart + t]? := by
  rw [newLines, List.getElem?_take_of_lt h, List.getElem?_drop]

theorem Edit.newLines_delete (i n k : Nat) : (Edit.delete i n k).newLines new = [] :=
  List.take_zero

/-! ## What a script leaves -/

/-- The numbers of the new lines that an edit inserts. -/
def Edit.insertedLines (e : Edit) : List Nat :=
  match e.kind with
  | .insert | .replace => List.range' (e.newStart + 1) e.newLength
  | .keep | .delete => []

/-- The numbers of the new lines that a script inserts. -/
def insertedLines (script : List Edit) : List Nat :=
  script.flatMap Edit.insertedLines

@[simp] theorem insertedLines_append (s t : List Edit) :
    insertedLines (s ++ t) = insertedLines s ++ insertedLines t :=
  List.flatMap_append

theorem insertedLines_keep (script : List Edit) {e : Edit} (kept : e.kind = .keep) :
    insertedLines (e :: script) = insertedLines script := by
  rw [insertedLines, List.flatMap_cons, Edit.insertedLines, kept]
  rfl

/-- The lines that remain without those of the given numbers, where the first line has number
`first`. -/
def without (numbers : List Nat) (first : Nat) (lines : List String) : List String :=
  ((lines.zipIdx first).filter fun (_, n) => n ∉ numbers).map Prod.fst

theorem without_append (numbers : List Nat) (first : Nat) (xs ys : List String) :
    without numbers first (xs ++ ys) =
      without numbers first xs ++ without numbers (first + xs.length) ys := by
  simp [without, List.zipIdx_append]

theorem without_congr {numbers others : List Nat} {first : Nat} {lines : List String}
    (same : ∀ n, first ≤ n → n < first + lines.length → (n ∈ numbers ↔ n ∈ others)) :
    without numbers first lines = without others first lines := by
  unfold without
  congr 1
  refine List.filter_congr fun p member => ?_
  obtain ⟨low, high, -⟩ := List.mem_zipIdx (x := p.1) (i := p.2) member
  simp [same p.2 low (by omega)]

theorem without_none {numbers : List Nat} {first : Nat} {lines : List String}
    (clear : ∀ n ∈ numbers, first + lines.length ≤ n) : without numbers first lines = lines := by
  have same : without numbers first lines = without [] first lines := by
    refine without_congr fun n _ high => ⟨fun member => ?_, nofun⟩
    exact absurd (clear n member) (by omega)
  rw [same, without, List.filter_eq_self.2 (by simp), List.zipIdx_map_fst]

theorem without_all {numbers : List Nat} {first : Nat} {lines : List String}
    (all : ∀ n, first ≤ n → n < first + lines.length → n ∈ numbers) :
    without numbers first lines = [] := by
  unfold without
  rw [List.map_eq_nil_iff, List.filter_eq_nil_iff]
  intro p member
  obtain ⟨low, high, -⟩ := List.mem_zipIdx (x := p.1) (i := p.2) member
  simp [all p.2 low high]

theorem Edit.Fits.keep_lines {i j n : Nat} (fits : (Edit.keep i j n).Fits old new i j) :
    (old.drop i).take n = (new.drop j).take n := by
  cases fits with
  | keep old_end new_end same =>
    refine List.ext_getElem? fun t => ?_
    by_cases inside : t < n
    · rw [List.getElem?_take_of_lt inside, List.getElem?_take_of_lt inside, List.getElem?_drop,
        List.getElem?_drop]
      exact same t inside
    · rw [List.getElem?_take_eq_none (by omega), List.getElem?_take_eq_none (by omega)]

theorem Edit.mem_insertedLines {e : Edit} {n : Nat} (member : n ∈ e.insertedLines) :
    e.newStart < n ∧ n ≤ e.newStop := by
  unfold insertedLines at member
  have range : n ∈ List.range' (e.newStart + 1) e.newLength := by
    cases hk : e.kind with
    | insert => simpa [hk] using member
    | replace => simpa [hk] using member
    | keep => simp [hk] at member
    | delete => simp [hk] at member
  rw [List.mem_range'_1] at range
  unfold newStop
  omega

theorem Edit.Fits.mem_insertedLines {e : Edit} {i j n : Nat} (fits : e.Fits old new i j)
    (member : n ∈ e.insertedLines) : j < n ∧ n ≤ j + e.newLength := by
  cases fits with
  | keep => cases member
  | delete => cases member
  | insert => exact Edit.mem_insertedLines member
  | replace => exact Edit.mem_insertedLines member

/-- A script inserts lines between its ends only. -/
theorem Reads.mem_insertedLines {script : List Edit} {i j a b n : Nat}
    (h : Reads old new i j script a b) (member : n ∈ insertedLines script) : j < n ∧ n ≤ b := by
  induction h with
  | nil => cases member
  | @cons e rest _ _ _ _ fits h ih =>
    have below := h.mono.2
    rcases List.mem_append.1 member with here | later
    · have := fits.mem_insertedLines here
      omega
    · have := ih later
      omega

/-- What an edit does not insert, it keeps. -/
theorem Edit.Fits.without_sublist {e : Edit} {i j : Nat} {numbers : List Nat}
    (fits : e.Fits old new i j) (clear : ∀ n ∈ numbers, j + e.newLength < n) :
    (without (e.insertedLines ++ numbers) (j + 1) ((new.drop j).take e.newLength)).Sublist
      ((old.drop i).take e.oldLength) := by
  have length : ((new.drop j).take e.newLength).length ≤ e.newLength := List.length_take_le ..
  have all_inserted (range : e.insertedLines = List.range' (j + 1) e.newLength) :
      without (e.insertedLines ++ numbers) (j + 1) ((new.drop j).take e.newLength) = [] := by
    refine without_all fun n low high => List.mem_append_left _ ?_
    rw [range, List.mem_range'_1]
    omega
  cases fits with
  | keep old_end new_end same =>
    rw [without_none fun n member => by have := clear n member; omega]
    exact (Edit.Fits.keep_lines (.keep old_end new_end same)).symm ▸ .refl _
  | delete => exact List.nil_sublist _
  | insert => exact (all_inserted rfl).symm ▸ List.nil_sublist _
  | replace => exact (all_inserted rfl).symm ▸ List.nil_sublist _

theorem Reads.without_sublist {script : List Edit} {i j a b : Nat} (h : Reads old new i j script a b)
    (stop : b = new.length) :
    (without (insertedLines script) (j + 1) (new.drop j)).Sublist (old.drop i) := by
  induction h with
  | nil i j =>
    subst stop
    simp [without]
  | @cons e rest i j a b fits h ih =>
    have later : ∀ n ∈ insertedLines rest, j + e.newLength < n :=
      fun n member => (h.mem_insertedLines member).1
    have front := fits.without_sublist later
    have back := ih stop
    have new_parts : new.drop j = (new.drop j).take e.newLength ++ new.drop (j + e.newLength) := by
      rw [← List.drop_drop, List.take_append_drop]
    have old_parts : old.drop i = (old.drop i).take e.oldLength ++ old.drop (i + e.oldLength) := by
      rw [← List.drop_drop, List.take_append_drop]
    rw [new_parts, old_parts, without_append]
    refine front.append ?_
    have length : ((new.drop j).take e.newLength).length = e.newLength := by
      have := h.mono.2
      rw [List.length_take, List.length_drop]
      omega
    have same : without (insertedLines (e :: rest)) (j + e.newLength + 1) (new.drop (j + e.newLength)) =
        without (insertedLines rest) (j + e.newLength + 1) (new.drop (j + e.newLength)) := by
      refine without_congr fun n low _ => ⟨fun member => ?_, List.mem_append_right _⟩
      rcases List.mem_append.1 member with here | there
      · have := (Edit.Fits.mem_insertedLines fits here).2
        omega
      · exact there
    rw [length, Nat.add_right_comm, same]
    exact back

/-- **What a right script does not insert stands in the old text, in the same order.** -/
theorem without_sublist {script : List Edit} (h : Correct old new script) :
    (without (insertedLines script) 1 new).Sublist old :=
  Reads.without_sublist h rfl

end TestImpact.Diff
