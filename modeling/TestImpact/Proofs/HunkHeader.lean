import TestImpact.Diff.HunkHeader
import TestImpact.Diff.Unified

/-! Hunk headers as they are written and as they are read. A line begins with at most one header: a
run of digits goes on until there is no digit, and what stands behind it tells whether there is a
length. So the reader, which never goes back, accepts all of the grammar and nothing else. Reading
gives back the new start and the length that were written, where both are words of 32 bits; the old
range may have any size. -/

namespace TestImpact

namespace Text

/-- The characters are digits of ASCII, and in base ten they denote the number. -/
def Denotes (digits : List Char) (n : Nat) : Prop :=
  (∀ c ∈ digits, c.isDigit = true) ∧ Nat.ofDigitChars 10 digits 0 = n

theorem digitValue?_ten (c : Char) :
    digitValue? 10 c = if c.isDigit then some (c.toNat - '0'.toNat) else none := by
  have digit : c.isDigit = true ↔ 48 ≤ c.toNat ∧ c.toNat ≤ 57 := by
    simp only [Char.isDigit, Bool.and_eq_true, decide_eq_true_eq]
    rfl
  have zero : '0'.toNat = 48 := rfl
  unfold digitValue?
  dsimp only
  by_cases inside : 48 ≤ c.toNat ∧ c.toNat ≤ 57
  · rw [if_pos inside, if_pos (digit.2 inside), Option.filter_some, zero]
    exact if_pos (decide_eq_true (by omega))
  · rw [if_neg inside, if_neg (mt digit.1 inside)]
    split
    · rw [Option.filter_some]
      exact if_neg (by simp only [decide_eq_true_eq]; omega)
    · split
      · rw [Option.filter_some]
        exact if_neg (by simp only [decide_eq_true_eq]; omega)
      · rfl

/-- Reading digits gives the number that they denote, and nothing else is read. -/
theorem readDigits?_eq_some_iff {digits : List Char} {n : Nat} :
    readDigits? 10 digits = some n ↔ Denotes digits n := by
  have from_value (value : Nat) :
      digits.foldlM (fun value c => (digitValue? 10 c).map (value * 10 + ·)) value = some n ↔
        (∀ c ∈ digits, c.isDigit = true) ∧ Nat.ofDigitChars 10 digits value = n := by
    induction digits generalizing value with
    | nil => simp
    | cons c digits ih =>
      rw [List.foldlM_cons, digitValue?_ten, Nat.ofDigitChars_cons, List.forall_mem_cons]
      by_cases digit : c.isDigit = true
      · rw [if_pos digit, Option.map_some, Option.bind_eq_bind, Option.bind_some, ih,
          Nat.mul_comm value]
        simp [digit]
      · simp [digit]
  exact from_value 0

theorem readBelow?_eq_some_iff {bound n : Nat} {digits : List Char} :
    readBelow? bound digits = some n ↔ digits ≠ [] ∧ Denotes digits n ∧ n < bound := by
  unfold readBelow?
  split
  · next none_left =>
    have empty := List.isEmpty_iff.1 none_left
    simp [empty]
  · next some_left =>
    have nonempty := mt List.isEmpty_iff.2 some_left
    rw [Option.filter_eq_some_iff, readDigits?_eq_some_iff, decide_eq_true_eq]
    exact (and_iff_right nonempty).symm

theorem denotes_decimal (n : Nat) : Denotes (decimal n) n :=
  ⟨fun _ member => Nat.isDigit_of_mem_toDigits (by decide) (by decide) member,
    Nat.ofDigitChars_ten_toDigits⟩

theorem readDigits?_decimal (n : Nat) : readDigits? 10 (decimal n) = some n :=
  readDigits?_eq_some_iff.2 (denotes_decimal n)

theorem decimal_injective {m n : Nat} (h : decimal m = decimal n) : m = n := by
  have same := readDigits?_decimal m
  rw [h, readDigits?_decimal] at same
  exact (Option.some.inj same).symm

theorem decimal_ne_nil (n : Nat) : decimal n ≠ [] :=
  Nat.toDigits_ne_nil

theorem isDecimalDigit_of_mem_decimal {n : Nat} {c : Char} (h : c ∈ decimal n) :
    isDecimalDigit c = true :=
  isDecimalDigit_of_isDigit ((denotes_decimal n).1 c h)

end Text

namespace Diff

/-! ## The grammar -/

/-- One or more decimal digits, of any script. -/
def IsDigitRun (digits : List Char) : Prop :=
  digits ≠ [] ∧ ∀ c ∈ digits, Text.isDecimalDigit c = true

/-- A range as a header writes it: a start, and a length that may be left out. -/
structure RangeLiteral where
  start : List Char
  length : Option (List Char)

namespace RangeLiteral

def chars (r : RangeLiteral) : List Char :=
  match r.length with
  | none => r.start
  | some length => r.start ++ ',' :: length

structure WellFormed (r : RangeLiteral) : Prop where
  start : IsDigitRun r.start
  length : ∀ digits ∈ r.length, IsDigitRun digits

/-- The numbers of the range, in ASCII and within 32 bits. A length that is left out is one. -/
structure Denotes (r : RangeLiteral) (range : NewRange) : Prop where
  start : Text.Denotes r.start range.start.toNat
  length : ∀ digits ∈ r.length, Text.Denotes digits range.length.toNat
  unwritten : r.length = none → range.length = 1

def ofNumbers (start : Nat) (length : Option Nat) : RangeLiteral where
  start := Text.decimal start
  length := length.map Text.decimal

end RangeLiteral

/-- A header with an old and a new range. -/
def headerChars (old new : RangeLiteral) : List Char :=
  ['@', '@', ' ', '-'] ++ old.chars ++ [' ', '+'] ++ new.chars ++ [' ', '@', '@']

/-! ## Reading -/

theorem isDigitRun_decimal (n : Nat) : IsDigitRun (Text.decimal n) :=
  ⟨Text.decimal_ne_nil n, fun _ => Text.isDecimalDigit_of_mem_decimal⟩

theorem readDigitRun?_append {digits : List Char} (run : IsDigitRun digits) {c : Char}
    (stop : Text.isDecimalDigit c = false) (rest : List Char) :
    readDigitRun? (digits ++ c :: rest) = some (digits, c :: rest) := by
  obtain ⟨nonempty, all_digits⟩ := run
  have taken : (digits ++ c :: rest).takeWhile Text.isDecimalDigit = digits := by
    rw [List.takeWhile_append_of_pos all_digits, List.takeWhile_cons_of_neg (by simp [stop]),
      List.append_nil]
  have left : (digits ++ c :: rest).dropWhile Text.isDecimalDigit = c :: rest := by
    rw [List.dropWhile_append_of_pos all_digits, List.dropWhile_cons_of_neg (by simp [stop])]
  rw [readDigitRun?, taken, left]
  split
  · next none_read => exact absurd rfl nonempty
  · rfl

theorem readDigitRun?_sound {s digits rest : List Char} (read : readDigitRun? s = some (digits, rest)) :
    s = digits ++ rest ∧ IsDigitRun digits := by
  unfold readDigitRun? at read
  split at read
  · cases read
  · next nonempty =>
    cases read
    exact ⟨List.takeWhile_append_dropWhile.symm, nonempty, List.all_eq_true.1 List.all_takeWhile⟩

/-- A range is read whole where a blank follows. -/
theorem readRange?_append {r : RangeLiteral} (formed : r.WellFormed) (rest : List Char) :
    readRange? (r.chars ++ ' ' :: rest) = some ((r.start, r.length), ' ' :: rest) := by
  have blank : Text.isDecimalDigit ' ' = false := by decide
  have comma : Text.isDecimalDigit ',' = false := by decide
  obtain ⟨start, length⟩ := r
  unfold RangeLiteral.chars readRange?
  cases length with
  | none => simp [readDigitRun?_append formed.start blank]
  | some digits =>
    simp [readDigitRun?_append formed.start comma,
      readDigitRun?_append (formed.length digits rfl) blank]

theorem readRange?_sound {s start rest : List Char} {length : Option (List Char)}
    (read : readRange? s = some ((start, length), rest)) :
    s = RangeLiteral.chars ⟨start, length⟩ ++ rest ∧ RangeLiteral.WellFormed ⟨start, length⟩ := by
  unfold readRange? at read
  obtain ⟨⟨first, behind⟩, started, chosen⟩ := Option.bind_eq_some_iff.1 read
  obtain ⟨whole, run⟩ := readDigitRun?_sound started
  dsimp only at chosen
  split at chosen
  · next tail =>
    split at chosen
    · next digits below counted =>
      cases chosen
      obtain ⟨rfl, length_run⟩ := readDigitRun?_sound counted
      refine ⟨?_, run, ?_⟩
      · simp [RangeLiteral.chars, whole]
      · rintro _ ⟨⟩
        exact length_run
    · cases chosen
      exact ⟨whole, run, nofun⟩
  · cases chosen
    exact ⟨whole, run, nofun⟩

theorem lineNumber?_eq_some_iff {digits : List Char} {n : LineNumber} :
    lineNumber? digits = some n ↔ digits ≠ [] ∧ Text.Denotes digits n.toNat := by
  rw [lineNumber?, Option.map_eq_some_iff]
  constructor
  · rintro ⟨value, read, rfl⟩
    obtain ⟨nonempty, denotes, small⟩ := Text.readBelow?_eq_some_iff.1 read
    rw [UInt32.toNat_ofNat_of_lt' small]
    exact ⟨nonempty, denotes⟩
  · rintro ⟨nonempty, denotes⟩
    exact ⟨n.toNat, Text.readBelow?_eq_some_iff.2 ⟨nonempty, denotes, n.toNat_lt⟩, UInt32.ofNat_toNat⟩

theorem parseHeader?_sound {line : List Char} {range : NewRange}
    (read : parseHeader? line = some range) :
    ∃ old new rest, old.WellFormed ∧ new.WellFormed ∧ new.Denotes range ∧
      line = headerChars old new ++ rest := by
  unfold parseHeader? at read
  obtain ⟨afterOpen, opened, read⟩ := Option.bind_eq_some_iff.1 read
  obtain ⟨⟨⟨oldStart, oldLength⟩, afterOld⟩, old_read, read⟩ := Option.bind_eq_some_iff.1 read
  obtain ⟨afterPlus, plus, read⟩ := Option.bind_eq_some_iff.1 read
  obtain ⟨⟨⟨newStart, newLength⟩, afterNew⟩, new_read, read⟩ := Option.bind_eq_some_iff.1 read
  obtain ⟨rest, closed, read⟩ := Option.bind_eq_some_iff.1 read
  obtain ⟨start, start_read, read⟩ := Option.bind_eq_some_iff.1 read
  obtain ⟨old_chars, old_formed⟩ := readRange?_sound old_read
  obtain ⟨new_chars, new_formed⟩ := readRange?_sound new_read
  have written : line = headerChars ⟨oldStart, oldLength⟩ ⟨newStart, newLength⟩ ++ rest := by
    rw [Text.afterPrefix?_eq_some_iff.1 opened, old_chars, Text.afterPrefix?_eq_some_iff.1 plus,
      new_chars, Text.afterPrefix?_eq_some_iff.1 closed]
    simp only [headerChars, List.append_assoc]
    rfl
  have start_denotes := (lineNumber?_eq_some_iff.1 start_read).2
  refine ⟨_, _, rest, old_formed, new_formed, ?_, written⟩
  dsimp only at read
  cases newLength with
  | none =>
    cases read
    exact ⟨start_denotes, nofun, fun _ => rfl⟩
  | some digits =>
    obtain ⟨length, length_read, he⟩ := Option.bind_eq_some_iff.1 read
    cases he
    refine ⟨start_denotes, ?_, nofun⟩
    rintro _ ⟨⟩
    exact (lineNumber?_eq_some_iff.1 length_read).2

theorem parseHeader?_headerChars {old new : RangeLiteral} {range : NewRange}
    (old_formed : old.WellFormed) (new_formed : new.WellFormed) (denotes : new.Denotes range)
    (rest : List Char) : parseHeader? (headerChars old new ++ rest) = some range := by
  have chars : headerChars old new ++ rest =
      "@@ -".toList ++ (old.chars ++ ' ' :: '+' :: (new.chars ++ ' ' :: ("@@".toList ++ rest))) := by
    unfold headerChars
    simp only [List.append_assoc]
    rfl
  have plus : Text.afterPrefix? " +".toList (' ' :: '+' :: (new.chars ++ ' ' :: ("@@".toList ++ rest))) =
      some (new.chars ++ ' ' :: ("@@".toList ++ rest)) := Text.afterPrefix?_append " +".toList _
  have close : Text.afterPrefix? " @@".toList (' ' :: ("@@".toList ++ rest)) = some rest :=
    Text.afterPrefix?_append " @@".toList rest
  have start := lineNumber?_eq_some_iff.2 ⟨new_formed.start.1, denotes.start⟩
  rw [parseHeader?, chars]
  simp only [Text.afterPrefix?_append, Option.bind_eq_bind, Option.bind_some,
    readRange?_append old_formed, readRange?_append new_formed, plus, close, start]
  cases written : new.length with
  | none =>
    rw [← denotes.unwritten written]
    rfl
  | some digits =>
    have length := lineNumber?_eq_some_iff.2
      ⟨(new_formed.length digits written).1, denotes.length digits written⟩
    simp only [length]
    rfl

/-! ## Written headers -/

namespace RangeLiteral

theorem wellFormed_ofNumbers (start : Nat) (length : Option Nat) : (ofNumbers start length).WellFormed where
  start := isDigitRun_decimal start
  length := by
    intro digits member
    obtain ⟨n, -, rfl⟩ := Option.map_eq_some_iff.1 member
    exact isDigitRun_decimal n

theorem denotes_ofNumbers {start : Nat} {length : Option Nat} {range : NewRange}
    (same_start : range.start.toNat = start) (same_length : range.length.toNat = length.getD 1) :
    (ofNumbers start length).Denotes range where
  start := by
    rw [same_start]
    exact Text.denotes_decimal start
  length := by
    intro digits member
    obtain ⟨n, rfl, rfl⟩ := Option.map_eq_some_iff.1 member
    rw [same_length]
    exact Text.denotes_decimal n
  unwritten := by
    intro unwritten
    rw [Option.map_eq_none_iff.1 unwritten] at same_length
    exact UInt32.toNat_inj.1 same_length

end RangeLiteral

/-- The line that a header names a range by. -/
def rangeStart (start stop : Nat) : Nat :=
  if stop - start = 0 then start else start + 1

/-- The length that a header gives to a range, unless it is one. -/
def rangeLength? (start stop : Nat) : Option Nat :=
  if stop - start = 1 then none else some (stop - start)

theorem toList_rangeText (start stop : Nat) :
    (rangeText start stop).toList =
      (RangeLiteral.ofNumbers (rangeStart start stop) (rangeLength? start stop)).chars := by
  unfold rangeText rangeStart rangeLength? RangeLiteral.ofNumbers RangeLiteral.chars
  by_cases one : stop - start = 1
  · simp [one]
  · simp [one]

def headerLine (first last : Edit) : String :=
  "@@ -" ++ rangeText first.oldStart last.oldStop ++
    " +" ++ rangeText first.newStart last.newStop ++ " @@"

/-- A header is read as it was written. -/
theorem ofHeader?_headerLine {first last : Edit}
    (start : rangeStart first.newStart last.newStop < UInt32.size)
    (length : last.newStop - first.newStart < UInt32.size) :
    NewRange.ofHeader? (headerLine first last) =
      some ⟨.ofNat (rangeStart first.newStart last.newStop),
        .ofNat (last.newStop - first.newStart)⟩ := by
  let old := RangeLiteral.ofNumbers (rangeStart first.oldStart last.oldStop)
    (rangeLength? first.oldStart last.oldStop)
  let new := RangeLiteral.ofNumbers (rangeStart first.newStart last.newStop)
    (rangeLength? first.newStart last.newStop)
  have chars : (headerLine first last).toList = headerChars old new ++ [] := by
    simp [headerLine, headerChars, toList_rangeText, old, new]
  have denotes : new.Denotes ⟨.ofNat (rangeStart first.newStart last.newStop),
      .ofNat (last.newStop - first.newStart)⟩ := by
    refine RangeLiteral.denotes_ofNumbers (UInt32.toNat_ofNat_of_lt' start) ?_
    unfold rangeLength?
    split
    · next one => rw [one]; rfl
    · exact UInt32.toNat_ofNat_of_lt' length
  rw [NewRange.ofHeader?, chars]
  exact parseHeader?_headerChars (RangeLiteral.wellFormed_ofNumbers _ _)
    (RangeLiteral.wellFormed_ofNumbers _ _) denotes []

/-- **A line is a header exactly where it begins as the grammar says.** It tells the new range that
the digits denote; so a header gives back the numbers that it was written with, whether the lengths
are written or not, and whatever follows. -/
theorem headers_follow_grammar :
    (∀ (line : String) (range : NewRange), NewRange.ofHeader? line = some range ↔
      ∃ old new rest, old.WellFormed ∧ new.WellFormed ∧ new.Denotes range ∧
        line.toList = headerChars old new ++ rest) ∧
    ∀ (oldStart : Nat) (oldLength : Option Nat) (start : LineNumber) (length : Option LineNumber)
      (rest : List Char),
      NewRange.ofHeader? (String.ofList (headerChars (.ofNumbers oldStart oldLength)
        (.ofNumbers start.toNat (length.map UInt32.toNat)) ++ rest)) =
        some ⟨start, length.getD 1⟩ := by
  refine ⟨fun line range => ⟨parseHeader?_sound, ?_⟩, ?_⟩
  · rintro ⟨old, new, rest, old_formed, new_formed, denotes, written⟩
    rw [NewRange.ofHeader?, written]
    exact parseHeader?_headerChars old_formed new_formed denotes rest
  · intro oldStart oldLength start length rest
    have denotes : (RangeLiteral.ofNumbers start.toNat (length.map UInt32.toNat)).Denotes
        ⟨start, length.getD 1⟩ := by
      refine RangeLiteral.denotes_ofNumbers rfl ?_
      cases length with
      | none => rfl
      | some n => rfl
    rw [NewRange.ofHeader?, String.toList_ofList]
    exact parseHeader?_headerChars (RangeLiteral.wellFormed_ofNumbers _ _)
      (RangeLiteral.wellFormed_ofNumbers _ _) denotes rest

/-- Digits of another script are digits of the old range, which nobody reads. These are a one and a
nine of Gurung Khema, the script with the newest digits. -/
theorem headers_follow_grammar_gurung_khema :
    NewRange.ofHeader? "@@ -𖄱𖄹 +4 @@ f()" = some ⟨4, 1⟩ := by
  refine (headers_follow_grammar.1 _ _).2
    ⟨⟨['𖄱', '𖄹'], none⟩, ⟨['4'], none⟩, " f()".toList, ?_, ?_, ?_, rfl⟩
  · exact ⟨⟨List.cons_ne_nil _ _, List.all_eq_true.1 (by decide +kernel)⟩, nofun⟩
  · exact ⟨⟨List.cons_ne_nil _ _, List.all_eq_true.1 (by decide +kernel)⟩, nofun⟩
  · exact ⟨⟨List.all_eq_true.1 (by decide +kernel), rfl⟩, nofun, fun _ => rfl⟩

/-- A number that is read has no digits of another script. -/
example : NewRange.ofHeader? "@@ -3 +٤ @@ f()" = none := by decide +kernel

end Diff

end TestImpact
