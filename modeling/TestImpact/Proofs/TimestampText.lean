import Mathlib.Algebra.GroupWithZero.Nat
import Mathlib.Data.Option.Basic
import TestImpact.Proofs.Calendar
import TestImpact.Proofs.JsonText

/-! The text of a point in time. Every number of it is read as it was written, with its leading
zeros, so a point in time that a clock can show is read back from its text. -/

namespace TestImpact.Timestamp

/-! ## Numbers with leading zeros -/

theorem not_isBlank_of_isDigit {c : Char} (digit : c.isDigit = true) : Text.isBlank c = false := by
  simp only [Char.isDigit, Bool.and_eq_true, decide_eq_true_eq] at digit
  have bounds : 48 ≤ c.toNat ∧ c.toNat ≤ 57 := digit
  simp only [Text.isBlank, Bool.or_eq_false_iff, Bool.and_eq_false_imp, beq_eq_false_iff_ne,
    decide_eq_true_eq, decide_eq_false_iff_not]
  omega

theorem isDigit_of_mem_padded {width n : Nat} {c : Char} (h : c ∈ padded width n) :
    c.isDigit = true := by
  rcases List.mem_append.1 h with h | h
  · rw [(List.mem_replicate.1 h).2]
    decide
  · exact Text.isDigit_of_mem_decimal h

theorem length_padded {width n : Nat} (pos : 0 < width) (small : n < 10 ^ width) :
    (padded width n).length = width := by
  have := (Nat.length_toDigits_le_iff (b := 10) (by decide) pos).2 small
  simp only [padded, List.length_append, List.length_replicate]
  exact Nat.sub_add_cancel this

theorem exists_padded_eq_cons (width n : Nat) :
    ∃ c rest, padded width n = c :: rest ∧ c.isDigit = true := by
  have some_digit : padded width n ≠ [] := by
    simp [padded, Text.decimal_ne_nil]
  obtain ⟨c, rest, written⟩ := List.exists_cons_of_ne_nil some_digit
  exact ⟨c, rest, written, isDigit_of_mem_padded (by rw [written]; simp)⟩

theorem readDigits?_replicate_zero (k : Nat) (digits : List Char) :
    Text.readDigits? 10 (List.replicate k '0' ++ digits) = Text.readDigits? 10 digits := by
  induction k with
  | zero => rfl
  | succ k ih => exact ih

theorem readBelow?_padded {width n bound : Nat} (small : n < bound) :
    Text.readBelow? bound (padded width n) = some n := by
  obtain ⟨c, rest, written, -⟩ := exists_padded_eq_cons width n
  rw [Text.readBelow?, if_neg (by simp [written]), padded, readDigits?_replicate_zero,
    Text.readDigits?_decimal]
  simp [small]

theorem trimStart_padded (width n : Nat) (rest : List Char) :
    Text.trimStart (padded width n ++ rest) = padded width n ++ rest := by
  obtain ⟨c, tail, written, digit⟩ := exists_padded_eq_cons width n
  rw [written, List.cons_append]
  exact List.dropWhile_cons_of_neg (by simp [not_isBlank_of_isDigit digit])

theorem readNumber?_padded {width n : Nat} (pos : 0 < width) (small : n < 10 ^ width)
    (short : width ≤ 18) (rest : List Char) :
    readNumber? width (padded width n ++ rest) = some (n, rest) := by
  have bound : n < Nat.pow 10 18 := Nat.lt_of_lt_of_le small (Nat.pow_le_pow_right (by decide) short)
  have digits : ((padded width n ++ rest).takeWhile Char.isDigit).take width = padded width n := by
    rw [List.takeWhile_append_of_pos fun _ => isDigit_of_mem_padded]
    exact List.take_left' (length_padded pos small)
  rw [readNumber?, trimStart_padded, digits, readBelow?_padded bound, List.drop_left]
  rfl

theorem readNumber?_pair {n : Nat} (small : n < 100) (rest : List Char) :
    readNumber? 2 (padded 2 n ++ rest) = some (n, rest) :=
  readNumber?_padded (by decide) small (by decide) rest

/-! ## Years and fractions -/

theorem takeWhile_padded {width n : Nat} {c : Char} (stop : c.isDigit = false) (rest : List Char) :
    (padded width n ++ c :: rest).takeWhile Char.isDigit = padded width n := by
  rw [List.takeWhile_append_of_pos fun _ => isDigit_of_mem_padded,
    List.takeWhile_cons_of_neg (by simp [stop]), List.append_nil]

/-- A year is read up to what stands behind it, with its sign if it has one. -/
theorem readYear?_yearText {year : Int} (small : year.natAbs < Nat.pow 10 18) (rest : List Char) :
    readYear? (yearText year ++ '-' :: rest) = some (year, '-' :: rest) := by
  have signed (sign : Int) : readYear?.signed (padded 4 year.natAbs ++ '-' :: rest) sign =
      some (sign * year.natAbs, '-' :: rest) := by
    rw [readYear?.signed, takeWhile_padded (by decide), readBelow?_padded small, List.drop_left]
    rfl
  unfold yearText
  split
  next plain =>
    obtain ⟨c, tail, written, digit⟩ := exists_padded_eq_cons 4 year.toNat
    have number : readNumber? 4 (padded 4 year.toNat ++ '-' :: rest) = some (year.toNat, '-' :: rest) :=
      readNumber?_padded (by decide) (by omega) (by decide) ('-' :: rest)
    have trimmed := trimStart_padded 4 year.toNat ('-' :: rest)
    rw [written, List.cons_append] at number trimmed ⊢
    unfold readYear?
    rw [trimmed]
    split
    next same =>
      obtain ⟨rfl, -⟩ := List.cons.inj same
      simp at digit
    next same =>
      obtain ⟨rfl, -⟩ := List.cons.inj same
      simp at digit
    next =>
      rw [number]
      exact congrArg (fun n => some (n, _)) (Int.toNat_of_nonneg plain.1)
  next outside =>
    by_cases negative : year < 0
    · rw [if_pos negative]
      refine (signed (-1)).trans ?_
      congr 2
      omega
    · rw [if_neg negative]
      refine (signed 1).trans ?_
      congr 2
      omega

theorem readFraction?_padded {width n nanosecond : Nat} (pos : 0 < width) (short : width ≤ 9)
    (small : n < 10 ^ width) (scaled : n * 10 ^ (9 - width) = nanosecond) (rest : List Char) :
    readFraction? ('.' :: (padded width n ++ 'Z' :: rest)) = some (nanosecond, 'Z' :: rest) := by
  have length := length_padded pos small
  have bound : n < Nat.pow 10 9 := Nat.lt_of_lt_of_le small (Nat.pow_le_pow_right (by decide) short)
  have counted : (padded width n).take 9 = padded width n := List.take_of_length_le (by omega)
  rw [readFraction?, takeWhile_padded (by decide), counted, readBelow?_padded bound, List.drop_left,
    length, ← scaled]
  rfl

theorem readFraction?_fractionText {nanosecond : Nat} (small : nanosecond < 1000000000)
    (rest : List Char) :
    readFraction? (fractionText nanosecond ++ 'Z' :: rest) = some (nanosecond, 'Z' :: rest) := by
  unfold fractionText
  by_cases zero : nanosecond = 0
  · rw [if_pos zero, zero]
    rfl
  rw [if_neg zero]
  by_cases millis : nanosecond % 1000000 = 0
  · rw [if_pos millis]
    exact readFraction?_padded (by decide) (by decide) (by omega) (by omega) rest
  rw [if_neg millis]
  by_cases micros : nanosecond % 1000 = 0
  · rw [if_pos micros]
    exact readFraction?_padded (by decide) (by decide) (by omega) (by omega) rest
  rw [if_neg micros]
  exact readFraction?_padded (by decide) (by decide) (by omega) (by omega) rest

/-! ## Points in time -/

theorem skip?_cons {mark : Char} (visible : Text.isBlank mark = false) (rest : List Char) :
    skip? mark (mark :: rest) = some rest := by
  have trimmed : Text.trimStart (mark :: rest) = mark :: rest :=
    List.dropWhile_cons_of_neg (by simp [visible])
  simp [skip?, trimmed]

/-- A point in time that a clock can show: a leap second prolongs the last second of a minute, and
the calendar has bounds. -/
structure Valid (t : Timestamp) : Prop where
  second : t.second < 86400
  nanosecond : t.nanosecond < 1000000000 ∨ t.second % 60 = 59 ∧ t.nanosecond < 2000000000
  year : minYear ≤ (dateOfDay t.day).1 ∧ (dateOfDay t.day).1 ≤ maxYear

/-- The second of a minute and the fraction that are written: a leap second is second 60. -/
theorem exists_written_second {t : Timestamp} (valid : t.Valid) :
    ∃ second fraction,
      t.second % 60 + (if 1000000000 ≤ t.nanosecond then 1 else 0) = second ∧
      (if 1000000000 ≤ t.nanosecond then t.nanosecond - 1000000000 else t.nanosecond) = fraction ∧
      second ≤ 60 ∧ fraction < 1000000000 ∧ (if second = 60 then 59 else second) = t.second % 60 ∧
      fraction + (if second = 60 then 1000000000 else 0) = t.nanosecond := by
  obtain ⟨-, bounds, -⟩ := valid
  refine ⟨_, _, rfl, rfl, ?_⟩
  split <;> refine ⟨?_, ?_, ?_, ?_⟩ <;> (try split) <;> omega

/-- **A point in time is read back from its text.** -/
theorem parse?_text {t : Timestamp} (valid : t.Valid) : parse? t.text = some t := by
  obtain ⟨written, fraction, secondText, fractionWritten, secondSmall, fractionSmall, secondBack,
    fractionBack⟩ := exists_written_second valid
  obtain ⟨seconds, -, years⟩ := valid
  obtain ⟨months, days⟩ := dateOfDay_valid t.day
  have back := dayOfDate_dateOfDay t.day
  unfold text
  simp only [secondText, fractionWritten]
  generalize date_eq : dateOfDay t.day = date at *
  obtain ⟨year, month, dayOfMonth⟩ := date
  simp only at years months days back
  have dayOfMonthSmall : dayOfMonth < 100 := by
    have := daysInMonth_le year month
    omega
  have yearSmall : year.natAbs < Nat.pow 10 18 := by
    have : Nat.pow 10 18 = 1000000000000000000 := rfl
    unfold minYear maxYear at years
    omega
  have offset : readOffset? (Text.trimStart ['Z']) = some (0, []) := by decide
  have universal : dayOfDate year month dayOfMonth * 86400 + (((t.second / 3600 : Nat) : Int) * 3600 +
      ((t.second / 60 % 60 : Nat) : Int) * 60 + (if written = 60 then 59 else written : Nat)) - 0 * 60 =
        t.day * 86400 + t.second := by
    rw [back, secondBack]
    omega
  have inside : (t.second : Int) < 86400 := by omega
  obtain ⟨number, rest⟩ := fdiv_and_left t.day inside
  unfold parse?
  rw [String.toList_ofList]
  simp only [List.append_assoc, List.cons_append]
  -- the text is read from its start, one number or mark after the other
  refine Option.bind_eq_some_iff.2 ⟨_, readYear?_yearText yearSmall _, ?_⟩
  refine Option.bind_eq_some_iff.2 ⟨_, skip?_cons rfl _, ?_⟩
  refine Option.bind_eq_some_iff.2 ⟨_, readNumber?_pair (by omega) _, ?_⟩
  refine Option.bind_eq_some_iff.2 ⟨_, skip?_cons rfl _, ?_⟩
  refine Option.bind_eq_some_iff.2 ⟨_, readNumber?_pair dayOfMonthSmall _, ?_⟩
  refine Option.bind_eq_some_iff.2 ⟨_, rfl, ?_⟩
  refine Option.bind_eq_some_iff.2 ⟨_, readNumber?_pair (by omega) _, ?_⟩
  refine Option.bind_eq_some_iff.2 ⟨_, skip?_cons rfl _, ?_⟩
  refine Option.bind_eq_some_iff.2 ⟨_, readNumber?_pair (by omega) _, ?_⟩
  refine Option.bind_eq_some_iff.2 ⟨_, skip?_cons rfl _, ?_⟩
  refine Option.bind_eq_some_iff.2 ⟨_, readNumber?_pair (by omega) _, ?_⟩
  refine Option.bind_eq_some_iff.2 ⟨_, readFraction?_fractionText fractionSmall _, ?_⟩
  refine Option.bind_eq_some_iff.2 ⟨_, offset, ?_⟩
  simp only [universal, number, rest, fractionBack]
  refine Option.bind_eq_some_iff.2 ⟨(), (Option.guard_eq_some' _).2 (by decide), ?_⟩
  refine Option.bind_eq_some_iff.2 ⟨(), (Option.guard_eq_some' _).2
    ⟨years.1, years.2, months.1, months.2, days.1⟩, ?_⟩
  refine Option.bind_eq_some_iff.2 ⟨(), (Option.guard_eq_some' _).2
    ⟨days.2, by omega, by omega, secondSmall⟩, ?_⟩
  refine Option.bind_eq_some_iff.2 ⟨(), (Option.guard_eq_some' _).2 (by decide), ?_⟩
  refine Option.bind_eq_some_iff.2 ⟨(), (Option.guard_eq_some' _).2 (by rwa [date_eq]), ?_⟩
  rfl

end TestImpact.Timestamp
