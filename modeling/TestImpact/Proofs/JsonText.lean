import TestImpact.Json.Reader
import TestImpact.Json.Writer
import TestImpact.Proofs.HunkHeader

/-! Natural numbers and strings in JSON text are read back as they were written. A number is
followed by something that cannot belong to it; a string ends at its closing quote. -/

namespace TestImpact

namespace Text

/-- No number but zero is written with a zero in front. -/
theorem decimal_eq_cons {n : Nat} (pos : n ≠ 0) :
    ∃ c digits, decimal n = c :: digits ∧ c ≠ '0' := by
  induction n using Nat.strongRecOn with
  | _ n ih =>
    by_cases small : n < 10
    · have first : ∀ d < 10, d ≠ 0 → d.digitChar ≠ '0' := by decide
      exact ⟨_, [], Nat.toDigits_of_lt_base small, first n small pos⟩
    · obtain ⟨c, digits, tens, front⟩ := ih (n / 10) (by omega) (by omega)
      have last : n % 10 < 10 := Nat.mod_lt _ (by decide)
      refine ⟨c, digits ++ [(n % 10).digitChar], ?_, front⟩
      rw [← List.cons_append, ← tens, decimal, decimal, ← Nat.toDigits_of_lt_base last,
        Nat.toDigits_append_toDigits (by decide) (by omega) last]
      congr 1
      omega

theorem isDigit_of_mem_decimal {n : Nat} {c : Char} (h : c ∈ decimal n) : c.isDigit = true :=
  Nat.isDigit_of_mem_toDigits (by decide) (by decide) h

theorem exists_decimal_eq_cons (n : Nat) : ∃ c rest, decimal n = c :: rest ∧ c.isDigit = true := by
  obtain ⟨c, rest, written⟩ := List.exists_cons_of_ne_nil (decimal_ne_nil n)
  exact ⟨c, rest, written, isDigit_of_mem_decimal (n := n) (by simp [written])⟩

end Text

namespace Json

/-! ## Numbers -/

/-- A character that no number goes on with. -/
def OutsideNumber (c : Char) : Prop :=
  c.isDigit = false ∧ c ≠ '.' ∧ c ≠ 'e' ∧ c ≠ 'E'

instance (c : Char) : Decidable (OutsideNumber c) :=
  inferInstanceAs (Decidable (_ ∧ _))

/-- What follows cannot belong to a number. -/
def EndsNumber (rest : List Char) : Prop :=
  ∀ c ∈ rest.head?, OutsideNumber c

theorem EndsNumber.nil : EndsNumber [] := nofun

theorem EndsNumber.cons {c : Char} (outside : OutsideNumber c) (rest : List Char) :
    EndsNumber (c :: rest) := by
  rintro _ ⟨⟩
  exact outside

theorem readDigits1?_append {digits rest : List Char} (all : ∀ c ∈ digits, c.isDigit = true)
    (some_digit : digits ≠ []) (ends : EndsNumber rest) :
    readDigits1? (digits ++ rest) = some (digits, rest) := by
  have none_taken : rest.takeWhile Char.isDigit = [] ∧ rest.dropWhile Char.isDigit = rest := by
    cases rest with
    | nil => exact ⟨rfl, rfl⟩
    | cons c rest =>
      have stop := (ends c rfl).1
      exact ⟨List.takeWhile_cons_of_neg (by simp [stop]), List.dropWhile_cons_of_neg (by simp [stop])⟩
  rw [readDigits1?, List.takeWhile_append_of_pos all, List.dropWhile_append_of_pos all, none_taken.1,
    none_taken.2, List.append_nil]
  cases digits with
  | nil => exact absurd rfl some_digit
  | cons c digits => rfl

theorem readWhole?_decimal (n : Nat) {rest : List Char} (ends : EndsNumber rest) :
    readWhole? (Text.decimal n ++ rest) = some (Text.decimal n, rest) := by
  by_cases zero : n = 0
  · subst zero
    show readWhole? ('0' :: rest) = some (['0'], rest)
    cases rest with
    | nil => rfl
    | cons c rest => simp [readWhole?, (ends c rfl).1]
  · obtain ⟨c, digits, written, front⟩ := Text.decimal_eq_cons zero
    have whole := readDigits1?_append (fun _ => Text.isDigit_of_mem_decimal) (Text.decimal_ne_nil n)
      ends
    rw [written, List.cons_append] at whole ⊢
    rw [readWhole?]
    · exact whole
    · rintro rest ⟨⟩
      exact front rfl

theorem readFraction?_none {rest : List Char} (ends : EndsNumber rest) :
    readFraction? rest = some (none, rest) := by
  cases rest with
  | nil => rfl
  | cons c rest =>
    rw [readFraction?]
    rintro s ⟨⟩
    exact (ends '.' rfl).2.1 rfl

theorem readExponent?_none {rest : List Char} (ends : EndsNumber rest) :
    readExponent? rest = some (none, rest) := by
  cases rest with
  | nil => rfl
  | cons c rest =>
    obtain ⟨-, -, lower, upper⟩ := ends c rfl
    unfold readExponent?
    exact if_neg (by simp [lower, upper])

theorem readNumeral?_decimal (n : Nat) {rest : List Char} (ends : EndsNumber rest) :
    readNumeral? (Text.decimal n ++ rest) =
      some ({ negative := false, whole := Text.decimal n, fraction := none, exponent := none },
        rest) := by
  have unsigned : ∀ tail, Text.decimal n ++ rest ≠ '-' :: tail := by
    intro tail same
    obtain ⟨c, digits, written, digit⟩ := Text.exists_decimal_eq_cons n
    rw [written] at same
    obtain ⟨rfl, -⟩ := List.cons.inj same
    simp at digit
  unfold readNumeral?
  split
  next negative tail sign =>
    split at sign
    next tail same => exact absurd same (unsigned tail)
    next other =>
      cases sign
      simp [readWhole?_decimal n ends, readFraction?_none ends, readExponent?_none ends]

/-- Digits are kept as long as the number stays below the bound. -/
theorem extendSignificand_eq {significand : Nat} {digits : List Char}
    (small : Nat.ofDigitChars 10 digits significand < naturalBound) :
    extendSignificand significand digits = (Nat.ofDigitChars 10 digits significand, []) := by
  induction digits generalizing significand with
  | nil => rfl
  | cons c digits ih =>
    rw [Nat.ofDigitChars_cons, Nat.mul_comm] at small ⊢
    have next : significand * 10 + (c.toNat - '0'.toNat) < naturalBound := by
      rw [Nat.ofDigitChars_eq_ofDigitChars_zero] at small
      have := Nat.le_mul_of_pos_left (significand * 10 + (c.toNat - '0'.toNat))
        (Nat.pow_pos (n := digits.length) (by decide : 0 < 10))
      omega
    rw [extendSignificand]
    exact (if_pos next).trans (ih small)

theorem value_decimal {n : Nat} (small : n < naturalBound) :
    Numeral.value { negative := false, whole := Text.decimal n, fraction := none, exponent := none } =
      .natural n := by
  have kept : Nat.ofDigitChars 10 (Text.decimal n) 0 = n :=
    Nat.ofDigitChars_toDigits (by decide) (by decide)
  have whole := extendSignificand_eq (kept.symm ▸ small)
  rw [kept] at whole
  simp only [Numeral.value, whole]

/-! ## Strings -/

/-- A control character without a short form is written by its number, with four digits. -/
theorem escapeChar_control : ∀ n < 0x20, Char.ofNat n ∉ ['\n', '\r', '\t', '\x08', '\x0c'] →
    escapeChar (Char.ofNat n) =
        ['\\', 'u', '0', '0', (n / 16).digitChar, (n % 16).digitChar] ∧
      Text.readDigits? 16 ['0', '0', (n / 16).digitChar, (n % 16).digitChar] = some n := by
  decide

/-- A character in the pieces that it is read as. -/
def pieceOf (c : Char) : Piece :=
  if c.toNat < 0x20 ∧ c ∉ ['\n', '\r', '\t', '\x08', '\x0c'] then .unit c.toNat else .plain c

theorem readPieces?_plain {c : Char} (quote : c ≠ '"') (slash : c ≠ '\\') (visible : ¬ c.toNat < 0x20)
    {pieces : List Piece} {s rest : List Char} (below : readPieces? s = some (pieces, rest)) :
    readPieces? (c :: s) = some (.plain c :: pieces, rest) := by
  rw [readPieces?, if_neg (by simp [visible, slash]), below]
  · rfl
  all_goals simp [quote, slash]

theorem readPieces?_escapeChar (c : Char) {pieces : List Piece} {s rest : List Char}
    (below : readPieces? s = some (pieces, rest)) :
    readPieces? (escapeChar c ++ s) = some (pieceOf c :: pieces, rest) := by
  by_cases control : c.toNat < 0x20 ∧ c ∉ ['\n', '\r', '\t', '\x08', '\x0c']
  · have number : Char.ofNat c.toNat = c := Char.ofNat_toNat c
    obtain ⟨written, read⟩ := escapeChar_control c.toNat control.1 (by rw [number]; exact control.2)
    rw [number] at written
    rw [written, pieceOf, if_pos control]
    show readPieces? ('\\' :: 'u' :: '0' :: '0' :: (c.toNat / 16).digitChar ::
      (c.toNat % 16).digitChar :: s) = _
    rw [readPieces?, read]
    simp [below]
  · rw [pieceOf, if_neg control]
    unfold escapeChar
    split
    case h_8 quote slash feed ret tab back page =>
      have visible : ¬ c.toNat < 0x20 := by
        intro low
        refine control ⟨low, ?_⟩
        simp only [List.mem_cons, List.not_mem_nil, or_false, not_or]
        exact ⟨feed, ret, tab, back, page⟩
      rw [if_neg visible]
      exact readPieces?_plain quote slash visible below
    all_goals simp [readPieces?, shortEscape?, below]

theorem readPieces?_stringText (s rest : List Char) :
    readPieces? (s.flatMap escapeChar ++ '"' :: rest) = some (s.map pieceOf, rest) := by
  induction s with
  | nil => rfl
  | cons c s ih =>
    rw [List.flatMap_cons, List.append_assoc]
    exact readPieces?_escapeChar c ih

/-- A piece that is written by number is no half of a pair. -/
theorem joinPieces?_pieceOf (c : Char) {pieces : List Piece} {s : List Char}
    (below : joinPieces? pieces = some s) : joinPieces? (pieceOf c :: pieces) = some (c :: s) := by
  unfold pieceOf
  split
  · next control =>
    have low : ¬ (0xD800 ≤ c.toNat ∧ c.toNat < 0xDC00) ∧ ¬ (0xDC00 ≤ c.toNat ∧ c.toNat < 0xE000) ∧
        ¬ (0xD800 ≤ c.toNat ∧ c.toNat < 0xE000) := by omega
    rcases pieces with _ | ⟨d | n, pieces⟩
    · simpa [joinPieces?, low, eq_comm] using below
    · simpa [joinPieces?, low] using below
    · simp [joinPieces?, low, below]
  · simp [joinPieces?, below]

theorem joinPieces?_map_pieceOf (s : List Char) : joinPieces? (s.map pieceOf) = some s := by
  induction s with
  | nil => rfl
  | cons c s ih => exact joinPieces?_pieceOf c ih

/-- **A string is read as it was written.** -/
theorem readString?_stringText (s : String) (rest : List Char) :
    ∃ text, stringText s ++ rest = '"' :: text ∧ readString? text = some (some s, rest) := by
  refine ⟨s.toList.flatMap escapeChar ++ '"' :: rest, by simp [stringText], ?_⟩
  simp [readString?, readPieces?_stringText, joinPieces?_map_pieceOf]

end Json

end TestImpact
