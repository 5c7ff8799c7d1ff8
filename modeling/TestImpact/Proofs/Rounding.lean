import Mathlib.Algebra.Order.Field.Power
import Mathlib.Algebra.Order.Ring.Rat
import Mathlib.Tactic.FieldSimp
import Mathlib.Tactic.Linarith
import Mathlib.Tactic.NormNum
import Mathlib.Tactic.Positivity
import Mathlib.Tactic.Ring
import TestImpact.Number.Binary64

/-! Rounding to double precision, stated without the way it is computed: of all the numbers with 53
significant bits and an exponent that is not too small, none is nearer to the exact one, and of two
that are as near the one with the even significand is taken.

Around the exact number the grid of the chosen exponent is the finest one on which it has at most 53
bits. A competitor on a coarser grid lies on this one too, where the nearest point was taken. On a
finer grid competitors end before the first number with 53 bits on this one, which the exact number
has passed. -/

namespace TestImpact

/-- The number that a fraction stands for. -/
def Fraction.value (x : Fraction) : ℚ :=
  (if x.negative then -1 else 1) * (x.numerator / x.denominator)

namespace Binary64

def value (x : Binary64) : ℚ :=
  x.significand * 2 ^ x.exponent

/-- A significand of at most 53 bits at an exponent that double precision has. -/
structure Fits (x : Binary64) : Prop where
  bits : x.significand < 2 ^ 53
  bounded : minExponent ≤ x.exponent

/-- `x` is `q` in double precision. -/
structure Rounds (q : ℚ) (x : Binary64) : Prop where
  fits : x.Fits
  /-- All 53 bits are used unless the exponent is the least one. -/
  full : minExponent < x.exponent → 2 ^ 52 ≤ x.significand
  nearest : ∀ y : Binary64, y.Fits → |x.value - q| ≤ |y.value - q|
  even : ∀ y : Binary64, y.Fits → |y.value - q| = |x.value - q| → y.value ≠ x.value →
    Even x.significand

theorem Rounds.value_eq {x y : Binary64} (rounds : Rounds y.value x) (fits : y.Fits) :
    x.value = y.value := by
  have near := rounds.nearest y fits
  rw [sub_self, abs_zero] at near
  exact sub_eq_zero.1 (abs_nonpos_iff.1 near)

/-! ## Quotients as numbers -/

theorem value_eq_quotient (x : Binary64) : x.value = x.toQuotient.1 / x.toQuotient.2 := by
  obtain ⟨m, e⟩ := x
  rw [value, toQuotient]
  split
  case isTrue positive =>
    obtain ⟨n, rfl⟩ := Int.eq_ofNat_of_zero_le positive
    simp
  case isFalse negative =>
    obtain ⟨n, rfl⟩ : ∃ n : ℕ, e = -n := ⟨e.natAbs, by simp only at negative; omega⟩
    simp [div_eq_mul_inv]

theorem toQuotient_pos (x : Binary64) : 0 < x.toQuotient.2 := by
  rw [toQuotient]
  split
  · exact Nat.one_pos
  · exact Nat.pow_pos Nat.two_pos

theorem value_toFraction (x : Binary64) : (x.toFraction false).value = x.value := by
  rw [value_eq_quotient, toQuotient, toFraction]
  split <;> exact one_mul _

theorem scale_spec (a : Nat) {b : Nat} (pos : 0 < b) (e : Int) :
    0 < (scale a b e).2 ∧ ((scale a b e).1 / (scale a b e).2 : ℚ) = a / b / 2 ^ e := by
  have : (b : ℚ) ≠ 0 := Nat.cast_ne_zero.2 pos.ne'
  rw [scale]
  split
  case isTrue positive =>
    obtain ⟨n, rfl⟩ := Int.eq_ofNat_of_zero_le positive
    refine ⟨Nat.mul_pos pos (Nat.pow_pos Nat.two_pos), ?_⟩
    simp [div_div]
  case isFalse negative =>
    obtain ⟨n, rfl⟩ : ∃ n : ℕ, e = -n := ⟨e.natAbs, by omega⟩
    refine ⟨pos, ?_⟩
    simp [div_mul_eq_mul_div]

theorem scale_le_iff (a : Nat) {b : Nat} (pos : 0 < b) (e : Int) :
    (scale a b e).2 ≤ (scale a b e).1 ↔ (2 : ℚ) ^ e ≤ a / b := by
  obtain ⟨positive, same⟩ := scale_spec a pos e
  rw [← Nat.cast_le (α := ℚ), ← one_le_div (Nat.cast_pos.2 positive), same,
    one_le_div (zpow_pos two_pos e)]

/-- A quotient is off by half at most, and if it is off by half it is even. -/
theorem roundQuotient_close (a : Nat) {b : Nat} (pos : 0 < b) :
    |(roundQuotient a b : ℚ) - a / b| ≤ 1 / 2 ∧
      (|(roundQuotient a b : ℚ) - a / b| = 1 / 2 → Even (roundQuotient a b)) := by
  have positive : (0 : ℚ) < b := Nat.cast_pos.2 pos
  have split : (a / b : ℚ) = (a / b : ℕ) + (a % b : ℕ) / b := by
    field_simp
    exact_mod_cast (Nat.div_add_mod a b).symm
  have below : ((a % b : ℕ) / b : ℚ) < 1 := by
    rw [div_lt_one positive]
    exact_mod_cast Nat.mod_lt a pos
  have nonneg : (0 : ℚ) ≤ (a % b : ℕ) / b := by positivity
  have half : ∀ {n : ℕ}, (n / b : ℚ) < 1 / 2 ↔ 2 * n < b := by
    intro n
    rw [div_lt_div_iff₀ positive two_pos, one_mul, mul_comm]
    exact_mod_cast Iff.rfl
  have half' : ∀ {n : ℕ}, (1 / 2 : ℚ) < n / b ↔ b < 2 * n := by
    intro n
    rw [div_lt_div_iff₀ two_pos positive, one_mul, mul_comm (n : ℚ)]
    exact_mod_cast Iff.rfl
  rw [split, roundQuotient]
  split_ifs with low high
  · have := half.2 low
    rw [sub_add_cancel_left, abs_neg, abs_of_nonneg nonneg]
    exact ⟨this.le, fun same => absurd same this.ne⟩
  · have := half'.2 high
    rw [Nat.cast_succ, add_sub_add_left_eq_sub, abs_of_pos (sub_pos.2 below)]
    exact ⟨by linarith, fun same => by linarith⟩
  · have tie : ((a % b : ℕ) / b : ℚ) = 1 / 2 :=
      le_antisymm (not_lt.1 (mt half'.1 high)) (not_lt.1 (mt half.1 low))
    rw [tie, Nat.cast_add, add_sub_add_left_eq_sub]
    refine ⟨?_, fun _ => ?_⟩
    · rcases Nat.mod_two_eq_zero_or_one (a / b) with zero | one
      · rw [zero]; norm_num
      · rw [one]; norm_num
    · rw [Nat.even_iff]
      omega

/-- No whole number is nearer to a quotient than the one taken. -/
theorem roundQuotient_nearest (a : Nat) {b : Nat} (pos : 0 < b) (k : ℕ) :
    |(roundQuotient a b : ℚ) - a / b| ≤ |(k : ℚ) - a / b| ∧
      (|(k : ℚ) - a / b| = |(roundQuotient a b : ℚ) - a / b| → k ≠ roundQuotient a b →
        Even (roundQuotient a b)) := by
  obtain ⟨close, even⟩ := roundQuotient_close a pos
  rcases eq_or_ne k (roundQuotient a b) with rfl | other
  · exact ⟨le_rfl, fun _ same => absurd rfl same⟩
  · -- Two whole numbers are one apart, so the other one is off by half at least.
    have apart : (1 : ℚ) ≤ |(k : ℚ) - roundQuotient a b| := by
      exact_mod_cast Int.one_le_abs (sub_ne_zero.2 (Nat.cast_injective.ne other))
    have triangle := abs_sub_le (k : ℚ) (a / b) (roundQuotient a b)
    rw [abs_sub_comm (a / b : ℚ)] at triangle
    exact ⟨by linarith, fun same _ => even (by linarith)⟩

/-! ## The exponent -/

/-- The exponent of a fraction: that of its leading bit less the 52 behind it. -/
theorem span_spec {a b : Nat} (posA : 0 < a) (posB : 0 < b) :
    (2 : ℚ) ^ ((a.log2 : ℤ) - b.log2 - 1) < a / b ∧
      (a / b : ℚ) < 2 ^ ((a.log2 : ℤ) - b.log2 + 1) := by
  have lowA : (2 : ℚ) ^ a.log2 ≤ a := by exact_mod_cast Nat.log2_self_le posA.ne'
  have highA : (a : ℚ) < 2 ^ (a.log2 + 1) := by exact_mod_cast Nat.lt_log2_self
  have lowB : (2 : ℚ) ^ b.log2 ≤ b := by exact_mod_cast Nat.log2_self_le posB.ne'
  have highB : (b : ℚ) < 2 ^ (b.log2 + 1) := by exact_mod_cast Nat.lt_log2_self
  have two : (2 : ℚ) ≠ 0 := two_ne_zero
  constructor
  · rw [show (a.log2 : ℤ) - b.log2 - 1 = (a.log2 : ℤ) - ((b.log2 + 1 : ℕ) : ℤ) by omega,
      zpow_sub₀ two, zpow_natCast, zpow_natCast]
    exact div_lt_div₀' lowA highB (Nat.cast_pos.2 posA) (Nat.cast_pos.2 posB)
  · rw [show (a.log2 : ℤ) - b.log2 + 1 = ((a.log2 + 1 : ℕ) : ℤ) - (b.log2 : ℤ) by omega,
      zpow_sub₀ two, zpow_natCast, zpow_natCast]
    exact div_lt_div₀ highA lowB (by positivity) (by positivity)

theorem exponentFor_spec {a b : Nat} (posA : 0 < a) (posB : 0 < b) :
    minExponent ≤ exponentFor a b ∧ (a / b / 2 ^ exponentFor a b : ℚ) < 2 ^ 53 ∧
      (minExponent < exponentFor a b → (2 ^ 52 : ℚ) ≤ a / b / 2 ^ exponentFor a b) := by
  obtain ⟨above, below⟩ := span_spec posA posB
  have two : (2 : ℚ) ≠ 0 := two_ne_zero
  -- The leading bit is at `s`, and the exponent 52 below it unless that is too small.
  obtain ⟨s, low, high, e⟩ : ∃ s : ℤ, (2 : ℚ) ^ s ≤ a / b ∧ (a / b : ℚ) < 2 ^ (s + 1) ∧
      exponentFor a b = max minExponent (s - 52) := by
    by_cases atLeast : (2 : ℚ) ^ ((a.log2 : ℤ) - b.log2) ≤ a / b
    · refine ⟨_, atLeast, below, ?_⟩
      rw [exponentFor, if_pos ((scale_le_iff a posB _).2 atLeast)]
    · refine ⟨(a.log2 : ℤ) - b.log2 - 1, above.le, ?_, ?_⟩
      · rw [sub_add_cancel]
        exact not_le.1 atLeast
      · rw [exponentFor, if_neg (mt (scale_le_iff a posB _).1 atLeast)]
        omega
  rw [e]
  refine ⟨le_max_left .., ?_, fun more => ?_⟩
  · rw [div_lt_iff₀ (zpow_pos two_pos _), ← zpow_natCast, ← zpow_add₀ two]
    exact high.trans_le (zpow_le_zpow_right₀ one_le_two (by push_cast; omega))
  · rw [max_eq_right (by omega), le_div_iff₀ (zpow_pos two_pos _), ← zpow_natCast, ← zpow_add₀ two,
      show ((52 : ℕ) : ℤ) + (s - 52) = s by push_cast; omega]
    exact low

/-! ## Competitors -/

/-- A number on the grid of an exponent at which `q` has at least 53 bits, or at the least exponent,
is as near to `q` as any competitor that is not on the grid itself. -/
theorem Fits.exists_on_grid {y : Binary64} (fits : y.Fits) {e : ℤ} {q : ℚ}
    (bits : minExponent < e → (2 ^ 52 : ℚ) ≤ q / 2 ^ e) :
    ∃ k : ℕ, |k * 2 ^ e - q| ≤ |y.value - q| ∧
      (|y.value - q| = |k * 2 ^ e - q| → y.value = k * 2 ^ e) := by
  have two : (2 : ℚ) ≠ 0 := two_ne_zero
  rcases le_or_gt e y.exponent with coarser | finer
  · obtain ⟨n, above⟩ := Int.eq_ofNat_of_zero_le (sub_nonneg.2 coarser)
    have same : y.value = (y.significand * 2 ^ n : ℕ) * 2 ^ e := by
      rw [value, ← sub_add_cancel y.exponent e, above, zpow_add₀ two, zpow_natCast]
      push_cast
      ring
    exact ⟨_, (congrArg (|· - q|) same).ge, fun _ => same⟩
  · -- The competitor is below `2 ^ 52 * 2 ^ e`, which `q` has passed.
    have passed : (2 ^ 52 : ℚ) * 2 ^ e ≤ q :=
      (le_div_iff₀ (zpow_pos two_pos e)).1 (bits (fits.bounded.trans_lt finer))
    have below : y.value < 2 ^ 52 * 2 ^ e := by
      have half : (2 : ℚ) ^ y.exponent * 2 ≤ 2 ^ e := by
        rw [← zpow_add_one₀ two]
        exact zpow_le_zpow_right₀ one_le_two (by omega)
      have short : (y.significand : ℚ) < 2 ^ 53 := by exact_mod_cast fits.bits
      calc y.value < 2 ^ 53 * 2 ^ y.exponent :=
            mul_lt_mul_of_pos_right short (zpow_pos two_pos _)
        _ = 2 ^ 52 * (2 ^ y.exponent * 2) := by ring
        _ ≤ 2 ^ 52 * 2 ^ e := by gcongr
    have farther : |((2 ^ 52 : ℕ) : ℚ) * 2 ^ e - q| < |y.value - q| := by
      rw [Nat.cast_pow, Nat.cast_ofNat, abs_of_nonpos (sub_nonpos.2 passed),
        abs_of_neg (sub_neg.2 (below.trans_le passed))]
      linarith
    exact ⟨2 ^ 52, farther.le, fun same => absurd same farther.ne'⟩

/-- The nearest point of the grid is what `q` is rounded to. -/
theorem Rounds.of_grid {q : ℚ} {e : ℤ} {m : ℕ} {x : Binary64}
    (bits : minExponent < e → (2 ^ 52 : ℚ) ≤ q / 2 ^ e)
    (near : ∀ k : ℕ, |(m : ℚ) - q / 2 ^ e| ≤ |(k : ℚ) - q / 2 ^ e| ∧
      (|(k : ℚ) - q / 2 ^ e| = |(m : ℚ) - q / 2 ^ e| → k ≠ m → Even m))
    (fits : x.Fits) (full : minExponent < x.exponent → 2 ^ 52 ≤ x.significand)
    (same : x.value = m * 2 ^ e) (even : Even m → Even x.significand) : Rounds q x := by
  have unit : (0 : ℚ) < 2 ^ e := zpow_pos two_pos e
  have distance : ∀ k : ℕ, |k * 2 ^ e - q| = |(k : ℚ) - q / 2 ^ e| * 2 ^ e := by
    intro k
    rw [← abs_of_pos unit, ← abs_mul, abs_of_pos unit, sub_mul, div_mul_cancel₀ _ unit.ne']
  refine ⟨fits, full, fun y fitsY => ?_, fun y fitsY tie other => even ?_⟩
  all_goals obtain ⟨k, nearer, onGrid⟩ := fitsY.exists_on_grid bits
  · rw [same, distance]
    exact (mul_le_mul_of_nonneg_right (near k).1 unit.le).trans ((distance k).ge.trans nearer)
  · rw [same, distance] at tie
    rw [tie, distance, mul_eq_mul_right_iff, or_iff_left unit.ne'] at onGrid
    rw [tie, distance] at nearer
    have far := (near k).1.antisymm (le_of_mul_le_mul_right nearer unit)
    refine (near k).2 far.symm fun equal => other ?_
    rw [onGrid far, equal, same]

/-- **Rounding is to the nearest, a tie going to the even significand.** -/
theorem rounds_nearest (a : Nat) {b : Nat} (pos : 0 < b) : Rounds (a / b) (nearest a b) := by
  rcases Nat.eq_zero_or_pos a with rfl | posA
  · have zero : (nearest 0 b).value = 0 := by simp [nearest, value]
    refine ⟨⟨Nat.two_pow_pos 53, le_rfl⟩, fun more => absurd more (lt_irrefl _), fun y _ => ?_,
      fun _ _ _ _ => Even.zero⟩
    rw [zero, Nat.cast_zero, zero_div, sub_self, abs_zero]
    exact abs_nonneg _
  obtain ⟨least, small, bits⟩ := exponentFor_spec posA pos
  obtain ⟨positive, scaled⟩ := scale_spec a pos (exponentFor a b)
  have close := (roundQuotient_close (scale a b (exponentFor a b)).1 positive).1
  have near := roundQuotient_nearest (scale a b (exponentFor a b)).1 positive
  rw [nearest, if_neg posA.ne']
  dsimp only
  rw [scaled] at close near
  generalize roundQuotient _ _ = m at *
  generalize exponentFor a b = e at *
  obtain ⟨above, below⟩ := abs_le.1 close
  have bounded : m ≤ 2 ^ 53 := by
    have : (m : ℚ) < (2 ^ 53 + 1 : ℕ) := by push_cast; linarith
    exact Nat.lt_succ_iff.1 (Nat.cast_lt.1 this)
  have large : minExponent < e → 2 ^ 52 ≤ m := by
    intro more
    have : ((2 ^ 52 : ℕ) : ℚ) < (m + 1 : ℕ) := by
      push_cast
      linarith [bits more]
    exact Nat.lt_succ_iff.1 (Nat.cast_lt.1 this)
  split
  case isTrue carried =>
    -- All 53 bits were ones and the number was rounded up.
    refine .of_grid bits near
      ⟨Nat.pow_lt_pow_right one_lt_two (by decide), least.trans (Int.le_add_one le_rfl)⟩
      (fun _ => le_rfl) ?_ fun _ => (even_two.pow_of_ne_zero (by decide) : Even (2 ^ 52))
    rw [value, carried, zpow_add_one₀ two_ne_zero]
    norm_num
    ring
  case isFalse room =>
    exact .of_grid bits near ⟨bounded.lt_of_ne room, least⟩ large rfl id

/-! ## Quotients of counts -/

theorem Rounds.value_of_le {n : ℕ} {x : Binary64} (rounds : Rounds n x) (small : n ≤ 2 ^ 53) :
    x.value = n := by
  obtain ⟨y, fits, same⟩ : ∃ y : Binary64, y.Fits ∧ y.value = n := by
    rcases small.lt_or_eq with below | rfl
    · exact ⟨⟨n, 0⟩, ⟨below, Int.neg_nonpos_of_nonneg (by decide)⟩, by simp [value]⟩
    · exact ⟨⟨2 ^ 52, 1⟩, ⟨by decide, by decide⟩, by norm_num [value]⟩
  rw [← same] at rounds ⊢
  exact rounds.value_eq fits

theorem Rounds.value_pos {n : ℕ} {x : Binary64} (rounds : Rounds n x) (pos : 0 < n) :
    0 < x.value := by
  have one : value ⟨1, 0⟩ = 1 := by simp [value]
  have near := rounds.nearest ⟨1, 0⟩ ⟨by decide, by decide⟩
  have atLeast : (1 : ℚ) ≤ n := Nat.one_le_cast.2 pos
  rw [one, abs_of_nonpos (sub_nonpos.2 atLeast)] at near
  linarith [neg_abs_le (x.value - n)]

theorem rounds_div (x : Binary64) {y : Binary64} (pos : 0 < y.value) :
    Rounds (x.value / y.value) (x.div y) := by
  have numerator : 0 < y.toQuotient.1 := by
    refine Nat.pos_of_ne_zero fun zero => pos.ne' ?_
    rw [value_eq_quotient, zero, Nat.cast_zero, zero_div]
  have rounds := rounds_nearest (x.toQuotient.1 * y.toQuotient.2)
    (Nat.mul_pos x.toQuotient_pos numerator)
  rwa [Nat.cast_mul, Nat.cast_mul, ← div_div_div_eq, ← value_eq_quotient, ← value_eq_quotient]
    at rounds

/-- The quotient of two counts is that of the rounded counts, rounded. -/
theorem rounds_ofCounts (part : ℕ) {whole : ℕ} (pos : 0 < whole) :
    ∃ p w : Binary64, Rounds part p ∧ Rounds whole w ∧
      Rounds (p.value / w.value) (ofCounts part whole) := by
  have rounds : ∀ n : ℕ, Rounds n (nearest n 1) := by
    intro n
    have := rounds_nearest n Nat.one_pos
    rwa [Nat.cast_one, div_one] at this
  refine ⟨_, _, rounds part, rounds whole, ?_⟩
  rw [ofCounts, if_neg pos.ne']
  exact rounds_div _ ((rounds whole).value_pos pos)

/-- Counts of at most 53 bits are not rounded themselves. -/
theorem rounds_ofCounts_of_le {part whole : ℕ} (pos : 0 < whole) (le : part ≤ whole)
    (small : whole ≤ 2 ^ 53) : Rounds (part / whole) (ofCounts part whole) := by
  obtain ⟨p, w, roundsPart, roundsWhole, rounds⟩ := rounds_ofCounts part pos
  rwa [roundsPart.value_of_le (le.trans small), roundsWhole.value_of_le small] at rounds

end Binary64

end TestImpact
