import TestImpact.Number.Fraction

/-! Numbers of double precision: 53 significant bits, exponents of two from -1074 on. All
arithmetic is exact on natural numbers, followed by one rounding to the nearest such number, a tie
going to the even significand. -/

namespace TestImpact

/-- The number `significand · 2 ^ exponent`. -/
structure Binary64 where
  significand : Nat
  exponent : Int
  deriving DecidableEq

namespace Binary64

/-- The least exponent, that of the subnormal numbers. -/
def minExponent : Int := -1074

/-- The nearest whole number to `a / b`, a tie going to the even one. -/
def roundQuotient (a b : Nat) : Nat :=
  let whole := a / b
  let twice := 2 * (a % b)
  if twice < b then whole
  else if b < twice then whole + 1
  else whole + whole % 2

/-- The fraction `a / b` divided by `2 ^ e`, again as two natural numbers. -/
def scale (a b : Nat) (e : Int) : Nat × Nat :=
  if 0 ≤ e then (a, b * Nat.pow 2 e.toNat) else (a * Nat.pow 2 (-e).toNat, b)

/-- The exponent that leaves 53 bits of `a / b` before the point, found from the lengths of `a` and
`b` up to one. -/
def exponentFor (a b : Nat) : Int :=
  let span : Int := (a.log2 : Int) - b.log2
  let atLeast := let (x, y) := scale a b span; y ≤ x
  max minExponent (if atLeast then span - 52 else span - 53)

/-- The number nearest to `a / b`. -/
def nearest (a b : Nat) : Binary64 :=
  if a = 0 then ⟨0, minExponent⟩
  else
    let e := exponentFor a b
    let (x, y) := scale a b e
    let m := roundQuotient x y
    if m = Nat.pow 2 53 then ⟨Nat.pow 2 52, e + 1⟩ else ⟨m, e⟩

/-- Whether a number is one of double precision; past `2 ^ 1024` there are none. -/
def isFinite (x : Binary64) : Bool :=
  x.significand == 0 || x.exponent ≤ 971

def toQuotient (x : Binary64) : Nat × Nat :=
  if 0 ≤ x.exponent then (x.significand * Nat.pow 2 x.exponent.toNat, 1)
  else (x.significand, Nat.pow 2 (-x.exponent).toNat)

/-- The number as an exact fraction with the given sign. -/
def toFraction (x : Binary64) (negative : Bool) : Fraction :=
  if 0 ≤ x.exponent then
    { negative, numerator := x.significand * Nat.pow 2 x.exponent.toNat, denominator := 1,
      denominator_pos := Nat.one_pos }
  else
    { negative, numerator := x.significand, denominator := Nat.pow 2 (-x.exponent).toNat,
      denominator_pos := Nat.pow_pos Nat.two_pos }

def mul (x y : Binary64) : Binary64 :=
  nearest (x.toQuotient.1 * y.toQuotient.1) (x.toQuotient.2 * y.toQuotient.2)

def div (x y : Binary64) : Binary64 :=
  nearest (x.toQuotient.1 * y.toQuotient.2) (x.toQuotient.2 * y.toQuotient.1)

/-- The quotient of two counts, each rounded first; zero where there is nothing to divide by. -/
def ofCounts (part whole : Nat) : Binary64 :=
  if whole = 0 then ⟨0, minExponent⟩ else (nearest part 1).div (nearest whole 1)

/-- The power of ten nearest to `10 ^ n`. -/
def powerOfTen (n : Nat) : Binary64 :=
  nearest (Nat.pow 10 n) 1

/-- `x` divided by `10 ^ n`, in steps of at most `10 ^ 308`; a few steps reach zero from any
significand of 64 bits. -/
def divPowerOfTen : Nat → Binary64 → Nat → Binary64
  | 0, _, _ => ⟨0, minExponent⟩
  | steps + 1, x, n =>
    if n ≤ 308 then x.div (powerOfTen n)
    else divPowerOfTen steps (x.div (powerOfTen 308)) (n - 308)

/-- The number that `significand · 10 ^ exponent` is read as: the significand is rounded, then
multiplied or divided by a rounded power of ten and rounded again. `none` is past all numbers. -/
def ofScientific? (significand : Nat) (exponent : Int) : Option Binary64 :=
  let x := nearest significand 1
  if significand = 0 then some ⟨0, minExponent⟩
  else if 308 < exponent then none
  else if 0 ≤ exponent then
    some (x.mul (powerOfTen exponent.toNat)) |>.filter isFinite
  else some (divPowerOfTen 4 x (-exponent).toNat)

end Binary64

end TestImpact
