import TestImpact.Number.Binary64
import TestImpact.Text.Numeral

/-! The shortest decimal that reads back as a number of double precision. Of the decimals on the
coarsest grid of powers of ten that has one, the nearest is taken, a tie going to the even digit. -/

namespace TestImpact

namespace Binary64

structure Decimal where
  digits : Nat
  exponent : Int
  deriving DecidableEq

/-- The two factors by which `digits` and `significand` are multiplied so that
`digits · 10 ^ j` and `significand · 2 ^ e` compare as natural numbers. -/
def factors (e j : Int) : Nat × Nat :=
  (Nat.pow 10 j.toNat * Nat.pow 2 (-e).toNat, Nat.pow 2 e.toNat * Nat.pow 10 (-j).toNat)

/-- Whether `d · 10 ^ j` rounds to `x`. The bounds lie half way to the neighbours, the lower one
nearer where the exponent changes; they count when the significand is even. -/
def readsBack (x : Binary64) (j : Int) (d : Nat) : Bool :=
  let (a, b) := factors x.exponent j
  let gap := if x.significand = Nat.pow 2 52 ∧ minExponent < x.exponent then 1 else 2
  let low := 4 * x.significand - gap
  let high := 4 * x.significand + 2
  let point := 4 * (d * a)
  if x.significand % 2 = 0 then low * b ≤ point && point ≤ high * b
  else low * b < point && point < high * b

/-- The best multiple of `10 ^ j` that reads back as `x`, if there is one but zero. -/
def onGrid (x : Binary64) (j : Int) : Option Nat :=
  let (a, b) := factors x.exponent j
  let below := x.significand * b / a
  let above := below + 1
  let belowFits := below != 0 && readsBack x j below
  let aboveFits := readsBack x j above
  match belowFits, aboveFits with
  | false, false => none
  | true, false => some below
  | false, true => some above
  | true, true =>
    let toBelow := x.significand * b - below * a
    let toAbove := above * a - x.significand * b
    if toBelow < toAbove then some below
    else if toAbove < toBelow then some above
    else some (if below % 2 = 0 then below else above)

/-- Tries the grids `10 ^ j`, `10 ^ (j - 1)`, … in turn. -/
def seekGrid (x : Binary64) : Nat → Int → Decimal
  | 0, j => ⟨0, j⟩
  | steps + 1, j =>
    match onGrid x j with
    | some d => ⟨d, j⟩
    | none => seekGrid x steps (j - 1)

/-- The shortest decimal that reads back as `x`. Every positive number has one between the grids
of `10 ^ 308` and `10 ^ -324`. -/
def shortest (x : Binary64) : Decimal :=
  seekGrid x 640 309

end Binary64

namespace Fraction

/-- How a decimal is laid out: positional while the point falls within the first sixteen places or
at most five places before the digits, with at least one digit on each side; else with an
exponent. -/
def layout (d : Binary64.Decimal) : List Char :=
  let digits := Text.decimal d.digits
  let point : Int := digits.length + d.exponent
  if 0 ≤ d.exponent ∧ point ≤ 16 then
    digits ++ List.replicate d.exponent.toNat '0' ++ ['.', '0']
  else if 0 < point ∧ point ≤ 16 then
    digits.take point.toNat ++ '.' :: digits.drop point.toNat
  else if -5 < point ∧ point ≤ 0 then
    ['0', '.'] ++ List.replicate (-point).toNat '0' ++ digits
  else
    let exponent := point - 1
    let tail := 'e' :: ((if exponent < 0 then ['-'] else []) ++ Text.decimal exponent.natAbs)
    match digits with
    | [d] => d :: tail
    | d :: more => d :: '.' :: more ++ tail
    | [] => tail

/-- The text of a fraction: the shortest decimal of the nearest number of double precision. -/
def text (x : Fraction) : List Char :=
  let sign := if x.negative then ['-'] else []
  if x.numerator = 0 then sign ++ ['0', '.', '0']
  else sign ++ layout (Binary64.nearest x.numerator x.denominator).shortest

end Fraction

end TestImpact
