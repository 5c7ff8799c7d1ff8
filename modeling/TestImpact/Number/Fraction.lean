/-! Signed fractions: the numbers with a point that are read and written. -/

namespace TestImpact

/-- The number `numerator / denominator`, below zero if `negative`. Zero has either sign. -/
structure Fraction where
  negative : Bool := false
  numerator : Nat
  denominator : Nat
  denominator_pos : 0 < denominator := by decide
  deriving DecidableEq

end TestImpact
