/-! Numbers as text: plain decimal and hexadecimal digits, and reading them back within a bound. -/

namespace TestImpact.Text

def decimal (n : Nat) : List Char :=
  Nat.toDigits 10 n

def hexadecimal (n : Nat) : List Char :=
  Nat.toDigits 16 n

/-- The value of a digit in a base of at most sixteen; both cases of letters count. -/
def digitValue? (base : Nat) (c : Char) : Option Nat :=
  let n := c.toNat
  let value :=
    if 48 ≤ n ∧ n ≤ 57 then some (n - 48)
    else if 97 ≤ n ∧ n ≤ 102 then some (n - 87)
    else if 65 ≤ n ∧ n ≤ 70 then some (n - 55)
    else none
  value.filter (· < base)

/-- The value of a run of digits, the most significant first. -/
def readDigits? (base : Nat) (digits : List Char) : Option Nat :=
  digits.foldlM (fun value c => (digitValue? base c).map (value * base + ·)) 0

/-- The value of a run of ASCII digits that has at least one and stays below `bound`. -/
def readBelow? (bound : Nat) (digits : List Char) : Option Nat :=
  if digits.isEmpty then none else (readDigits? 10 digits).filter (· < bound)

/-- An unsigned number with an optional plus sign, below `bound`. -/
def readUnsigned? (bound : Nat) : List Char → Option Nat
  | '+' :: digits => readBelow? bound digits
  | digits => readBelow? bound digits

end TestImpact.Text
