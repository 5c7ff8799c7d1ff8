import TestImpact.Text.Numeral
import TestImpact.Text.Search

/-! Numeric hosts. An IPv4 address has up to four numbers, the last of which fills the bytes that are
left; numbers may be decimal, octal or hexadecimal. An IPv6 address has eight pieces; two colons
stand for as many zeros as are missing, and the last two pieces may be written as four bytes. -/

namespace TestImpact.Url

/-! ## IPv4 -/

/-- A number with its base told by how it begins. Nothing behind the sign of a base is zero. -/
def ipv4Number? (s : List Char) : Option Nat :=
  match s with
  | [] => none
  | '0' :: 'x' :: digits | '0' :: 'X' :: digits => Text.readDigits? 16 digits
  | '0' :: digits => Text.readDigits? 8 digits
  | digits => Text.readDigits? 10 digits

def labels (name : List Char) : List (List Char) :=
  let parts := Text.splitAt '.' name
  if 1 < parts.length ∧ parts.getLast? = some [] then parts.dropLast else parts

/-- Whether the last label is a number, so that the name can only be an address. -/
def endsInNumber (name : List Char) : Bool :=
  match (labels name).getLast? with
  | none | some [] => false
  | some last => last.all Char.isDigit || (ipv4Number? last).isSome

def ipv4? (name : List Char) : Option Nat := do
  let numbers ← (labels name).mapM ipv4Number?
  let last ← numbers.getLast?
  let front := numbers.dropLast
  if front.length ≤ 3 && front.all (· < 256) && last < Nat.pow 256 (4 - front.length) then
    some (front.zipIdx.foldl (fun sum (n, i) => sum + n * Nat.pow 256 (3 - i)) last)
  else none

def ipv4Text (address : Nat) : List Char :=
  Text.joinWith '.' ([3, 2, 1, 0].map fun i => Text.decimal (address / Nat.pow 256 i % 256))

/-! ## IPv6 -/

/-- A piece of up to four hexadecimal digits. -/
def ipv6Piece? (s : List Char) : Option Nat :=
  if s.isEmpty || 4 < s.length then none else Text.readDigits? 16 s

/-- A byte in decimal digits, without zeros in front. -/
def byte? (s : List Char) : Option Nat :=
  if 1 < s.length && s.head? = some '0' then none else Text.readBelow? 256 s

def bytePieces? (s : List Char) : Option (List Nat) :=
  match (Text.splitAt '.' s).mapM byte? with
  | some [a, b, c, d] => some [a * 256 + b, c * 256 + d]
  | _ => none

/-- Pieces between colons. Only the last ones of an address may be written as bytes. -/
def ipv6Pieces? (last : Bool) (s : List Char) : Option (List Nat) :=
  if s.isEmpty then some []
  else
    let parts := Text.splitAt ':' s
    match last, parts.getLast? with
    | true, some tail =>
      if tail.contains '.' then
        return (← parts.dropLast.mapM ipv6Piece?) ++ (← bytePieces? tail)
      else parts.mapM ipv6Piece?
    | _, _ => parts.mapM ipv6Piece?

def ipv6? (s : List Char) : Option (List Nat) := do
  match Text.cutFirst? [':', ':'] s with
  | none =>
    let pieces ← ipv6Pieces? true s
    if pieces.length = 8 then some pieces else none
  | some (front, tail) =>
    let front ← ipv6Pieces? false front
    let tail ← ipv6Pieces? true tail
    if front.length + tail.length ≤ 7 then
      some (front ++ List.replicate (8 - front.length - tail.length) 0 ++ tail)
    else none

def leadingZeros (pieces : List Nat) : Nat :=
  (pieces.takeWhile (· == 0)).length

/-- The first longest run of at least two zeros: where it begins and how long it is. -/
def longestZeros (pieces : List Nat) : Option (Nat × Nat) :=
  (List.range pieces.length).foldl (fun best start =>
    let found := leadingZeros (pieces.drop start)
    if (best.map Prod.snd).getD 1 < found then some (start, found) else best) none

/-- An address in its shortest form, without brackets. -/
def ipv6Text (pieces : List Nat) : List Char :=
  let written (ps : List Nat) : List Char := Text.joinWith ':' (ps.map Text.hexadecimal)
  match longestZeros pieces with
  | none => written pieces
  | some (start, count) =>
    written (pieces.take start) ++ [':', ':'] ++ written (pieces.drop (start + count))

end TestImpact.Url
