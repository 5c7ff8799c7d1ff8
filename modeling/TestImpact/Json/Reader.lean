import TestImpact.Json.Value
import TestImpact.Number.Binary64
import TestImpact.Text.Numeral

/-! Reading JSON text. The grammar is the strict one: no comments, no trailing commas, no leading
zeros, no raw control characters in strings, nothing but blanks around the value. Each reader
takes the characters that are left and returns what it read with those it did not need. -/

namespace TestImpact.Json

def isGap (c : Char) : Bool :=
  c == ' ' || c == '\n' || c == '\t' || c == '\r'

def skipGap (s : List Char) : List Char :=
  s.dropWhile isGap

/-! ## Numbers -/

/-- A number as written: the digits before and after the point, and the exponent. -/
structure Numeral where
  negative : Bool
  whole : List Char
  fraction : Option (List Char)
  exponent : Option Int

/-- One digit or more. -/
def readDigits1? (s : List Char) : Option (List Char × List Char) :=
  match s.takeWhile Char.isDigit with
  | [] => none
  | digits => some (digits, s.dropWhile Char.isDigit)

/-- The digits before the point: zero alone, or a run that does not begin with zero. -/
def readWhole? : List Char → Option (List Char × List Char)
  | '0' :: rest =>
    match rest with
    | c :: _ => if c.isDigit then none else some (['0'], rest)
    | [] => some (['0'], [])
  | s => readDigits1? s

def readFraction? : List Char → Option (Option (List Char) × List Char)
  | '.' :: s => (readDigits1? s).map fun (digits, rest) => (some digits, rest)
  | s => some (none, s)

def digitsValue (digits : List Char) : Nat :=
  (Text.readDigits? 10 digits).getD 0

def readExponent? : List Char → Option (Option Int × List Char)
  | c :: s =>
    if c = 'e' ∨ c = 'E' then
      let (sign, s) : Int × List Char :=
        match s with
        | '+' :: rest => (1, rest)
        | '-' :: rest => (-1, rest)
        | rest => (1, rest)
      (readDigits1? s).map fun (digits, rest) => (some (sign * digitsValue digits), rest)
    else some (none, c :: s)
  | [] => some (none, [])

def readNumeral? (s : List Char) : Option (Numeral × List Char) := do
  let (negative, s) : Bool × List Char :=
    match s with
    | '-' :: rest => (true, rest)
    | rest => (false, rest)
  let (whole, s) ← readWhole? s
  let (fraction, s) ← readFraction? s
  let (exponent, s) ← readExponent? s
  return ({ negative, whole, fraction, exponent }, s)

/-- The bound below which a number without point and exponent is kept exactly. -/
def naturalBound : Nat := UInt64.size

/-- Appends digits to a significand for as long as it stays below the bound; the rest of the run is
returned. -/
def extendSignificand (significand : Nat) : List Char → Nat × List Char
  | [] => (significand, [])
  | c :: rest =>
    let next := significand * 10 + (c.toNat - 48)
    if next < naturalBound then extendSignificand next rest else (significand, c :: rest)

/-- The value of a numeral: a natural number if it is one below the bound, else a number of double
precision made from the leading digits. -/
def Numeral.value (n : Numeral) : Json :=
  let (significand, dropped) := extendSignificand 0 n.whole
  match n.fraction, n.exponent, n.negative, dropped with
  | none, none, false, [] => .natural significand
  | _, _, _, _ =>
    let digits := n.fraction.getD []
    let (significand, left) := extendSignificand significand digits
    let places : Int := dropped.length - (digits.length - left.length : Nat)
    match Binary64.ofScientific? significand (places + n.exponent.getD 0) with
    | some x => .real (x.toFraction n.negative)
    | none => .unreadable

/-! ## Strings -/

/-- A piece of a string: a character, or a unit of 16 bits written by its number. -/
inductive Piece where
  | plain (c : Char)
  | unit (n : Nat)

def shortEscape? : Char → Option Char
  | '"' => some '"'
  | '\\' => some '\\'
  | '/' => some '/'
  | 'b' => some '\x08'
  | 'f' => some '\x0c'
  | 'n' => some '\n'
  | 'r' => some '\r'
  | 't' => some '\t'
  | _ => none

/-- The pieces of a string up to its closing quote. -/
def readPieces? : List Char → Option (List Piece × List Char)
  | [] => none
  | '"' :: rest => some ([], rest)
  | '\\' :: 'u' :: a :: b :: c :: d :: rest => do
    let n ← Text.readDigits? 16 [a, b, c, d]
    let (pieces, rest) ← readPieces? rest
    return (.unit n :: pieces, rest)
  | '\\' :: e :: rest => do
    let c ← shortEscape? e
    let (pieces, rest) ← readPieces? rest
    return (.plain c :: pieces, rest)
  | c :: rest =>
    if c.toNat < 0x20 ∨ c = '\\' then none
    else do
      let (pieces, rest) ← readPieces? rest
      return (.plain c :: pieces, rest)

/-- The characters of the pieces, if every half of a surrogate pair has its partner. -/
def joinPieces? : List Piece → Option (List Char)
  | [] => some []
  | .plain c :: rest => (joinPieces? rest).map (c :: ·)
  | .unit high :: .unit low :: rest =>
    if 0xD800 ≤ high ∧ high < 0xDC00 then
      if 0xDC00 ≤ low ∧ low < 0xE000 then
        (joinPieces? rest).map
          (Char.ofNat (0x10000 + (high - 0xD800) * 0x400 + (low - 0xDC00)) :: ·)
      else none
    else if 0xDC00 ≤ high ∧ high < 0xE000 then none
    else (joinPieces? (.unit low :: rest)).map (Char.ofNat high :: ·)
  | .unit n :: rest =>
    if 0xD800 ≤ n ∧ n < 0xE000 then none else (joinPieces? rest).map (Char.ofNat n :: ·)

/-- A string after its opening quote; no characters if it is well formed but stands for none. -/
def readString? (s : List Char) : Option (Option String × List Char) :=
  (readPieces? s).map fun (pieces, rest) => ((joinPieces? pieces).map String.ofList, rest)

/-! ## Values -/

/-- How many arrays and objects may be open at once. -/
def depthLimit : Nat := 127

/-- What an array or object holds, unless it lies too deep. -/
def nested (depth : Nat) (v : Json) : Json :=
  if depth < depthLimit then v else .unreadable

mutual

/-- A value; blanks before it have been skipped. -/
def readValue? : Nat → Nat → List Char → Option (Json × List Char)
  | 0, _, _ => none
  | fuel + 1, depth, s =>
    match s with
    | '"' :: rest => (readString? rest).map fun (text, rest) =>
        (match text with
          | some text => .string text
          | none => .unreadable, rest)
    | '[' :: rest =>
      match skipGap rest with
      | ']' :: rest => some (nested depth (.array []), rest)
      | rest => (readItems? fuel (depth + 1) rest).map fun (items, rest) =>
          (nested depth (.array items), rest)
    | '\x7b' :: rest =>
      match skipGap rest with
      | '\x7d' :: rest => some (nested depth (.object []), rest)
      | rest => (readFields? fuel (depth + 1) rest).map fun (fields, rest) =>
          (match fields with
            | some fields => nested depth (.object fields)
            | none => .unreadable, rest)
    | 't' :: 'r' :: 'u' :: 'e' :: rest => some (.bool true, rest)
    | 'f' :: 'a' :: 'l' :: 's' :: 'e' :: rest => some (.bool false, rest)
    | 'n' :: 'u' :: 'l' :: 'l' :: rest => some (.null, rest)
    | s => (readNumeral? s).map fun (n, rest) => (n.value, rest)

/-- One item or more, and the closing bracket. -/
def readItems? : Nat → Nat → List Char → Option (List Json × List Char)
  | 0, _, _ => none
  | fuel + 1, depth, s => do
    let (item, rest) ← readValue? fuel depth s
    match skipGap rest with
    | ',' :: rest =>
      let (items, rest) ← readItems? fuel depth (skipGap rest)
      return (item :: items, rest)
    | ']' :: rest => return ([item], rest)
    | _ => none

/-- One field or more, and the closing brace; no fields if one of the names stands for no text. -/
def readFields? : Nat → Nat → List Char → Option (Option (List (String × Json)) × List Char)
  | 0, _, _ => none
  | fuel + 1, depth, s =>
    match s with
    | '"' :: rest => do
      let (name, rest) ← readString? rest
      match skipGap rest with
      | ':' :: rest =>
        let (value, rest) ← readValue? fuel depth (skipGap rest)
        match skipGap rest with
        | ',' :: rest =>
          let (fields, rest) ← readFields? fuel depth (skipGap rest)
          return (do return (← name, value) :: (← fields), rest)
        | '\x7d' :: rest => return (name.map fun name => [(name, value)], rest)
        | _ => none
      | _ => none
    | _ => none

end

/-- The value that a text holds. Each step of the reader consumes a character or opens a value, so
two steps a character are enough. -/
def read? (text : String) : Option Json :=
  let s := text.toList
  match readValue? (2 * s.length + 2) 0 (skipGap s) with
  | some (v, rest) => if (skipGap rest).isEmpty then some v else none
  | none => none

end TestImpact.Json
