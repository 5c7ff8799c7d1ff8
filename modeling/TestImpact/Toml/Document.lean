import TestImpact.Toml.Text

/-! The part of TOML that settings are written in: lines with a key and a value, where a value is a
text, an integer, or a list of texts. Blank lines and comments may stand between them. Whatever
else TOML has to offer is refused, since no setting could hold it. -/

namespace TestImpact.Toml

inductive Value where
  | text (s : String)
  | integer (n : Int)
  | texts (items : List String)
  deriving DecidableEq

/-! ## Between keys and values -/

def skipSpaces (s : List Char) : List Char :=
  s.dropWhile isSpace

def skipComment : List Char → List Char
  | '#' :: rest => rest.dropWhile isPlainChar
  | s => s

/-- The input behind spaces, a comment and a line end, or nothing at the end of the input. -/
def endOfLine? (s : List Char) : Option (List Char) :=
  match skipComment (skipSpaces s) with
  | [] => some []
  | s => lineEnd? s

/-- The input behind spaces, comments and line ends. A comment ends with its line or the input. -/
def skipLines : Nat → List Char → Option (List Char)
  | 0, _ => none
  | n + 1, s =>
    let s := skipSpaces s
    match s with
    | '#' :: _ =>
      match skipComment s with
      | [] => some []
      | rest => (lineEnd? rest).bind (skipLines n)
    | _ =>
      match lineEnd? s with
      | some rest => skipLines n rest
      | none => some s

/-! ## Integers -/

/-- The bound of integers: they take 64 bits with their sign. -/
def integerBound : Nat := Nat.pow 2 63

/-- Digits with single underscores between them, without these. -/
def ungroup? : List Char → Option (List Char)
  | [] => none
  | ['_'] => none
  | [c] => some [c]
  | '_' :: _ => none
  | c :: '_' :: rest => (ungroup? rest).map (c :: ·)
  | c :: rest => (ungroup? rest).map (c :: ·)

def digits? (base : Nat) (s : List Char) : Option Nat :=
  (ungroup? s).bind (Text.readDigits? base)

/-- The value of decimal digits; a zero in front may only stand alone. -/
def decimal? (s : List Char) : Option Nat :=
  if s.head? = some '0' && s.length != 1 then none else digits? 10 s

/-- An integer within its bounds. -/
def bounded? (negative : Bool) (n : Nat) : Option Int :=
  if negative then if n ≤ integerBound then some (-n) else none
  else if n < integerBound then some n else none

/-- An integer: with a sign in decimal digits, or without one in base ten, sixteen, eight or two. -/
def integer? : List Char → Option Int
  | '+' :: s => (decimal? s).bind (bounded? false)
  | '-' :: s => (decimal? s).bind (bounded? true)
  | '0' :: 'x' :: s => (digits? 16 s).bind (bounded? false)
  | '0' :: 'o' :: s => (digits? 8 s).bind (bounded? false)
  | '0' :: 'b' :: s => (digits? 2 s).bind (bounded? false)
  | s => (decimal? s).bind (bounded? false)

/-- The characters that numbers are made of; a word that has others is no integer. -/
def isNumberChar (c : Char) : Bool :=
  c.isAlphanum || c == '+' || c == '-' || c == '_' || c == '.' || c == ':'

/-! ## Values -/

/-- The items of a list behind its opening bracket. Items are separated by commas, of which one may
follow the last item. -/
def items : Nat → List Char → Option (List String × List Char)
  | 0, _ => none
  | n + 1, s =>
    match skipLines s.length.succ s with
    | none => none
    | some (']' :: rest) => some ([], rest)
    | some s => do
      let (item, rest) ← quotedText s
      let item := String.ofList item
      match ← skipLines rest.length.succ rest with
      | ',' :: rest => (items n rest).map fun (more, rest) => (item :: more, rest)
      | ']' :: rest => some ([item], rest)
      | _ => none

def value : List Char → Reading Value
  | s@('"' :: _) | s@('\'' :: _) =>
    (quotedText s).map fun (text, rest) => (.text (String.ofList text), rest)
  | '[' :: rest => (items rest.length.succ rest).map fun (found, rest) => (.texts found, rest)
  | s => (integer? (s.takeWhile isNumberChar)).map fun n => (.integer n, s.dropWhile isNumberChar)

/-! ## Documents -/

/-- The characters of keys without quotes. -/
def isBareKeyChar (c : Char) : Bool :=
  c.isAlphanum || c == '_' || c == '-'

def key : List Char → Reading (List Char)
  | s@('"' :: _) | s@('\'' :: _) => quotedLine s
  | s =>
    let name := s.takeWhile isBareKeyChar
    if name.isEmpty then none else some (name, s.dropWhile isBareKeyChar)

/-- A key, an equals sign, a value, and the end of the line. -/
def entry (s : List Char) : Option ((String × Value) × List Char) := do
  let (name, rest) ← key s
  match skipSpaces rest with
  | '=' :: rest =>
    let (found, rest) ← value (skipSpaces rest)
    let rest ← endOfLine? rest
    return ((String.ofList name, found), rest)
  | _ => none

def entries : Nat → List Char → Option (List (String × Value))
  | 0, _ => none
  | n + 1, s =>
    match skipLines s.length.succ s with
    | none => none
    | some [] => some []
    | some s =>
      match entry s with
      | none => none
      | some (e, rest) => (entries n rest).map (e :: ·)

/-- The entries of a document in their order. A byte order mark may come first. -/
def entries? (document : String) : Option (List (String × Value)) :=
  let s := document.toList
  let s := if s.head? = some '\uFEFF' then s.tail else s
  entries s.length.succ s

end TestImpact.Toml
