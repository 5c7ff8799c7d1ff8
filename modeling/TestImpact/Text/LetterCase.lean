import TestImpact.Text.CaseTable
import TestImpact.Text.Printable

/-! Lower case for every script. A single character has a fixed lower-case form; in a word, a
capital sigma that ends it becomes the final form of the letter. -/

namespace TestImpact.Text

/-- The lower-case form of a character: itself, another character, or for the capital I with a dot
an `i` and a combining dot. -/
def lowerChar (c : Char) : List Char :=
  let n := c.toNat
  if n < 0x80 then [c.toLower]
  else if n = 0x130 then ['i', '\u0307']
  else
    match lowerCaseRuns.find? fun (run, _) => run.contains n with
    | some (_, offset) => [Char.ofNat (Int.toNat (n + offset))]
    | none => [c]

/-- A capital letter of any script. -/
def isUpper (c : Char) : Bool :=
  if c.toNat < 0x80 then c.isUpper else upperCaseRuns.any fun run => run.contains c.toNat

def isCased (c : Char) : Bool :=
  inRanges casedRanges c.toNat

def isCaseIgnorable (c : Char) : Bool :=
  inRanges caseIgnorableRanges c.toNat

/-- Whether the nearest character that is not passed over is a letter with case. -/
def meetsCased (s : List Char) : Bool :=
  ((s.dropWhile isCaseIgnorable).head?.map isCased).getD false

/-- Lower case of a text; `before` holds the characters already passed, the nearest first. -/
def lowerFrom (before : List Char) : List Char → List Char
  | [] => []
  | c :: rest =>
    (if c = 'Σ' then
        [if meetsCased before && !meetsCased rest then 'ς' else 'σ']
      else lowerChar c) ++ lowerFrom (c :: before) rest

def toLower (s : String) : String :=
  String.ofList (lowerFrom [] s.toList)

/-- Upper case of the ASCII letters; every other character stays. -/
def toUpperAscii (s : String) : String :=
  String.ofList (s.toList.map Char.toUpper)

end TestImpact.Text
