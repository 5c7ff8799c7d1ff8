import TestImpact.LineSet
import TestImpact.Text.DecimalDigit
import TestImpact.Text.Numeral
import TestImpact.Text.Search

/-! Hunk headers `@@ -a,b +c,d @@`. Either length may be left out and then is one. The digits may be
of any script, but the range of the new file has to be written in ASCII, within 32 bits. Whatever
stands behind the header is not looked at. -/

namespace TestImpact.Diff

/-- The range of the new file that a hunk covers. -/
structure NewRange where
  start : LineNumber
  length : LineNumber
  deriving DecidableEq

/-- The digits of any script that a text begins with, at least one, and the rest. -/
def readDigitRun? (s : List Char) : Option (List Char × List Char) :=
  match s.takeWhile Text.isDecimalDigit with
  | [] => none
  | digits => some (digits, s.dropWhile Text.isDecimalDigit)

/-- A start and a length, each a run of digits; the length may be missing. -/
def readRange? (s : List Char) : Option ((List Char × Option (List Char)) × List Char) := do
  let (start, rest) ← readDigitRun? s
  match rest with
  | ',' :: tail =>
    match readDigitRun? tail with
    | some (length, rest) => return ((start, some length), rest)
    | none => return ((start, none), rest)
  | _ => return ((start, none), rest)

def lineNumber? (digits : List Char) : Option LineNumber :=
  (Text.readBelow? UInt32.size digits).map UInt32.ofNat

/-- The new range of a hunk header, or nothing if the line does not begin with one. -/
def parseHeader? (line : List Char) : Option NewRange := do
  let s ← Text.afterPrefix? "@@ -".toList line
  let (_, s) ← readRange? s
  let s ← Text.afterPrefix? " +".toList s
  let ((start, length), s) ← readRange? s
  let _ ← Text.afterPrefix? " @@".toList s
  let start ← lineNumber? start
  let length ← match length with
    | some digits => lineNumber? digits
    | none => some 1
  return { start, length }

def NewRange.ofHeader? (line : String) : Option NewRange :=
  parseHeader? line.toList

end TestImpact.Diff
