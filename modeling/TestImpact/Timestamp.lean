import TestImpact.Text.Blank
import TestImpact.Text.Numeral

/-! Points in time, in universal time, and their text: year, month, day, `T`, the time of day, and
`Z`. Reading also takes other offsets, blanks between the parts, and numbers without leading zeros. -/

namespace TestImpact

/-- A point in time: days since the first of January 1970, the second of the day, and the
nanosecond. A nanosecond past a billion is in a leap second, which prolongs the second before it. -/
structure Timestamp where
  day : Int
  second : Nat
  nanosecond : Nat
  deriving DecidableEq, Repr

namespace Timestamp

/-! ## The calendar -/

/-- Days from the first of January 1970 to a date. Years are counted from March, so that the leap day
is the last one, in spans of 400 years of equal length. -/
def dayOfDate (year : Int) (month day : Nat) : Int :=
  let y := if month ≤ 2 then year - 1 else year
  let era := y.fdiv 400
  let yearOfEra := y - era * 400
  let monthFromMarch : Nat := if 2 < month then month - 3 else month + 9
  let dayOfYear : Nat := (153 * monthFromMarch + 2) / 5 + day - 1
  let dayOfEra := yearOfEra * 365 + yearOfEra / 4 - yearOfEra / 100 + dayOfYear
  era * 146097 + dayOfEra - 719468

/-- The date of a day: year, month and day of the month. -/
def dateOfDay (day : Int) : Int × Nat × Nat :=
  let z := day + 719468
  let era := z.fdiv 146097
  let dayOfEra := (z - era * 146097).toNat
  let yearOfEra := (dayOfEra - dayOfEra / 1460 + dayOfEra / 36524 - dayOfEra / 146096) / 365
  let dayOfYear := dayOfEra - (365 * yearOfEra + yearOfEra / 4 - yearOfEra / 100)
  let monthFromMarch := (5 * dayOfYear + 2) / 153
  let dayOfMonth := dayOfYear - (153 * monthFromMarch + 2) / 5 + 1
  let month := if monthFromMarch < 10 then monthFromMarch + 3 else monthFromMarch - 9
  let year : Int := yearOfEra + era * 400 + if month ≤ 2 then 1 else 0
  (year, month, dayOfMonth)

def isLeapYear (year : Int) : Bool :=
  year % 4 == 0 && (year % 100 != 0 || year % 400 == 0)

def daysInMonth (year : Int) (month : Nat) : Nat :=
  if month = 2 then (if isLeapYear year then 29 else 28)
  else if month = 4 ∨ month = 6 ∨ month = 9 ∨ month = 11 then 30
  else 31

def minYear : Int := -262143
def maxYear : Int := 262142

/-! ## Writing -/

def padded (width n : Nat) : List Char :=
  let digits := Text.decimal n
  List.replicate (width - digits.length) '0' ++ digits

/-- A year with four digits at least; outside of these it has a sign. -/
def yearText (year : Int) : List Char :=
  if 0 ≤ year ∧ year ≤ 9999 then padded 4 year.toNat
  else (if year < 0 then '-' else '+') :: padded 4 year.natAbs

/-- A fraction of a second, with as many groups of three digits as it needs. -/
def fractionText (nanosecond : Nat) : List Char :=
  if nanosecond = 0 then []
  else if nanosecond % 1000000 = 0 then '.' :: padded 3 (nanosecond / 1000000)
  else if nanosecond % 1000 = 0 then '.' :: padded 6 (nanosecond / 1000)
  else '.' :: padded 9 nanosecond

/-- The text of a point in time. -/
def text (t : Timestamp) : String :=
  let (year, month, day) := dateOfDay t.day
  let leap := 1000000000 ≤ t.nanosecond
  let second := t.second % 60 + if leap then 1 else 0
  let nanosecond := if leap then t.nanosecond - 1000000000 else t.nanosecond
  String.ofList (yearText year ++ '-' :: padded 2 month ++ '-' :: padded 2 day ++ 'T' ::
    padded 2 (t.second / 3600) ++ ':' :: padded 2 (t.second / 60 % 60) ++ ':' ::
    padded 2 second ++ fractionText nanosecond ++ ['Z'])

/-! ## Reading -/

/-- A number of one to `width` digits, behind blanks. -/
def readNumber? (width : Nat) (s : List Char) : Option (Nat × List Char) :=
  let s := Text.trimStart s
  let digits := (s.takeWhile Char.isDigit).take width
  (Text.readBelow? (Nat.pow 10 18) digits).map fun n => (n, s.drop digits.length)

/-- A year: four digits, or with a sign any number of them. -/
def readYear? (s : List Char) : Option (Int × List Char) :=
  match Text.trimStart s with
  | '-' :: rest => signed rest (-1)
  | '+' :: rest => signed rest 1
  | s => (readNumber? 4 s).map fun (n, rest) => ((n : Int), rest)
where
  signed (s : List Char) (sign : Int) : Option (Int × List Char) :=
    let digits := s.takeWhile Char.isDigit
    (Text.readBelow? (Nat.pow 10 18) digits).map fun n => (sign * n, s.drop digits.length)

/-- A separator, behind blanks. -/
def skip? (mark : Char) (s : List Char) : Option (List Char) :=
  match Text.trimStart s with
  | c :: rest => if c = mark then some rest else none
  | [] => none

/-- The fraction of a second, if one is written: nine digits count. -/
def readFraction? : List Char → Option (Nat × List Char)
  | '.' :: s =>
    let digits := s.takeWhile Char.isDigit
    let counted := digits.take 9
    (Text.readBelow? (Nat.pow 10 9) counted).map fun n =>
      (n * Nat.pow 10 (9 - counted.length), s.drop digits.length)
  | s => some (0, s)

/-- Two digits. -/
def readPair? : List Char → Option (Nat × List Char)
  | a :: b :: rest =>
    if a.isDigit && b.isDigit then some ((a.toNat - 48) * 10 + (b.toNat - 48), rest) else none
  | _ => none

/-- An offset from universal time in minutes: `Z`, `UTC`, or a sign with hours and minutes. -/
def readOffset? (s : List Char) : Option (Int × List Char) :=
  match s with
  | 'Z' :: rest | 'z' :: rest => some (0, rest)
  | '+' :: rest => signed rest 1
  | '-' :: rest | '−' :: rest => signed rest (-1)
  | a :: b :: c :: rest =>
    if [a.toLower, b.toLower, c.toLower] = ['u', 't', 'c'] then some (0, rest) else none
  | _ => none
where
  signed (s : List Char) (sign : Int) : Option (Int × List Char) := do
    let (hours, s) ← readPair? s
    let (minutes, s) ← readPair? (s.dropWhile fun c => c = ':' || Text.isBlank c)
    if minutes < 60 then return (sign * (hours * 60 + minutes), s) else none

/-- The point in time that a text describes. -/
def parse? (text : String) : Option Timestamp := do
  let s := text.toList
  let (year, s) ← readYear? s
  let s ← skip? '-' s
  let (month, s) ← readNumber? 2 s
  let s ← skip? '-' s
  let (day, s) ← readNumber? 2 s
  let s ← match s with
    | 'T' :: rest | 't' :: rest | ' ' :: rest => some rest
    | _ => none
  let (hour, s) ← readNumber? 2 s
  let s ← skip? ':' s
  let (minute, s) ← readNumber? 2 s
  let s ← skip? ':' s
  let (second, s) ← readNumber? 2 s
  let (fraction, s) ← readFraction? s
  let (offset, s) ← readOffset? (Text.trimStart s)
  guard (Text.trimStart s).isEmpty
  guard (minYear ≤ year ∧ year ≤ maxYear ∧ 1 ≤ month ∧ month ≤ 12 ∧ 1 ≤ day)
  guard (day ≤ daysInMonth year month ∧ hour < 24 ∧ minute < 60 ∧ second ≤ 60)
  guard (offset.natAbs < 24 * 60)
  let leap := second = 60
  let here : Int :=
    dayOfDate year month day * 86400 + (hour * 3600 + minute * 60 + if leap then 59 else second)
  let universal := here - offset * 60
  let dayNumber := universal.fdiv 86400
  guard (minYear ≤ (dateOfDay dayNumber).1 ∧ (dateOfDay dayNumber).1 ≤ maxYear)
  return {
    day := dayNumber
    second := (universal - dayNumber * 86400).toNat
    nanosecond := fraction + if leap then 1000000000 else 0 }

/-- The point in time some seconds after the first of January 1970. -/
def ofSeconds (seconds : Nat) : Timestamp :=
  { day := seconds / 86400, second := seconds % 86400, nanosecond := 0 }

end Timestamp

end TestImpact
