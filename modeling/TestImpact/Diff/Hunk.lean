import TestImpact.Diff.HunkHeader
import TestImpact.Diff.Pairing
import TestImpact.Text.Lines
import TestImpact.Text.Quoted

/-! Reading a unified diff of one file. Every line is marked with what it contributes and with the
line of the new file at which it stands; hunks and changed lines are read off the marks. -/

namespace TestImpact.Diff

/-- A block of a diff: where it starts in the new file, the number past its last line, and its
lines with their signs. -/
structure Hunk where
  start : LineNumber
  stop : LineNumber
  content : List String
  deriving DecidableEq

/-- A line that begins like a hunk header and is none, with its position in the diff. -/
structure MalformedHeader where
  line : Nat
  header : String
  deriving DecidableEq

namespace MalformedHeader

def message (e : MalformedHeader) : String :=
  s!"malformed hunk header at diff line {e.line}: {Text.quoted e.header}"

end MalformedHeader

/-- What a line of a diff contributes. -/
inductive Mark where
  | opens (start : LineNumber)
  /-- The first line of a file's section, which ends the hunk before it. -/
  | closes
  /-- A line outside of hunks, or a remark that a line has no line feed. -/
  | ignored
  | inserted (number : LineNumber) (text : String)
  /-- A deleted line, with the number of the new line it stood before. -/
  | removed (number : LineNumber) (text : String)
  | kept (number : LineNumber) (text : String)
  deriving DecidableEq

namespace Mark

def content? : Mark → Option String
  | inserted _ text | removed _ text | kept _ text => some text
  | _ => none

def insertedNumber? : Mark → Option LineNumber
  | inserted number _ => some number
  | _ => none

def removedNumber? : Mark → Option LineNumber
  | removed number _ => some number
  | _ => none

def isBoundary : Mark → Bool
  | opens _ | closes => true
  | _ => false

end Mark

def headerSign : String := "@@"

def sectionSign : String := "diff --git "

/-- The mark of a line inside a hunk that stands at a number. The sign alone tells what the line is, so
`+++ x` is an inserted line there. -/
def Mark.ofLine (number : LineNumber) (line : String) : Mark :=
  if Text.hasPrefix "+" line then inserted number line
  else if Text.hasPrefix "-" line then removed number line
  else if Text.hasPrefix "\\" line then ignored
  else kept number line

/-! ## The scan -/

/-- Why the scan of a diff ends before the diff does. -/
inductive Halt where
  | malformed (header : MalformedHeader)
  /-- The number of a line or the end of a hunk would be past the last line number. -/
  | overflow
  deriving DecidableEq

/-- Where the scan stands inside a hunk. -/
structure Cursor where
  /-- The line of the new file at which the hunk starts. -/
  start : LineNumber
  /-- The number of the next line of the new file. -/
  number : LineNumber
  /-- How many lines of the hunk lie behind. -/
  length : Nat
  deriving DecidableEq

namespace Cursor

def ofStart (start : LineNumber) : Cursor := ⟨start, start, 0⟩

/-- Counts a line of the new file. -/
def count? (c : Cursor) : Option Cursor :=
  (c.number.add? 1).map fun next => { c with number := next }

/-- Counts a line of the hunk. The hunk ends at its start plus its lines, which are counted by a word
there. -/
def grow? (c : Cursor) : Option Cursor :=
  (c.start.add? (.ofNat (c.length + 1))).map fun _ => { c with length := c.length + 1 }

/-- Goes behind a line of the hunk, if all numbers stay line numbers. A deleted line is none of the new
file, and a remark is none at all. -/
def advance? (c : Cursor) (line : String) : Option Cursor :=
  if Text.hasPrefix "-" line then c.grow?
  else if Text.hasPrefix "\\" line then some c
  else c.count?.bind grow?

end Cursor

/-- The mark of a line, and the cursor behind it. `position` counts the lines before it; there is a
cursor inside a hunk. -/
def markLine (position : Nat) (cursor : Option Cursor) (line : String) :
    Except Halt (Mark × Option Cursor) :=
  if Text.hasPrefix headerSign line then
    match NewRange.ofHeader? line with
    | none => .error (.malformed { line := position + 1, header := line })
    | some range => .ok (.opens range.start, some (.ofStart range.start))
  else if Text.hasPrefix sectionSign line then .ok (.closes, none)
  else
    match cursor with
    | none => .ok (.ignored, none)
    | some c =>
      match c.advance? line with
      | none => .error .overflow
      | some next => .ok (.ofLine c.number line, some next)

/-- Marks the lines of a diff. -/
def markLines (position : Nat) (cursor : Option Cursor) : List String → Except Halt (List Mark)
  | [] => .ok []
  | line :: rest =>
    match markLine position cursor line with
    | .error halt => .error halt
    | .ok (mark, next) => (markLines (position + 1) next rest).map (mark :: ·)

/-- A hunk that starts at a line and has the given content. The scan has summed up its end already. -/
def Hunk.ofContent (start : LineNumber) (content : List String) : Hunk :=
  { start, stop := start + UInt32.ofNat content.length, content }

/-- The hunks of a marked diff: from each header up to the next boundary. -/
def hunksOf : List Mark → List Hunk
  | [] => []
  | .opens start :: rest =>
    Hunk.ofContent start ((rest.takeWhile fun m => !m.isBoundary).filterMap Mark.content?)
      :: hunksOf rest
  | _ :: rest => hunksOf rest

/-! ## Files -/

structure FileDiff where
  lines : LineChanges := {}
  hunks : List Hunk := []
  deriving DecidableEq

instance : Inhabited FileDiff := ⟨{}⟩

/-- Reads the changed lines and hunks off a marked diff. -/
def FileDiff.ofMarks (marks : List Mark) : FileDiff where
  lines := reconcile (LineSet.ofList (marks.filterMap Mark.insertedNumber?))
    (LineSet.ofList (marks.filterMap Mark.removedNumber?))
  hunks := hunksOf marks

/-- Reads a unified diff of one file. -/
def FileDiff.parse (diff : String) : Except Halt FileDiff :=
  (markLines 0 none (Text.lines diff)).map FileDiff.ofMarks

end TestImpact.Diff
