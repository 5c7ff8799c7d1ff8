import TestImpact.Diff.Script.Compact
import TestImpact.Diff.Script.Shortest
import TestImpact.Text.Numeral

/-! Writing a script as a unified diff: hunks with three unchanged lines around the changes, each
under a header with its ranges. -/

namespace TestImpact.Diff

/-- The lines of a text with their ends: a line feed, a carriage return, or both in this order. -/
def splitEnds : List Char → List (List Char)
  | [] => []
  | '\r' :: '\n' :: rest => ['\r', '\n'] :: splitEnds rest
  | c :: rest =>
    if c = '\n' ∨ c = '\r' then [c] :: splitEnds rest
    else
      match splitEnds rest with
      | [] => [[c]]
      | line :: more => (c :: line) :: more

def linesWithEnds (text : String) : List String :=
  (splitEnds text.toList).map String.ofList

/-- How many unchanged lines stand around a change. -/
def context : Nat := 3

/-- A first kept range less the lines too far from the change after it. -/
def trimFront : List Edit → List Edit
  | e :: rest =>
    if e.kind = .keep then
      let far := e.oldLength - context
      (e.moveDown far).shorten far :: rest
    else e :: rest
  | [] => []

/-- A last kept range less the lines too far from the change before it. -/
def trimBack : List Edit → List Edit
  | [] => []
  | [e] => if e.kind = .keep then [e.shorten (e.oldLength - context)] else [e]
  | e :: rest => e :: trimBack rest

/-- Cuts a script into groups at long kept ranges; `group` holds the edits of the current group. A
last group without a change is no group. -/
def groupsFrom (group : List Edit) : List Edit → List (List Edit)
  | [] =>
    match group with
    | [] => []
    | [e] => if e.kind = .keep then [] else [group]
    | _ => [group]
  | e :: rest =>
    if e.kind = .keep ∧ 2 * context < e.oldLength then
      let far := e.oldLength - context
      (group ++ [e.shorten far]) :: groupsFrom [(e.moveDown far).shorten far] rest
    else groupsFrom (group ++ [e]) rest

def groups (script : List Edit) : List (List Edit) :=
  groupsFrom [] (trimBack (trimFront script))

/-- A range of lines in a header. An empty range is named by the line before it. -/
def rangeText (start stop : Nat) : String :=
  let length := stop - start
  if length = 1 then String.ofList (Text.decimal (start + 1))
  else
    String.ofList
      (Text.decimal (if length = 0 then start else start + 1) ++ ',' :: Text.decimal length)

/-- The header of a group. Its ranges run from the first edit to the last. -/
def headerText (first last : Edit) : String :=
  "@@ -" ++ rangeText first.oldStart last.oldStop ++
    " +" ++ rangeText first.newStart last.newStop ++ " @@\n"

/-- A line with its sign; a line without an end gets one, and a remark. -/
def lineText (sign : String) (line : String) : String :=
  match line.toList.getLast? with
  | some '\n' | some '\r' => sign ++ line
  | _ => sign ++ line ++ "\n\\ No newline at end of file\n"

/-- The lines of an edit. Kept lines are shown as they are in the old text. -/
def editText (old new : List String) (e : Edit) : String :=
  let deleted := String.join ((e.oldLines old).map (lineText "-"))
  let inserted := String.join ((e.newLines new).map (lineText "+"))
  match e.kind with
  | .keep => String.join ((e.oldLines old).map (lineText " "))
  | .delete => deleted
  | .insert => inserted
  | .replace => deleted ++ inserted

def hunkText (old new : List String) (group : List Edit) : String :=
  match group.head?, group.getLast? with
  | some first, some last =>
    headerText first last ++ String.join (group.map (editText old new))
  | _, _ => ""

/-- The hunks of a script under the names of the old and the new file; nothing where there is no
hunk. -/
def unifiedText (path : String) (old new : List String) (script : List Edit) : String :=
  match groups script with
  | [] => ""
  | hunks =>
    "--- a/" ++ path ++ "\n+++ b/" ++ path ++ "\n" ++ String.join (hunks.map (hunkText old new))

/-- The tidy script between two texts. -/
def scriptBetween (old new : List String) : List Edit :=
  tidy old new (shortestScript old new)

/-- The diff between two versions of a file, as one section. -/
def renderSection (path old new : String) : String :=
  let oldLines := linesWithEnds old
  let newLines := linesWithEnds new
  "diff --git a/" ++ path ++ " b/" ++ path ++ "\n" ++
    unifiedText path oldLines newLines (scriptBetween oldLines newLines)

end TestImpact.Diff
