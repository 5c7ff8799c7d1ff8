import TestImpact.Diff.Hunk
import TestImpact.Text.Bytes

/-! The files of a diff over several files. Each begins with a line `diff --git`; what stands
before the first such line belongs to no file. The path is named by the last `--- a/` or `+++ b/`
line before the first hunk, and by the first line only where there is none of these, as for files
that only moved or changed their mode. -/

namespace TestImpact.Diff

structure Section where
  path : String
  body : String
  deleted : Bool
  deriving DecidableEq

/-- The path in the rest `a/<path> b/<path>` of a first line. Both halves name the same file unless
it was renamed, so a rest of odd length is cut in the middle; a cut that does not leave `a/` and
`b/` names nothing. In any other case the path is what follows the last ` b/`. -/
def pathOfFirstLine? (rest : List Char) : Option (List Char) :=
  let afterLast := (Text.cutLast? " b/".toList rest).map Prod.snd
  let length := Text.byteLength rest
  if length % 2 = 1 then do
    let middle := length / 2
    let old ← Text.afterPrefix? "a/".toList (← Text.splitAtByte? middle rest).1
    let new ← Text.afterPrefix? "b/".toList (← Text.splitAtByte? (middle + 1) rest).2
    if old = new then return new else afterLast
  else afterLast

/-- The path that a `--- a/` or `+++ b/` line names. A tab behind it is not part of it: it is written
after paths with blanks. -/
def namedPath? (line : String) : Option String :=
  (Text.stripPrefix? "--- a/" line <|> Text.stripPrefix? "+++ b/" line).map fun path =>
    (Text.stripSuffix? "\t" path).getD path

/-- Whether a line says that the file is gone. -/
def tellsDeleted (line : String) : Bool :=
  Text.hasPrefix "deleted file mode" line || line == "+++ /dev/null"

/-- The section with the given first line, less its sign, and the lines below it. -/
def Section.ofLines (first : String) (below : List String) : Section :=
  let head := below.takeWhile fun line => !Text.hasPrefix headerSign line
  { path :=
      ((head.filterMap namedPath?).getLast?).getD
        (((pathOfFirstLine? first.toList).map String.ofList).getD "")
    body := Text.joinLines below
    deleted := head.any tellsDeleted }

/-- The sections among the lines of a diff, in order. -/
def sectionsOf : List String → List Section
  | [] => []
  | line :: rest =>
    match Text.stripPrefix? sectionSign line with
    | some first =>
      Section.ofLines first (rest.takeWhile fun line => !Text.hasPrefix sectionSign line)
        :: sectionsOf rest
    | none => sectionsOf rest

def Section.split (diff : String) : List Section :=
  sectionsOf (Text.lines diff)

end TestImpact.Diff
