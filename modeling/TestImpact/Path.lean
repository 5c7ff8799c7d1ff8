import TestImpact.Text.Search

/-! Paths whose parts are separated by `/`. Empty parts and `.` say nothing; `..` names no file.
A backslash is a character like any other. -/

namespace TestImpact.Path

/-- The parts between the slashes, empty ones included. -/
def parts (path : String) : List (List Char) :=
  Text.splitAt '/' path.toList

def isName (part : List Char) : Bool :=
  part != [] && part != ['.']

def names (path : String) : List String :=
  ((parts path).filter isName).map String.ofList

/-- The last name, unless it leads upwards. -/
def fileName? (path : String) : Option String :=
  (names path).getLast?.filter (· != "..")

/-- A file name cut at its last dot; a dot at the front cuts nothing off. -/
def cutExtension (name : String) : String × Option String :=
  match Text.cutLast? ['.'] name.toList with
  | some ([], _) | none => (name, none)
  | some (stem, extension) => (String.ofList stem, some (String.ofList extension))

def stem? (path : String) : Option String :=
  (fileName? path).map fun name => (cutExtension name).1

/-- What follows the last dot of the file name. -/
def extension? (path : String) : Option String :=
  (fileName? path).bind fun name => (cutExtension name).2

def isAbsolute (path : String) : Bool :=
  Text.hasPrefix "/" path

/-- `path` seen from `base`: an absolute path stands for itself. Nothing is simplified. -/
def join (base path : String) : String :=
  if isAbsolute path || base.isEmpty then path
  else if Text.hasSuffix "/" base then base ++ path
  else base ++ "/" ++ path

/-- The directory that holds the last name of a path; none for a path without names. The text is cut
before the name and before parts that say nothing, but for a leading slash or dot. -/
def parent? (path : String) : Option String :=
  match (parts path).reverse.dropWhile fun part => !isName part with
  | [] => none
  | _ :: before =>
    match before.dropWhile fun part => !isName part with
    | [] =>
      match before.getLast? with
      | none => some ""
      | some [] => some "/"
      | some first => some (String.ofList first)
    | kept => some (String.ofList (Text.joinWith '/' kept.reverse))

end TestImpact.Path
