import TestImpact.Path
import TestImpact.Storage.FileTree
import TestImpact.Text.Blank
import TestImpact.Text.Bytes

/-! Reading and writing files by their paths. A path is walked part by part, from the top of the tree
or from the working directory; every part but the last must lead to a directory. A call that fails
changes nothing, but making several directories may fail after some of them are made. -/

namespace TestImpact

inductive FileError where
  | notFound
  | alreadyExists
  | notDirectory
  | isDirectory
  | nameTooLong
  | nulInName
  | notText
  deriving DecidableEq

def FileError.message : FileError → String
  | notFound => "No such file or directory (os error 2)"
  | alreadyExists => "File exists (os error 17)"
  | notDirectory => "Not a directory (os error 20)"
  | isDirectory => "Is a directory (os error 21)"
  | nameTooLong => "File name too long (os error 36)"
  | nulInName => "file name contained an unexpected NUL byte"
  | notText => "stream did not contain valid UTF-8"

/-- A tree, and the names that lead to the working directory in it. -/
structure FileSystem where
  tree : FileTree
  current : List String

namespace FileSystem

/-! ## Places -/

/-- How many bytes a name may have. -/
def nameLimit : Nat := 255

/-- How many bytes a path must stay below. -/
def pathLimit : Nat := 4096

/-- The place that a part of a path leads to from a directory. -/
def step (fs : FileSystem) (place : List String) (part : List Char) :
    Except FileError (List String) :=
  match fs.tree.find? place with
  | none => .error .notFound
  | some (.file _) => .error .notDirectory
  | some (.directory _) =>
    if !Path.isName part then .ok place
    else if part = ['.', '.'] then .ok place.dropLast
    else if nameLimit < Text.byteLength part then .error .nameTooLong
    else .ok (place ++ [String.ofList part])

/-- The place that a path leads to. Nothing need be there, but all places before it are directories. -/
def locate (fs : FileSystem) (path : String) : Except FileError (List String) :=
  if path.toList.contains '\x00' then .error .nulInName
  else if path.isEmpty then .error .notFound
  else if pathLimit ≤ Text.byteLength path.toList then .error .nameTooLong
  else (Path.parts path).foldlM fs.step (if Path.isAbsolute path then [] else fs.current)

def find (fs : FileSystem) (path : String) : Except FileError FileTree := do
  match fs.tree.find? (← fs.locate path) with
  | some tree => .ok tree
  | none => .error .notFound

def hasEntry (fs : FileSystem) (path : String) : Bool :=
  (fs.find path).toOption.isSome

def isDirectory (fs : FileSystem) (path : String) : Bool :=
  ((fs.find path).toOption.map FileTree.isDirectory).getD false

/-! ## Reading -/

def readBytes (fs : FileSystem) (path : String) : Except FileError (List UInt8) := do
  match ← fs.find path with
  | .file content => .ok content
  | .directory _ => .error .isDirectory

def readText (fs : FileSystem) (path : String) : Except FileError String := do
  match Text.decode? (← fs.readBytes path) with
  | some text => .ok text
  | none => .error .notText

/-! ## Writing -/

/-- Sets the text of a file, which is made if nothing is there. -/
def writeText (fs : FileSystem) (path text : String) : Except FileError FileSystem := do
  let place ← fs.locate path
  match fs.tree.find? place with
  | some (.directory _) => .error .isDirectory
  | _ => .ok { fs with tree := fs.tree.put place (.file (Text.encode text)) }

/-- Makes a directory where nothing is. Slashes at the end of its path say nothing. -/
def createDirectory (fs : FileSystem) (path : String) : Except FileError FileSystem := do
  let kept := String.ofList (Text.dropEndWhile (· == '/') path.toList)
  let place ← fs.locate (if kept.isEmpty && !path.isEmpty then "/" else kept)
  match fs.tree.find? place with
  | some _ => .error .alreadyExists
  | none => .ok { fs with tree := fs.tree.put place .empty }

/-- Makes the first of some directories, each of which the next one holds. Where its place cannot be
found, the others are made first. A directory that is there already is fine. -/
def createFirst (fs : FileSystem) : List String → FileSystem × Option FileError
  | [] => (fs, none)
  | path :: holders =>
    let attempt (fs : FileSystem) : FileSystem × Option FileError :=
      match fs.createDirectory path with
      | .ok fs => (fs, none)
      | .error e => (fs, if fs.isDirectory path then none else some e)
    match fs.createDirectory path with
    | .error .notFound =>
      match fs.createFirst holders with
      | (fs, some e) => (fs, some e)
      | (fs, none) => attempt fs
    | _ => attempt fs

/-- A path and the directories that hold it, the nearest first, up to a number of them. -/
def holdersOf : Nat → String → List String
  | 0, _ => []
  | n + 1, path =>
    if path.isEmpty then []
    else
      match Path.parent? path with
      | some holder => path :: holdersOf n holder
      | none => [path]

/-- Makes a directory and those that hold it, as far as they are missing. An empty path asks for
nothing. -/
def createDirectories (fs : FileSystem) (path : String) : FileSystem × Option FileError :=
  fs.createFirst (holdersOf ((Path.parts path).length + 1) path)

end FileSystem

end TestImpact
