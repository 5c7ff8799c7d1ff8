/-! Files and directories as a tree. A list of names leads from the top of a tree to a place in it;
the empty list leads to the top. -/

namespace TestImpact

/-- A file with its bytes, or a directory with its entries by name. -/
inductive FileTree where
  | file (content : List UInt8)
  | directory (entries : List (String × FileTree))

namespace FileTree

def empty : FileTree := directory []

def isDirectory : FileTree → Bool
  | directory _ => true
  | file _ => false

/-- What a list of names leads to. -/
def find? : List String → FileTree → Option FileTree
  | [], tree => some tree
  | name :: rest, directory entries => (entries.lookup name).bind (find? rest)
  | _ :: _, file _ => none

/-- The entries with a name set to a tree: in the place of the entry with this name, or at the end. -/
def setEntry (name : String) (tree : FileTree) : List (String × FileTree) → List (String × FileTree)
  | [] => [(name, tree)]
  | (other, old) :: rest =>
    if other = name then (name, tree) :: rest else (other, old) :: setEntry name tree rest

/-- The tree with `new` in the place that the names lead to. Directories on the way are made where
nothing is; a file on the way stays, and `new` is lost. -/
def put : FileTree → List String → FileTree → FileTree
  | _, [], new => new
  | file content, _ :: _, _ => file content
  | directory entries, name :: rest, new =>
    let below := (entries.lookup name).getD empty
    directory (setEntry name (below.put rest new) entries)

mutual

/-- The files of a tree, each with its bytes and the names that lead to it. An entry whose name
satisfies `skip` is left out with all that is below it. -/
def files (skip : String → Bool) : FileTree → List (List String × List UInt8)
  | file content => [([], content)]
  | directory entries => filesOfEntries skip entries

def filesOfEntries (skip : String → Bool) :
    List (String × FileTree) → List (List String × List UInt8)
  | [] => []
  | (name, tree) :: rest =>
    (if skip name then [] else (files skip tree).map fun (names, content) => (name :: names, content)) ++
      filesOfEntries skip rest

end

theorem find?_nil (tree : FileTree) : find? [] tree = some tree := by
  cases tree <;> rfl

end FileTree

end TestImpact
