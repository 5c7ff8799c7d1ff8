import TestImpact.CommandLine.Program

/-! The program on its own: it reads the files that a command may touch, runs the command on them,
and writes the files that changed. It brings no git, no parser, no network and no rules for
international names of its own; a host that has them gives them to `CommandLine.run`. -/

namespace TestImpact.CommandLine

/-- The tree at a path. Links and directories without sources are left out. -/
partial def loadTree (path : String) : IO FileTree := do
  let here := (← IO.currentDir) / path
  if ← here.isDir then
    let mut entries := #[]
    for entry in ← here.readDir do
      let kind := (← entry.path.symlinkMetadata).type
      if kind == .file || (kind == .dir && !ignoredNames.contains entry.fileName) then
        entries := entries.push (entry.fileName, ← loadTree entry.path.toString)
    return .directory entries.toList
  else
    return .file (← IO.FS.readBinFile here).toList

/-- A tree with what is at a path of this machine, if anything is. -/
def graft (tree : FileTree) (path : String) : IO FileTree := do
  try
    let place ← IO.FS.realPath path
    return tree.put (Path.names place.toString) (← loadTree place.toString)
  catch _ => return tree

/-- Writes the files of a tree that another one does not have. -/
def saveNew (old new : FileTree) : IO Unit := do
  for (names, content) in new.files fun _ => false do
    let known := match old.find? names with
      | some (.file before) => before == content
      | _ => false
    unless known do
      IO.FS.createDirAll ("/" ++ "/".intercalate names.dropLast)
      IO.FS.writeBinFile ("/" ++ "/".intercalate names) ⟨content.toArray⟩

/-- The time at which this process began. -/
def startTime : IO Timestamp := do
  try
    let process := (← IO.currentDir) / "/proc/self"
    return .ofSeconds (← process.metadata).modified.sec.toNat
  catch _ => return .ofSeconds 0

def worldFor (args : List String) : IO World := do
  let values ← Config.variableNames.mapM fun name => return (name, ← IO.getEnv name)
  let environment (name : String) : Option String := (values.lookup name).join
  let paths := match read? args with
    | some (.command command _ _) => "." :: (Config.userFile? environment).toList ++ command.paths
    | _ => []
  return {
    files := ⟨← paths.foldlM graft .empty, Path.names (← IO.currentDir).toString⟩
    environment
    gitAt := fun _ => ⟨fun _ => .error FileError.notFound.message⟩
    grammar := ⟨fun _ _ _ => none⟩
    network := fun _ _ _ => .broken
    names := fun _ => none
    now := ← startTime
    workers := 4 }

end TestImpact.CommandLine

section

open TestImpact TestImpact.CommandLine

def main (args : List String) : IO UInt32 := do
  let world ← worldFor args
  let e := run world args
  saveNew world.files.tree e.files.tree
  IO.print e.stdout
  if e.code = 2 then IO.eprint programHelp
  if let some message := e.message then IO.eprintln (programName ++ ": " ++ message)
  return UInt32.ofNat e.code

end
