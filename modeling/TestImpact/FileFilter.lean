import TestImpact.Glob
import TestImpact.Language

/-! Which files are worth targets: sources in a known language that are neither hidden, nor in a
directory of build products or dependencies, nor tests themselves, nor excluded by a pattern. -/

namespace TestImpact

/-- Directories that hold no sources of their own. -/
def ignoredNames : List String :=
  ["target", "node_modules", ".git", ".venv", "dist", "build", "coverage"]

def isIgnored (path : String) : Bool :=
  (Path.names path).any ignoredNames.contains

/-- Whether a path looks like that of a test. -/
def isTestFile (path : String) : Bool :=
  let name := (Path.fileName? path).getD path
  Text.contains ".test." name || Text.contains ".spec." name || Text.hasPrefix "test_" name ||
    Text.contains "__tests__/" path || Text.hasPrefix "tests/" path ||
    Text.contains "/tests/" path

/-- Whether a path or one of its parts begins with a dot. A part that is a dot alone does not count,
except at the very front. -/
def isHidden (path : String) : Bool :=
  Text.hasPrefix "." path ||
    (Path.parts path).any fun part => part.head? == some '.' && 1 < part.length

structure FileFilter where
  exclude : List Glob := []

namespace FileFilter

/-- The filter for some patterns; one that is not well formed excludes nothing. -/
def ofPatterns (patterns : List String) : FileFilter :=
  ⟨patterns.filterMap Glob.parse?⟩

def accepts (f : FileFilter) (path : String) : Bool :=
  !isHidden path && (Language.ofPath? path).isSome && !isIgnored path && !isTestFile path &&
    !f.exclude.any (·.accepts path)

end FileFilter

end TestImpact
