import TestImpact.FileChange
import TestImpact.Impact.Tags
import TestImpact.Text.Blank

/-! Flat lists of what changed files concern: routes of pages, endpoints, tags and functions. Each
entry is listed once, where it first comes up. -/

namespace TestImpact

def pagesDirectory : List Char := "pages/".toList

/-- The part of a path below the first directory of pages. -/
def belowPages? (path : List Char) : Option (List Char) :=
  match Text.afterPrefix? pagesDirectory path with
  | some rest => some rest
  | none => (Text.cutFirst? ('/' :: pagesDirectory) path).map Prod.snd

/-- The route of a page below the directory of pages: its path without what follows the last dot, and
without a file name `index`. -/
def routeBelow (path : List Char) : List Char :=
  let stem := ((Text.cutLast? ['.'] path).map Prod.fst).getD path
  match Text.beforeSuffix? "index".toList stem with
  | some directory =>
    if directory.isEmpty || directory.getLast? == some '/' then
      Text.dropEndWhile (· == '/') directory
    else stem
  | none => stem

/-- The route under which the page in a file is served. -/
def pageRoute? (file : String) : Option String :=
  (belowPages? file.toList).map fun path => String.ofList ('/' :: routeBelow path)

structure TestTargetsIndex where
  uiPaths : List String := []
  apiEndpoints : List String := []
  impactedAreas : List String := []
  specificFunctions : List String := []
  deriving DecidableEq

namespace TestTargetsIndex

instance : Inhabited TestTargetsIndex := ⟨{}⟩

def isEmpty (i : TestTargetsIndex) : Bool :=
  i.uiPaths.isEmpty && i.apiEndpoints.isEmpty && i.impactedAreas.isEmpty &&
    i.specificFunctions.isEmpty

/-- Adds values that are not listed yet. -/
def addAll (list values : List String) : List String :=
  values.foldl addNew list

/-- The endpoints of the functions of a file that still exist. -/
def liveEndpoints (f : FileChange) : List String :=
  ((endpointHints f.file f.functions).filter fun hint =>
    f.functions.get? hint.function != some .deleted).map fun hint =>
      hint.method.label ++ " " ++ hint.endpoint

def addFile (i : TestTargetsIndex) (f : FileChange) : TestTargetsIndex where
  uiPaths := addAll i.uiPaths (pageRoute? f.file).toList
  apiEndpoints := addAll i.apiEndpoints (liveEndpoints f)
  impactedAreas := addAll i.impactedAreas f.impact
  specificFunctions :=
    addAll i.specificFunctions (f.functions.names.map fun name => f.file ++ "::" ++ name)

def ofFiles (files : List FileChange) : TestTargetsIndex :=
  files.foldl addFile {}

end TestTargetsIndex

end TestImpact
