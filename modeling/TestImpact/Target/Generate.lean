import TestImpact.FileChange
import TestImpact.Impact.Tags
import TestImpact.Target.TestTarget
import TestImpact.Text.Blank

/-! The targets of changed files: for a file with rendering one per function that still exists and
one for its looks if much of it changed, for a file with endpoints one per function. Their order is
that of the files and functions. -/

namespace TestImpact

/-! ## Rules -/

/-- A file with more changed lines than this is compared by its looks. -/
def visualThreshold : Nat := 10

/-- Changes that span more lines than this call for the whole component. -/
def componentSpan : LineNumber := 50

/-- Modified lines from the tenth to the twentieth are taken for changes of authorization. -/
def touchesAuthorization (lines : Diff.LineChanges) : Bool :=
  lines.modified.toList.any fun n => 10 ≤ n && n ≤ 20

/-- The words in a function's name that tell the role of its element. -/
def roleRules : List (Rule String) :=
  [⟨["button", "click"], "button"⟩, ⟨["input", "field"], "textbox"⟩,
    ⟨["select", "dropdown"], "combobox"⟩, ⟨["check"], "checkbox"⟩, ⟨["radio"], "radio"⟩,
    ⟨["link"], "link"⟩]

/-- The words in a function's name that tell what to do with its element. -/
def actionRules : List (Rule (List Action)) :=
  [⟨["handle", "on"], [.click, .verify .response]⟩,
    ⟨["validate", "check"], [.input, .verify .validation]⟩,
    ⟨["submit", "save"], [.submit, .verify .success]⟩]

/-- The words in a function's name that tell how to check its response. -/
def validationRules : List (Rule (List Validation)) :=
  [⟨["get"], [.status 200, .hasData]⟩, ⟨["create", "post"], [.status 201, .hasId]⟩,
    ⟨["update", "put"], [.status 200, .dataUpdated]⟩, ⟨["delete"], [.status 204]⟩]

/-! ## Selectors -/

/-- A name as lower-case words: every capital letter but the first begins one, and underscores and
hyphens stand between two. `last` is the last character written. -/
def wordsOf (last : Option Char) : List Char → List Char
  | [] => []
  | c :: rest =>
    if c = '_' ∨ c = '-' then ' ' :: wordsOf (some ' ') rest
    else
      let gap := if Text.isUpper c && last.isSome && last != some ' ' then [' '] else []
      let lower := Text.lowerChar c
      gap ++ lower ++ wordsOf lower.getLast? rest

/-- A function's name in words, without the class before its last dot. -/
def describe (function : String) : String :=
  let base := ((Text.splitAt '.' function.toList).getLast?).getD []
  String.ofList (Text.trimChars (wordsOf none base))

/-- The hints for the element of a function. -/
def uiSelectors (component function : String) : SelectorDescriptor where
  testId := some (Text.toLower (component ++ "-" ++ function))
  css := some ("." ++ component)
  role := some ((Rule.first? roleRules function).getD "button")
  description := some (describe function)

/-! ## Targets -/

/-- The functions that still exist, with what happened to them. -/
def liveFunctions (f : FileChange) : List (String × Change) :=
  f.functions.entries.filter fun (_, change) => change != .deleted

def uiTarget (file function : String) (change : Change) : TestTarget where
  name := componentName file ++ " - " ++ function
  file := file
  function := function
  change := change
  kind := .ui
  selectors := some (uiSelectors (componentName file) function)
  actions := Rule.first? actionRules function

/-- The target for the looks of a component, if enough of it changed. -/
def visualTarget? (f : FileChange) : Option TestTarget := do
  let changed := f.lines.added.size + f.lines.modified.size
  guard (visualThreshold < changed)
  let first ← f.lines.touched.min?
  let last ← f.lines.touched.max?
  let component := componentName f.file
  return {
    name := component ++ " - visual"
    file := f.file
    function := component
    change := .modified
    kind := .visual
    area := some {
      selector := "." ++ component
      scope := if componentSpan < last - first then .component else .partly
      changedLines := changed } }

def apiTarget (file : String) (authorization : Bool) (function : String) (change : Change) :
    TestTarget where
  name := componentName file ++ " - " ++ function
  file := file
  function := function
  change := change
  kind := .api
  endpoint := some (inferEndpoint file function)
  method := some (inferMethod function)
  validations := some ((Rule.first? validationRules function).getD [] ++
    if authorization then [.authCheck] else [])

def targetsOfFile (f : FileChange) : List TestTarget :=
  let live := liveFunctions f
  (if f.hasImpact PathTag.uiRendering.label then
      live.map (fun (function, change) => uiTarget f.file function change) ++
        (visualTarget? f).toList
    else []) ++
  (if f.hasImpact PathTag.apiEndpoints.label then
      live.map fun (function, change) =>
        apiTarget f.file (touchesAuthorization f.lines) function change
    else [])

def generateTargets (files : List FileChange) : List TestTarget :=
  files.flatMap targetsOfFile

end TestImpact
