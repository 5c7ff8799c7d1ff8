import TestImpact.Impact.Endpoint

/-! What a changed file may affect, as tags told by words in its path and in the names of its
changed declarations. -/

namespace TestImpact

inductive PathTag where
  | uiRendering
  | apiEndpoints
  | applicationState
  | navigation
  deriving DecidableEq, Repr

namespace PathTag

def label : PathTag → String
  | uiRendering => "UI rendering"
  | apiEndpoints => "API endpoints"
  | applicationState => "Application state"
  | navigation => "Navigation"

/-- The words in a path that add a tag, in the order of the tags. The case of letters counts. -/
def rules : List (Rule PathTag) :=
  [⟨["components/", "pages/"], uiRendering⟩, ⟨["api/", "services/"], apiEndpoints⟩,
    ⟨["store/", "redux/", "context/"], applicationState⟩, ⟨["routes", "router"], navigation⟩]

def applies (rule : Rule PathTag) (file : String) : Bool :=
  rule.words.any fun word => Text.contains word file

def marks (tag : PathTag) (file : String) : Bool :=
  rules.any fun rule => rule.value == tag && applies rule file

end PathTag

/-- The tag of files with handlers of user interactions. -/
def userInteractions : String := "User interactions"

/-- The words in a function's name that tell of user interactions. -/
def interactionWords : List String := ["handle", "on"]

/-- The request tags of functions in service files. -/
def requestRules : List (Rule String) :=
  [⟨["get"], "GET requests"⟩, ⟨["post"], "POST requests"⟩, ⟨["put", "update"], "PUT requests"⟩,
    ⟨["delete"], "DELETE requests"⟩]

def isUiFile (file : String) : Bool := PathTag.uiRendering.marks file

def isApiFile (file : String) : Bool := PathTag.apiEndpoints.marks file

/-- A list with a value added at the end, unless it is there already. -/
def addNew {α : Type} [BEq α] (list : List α) (value : α) : List α :=
  if list.contains value then list else list ++ [value]

/-- The tags that a path tag brings along: what is known from the names of the functions. -/
def PathTag.followers (tag : PathTag) (functions : List String) : List String :=
  match tag with
  | .uiRendering =>
    if functions.any (Rule.mentions interactionWords) then [userInteractions] else []
  | .apiEndpoints => functions.filterMap (Rule.first? requestRules)
  | .applicationState | .navigation => []

/-- The tags of a changed file, each once, in the order of the rules; a tag is followed by those
that it brings along. -/
def impactTags (file : String) (functions : ChangeRecord) : List String :=
  let found := PathTag.rules.filter fun rule => PathTag.applies rule file
  let tags := found.flatMap fun rule => rule.value.label :: rule.value.followers functions.names
  tags.foldl addNew []

/-- The endpoints of the functions of a service file, in the order of the record. -/
def endpointHints (file : String) (functions : ChangeRecord) : List EndpointHint :=
  if isApiFile file then
    functions.names.map fun name =>
      { function := name, endpoint := inferEndpoint file name, method := inferMethod name }
  else []

end TestImpact
