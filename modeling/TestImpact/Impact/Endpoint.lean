import TestImpact.Change
import TestImpact.HttpMethod
import TestImpact.Rule
import TestImpact.Path

/-! The endpoint and the method that a function of a service file speaks to, guessed from names. -/

namespace TestImpact

def methodRules : List (Rule HttpMethod) :=
  [⟨["get", "fetch", "find"], .get⟩, ⟨["post", "create", "add"], .post⟩,
    ⟨["put", "update"], .put⟩, ⟨["patch"], .patch⟩, ⟨["delete", "remove"], .delete⟩]

/-- Parts of a name, in this case, that tell of a single resource. -/
def singleMarks : List String := ["ById", "Id"]

/-- The name of the component that a file holds: its name without extension. -/
def componentName (file : String) : String :=
  (Path.stem? file).getD file

/-- The endpoint of a function: the name of its file, and a parameter for a single resource. -/
def inferEndpoint (file function : String) : String :=
  let endpoint := "/" ++ componentName file
  if singleMarks.any fun mark => Text.contains mark function then endpoint ++ "/:id" else endpoint

/-- The method of a function: that of the first rule that applies, else GET. -/
def inferMethod (function : String) : HttpMethod :=
  (Rule.first? methodRules function).getD .get

structure EndpointHint where
  function : String
  endpoint : String
  method : HttpMethod
  deriving DecidableEq

end TestImpact
