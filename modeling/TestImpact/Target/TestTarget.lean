import TestImpact.Change
import TestImpact.HttpMethod
import TestImpact.Target.Selector

/-! Test targets: what of a changed file a test should exercise, and how. -/

namespace TestImpact

/-- What a target is exercised through. -/
inductive TargetKind where
  | ui
  | api
  | visual
  deriving DecidableEq, Repr

namespace TargetKind

def label : TargetKind → String
  | ui => "ui"
  | api => "api"
  | visual => "visual"

def all : List TargetKind := [ui, api, visual]

end TargetKind

/-- What should follow an action. -/
inductive Expectation where
  | response
  | validation
  | success
  deriving DecidableEq, Repr

namespace Expectation

def label : Expectation → String
  | response => "response"
  | validation => "validation"
  | success => "success"

def all : List Expectation := [response, validation, success]

end Expectation

inductive Action where
  | click
  | input
  | submit
  | verify (expect : Expectation)
  deriving DecidableEq, Repr

inductive Validation where
  | status (expect : UInt16)
  | hasData
  | hasId
  | dataUpdated
  | authCheck
  deriving DecidableEq

/-- How much of a component a visual comparison covers. -/
inductive AreaScope where
  | component
  | partly
  deriving DecidableEq, Repr

namespace AreaScope

def label : AreaScope → String
  | component => "component"
  | partly => "partial"

def all : List AreaScope := [component, partly]

end AreaScope

/-- What a visual comparison covers. -/
structure TargetArea where
  selector : String
  scope : AreaScope
  changedLines : Nat
  deriving DecidableEq

structure TestTarget where
  name : String
  file : String
  function : String
  change : Change
  kind : TargetKind
  selectors : Option SelectorDescriptor := none
  actions : Option (List Action) := none
  endpoint : Option String := none
  method : Option HttpMethod := none
  validations : Option (List Validation) := none
  area : Option TargetArea := none
  deriving DecidableEq

namespace TestTarget

/-- What a target is called in reports. -/
def id (t : TestTarget) : String :=
  t.file ++ "::" ++ t.function ++ "::" ++ t.kind.label

end TestTarget

end TestImpact
