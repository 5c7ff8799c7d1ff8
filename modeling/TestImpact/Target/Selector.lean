import TestImpact.Text.Quoted

/-! Hints by which an element of a page can be found. All are optional. -/

namespace TestImpact

structure SelectorDescriptor where
  testId : Option String := none
  id : Option String := none
  css : Option String := none
  xpath : Option String := none
  text : Option String := none
  partialText : Option String := none
  role : Option String := none
  name : Option String := none
  description : Option String := none
  /-- Where the `css` hint is looked up. -/
  context : Option String := none
  deriving DecidableEq

namespace SelectorDescriptor

instance : Inhabited SelectorDescriptor := ⟨{}⟩

/-- Every hint under its name, in a fixed order. -/
def hints (d : SelectorDescriptor) : List (String × Option String) :=
  [("testId", d.testId), ("id", d.id), ("css", d.css), ("xpath", d.xpath), ("text", d.text),
    ("partialText", d.partialText), ("role", d.role), ("name", d.name),
    ("description", d.description), ("context", d.context)]

def given (d : SelectorDescriptor) : List (String × String) :=
  d.hints.filterMap fun (name, value) => value.map (name, ·)

def isEmpty (d : SelectorDescriptor) : Bool := d.given.isEmpty

/-- The hints that are given, in braces. -/
def display (d : SelectorDescriptor) : String :=
  let shown := d.given.map fun (name, value) => name ++ "=" ++ Text.quoted value
  "\x7b" ++ String.intercalate ", " shown ++ "\x7d"

end SelectorDescriptor

end TestImpact
