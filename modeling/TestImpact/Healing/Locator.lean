import TestImpact.Text.Quoted

/-! Queries for elements of a page. -/

namespace TestImpact

inductive Locator where
  | testId (value : String)
  | id (value : String)
  | css (selector : String) (within : Option String)
  | xpath (value : String)
  | text (value : String)
  /-- A part of the text, whatever its case. -/
  | partialText (value : String)
  | role (kind : String) (name : Option String)
  | label (value : String)
  | placeholder (value : String)
  deriving DecidableEq

namespace Locator

/-- A locator as it is shown to people. -/
def display : Locator → String
  | testId value => "[data-testid=" ++ Text.quoted value ++ "]"
  | id value => "#" ++ value
  | css selector (some scope) => scope ++ " " ++ selector
  | css selector none => selector
  | xpath value => "xpath=" ++ value
  | text value => "text=" ++ Text.quoted value
  | partialText value => "text~=" ++ Text.quoted value
  | role kind (some name) => "role=" ++ kind ++ "[name=" ++ Text.quoted name ++ "]"
  | role kind none => "role=" ++ kind
  | label value => "label=" ++ Text.quoted value
  | placeholder value => "placeholder=" ++ Text.quoted value

end Locator

end TestImpact
