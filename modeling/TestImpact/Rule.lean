import TestImpact.Text.LetterCase
import TestImpact.Text.Search

/-! Rules that tell something about a declaration by words in its name. A rule applies when one of
its words occurs in the lower-case name; in a table the first rule that applies counts. -/

namespace TestImpact

structure Rule (α : Type) where
  words : List String
  value : α

namespace Rule

/-- Whether one of the words occurs in the name, whatever its case. -/
def mentions (words : List String) (name : String) : Bool :=
  let lower := Text.toLower name
  words.any fun word => Text.contains word lower

/-- The value of the first rule that applies to a name. -/
def first? {α : Type} (rules : List (Rule α)) (name : String) : Option α :=
  (rules.find? fun rule => mentions rule.words name).map Rule.value

theorem first?_cons {α : Type} (rule : Rule α) (rules : List (Rule α)) (name : String) :
    first? (rule :: rules) name =
      if mentions rule.words name then some rule.value else first? rules name := by
  simp only [first?, List.find?_cons]
  split <;> simp_all

end Rule

end TestImpact
