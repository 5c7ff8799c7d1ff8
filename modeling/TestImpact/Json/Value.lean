import TestImpact.Number.Fraction

/-! JSON values. Objects keep their fields in order and may repeat a name. -/

namespace TestImpact

/-- A JSON value. `unreadable` is a well-formed piece of text that stands for no value: a string
with half of a surrogate pair, a number past all numbers of double precision, or arrays and objects
nested beyond the limit. It may be passed over but not used. -/
inductive Json where
  | null
  | bool (value : Bool)
  | natural (value : Nat)
  | real (value : Fraction)
  | string (value : String)
  | array (items : List Json)
  | object (fields : List (String × Json))
  | unreadable

namespace Json

/-- The text of a string or a list of them, for the shapes that hold one. -/
def strings (items : List String) : Json := .array (items.map .string)

def naturals (items : List Nat) : Json := .array (items.map .natural)

mutual

/-- Whether nothing in the value is unreadable. -/
def isReadable : Json → Bool
  | .unreadable => false
  | .array items => allReadable items
  | .object fields => fieldsReadable fields
  | _ => true

def allReadable : List Json → Bool
  | [] => true
  | item :: rest => item.isReadable && allReadable rest

def fieldsReadable : List (String × Json) → Bool
  | [] => true
  | (_, value) :: rest => value.isReadable && fieldsReadable rest

end

end Json

end TestImpact
