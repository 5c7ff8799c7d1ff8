import TestImpact.Text.LetterCase

/-! The methods of the requests that endpoints are asked with. -/

namespace TestImpact

inductive HttpMethod where
  | get
  | post
  | put
  | patch
  | delete
  deriving DecidableEq, Repr

namespace HttpMethod

def label : HttpMethod → String
  | get => "GET"
  | post => "POST"
  | put => "PUT"
  | patch => "PATCH"
  | delete => "DELETE"

/-- Every method, for looking one up by its label. -/
def all : List HttpMethod := [get, post, put, patch, delete]

def ofLabel? (label : String) : Option HttpMethod :=
  all.find? fun m => m.label == label

/-- A name that is no method, in upper case. -/
structure UnknownMethod where
  name : String

def UnknownMethod.message (e : UnknownMethod) : String :=
  "unknown http method: " ++ e.name

/-- The method with a name in any case of its letters. -/
def parse (name : String) : Except UnknownMethod HttpMethod :=
  let upper := Text.toUpperAscii name
  match ofLabel? upper with
  | some m => .ok m
  | none => .error ⟨upper⟩

end HttpMethod

end TestImpact
