import TestImpact.Json.Value
import TestImpact.Number.Binary64

/-! Reading JSON values as values of other types. A decoder gives nothing where the value does not
fit. A record may come as an object, in which fields of other names are passed over and none of its
own may repeat, or as an array of its fields in order, of which optional ones may be missing at the
end. -/

namespace TestImpact.Json

def string? : Json → Option String
  | .string s => some s
  | _ => none

def bool? : Json → Option Bool
  | .bool b => some b
  | _ => none

/-- A natural number below a bound. -/
def below? (bound : Nat) : Json → Option Nat
  | .natural n => if n < bound then some n else none
  | _ => none

def count? : Json → Option Nat := below? UInt64.size

def uint8? (v : Json) : Option UInt8 := (below? UInt8.size v).map UInt8.ofNat

def uint16? (v : Json) : Option UInt16 := (below? UInt16.size v).map UInt16.ofNat

def uint32? (v : Json) : Option UInt32 := (below? UInt32.size v).map UInt32.ofNat

/-- A number of double precision; a natural number is rounded to one. -/
def fraction? : Json → Option Fraction
  | .real x => some x
  | .natural n => some ((Binary64.nearest n 1).toFraction false)
  | _ => none

def list? {α : Type} (decode : Json → Option α) : Json → Option (List α)
  | .array items => items.mapM decode
  | _ => none

/-- One of a table of words. A word may also come as the only field of an object, without a value. -/
def word? {α : Type} (table : List (String × α)) : Json → Option α
  | .string s => table.lookup s
  | .object [(s, .null)] => table.lookup s
  | _ => none

/-- One of a table of words inside of a variant with a tag. What stands beside a tag is kept until the
tag is known, and an empty object is no value then either. -/
def keptWord? {α : Type} (table : List (String × α)) : Json → Option α
  | .object [(s, .object [])] => table.lookup s
  | v => word? table v

def words {α : Type} (members : List α) (label : α → String) : List (String × α) :=
  members.map fun a => (label a, a)

/-! ## Records -/

/-- The value of a field, if it is given at most once. -/
def single? (fields : List (String × Json)) (name : String) : Option (Option Json) :=
  match fields.filter fun (other, _) => other == name with
  | [] => some none
  | [(_, v)] => some (some v)
  | _ => none

/-- The fields of an object under some names. -/
def named? (names : List String) (fields : List (String × Json)) : Option (List (Option Json)) :=
  names.mapM (single? fields)

/-- The first items of an array as fields; there may be no more items than names. -/
def positional? : List String → List Json → Option (List (Option Json))
  | [], [] => some []
  | [], _ :: _ => none
  | _ :: names, [] => (positional? names []).map (none :: ·)
  | _ :: names, item :: items => (positional? names items).map (some item :: ·)

/-- The fields of a record in the order of their names. -/
def record? (names : List String) : Json → Option (List (Option Json))
  | .object fields => named? names fields
  | .array items => positional? names items
  | _ => none

def required {α : Type} (decode : Json → Option α) (field : Option Json) : Option α :=
  field.bind decode

def optional {α : Type} (decode : Json → Option α) : Option Json → Option (Option α)
  | none => some none
  | some .null => some none
  | some v => (decode v).map some

def withDefault {α : Type} (default : α) (decode : Json → Option α) : Option Json → Option α
  | none => some default
  | some v => decode v

/-! ## Variants -/

/-- Splits an object with a tag: the value of the tag, given once, and the other fields. -/
def tagged? (tag : String) (fields : List (String × Json)) :
    Option (Json × List (String × Json)) :=
  match fields.filter fun (name, _) => name == tag with
  | [(_, v)] =>
    let rest := fields.filter fun (name, _) => name != tag
    if fieldsReadable rest then some (v, rest) else none
  | _ => none

/-- A variant with its tag inside: an object with the tag among its fields, or an array with the tag
in front. -/
def variant? (tag : String) : Json → Option (String × Json)
  | .object fields => do
    let (.string name, rest) ← tagged? tag fields | none
    return (name, .object rest)
  | .array (.string name :: items) =>
    if allReadable items then some (name, .array items) else none
  | _ => none

/-- A variant without fields: an object passes over those that are given. -/
def noFields? : Json → Option Unit
  | .object _ => some ()
  | .array [] => some ()
  | _ => none

/-! ## Encoding -/

/-- A field for an optional value, left out if there is none. -/
def optionalField {α : Type} (name : String) (encode : α → Json) (value : Option α) :
    List (String × Json) :=
  (value.map fun a => (name, encode a)).toList

end TestImpact.Json
