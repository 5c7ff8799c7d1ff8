import TestImpact.Json.Value
import TestImpact.Number.Shortest

/-! JSON text. The compact form has no blanks; the pretty form puts every item and field on a line
of its own, two spaces further in than what holds it. Empty arrays and objects stay on one line. -/

namespace TestImpact.Json

/-- One character inside a JSON string. Only quotes, backslashes and the characters below the space
are escaped. -/
def escapeChar (c : Char) : List Char :=
  match c with
  | '"' => ['\\', '"']
  | '\\' => ['\\', '\\']
  | '\n' => ['\\', 'n']
  | '\r' => ['\\', 'r']
  | '\t' => ['\\', 't']
  | '\x08' => ['\\', 'b']
  | '\x0c' => ['\\', 'f']
  | c =>
    if c.toNat < 0x20 then
      let digits := Text.hexadecimal c.toNat
      ['\\', 'u'] ++ List.replicate (4 - digits.length) '0' ++ digits
    else [c]

def stringText (s : String) : List Char :=
  '"' :: (s.toList.flatMap escapeChar ++ ['"'])

mutual

def compactChars : Json → List Char
  | .null => "null".toList
  | .bool true => "true".toList
  | .bool false => "false".toList
  | .natural n => Text.decimal n
  | .real x => x.text
  | .string s => stringText s
  | .array items => '[' :: compactItems items
  | .object fields => '\x7b' :: compactFields fields
  | .unreadable => "null".toList

def compactItems : List Json → List Char
  | [] => [']']
  | [item] => compactChars item ++ [']']
  | item :: rest => compactChars item ++ ',' :: compactItems rest

def compactFields : List (String × Json) → List Char
  | [] => ['\x7d']
  | [(name, value)] => stringText name ++ ':' :: compactChars value ++ ['\x7d']
  | (name, value) :: rest =>
    stringText name ++ ':' :: compactChars value ++ ',' :: compactFields rest

end

def newLine (depth : Nat) : List Char :=
  '\n' :: List.replicate (2 * depth) ' '

mutual

def prettyChars (depth : Nat) : Json → List Char
  | .array [] => ['[', ']']
  | .array items => '[' :: newLine (depth + 1) ++ prettyItems depth items
  | .object [] => ['\x7b', '\x7d']
  | .object fields => '\x7b' :: newLine (depth + 1) ++ prettyFields depth fields
  | .null => "null".toList
  | .bool true => "true".toList
  | .bool false => "false".toList
  | .natural n => Text.decimal n
  | .real x => x.text
  | .string s => stringText s
  | .unreadable => "null".toList

/-- The items of an array at `depth`, each one level further in, and the closing bracket. -/
def prettyItems (depth : Nat) : List Json → List Char
  | [] => newLine depth ++ [']']
  | [item] => prettyChars (depth + 1) item ++ newLine depth ++ [']']
  | item :: rest =>
    prettyChars (depth + 1) item ++ ',' :: newLine (depth + 1) ++ prettyItems depth rest

def prettyFields (depth : Nat) : List (String × Json) → List Char
  | [] => newLine depth ++ ['\x7d']
  | [(name, value)] =>
    stringText name ++ ':' :: ' ' :: prettyChars (depth + 1) value ++ newLine depth ++ ['\x7d']
  | (name, value) :: rest =>
    stringText name ++ ':' :: ' ' :: prettyChars (depth + 1) value ++
      ',' :: newLine (depth + 1) ++ prettyFields depth rest

end

def compact (v : Json) : String :=
  String.ofList v.compactChars

def pretty (v : Json) : String :=
  String.ofList (v.prettyChars 0)

end TestImpact.Json
