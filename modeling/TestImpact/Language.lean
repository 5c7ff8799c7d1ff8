import TestImpact.Path

/-! The languages whose sources are analyzed, told by the extension of the file name. -/

namespace TestImpact

inductive Language where
  | javaScript
  | jsx
  | typeScript
  | tsx
  | python
  | rust
  deriving DecidableEq, Repr

namespace Language

def extensions : List (String × Language) :=
  [("js", javaScript), ("mjs", javaScript), ("cjs", javaScript), ("jsx", jsx), ("ts", typeScript),
    ("mts", typeScript), ("cts", typeScript), ("tsx", tsx), ("py", python), ("rs", rust)]

/-- The language of a file, if it is one of these. -/
def ofPath? (path : String) : Option Language :=
  (Path.extension? path).bind fun e => extensions.lookup e

/-- The languages that share their shapes of functions and classes. -/
def isEcmaScript : Language → Bool
  | javaScript | jsx | typeScript | tsx => true
  | python | rust => false

def label : Language → String
  | javaScript => "javascript"
  | jsx => "jsx"
  | typeScript => "typescript"
  | tsx => "tsx"
  | python => "python"
  | rust => "rust"

end Language

end TestImpact
