import TestImpact.Language
import TestImpact.LineSet
import TestImpact.Syntax.Node
import TestImpact.Text.Blank

/-! The declarations of a source: standalone functions, function values bound to a variable, and
methods of classes, named after their class. They are found by one walk over the syntax tree. Each
node is decided by itself, by its parent's kind, and by the scope around it, which is the nearest
enclosing class or function. -/

namespace TestImpact

inductive DeclarationKind where
  | function
  | boundValue
  | method
  deriving DecidableEq, Repr

namespace DeclarationKind

def label : DeclarationKind → String
  | function => "function"
  | boundValue => "arrow-bound"
  | method => "method"

def all : List DeclarationKind := [function, boundValue, method]

end DeclarationKind

/-- A declaration and its lines, both bounds included. -/
structure Declaration where
  name : String
  startLine : LineNumber
  endLine : LineNumber
  kind : DeclarationKind
  deriving DecidableEq

namespace Declaration

def contains (d : Declaration) (line : LineNumber) : Bool :=
  d.startLine ≤ line && line ≤ d.endLine

end Declaration

/-! ## What a node contributes -/

/-- The scope that a node opens for its children. -/
inductive ScopeChange where
  /-- The scope around the node goes on. -/
  | inherit
  /-- The children are members of a class. -/
  | openClass (name : String)
  /-- The children are inside a function, so out of any class. -/
  | openFunction
  deriving DecidableEq

/-- What a node declares, if anything, and the scope of its children. -/
structure Contribution where
  declared : Option (String × DeclarationKind)
  scope : ScopeChange
  deriving DecidableEq

namespace Contribution

def nothing : Contribution := ⟨none, .inherit⟩

/-- A function that is not declared under a name. -/
def functionBody : Contribution := ⟨none, .openFunction⟩

def declares (name : String) (kind : DeclarationKind) : Contribution :=
  ⟨some (name, kind), .openFunction⟩

def opensClass (name : String) : Contribution := ⟨none, .openClass name⟩

def method (owner name : String) : Contribution :=
  declares (owner ++ "." ++ name) .method

/-- A function, which is a method where a class is the scope. -/
def functionOrMethod (scope : Option String) (name : String) : Contribution :=
  match scope with
  | some owner => method owner name
  | none => declares name .function

end Contribution

def anonymous : String := "anonymous"

def anonymousClass : String := "AnonymousClass"

/-- Where a node stands: in which class directly, if any, and under a node of which kind. -/
structure Surroundings where
  owner : Option String
  parent : Option String

def nameOf (n : Syntax.Node) (source standIn : String) : String :=
  (n.childText? "name" source).getD standIn

/-- The name of the variable that a node binds in a place; a pattern has no name. -/
def bindingName (n : Syntax.Node) (field source : String) : String :=
  (((n.child? field).filter (·.kind == "identifier")).bind (·.text? source)).getD anonymous

def functionValues : List String :=
  ["arrow_function", "function_expression", "function", "generator_function"]

def holds (n : Syntax.Node) (field : String) (kinds : List String) : Bool :=
  match n.child? field with
  | some value => kinds.contains value.kind
  | none => false

/-- A method outside of a class belongs to an object and is not declared. A function value is
declared by its binding, or where it is exported itself. -/
def ecmaScriptNode (n : Syntax.Node) (source : String) (place : Surroundings) : Contribution :=
  match n.kind with
  | "function_declaration" | "generator_function_declaration" =>
    .declares (nameOf n source anonymous) .function
  | "variable_declarator" =>
    if holds n "value" functionValues then .declares (bindingName n "name" source) .boundValue
    else .nothing
  | "class_declaration" | "abstract_class_declaration" | "class" =>
    .opensClass (nameOf n source anonymousClass)
  | "method_definition" =>
    match place.owner with
    | some owner => .method owner (nameOf n source anonymous)
    | none => .functionBody
  | "arrow_function" | "function_expression" | "function" | "generator_function" =>
    if place.parent = some "export_statement" then .declares (nameOf n source anonymous) .function
    else .functionBody
  | _ => .nothing

def pythonNode (n : Syntax.Node) (source : String) (place : Surroundings) : Contribution :=
  match n.kind with
  | "function_definition" => .functionOrMethod place.owner (nameOf n source anonymous)
  | "class_definition" => .opensClass (nameOf n source anonymousClass)
  | "assignment" =>
    if holds n "right" ["lambda"] then .declares (bindingName n "left" source) .boundValue
    else .nothing
  | "lambda" => .functionBody
  | _ => .nothing

/-- The name of an implemented type, without its parameters. -/
def implementedType (type : String) : String :=
  Text.trim (String.ofList (type.toList.takeWhile (· != '<')))

def rustNode (n : Syntax.Node) (source : String) (place : Surroundings) : Contribution :=
  match n.kind with
  | "function_item" => .functionOrMethod place.owner (nameOf n source anonymous)
  | "impl_item" =>
    .opensClass (((n.childText? "type" source).map implementedType).getD anonymousClass)
  | "trait_item" => .opensClass (nameOf n source anonymousClass)
  | "let_declaration" =>
    if holds n "value" ["closure_expression"] then
      .declares (bindingName n "pattern" source) .boundValue
    else .nothing
  | "closure_expression" => .functionBody
  | _ => .nothing

def contribution (language : Language) (n : Syntax.Node) (source : String) (place : Surroundings) :
    Contribution :=
  match language with
  | .javaScript | .jsx | .typeScript | .tsx => ecmaScriptNode n source place
  | .python => pythonNode n source place
  | .rust => rustNode n source place

def ScopeChange.owner (change : ScopeChange) (around : Option String) : Option String :=
  match change with
  | inherit => around
  | openClass name => some name
  | openFunction => none

def Declaration.onSpan (span : Syntax.Span) (name : String) (kind : DeclarationKind) :
    Declaration :=
  let start := UInt32.ofNat span.startRow + 1
  let stop := UInt32.ofNat span.stopRow + 1
  { name, startLine := start, endLine := if stop < start then start else stop, kind }

/-! ## The walk -/

mutual

/-- The declarations in a tree, in preorder. -/
def declarationsIn (language : Language) (source : String) (place : Surroundings) :
    Syntax.Node → List Declaration
  | .mk kind field span children =>
    let found := contribution language (.mk kind field span children) source place
    let below : Surroundings := ⟨found.scope.owner place.owner, some kind⟩
    (found.declared.map fun (name, kind) => Declaration.onSpan span name kind).toList ++
      declarationsInAll language source below children

def declarationsInAll (language : Language) (source : String) (place : Surroundings) :
    List Syntax.Node → List Declaration
  | [] => []
  | n :: rest =>
    declarationsIn language source place n ++ declarationsInAll language source place rest

end

def declarations (language : Language) (source : String) (root : Syntax.Node) : List Declaration :=
  declarationsIn language source ⟨none, none⟩ root

end TestImpact
