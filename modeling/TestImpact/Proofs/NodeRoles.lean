import TestImpact.Source.Declaration

/-! What the nodes of a syntax tree are for its declarations. Each language has its words for classes,
for functions and for the binding of a function to a variable; what a node contributes is told by its
role alone, in the same way for all languages. -/

namespace TestImpact

open Syntax (Node)

/-! ## The words of a language -/

/-- The kinds of nodes that declare something or open a scope. -/
structure Vocabulary where
  /-- Classes, and what stands for one. -/
  classes : List String
  /-- Functions that are methods where a class is the scope. -/
  members : List String
  /-- Functions that are never methods. -/
  functions : List String
  /-- Functions without a name of their own. -/
  values : List String
  /-- What binds a value to a variable, and the places of both in it. -/
  binding : String
  variableField : String
  valueField : String

namespace Vocabulary

def ecmaScript : Vocabulary where
  classes := ["class_declaration", "abstract_class_declaration", "class"]
  members := ["method_definition"]
  functions := ["function_declaration", "generator_function_declaration"]
  values := ["arrow_function", "function_expression", "function", "generator_function"]
  binding := "variable_declarator"
  variableField := "name"
  valueField := "value"

def python : Vocabulary where
  classes := ["class_definition"]
  members := ["function_definition"]
  functions := []
  values := ["lambda"]
  binding := "assignment"
  variableField := "left"
  valueField := "right"

def rust : Vocabulary where
  classes := ["impl_item", "trait_item"]
  members := ["function_item"]
  functions := []
  values := ["closure_expression"]
  binding := "let_declaration"
  variableField := "pattern"
  valueField := "value"

end Vocabulary

def Language.vocabulary : Language → Vocabulary
  | .javaScript | .jsx | .typeScript | .tsx => .ecmaScript
  | .python => .python
  | .rust => .rust

theorem Language.vocabulary_of_isEcmaScript {l : Language} (ecma : l.isEcmaScript = true) :
    l.vocabulary = .ecmaScript := by
  cases l with
  | javaScript | jsx | typeScript | tsx => rfl
  | python | rust => cases ecma

/-- What a node is for the declarations and scopes of a tree. -/
inductive Role where
  | classLike
  | member
  | function
  | value
  | binding
  | plain
  deriving DecidableEq

namespace Vocabulary

variable (words : Vocabulary)

/-- A variable is bound to a function here. -/
def Binds (n : Node) : Prop :=
  n.kind = words.binding ∧ ∃ v ∈ n.child? words.valueField, v.kind ∈ words.values

instance (n : Node) : Decidable (words.Binds n) :=
  inferInstanceAs (Decidable (_ ∧ ∃ v ∈ n.child? words.valueField, _))

def role (n : Node) : Role :=
  if n.kind ∈ words.classes then .classLike
  else if n.kind ∈ words.members then .member
  else if n.kind ∈ words.functions then .function
  else if n.kind ∈ words.values then .value
  else if words.Binds n then .binding
  else .plain

end Vocabulary

namespace Language

variable {l : Language} {n : Node}

theorem role_eq_classLike_iff : l.vocabulary.role n = .classLike ↔ n.kind ∈ l.vocabulary.classes := by
  unfold Vocabulary.role
  grind

theorem role_eq_member_iff : l.vocabulary.role n = .member ↔ n.kind ∈ l.vocabulary.members := by
  have apart : ∀ kind ∈ l.vocabulary.members, kind ∉ l.vocabulary.classes := by cases l <;> decide
  unfold Vocabulary.role
  grind

theorem role_eq_function_iff : l.vocabulary.role n = .function ↔ n.kind ∈ l.vocabulary.functions := by
  have apart : ∀ kind ∈ l.vocabulary.functions,
      kind ∉ l.vocabulary.classes ∧ kind ∉ l.vocabulary.members := by
    cases l <;> decide
  unfold Vocabulary.role
  grind

theorem role_eq_value_iff : l.vocabulary.role n = .value ↔ n.kind ∈ l.vocabulary.values := by
  have apart : ∀ kind ∈ l.vocabulary.values, kind ∉ l.vocabulary.classes ∧
      kind ∉ l.vocabulary.members ∧ kind ∉ l.vocabulary.functions := by
    cases l <;> decide
  unfold Vocabulary.role
  grind

/-- The kind that binds values is none of the others, so the value that is bound decides. -/
theorem role_of_binding (kind : n.kind = l.vocabulary.binding) :
    l.vocabulary.role n = if l.vocabulary.Binds n then .binding else .plain := by
  have apart : l.vocabulary.binding ∉ l.vocabulary.classes ++ l.vocabulary.members ++
      l.vocabulary.functions ++ l.vocabulary.values := by
    cases l <;> decide
  simp only [List.mem_append, not_or, ← kind] at apart
  obtain ⟨⟨⟨noClass, noMember⟩, noFunction⟩, noValue⟩ := apart
  unfold Vocabulary.role
  rw [if_neg noClass, if_neg noMember, if_neg noFunction, if_neg noValue]

theorem role_eq_binding_iff : l.vocabulary.role n = .binding ↔ l.vocabulary.Binds n := by
  constructor
  · unfold Vocabulary.role
    grind
  · intro binds
    rw [role_of_binding binds.1, if_pos binds]

end Language

/-- The name of a class, which for an implementation is that of the type without its parameters. -/
def className (n : Node) (source : String) : String :=
  if n.kind = "impl_item" then ((n.childText? "type" source).map implementedType).getD anonymousClass
  else nameOf n source anonymousClass

/-! ## Names -/

/-- The child is the first one of a node in a place. -/
def Syntax.Node.First (n : Node) (field : String) (child : Node) : Prop :=
  ∃ before after, n.children = before ++ child :: after ∧ child.field = some field ∧
    ∀ c ∈ before, c.field ≠ some field

/-- `name` is what the first child in a place is read as, or else what stands in for it. -/
def Syntax.Node.Named (n : Node) (field standIn : String) (read : Node → Option String)
    (name : String) : Prop :=
  (∃ child, n.First field child ∧ read child = some name) ∨
    (∀ child, n.First field child → read child = none) ∧ name = standIn

namespace Syntax.Node

variable {n : Node} {field standIn source name : String} {read : Node → Option String}

theorem child?_eq_some_iff {child : Node} : n.child? field = some child ↔ n.First field child := by
  rw [child?, List.find?_eq_some_iff_append]
  constructor
  · rintro ⟨here, before, after, split, others⟩
    refine ⟨before, after, split, beq_iff_eq.1 here, fun c mem same => ?_⟩
    simpa [same] using others c mem
  · rintro ⟨before, after, split, here, others⟩
    refine ⟨beq_iff_eq.2 here, before, after, split, fun c mem => ?_⟩
    simpa using others c mem

theorem named_iff :
    n.Named field standIn read name ↔ name = ((n.child? field).bind read).getD standIn := by
  unfold Named
  simp only [← child?_eq_some_iff]
  cases n.child? field with
  | none => simp
  | some child =>
    simp only [Option.some.injEq, exists_eq_left', forall_eq', Option.bind_some]
    cases read child with
    | none => simp
    | some text => simp [eq_comm]

/-- A node has the name that is written in its place for names. -/
def HasName (n : Node) (source standIn name : String) : Prop :=
  n.Named "name" standIn (·.text? source) name

theorem hasName_iff : n.HasName source standIn name ↔ name = nameOf n source standIn := named_iff

/-- A class has the name that is written for it; an implementation is named after its type, whose
parameters are left out. -/
def HasClassName (n : Node) (source name : String) : Prop :=
  if n.kind = "impl_item" then
    n.Named "type" "AnonymousClass" (fun type => (type.text? source).map fun text =>
      Text.trim (String.ofList (text.toList.takeWhile (· != '<')))) name
  else n.HasName source "AnonymousClass" name

theorem hasClassName_iff : n.HasClassName source name ↔ name = className n source := by
  unfold HasClassName className
  split
  · rw [named_iff, childText?, Option.map_bind]
    rfl
  · exact hasName_iff

/-- A binding is named after its variable; a pattern has no name. -/
def HasVariable (n : Node) (field source name : String) : Prop :=
  n.Named field "anonymous"
    (fun pattern => if pattern.kind = "identifier" then pattern.text? source else none) name

theorem hasVariable_iff : n.HasVariable field source name ↔ name = bindingName n field source := by
  rw [HasVariable, named_iff, bindingName]
  cases n.child? field with
  | none => rfl
  | some pattern =>
    by_cases identifier : pattern.kind = "identifier"
    · simp [Option.filter, identifier, anonymous]
    · simp [Option.filter, identifier, anonymous]

end Syntax.Node

/-! ## One node -/

/-- What a node contributes, by its role in the language. -/
def contributionByRole (l : Language) (n : Node) (source : String) (place : Surroundings) :
    Contribution :=
  match l.vocabulary.role n with
  | .classLike => .opensClass (className n source)
  | .member =>
    match place.owner with
    | some owner => .method owner (nameOf n source anonymous)
    | none =>
      if l.isEcmaScript then .functionBody else .declares (nameOf n source anonymous) .function
  | .function => .declares (nameOf n source anonymous) .function
  | .value =>
    if l.isEcmaScript ∧ place.parent = some "export_statement" then
      .declares (nameOf n source anonymous) .function
    else .functionBody
  | .binding => .declares (bindingName n l.vocabulary.variableField source) .boundValue
  | .plain => .nothing

theorem holds_iff {n : Node} {field : String} {kinds : List String} :
    holds n field kinds = true ↔ ∃ v ∈ n.child? field, v.kind ∈ kinds := by
  unfold holds
  cases n.child? field with
  | none => simp
  | some v => simp

theorem contributionByRole_binding {l : Language} {n : Node} {source : String} {place : Surroundings}
    (kind : n.kind = l.vocabulary.binding) :
    contributionByRole l n source place =
      if holds n l.vocabulary.valueField l.vocabulary.values then
        .declares (bindingName n l.vocabulary.variableField source) .boundValue
      else .nothing := by
  unfold contributionByRole
  rw [Language.role_of_binding kind]
  by_cases bound : holds n l.vocabulary.valueField l.vocabulary.values = true
  · rw [if_pos bound, if_pos ⟨kind, holds_iff.1 bound⟩]
  · rw [if_neg bound, if_neg fun binds => bound (holds_iff.2 binds.2)]

theorem ecmaScriptNode_eq {l : Language} (words : l.vocabulary = .ecmaScript)
    (ecma : l.isEcmaScript = true) (n : Node) (source : String) (place : Surroundings) :
    ecmaScriptNode n source place = contributionByRole l n source place := by
  unfold ecmaScriptNode
  split
  case h_1 kind | h_2 kind =>
    have role : Vocabulary.ecmaScript.role n = .function := by
      simp [Vocabulary.role, Vocabulary.ecmaScript, kind]
    rw [contributionByRole, words, role]
  case h_3 kind =>
    rw [contributionByRole_binding (by rwa [words]), words]
    rfl
  case h_4 kind | h_5 kind | h_6 kind =>
    have role : Vocabulary.ecmaScript.role n = .classLike := by
      simp [Vocabulary.role, Vocabulary.ecmaScript, kind]
    have name : className n source = nameOf n source anonymousClass := by simp [className, kind]
    rw [contributionByRole, words, role, name]
  case h_7 kind =>
    have role : Vocabulary.ecmaScript.role n = .member := by
      simp [Vocabulary.role, Vocabulary.ecmaScript, kind]
    rw [contributionByRole, words, role, ecma]
    rfl
  case h_8 kind | h_9 kind | h_10 kind | h_11 kind =>
    have role : Vocabulary.ecmaScript.role n = .value := by
      simp [Vocabulary.role, Vocabulary.ecmaScript, kind]
    simp only [contributionByRole, words, role, ecma, true_and]
  case h_12 =>
    have role : Vocabulary.ecmaScript.role n = .plain := by
      grind [Vocabulary.role, Vocabulary.ecmaScript, Vocabulary.Binds]
    rw [contributionByRole, words, role]

theorem pythonNode_eq (n : Node) (source : String) (place : Surroundings) :
    pythonNode n source place = contributionByRole .python n source place := by
  unfold pythonNode
  split
  case h_1 kind =>
    have role : Language.python.vocabulary.role n = .member := by
      simp [Vocabulary.role, Language.vocabulary, Vocabulary.python, kind]
    rw [contributionByRole, role]
    rfl
  case h_2 kind =>
    have role : Language.python.vocabulary.role n = .classLike := by
      simp [Vocabulary.role, Language.vocabulary, Vocabulary.python, kind]
    have name : className n source = nameOf n source anonymousClass := by simp [className, kind]
    rw [contributionByRole, role, name]
  case h_3 kind =>
    rw [contributionByRole_binding kind]
    rfl
  case h_4 kind =>
    have role : Language.python.vocabulary.role n = .value := by
      simp [Vocabulary.role, Language.vocabulary, Vocabulary.python, kind]
    simp [contributionByRole, role, Language.isEcmaScript]
  case h_5 =>
    have role : Language.python.vocabulary.role n = .plain := by
      grind [Vocabulary.role, Language.vocabulary, Vocabulary.python, Vocabulary.Binds]
    rw [contributionByRole, role]

theorem rustNode_eq (n : Node) (source : String) (place : Surroundings) :
    rustNode n source place = contributionByRole .rust n source place := by
  unfold rustNode
  split
  case h_1 kind =>
    have role : Language.rust.vocabulary.role n = .member := by
      simp [Vocabulary.role, Language.vocabulary, Vocabulary.rust, kind]
    rw [contributionByRole, role]
    rfl
  case h_2 kind =>
    have role : Language.rust.vocabulary.role n = .classLike := by
      simp [Vocabulary.role, Language.vocabulary, Vocabulary.rust, kind]
    have name : className n source =
        ((n.childText? "type" source).map implementedType).getD anonymousClass := if_pos kind
    rw [contributionByRole, role, name]
  case h_3 kind =>
    have role : Language.rust.vocabulary.role n = .classLike := by
      simp [Vocabulary.role, Language.vocabulary, Vocabulary.rust, kind]
    have name : className n source = nameOf n source anonymousClass := by simp [className, kind]
    rw [contributionByRole, role, name]
  case h_4 kind =>
    rw [contributionByRole_binding kind]
    rfl
  case h_5 kind =>
    have role : Language.rust.vocabulary.role n = .value := by
      simp [Vocabulary.role, Language.vocabulary, Vocabulary.rust, kind]
    simp [contributionByRole, role, Language.isEcmaScript]
  case h_6 =>
    have role : Language.rust.vocabulary.role n = .plain := by
      grind [Vocabulary.role, Language.vocabulary, Vocabulary.rust, Vocabulary.Binds]
    rw [contributionByRole, role]

theorem contribution_eq (l : Language) (n : Node) (source : String) (place : Surroundings) :
    contribution l n source place = contributionByRole l n source place := by
  cases l with
  | javaScript | jsx | typeScript | tsx => exact ecmaScriptNode_eq rfl rfl n source place
  | python => exact pythonNode_eq n source place
  | rust => exact rustNode_eq n source place

end TestImpact
