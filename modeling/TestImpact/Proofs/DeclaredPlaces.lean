import TestImpact.Proofs.NodeRoles
import TestImpact.Proofs.SyntaxPlaces

/-! Which places of a syntax tree are declared, and under which names. What a place declares is told by
its node, by the kind of its parent, and by the nearest node above it that opens a class or a function.
The walk carries this scope with it, and so meets exactly the places that declare something. -/

namespace TestImpact

open Syntax (Node Place)

/-! ## Scopes -/

inductive Scope where
  | ofClass (name : String)
  | ofFunction
  deriving DecidableEq

/-- The scope that a node opens for what is below it. -/
def Language.opened? (l : Language) (source : String) (n : Node) : Option Scope :=
  match l.vocabulary.role n with
  | .classLike => some (.ofClass (className n source))
  | .member | .function | .value | .binding => some .ofFunction
  | .plain => none

theorem Language.opened?_eq_class_iff {l : Language} {source name : String} {n : Node} :
    l.opened? source n = some (.ofClass name) ↔
      n.kind ∈ l.vocabulary.classes ∧ className n source = name := by
  rw [← role_eq_classLike_iff, opened?]
  cases l.vocabulary.role n with
  | classLike => simp
  | member | function | value | binding | plain => simp

theorem Language.opened?_eq_none_iff {l : Language} {source : String} {n : Node} :
    l.opened? source n = none ↔ l.vocabulary.role n = .plain := by
  rw [opened?]
  cases l.vocabulary.role n with
  | plain => simp
  | classLike | member | function | value | binding => simp

/-- The class that a scope belongs to. -/
def Scope.owner? : Scope → Option String
  | ofClass name => some name
  | ofFunction => none

namespace Syntax.Place

variable (l : Language) (source : String)

/-- The scope of a place: the one that the nearest node above it opens. -/
def scope? (p : Place) : Option Scope := p.above.findSome? (l.opened? source)

def surroundings (p : Place) : Surroundings :=
  ⟨(p.scope? l source).bind Scope.owner?, p.above.head?.map Node.kind⟩

/-- What the node at a place declares there. -/
def declared? (p : Place) : Option (String × DeclarationKind) :=
  (contribution l p.node source (p.surroundings l source)).declared

/-- The declaration at a place. -/
def declaration? (p : Place) : Option Declaration :=
  (p.declared? l source).map fun (name, kind) => Declaration.onSpan p.node.span name kind

variable {l source} in
theorem declaration?_eq_some_iff {p : Place} {d : Declaration} :
    p.declaration? l source = some d ↔
      p.declared? l source = some (d.name, d.kind) ∧ d = .onSpan p.node.span d.name d.kind := by
  unfold declaration?
  rw [Option.map_eq_some_iff]
  constructor
  · rintro ⟨declared, h, rfl⟩
    exact ⟨h, rfl⟩
  · rintro ⟨h, same⟩
    exact ⟨_, h, same.symm⟩

/-- The name of the node at a place. -/
def ownName (p : Place) : String := nameOf p.node source anonymous

/-- The rules by which a place declares something. -/
inductive Declares (p : Place) : String → DeclarationKind → Prop
  | method {owner name : String} (role : l.vocabulary.role p.node = .member)
      (inClass : p.scope? l source = some (.ofClass owner))
      (named : p.node.HasName source "anonymous" name) : Declares p (owner ++ "." ++ name) .method
  | outside {name : String} (other : l.isEcmaScript = false)
      (role : l.vocabulary.role p.node = .member)
      (outOfClass : ∀ owner, p.scope? l source ≠ some (.ofClass owner))
      (named : p.node.HasName source "anonymous" name) : Declares p name .function
  | function {name : String} (role : l.vocabulary.role p.node = .function)
      (named : p.node.HasName source "anonymous" name) : Declares p name .function
  | exported {name : String} (ecma : l.isEcmaScript = true) (role : l.vocabulary.role p.node = .value)
      (parent : p.above.head?.map Node.kind = some "export_statement")
      (named : p.node.HasName source "anonymous" name) : Declares p name .function
  | bound {name : String} (role : l.vocabulary.role p.node = .binding)
      (named : p.node.HasVariable l.vocabulary.variableField source name) :
      Declares p name .boundValue

variable {l source}

theorem owner_surroundings_eq_some_iff {p : Place} {name : String} :
    (p.surroundings l source).owner = some name ↔ p.scope? l source = some (.ofClass name) := by
  unfold surroundings
  cases p.scope? l source with
  | none => simp
  | some scope =>
    cases scope with
    | ofClass other => simp [Scope.owner?]
    | ofFunction => simp [Scope.owner?]

theorem owner_surroundings_eq_none_iff {p : Place} :
    (p.surroundings l source).owner = none ↔ ∀ name, p.scope? l source ≠ some (.ofClass name) := by
  simp only [Option.eq_none_iff_forall_ne_some, Ne, owner_surroundings_eq_some_iff]

theorem hasName_iff_eq_ownName {p : Place} {name : String} :
    p.node.HasName source "anonymous" name ↔ name = p.ownName source := Node.hasName_iff

theorem hasName_ownName (p : Place) : p.node.HasName source "anonymous" (p.ownName source) :=
  hasName_iff_eq_ownName.2 rfl

theorem declared?_eq_some_iff {p : Place} {name : String} {kind : DeclarationKind} :
    p.declared? l source = some (name, kind) ↔ p.Declares l source name kind := by
  unfold declared?
  rw [contribution_eq, contributionByRole]
  constructor
  · cases role : l.vocabulary.role p.node with
    | classLike | plain => rintro ⟨⟩
    | member =>
      cases owner : (p.surroundings l source).owner with
      | some owner =>
        rintro ⟨⟩
        exact .method role (owner_surroundings_eq_some_iff.1 ‹_›) p.hasName_ownName
      | none =>
        cases ecma : l.isEcmaScript with
        | true => rintro ⟨⟩
        | false =>
          rintro ⟨⟩
          exact .outside ecma role (owner_surroundings_eq_none_iff.1 owner) p.hasName_ownName
    | function =>
      rintro ⟨⟩
      exact .function role p.hasName_ownName
    | value =>
      dsimp only
      split
      · next exported =>
        rintro ⟨⟩
        exact .exported exported.1 role exported.2 p.hasName_ownName
      · rintro ⟨⟩
    | binding =>
      rintro ⟨⟩
      exact .bound role (Node.hasVariable_iff.2 rfl)
  · rintro (⟨role, inClass, named⟩ | ⟨other, role, outOfClass, named⟩ | ⟨role, named⟩ |
      ⟨ecma, role, parent, named⟩ | ⟨role, named⟩)
    · rw [role, owner_surroundings_eq_some_iff.2 inClass, Node.hasName_iff.1 named]
      rfl
    · rw [role, owner_surroundings_eq_none_iff.2 outOfClass, other, Node.hasName_iff.1 named]
      rfl
    · rw [role, Node.hasName_iff.1 named]
      rfl
    · rw [role, ecma, Node.hasName_iff.1 named]
      exact congrArg Contribution.declared (if_pos ⟨rfl, parent⟩)
    · rw [role, Node.hasVariable_iff.1 named]
      rfl

variable (l source)

theorem scope?_child (p : Place) (i : Nat) (n : Node) :
    (p.child i n).scope? l source = (l.opened? source p.node).or (p.scope? l source) := by
  unfold scope? child
  rw [List.findSome?_cons]
  cases l.opened? source p.node with
  | none => rfl
  | some scope => rfl

end Syntax.Place

/-! ## The walk -/

theorem owner_contribution (l : Language) (n : Node) (source : String) (place : Surroundings)
    (around : Option String) :
    (contribution l n source place).scope.owner around =
      match l.opened? source n with
      | some scope => scope.owner?
      | none => around := by
  rw [contribution_eq, contributionByRole, Language.opened?]
  cases l.vocabulary.role n with
  | classLike | function | binding | plain => rfl
  | member =>
    cases place.owner with
    | some owner => rfl
    | none =>
      cases l.isEcmaScript with
      | true => rfl
      | false => rfl
  | value =>
    dsimp only
    split
    · rfl
    · rfl

theorem declarationsInAll_eq_flatMap (l : Language) (source : String) (place : Surroundings)
    (children : List Node) :
    declarationsInAll l source place children = children.flatMap (declarationsIn l source place) := by
  induction children with
  | nil => rfl
  | cons n rest ih => rw [declarationsInAll, ih, List.flatMap_cons]

theorem declarationsIn_eq (l : Language) (source : String) (place : Surroundings) (n : Node) :
    declarationsIn l source place n =
      ((contribution l n source place).declared.map fun (name, kind) =>
        Declaration.onSpan n.span name kind).toList ++
      n.children.flatMap (declarationsIn l source
        ⟨(contribution l n source place).scope.owner place.owner, some n.kind⟩) := by
  obtain ⟨kind, field, span, children⟩ := n
  rw [declarationsIn, declarationsInAll_eq_flatMap]
  rfl

namespace Syntax.Place

theorem surroundings_child (l : Language) (source : String) (p : Place) (i : Nat) (n : Node) :
    (p.child i n).surroundings l source =
      ⟨(contribution l p.node source (p.surroundings l source)).scope.owner
        (p.surroundings l source).owner, some p.node.kind⟩ := by
  rw [owner_contribution, surroundings, scope?_child]
  cases l.opened? source p.node with
  | none => rfl
  | some scope => rfl

/-- The walk from a place on, with the scope that it has there, meets what the places below declare. -/
theorem declarationsIn_place (l : Language) (source : String) (p : Place) :
    declarationsIn l source (p.surroundings l source) p.node =
      p.places.filterMap (·.declaration? l source) := by
  induction p using induct with
  | step p ih =>
    have below : (p.node.children.zipIdx.flatMap fun c => (p.child c.2 c.1).places).filterMap
        (·.declaration? l source) = p.node.children.flatMap (declarationsIn l source
          ⟨(contribution l p.node source (p.surroundings l source)).scope.owner
            (p.surroundings l source).owner, some p.node.kind⟩) := by
      conv_rhs => rw [← List.zipIdx_map_fst 0 p.node.children, List.flatMap_map]
      rw [List.filterMap_flatMap]
      refine List.flatMap_congr fun c mem => ?_
      rw [← ih c.2 c.1 (List.mem_zipIdx_iff_getElem?.1 mem), surroundings_child]
      rfl
    rw [places_eq, List.filterMap_cons, below, declarationsIn_eq]
    unfold declaration? declared?
    cases (contribution l p.node source (p.surroundings l source)).declared with
    | none => rfl
    | some declared => rfl

end Syntax.Place

theorem declarations_eq (l : Language) (source : String) (root : Node) :
    declarations l source root = root.places.filterMap (·.declaration? l source) :=
  Place.declarationsIn_place l source root.top

/-! ## Functions and bindings -/

namespace Syntax.Place

variable {l : Language} {source : String} {p : Place}

/-- A function that may be a method is one exactly where a class is its scope. -/
theorem declared?_eq_method_iff (member : p.node.kind ∈ l.vocabulary.members) (owner : String) :
    p.declared? l source = some (owner ++ "." ++ p.ownName source, .method) ↔
      p.scope? l source = some (.ofClass owner) := by
  rw [declared?_eq_some_iff]
  constructor
  · generalize name : owner ++ "." ++ p.ownName source = whole
    rintro (⟨role, inClass, named⟩)
    rw [hasName_iff_eq_ownName.1 named, String.append_left_inj, String.append_left_inj] at name
    rwa [name]
  · exact fun inClass => .method (Language.role_eq_member_iff.2 member) inClass p.hasName_ownName

theorem declared?_of_no_class (member : p.node.kind ∈ l.vocabulary.members)
    (outOfClass : ∀ owner, p.scope? l source ≠ some (.ofClass owner)) :
    p.declared? l source =
      if l.isEcmaScript then none else some (p.ownName source, .function) := by
  have role := Language.role_eq_member_iff.2 member
  unfold declared?
  rw [contribution_eq, contributionByRole, role, owner_surroundings_eq_none_iff.2 outOfClass]
  cases l.isEcmaScript with
  | true => rfl
  | false => rfl

/-- A function value below its binding is not declared once more. -/
theorem declared?_bound_value (binds : l.vocabulary.Binds p.node) {i : Nat} {v : Node}
    (value : v.kind ∈ l.vocabulary.values) : (p.child i v).declared? l source = none := by
  have role := Language.role_eq_value_iff.2 value
  have kind : p.node.kind ≠ "export_statement" := by
    rw [binds.1]
    cases l <;> decide
  unfold declared?
  rw [contribution_eq, contributionByRole, show (p.child i v).node = v from rfl, role]
  refine congrArg Contribution.declared (if_neg fun exported => kind ?_)
  exact Option.some.inj exported.2

/-- The scope is that of a class where no function stands between the place and the class. -/
theorem scope?_eq_class_iff_nearest {name : String} :
    p.scope? l source = some (.ofClass name) ↔
      ∃ nearer owner farther, p.above = nearer ++ owner :: farther ∧
        (∀ n ∈ nearer, l.vocabulary.role n = .plain) ∧ owner.kind ∈ l.vocabulary.classes ∧
        owner.HasClassName source name := by
  unfold scope?
  rw [List.findSome?_eq_some_iff]
  simp only [Language.opened?_eq_class_iff, Language.opened?_eq_none_iff, Node.hasClassName_iff]
  constructor
  · rintro ⟨nearer, owner, farther, above, ⟨kind, named⟩, plain⟩
    exact ⟨nearer, owner, farther, above, plain, kind, named.symm⟩
  · rintro ⟨nearer, owner, farther, above, plain, kind, named⟩
    exact ⟨nearer, owner, farther, above, ⟨kind, named.symm⟩, plain⟩

end Syntax.Place

/-- **Classes and functions around a node decide what it declares.** The declarations of a tree are
those of its places, listed from the top in preorder. What a place declares follows from its node and
from the nearest node above it that opens a scope: a function that may be a method is one exactly where
this scope is that of a class, and named after it; other functions and bindings have their own names
everywhere, and a function that is bound to a variable is declared under it alone. -/
theorem declarations_follow_scopes (l : Language) (source : String) (root : Node) :
    declarations l source root = root.places.filterMap (·.declaration? l source) ∧
      root.places.Pairwise root.top.Walks ∧ (∀ p, p ∈ root.places ↔ root.top.Over p) ∧
      ∀ p ∈ root.places,
        (∀ name kind, p.declared? l source = some (name, kind) ↔ p.Declares l source name kind) ∧
        (∀ name, p.scope? l source = some (.ofClass name) ↔
          ∃ nearer owner farther, p.above = nearer ++ owner :: farther ∧
            (∀ n ∈ nearer, l.vocabulary.role n = .plain) ∧ owner.kind ∈ l.vocabulary.classes ∧
            owner.HasClassName source name) ∧
        (p.node.kind ∈ l.vocabulary.members → ∃ name, p.node.HasName source "anonymous" name ∧
          (∀ owner, p.declared? l source = some (owner ++ "." ++ name, .method) ↔
            p.scope? l source = some (.ofClass owner)) ∧
          ((∀ owner, p.scope? l source ≠ some (.ofClass owner)) → p.declared? l source =
            if l.isEcmaScript then none else some (name, .function))) ∧
        (p.node.kind ∈ l.vocabulary.functions → ∃ name, p.node.HasName source "anonymous" name ∧
          p.declared? l source = some (name, .function)) ∧
        (l.vocabulary.Binds p.node →
          ∃ name, p.node.HasVariable l.vocabulary.variableField source name ∧
            p.declared? l source = some (name, .boundValue) ∧
            ∀ i v, v.kind ∈ l.vocabulary.values → (p.child i v).declared? l source = none) := by
  refine ⟨declarations_eq l source root, Place.pairwise_places root.top,
    fun p => Place.mem_places_iff, fun p _ => ⟨fun name kind => Place.declared?_eq_some_iff,
      fun name => Place.scope?_eq_class_iff_nearest, ?_, ?_, ?_⟩⟩
  · intro member
    exact ⟨_, p.hasName_ownName, Place.declared?_eq_method_iff member,
      Place.declared?_of_no_class member⟩
  · intro function
    have role := Language.role_eq_function_iff.2 function
    exact ⟨_, p.hasName_ownName, Place.declared?_eq_some_iff.2 (.function role p.hasName_ownName)⟩
  · intro binds
    have role := Language.role_eq_binding_iff.2 binds
    have named : p.node.HasVariable l.vocabulary.variableField source _ := Node.hasVariable_iff.2 rfl
    exact ⟨_, named, Place.declared?_eq_some_iff.2 (.bound role named),
      fun i v => Place.declared?_bound_value binds⟩

/-- A method that binds a function to a variable and returns a class without a name. -/
def nestedClass : String :=
  "class A \x7b m() \x7b let g = () => \x7b\x7d; return class \x7b k() \x7b\x7d \x7d; \x7d \x7d"

def nestedClassTree : Node :=
  .mk "class_declaration" none ⟨0, 62, 0, 0⟩
    [.mk "class" none ⟨0, 5, 0, 0⟩ [],
      .mk "identifier" (some "name") ⟨6, 7, 0, 0⟩ [],
      .mk "class_body" (some "body") ⟨8, 62, 0, 0⟩
        [.mk "method_definition" none ⟨10, 60, 0, 0⟩
          [.mk "property_identifier" (some "name") ⟨10, 11, 0, 0⟩ [],
            .mk "statement_block" (some "body") ⟨14, 60, 0, 0⟩
              [.mk "lexical_declaration" none ⟨16, 32, 0, 0⟩
                [.mk "variable_declarator" none ⟨20, 31, 0, 0⟩
                  [.mk "identifier" (some "name") ⟨20, 21, 0, 0⟩ [],
                    .mk "arrow_function" (some "value") ⟨24, 31, 0, 0⟩ []]],
                .mk "return_statement" none ⟨34, 58, 0, 0⟩
                  [.mk "class" none ⟨41, 57, 0, 0⟩
                    [.mk "class" none ⟨41, 46, 0, 0⟩ [],
                      .mk "class_body" (some "body") ⟨47, 57, 0, 0⟩
                        [.mk "method_definition" none ⟨49, 54, 0, 0⟩
                          [.mk "property_identifier" (some "name") ⟨49, 50, 0, 0⟩ []]]]]]]]]

theorem declarations_follow_scopes_nested :
    nestedClassTree.places.filterMap (·.declaration? .javaScript nestedClass) =
      [⟨"A.m", 1, 1, .method⟩, ⟨"g", 1, 1, .boundValue⟩, ⟨"AnonymousClass.k", 1, 1, .method⟩] := by
  obtain ⟨walk, -⟩ := declarations_follow_scopes .javaScript nestedClass nestedClassTree
  rw [← walk]
  decide +kernel

end TestImpact
