import TestImpact.Proofs.DeclaredPlaces

/-! Which methods are members of a class. A method is declared where a class is its scope, and the body
of a class is not the only place of this kind: no function has to stand between a class and an object
in one of its fields, in a static block or in what it extends. -/

namespace TestImpact

open Syntax (Node Place)

/-! ## Scopes by the nodes above -/

/-- A node of a kind that the language has no word for opens nothing. -/
theorem Language.opened?_of_notMem {l : Language} {n : Node} (source : String)
    (other : n.kind ∉ l.vocabulary.classes ++ l.vocabulary.members ++ l.vocabulary.functions ++
      l.vocabulary.values ++ [l.vocabulary.binding]) : l.opened? source n = none := by
  have plain : l.vocabulary.role n = .plain := by
    unfold Vocabulary.role Vocabulary.Binds
    grind
  rw [opened?, plain]

namespace Syntax.Place

/-- Between the place and the nearest class there is no function. -/
def IsDirectlyIn (l : Language) (source : String) (p : Place) (owner : Node) : Prop :=
  owner.kind ∈ l.vocabulary.classes ∧ ∃ between outer, p.above = between ++ owner :: outer ∧
    ∀ n ∈ between, l.opened? source n = none

/-- The node above is the body of a class. -/
def IsMemberOf (p : Place) (owner : Node) : Prop :=
  owner.kind ∈ Vocabulary.ecmaScript.classes ∧ ∃ body outer, p.above = body :: owner :: outer ∧
    body.kind = "class_body" ∧ owner.child? "body" = some body

variable {l : Language} {source : String} {p : Place}

theorem scope?_eq_class_iff {name : String} :
    p.scope? l source = some (.ofClass name) ↔
      ∃ owner, p.IsDirectlyIn l source owner ∧ className owner source = name := by
  unfold scope? IsDirectlyIn
  rw [List.findSome?_eq_some_iff]
  simp only [Language.opened?_eq_class_iff]
  constructor
  · rintro ⟨between, owner, outer, above, ⟨kind, named⟩, clear⟩
    exact ⟨owner, ⟨kind, between, outer, above, clear⟩, named⟩
  · rintro ⟨owner, ⟨kind, between, outer, above, clear⟩, named⟩
    exact ⟨between, owner, outer, above, ⟨kind, named⟩, clear⟩

variable (ecma : l.isEcmaScript = true)
include ecma

theorem IsMemberOf.isDirectlyIn (source : String) {owner : Node} (member : p.IsMemberOf owner) :
    p.IsDirectlyIn l source owner := by
  obtain ⟨kind, body, outer, above, bodyKind, -⟩ := member
  have words := Language.vocabulary_of_isEcmaScript ecma
  refine ⟨words ▸ kind, [body], outer, above, fun n mem => ?_⟩
  rw [List.mem_singleton.1 mem]
  refine Language.opened?_of_notMem source ?_
  rw [words, bodyKind]
  decide

/-- A method is declared where no function stands between it and a class. -/
theorem declared?_method_iff {name : String} :
    p.declared? l source = some (name, .method) ↔
      p.node.kind = "method_definition" ∧ ∃ owner, p.IsDirectlyIn l source owner ∧
        name = className owner source ++ "." ++ p.ownName source := by
  have words := Language.vocabulary_of_isEcmaScript ecma
  have kind : p.node.kind ∈ l.vocabulary.members ↔ p.node.kind = "method_definition" := by
    rw [words]
    exact List.mem_singleton
  constructor
  · intro declared
    rcases declared?_eq_some_iff.1 declared with ⟨role, inClass, named⟩
    obtain rfl := hasName_iff_eq_ownName.1 named
    obtain ⟨owner, directly, rfl⟩ := scope?_eq_class_iff.1 inClass
    exact ⟨kind.1 (Language.role_eq_member_iff.1 role), owner, directly, rfl⟩
  · rintro ⟨method, owner, directly, rfl⟩
    exact (declared?_eq_method_iff (kind.2 method) _).2 (scope?_eq_class_iff.2 ⟨owner, directly, rfl⟩)

/-- A method of an object is left out where the scope of the object is not that of a class. -/
theorem declared?_object_method (method : p.node.kind = "method_definition") {object : Node}
    {outer : List Node} (above : p.above = object :: outer) (kind : object.kind = "object") :
    p.declared? l source = none ↔
      ∀ name, outer.findSome? (l.opened? source) ≠ some (.ofClass name) := by
  have words := Language.vocabulary_of_isEcmaScript ecma
  have idle : l.opened? source object = none := by
    refine Language.opened?_of_notMem source ?_
    rw [words, kind]
    decide
  have scope : p.scope? l source = outer.findSome? (l.opened? source) := by
    rw [scope?, above, List.findSome?_cons, idle]
  have member : p.node.kind ∈ l.vocabulary.members := by
    rw [words, method]
    decide
  rw [← scope]
  constructor
  · intro undeclared name inClass
    rw [(declared?_eq_method_iff member name).2 inClass] at undeclared
    cases undeclared
  · intro outOfClass
    rw [declared?_of_no_class member outOfClass, if_pos ecma]

end Syntax.Place

/-- **Methods are the functions that stand directly in a class.** Every declared method comes from a
method with no function between it and a class, and is named after this class; members of a class are
among them. A method of an object is left out exactly where no class is the scope of the object. So
all declared methods are members of their class exactly where every other method has a function
between it and the nearest class, or no class above it. -/
theorem methods_are_members_iff {l : Language} (ecma : l.isEcmaScript = true) (source : String)
    (root : Node) :
    declarations l source root = root.places.filterMap (·.declaration? l source) ∧
      (∀ p ∈ root.places, ∀ name, p.declared? l source = some (name, .method) ↔
        p.node.kind = "method_definition" ∧ ∃ owner, p.IsDirectlyIn l source owner ∧
          name = className owner source ++ "." ++ p.ownName source) ∧
      (∀ p ∈ root.places, p.node.kind = "method_definition" →
        (∀ owner, p.IsMemberOf owner → p.IsDirectlyIn l source owner) ∧
        ∀ object outer, p.above = object :: outer → object.kind = "object" →
          (p.declared? l source = none ↔
            ∀ name, outer.findSome? (l.opened? source) ≠ some (.ofClass name))) ∧
      ((∀ p ∈ root.places, ∀ name, p.declared? l source = some (name, .method) →
          ∃ owner, p.IsMemberOf owner ∧ name = className owner source ++ "." ++ p.ownName source) ↔
        ∀ p ∈ root.places, p.node.kind = "method_definition" → (∀ owner, ¬ p.IsMemberOf owner) →
          ∀ owner, ¬ p.IsDirectlyIn l source owner) := by
  refine ⟨declarations_eq l source root, fun p _ name => Place.declared?_method_iff ecma,
    fun p _ method => ⟨fun owner => Place.IsMemberOf.isDirectlyIn ecma source,
      fun object outer => Place.declared?_object_method ecma method⟩, ?_⟩
  constructor
  · intro members p place method stray owner directly
    have declared := (Place.declared?_method_iff ecma).2 ⟨method, owner, directly, rfl⟩
    obtain ⟨other, member, -⟩ := members p place _ declared
    exact stray other member
  · intro guarded p place name declared
    obtain ⟨method, owner, directly, named⟩ := (Place.declared?_method_iff ecma).1 declared
    by_cases member : ∃ other, p.IsMemberOf other
    · obtain ⟨other, member⟩ := member
      -- the nearest class is the one that the place is a member of
      have again := (Place.declared?_method_iff ecma).2
        ⟨method, other, member.isDirectlyIn ecma source, rfl⟩
      rw [declared] at again
      exact ⟨other, member, (Prod.mk.inj (Option.some.inj again)).1⟩
    · exact absurd directly (guarded p place method (not_exists.1 member) owner)

/-- A class with an object in a field, and the method of this object. -/
def classWithObject : String := "class A \x7b\n  p = \x7b q() \x7b\x7d \x7d;\n\x7d\n"

def objectMethod : Node :=
  .mk "method_definition" none ⟨18, 24, 1, 1⟩
    [.mk "property_identifier" (some "name") ⟨18, 19, 1, 1⟩ [],
      .mk "formal_parameters" (some "parameters") ⟨19, 21, 1, 1⟩
        [.mk "(" none ⟨19, 20, 1, 1⟩ [], .mk ")" none ⟨20, 21, 1, 1⟩ []],
      .mk "statement_block" (some "body") ⟨22, 24, 1, 1⟩
        [.mk "\x7b" none ⟨22, 23, 1, 1⟩ [], .mk "\x7d" none ⟨23, 24, 1, 1⟩ []]]

def classWithObjectTree : Node :=
  .mk "program" none ⟨0, 30, 0, 3⟩
    [.mk "class_declaration" none ⟨0, 29, 0, 2⟩
      [.mk "class" none ⟨0, 5, 0, 0⟩ [],
        .mk "identifier" (some "name") ⟨6, 7, 0, 0⟩ [],
        .mk "class_body" (some "body") ⟨8, 29, 0, 2⟩
          [.mk "\x7b" none ⟨8, 9, 0, 0⟩ [],
            .mk "field_definition" (some "member") ⟨12, 26, 1, 1⟩
              [.mk "property_identifier" (some "property") ⟨12, 13, 1, 1⟩ [],
                .mk "=" none ⟨14, 15, 1, 1⟩ [],
                .mk "object" (some "value") ⟨16, 26, 1, 1⟩
                  [.mk "\x7b" none ⟨16, 17, 1, 1⟩ [], objectMethod,
                    .mk "\x7d" none ⟨25, 26, 1, 1⟩ []]],
            .mk ";" none ⟨26, 27, 1, 1⟩ [],
            .mk "\x7d" none ⟨28, 29, 2, 2⟩ []]]]

theorem methods_are_members_iff_object :
    Language.javaScript.isEcmaScript = true ∧
      ((∀ p ∈ classWithObjectTree.places, ∀ name,
          p.declared? .javaScript classWithObject = some (name, .method) →
          ∃ owner, p.IsMemberOf owner ∧
            name = className owner classWithObject ++ "." ++ p.ownName classWithObject) ↔
        ∀ p ∈ classWithObjectTree.places, p.node.kind = "method_definition" →
          (∀ owner, ¬ p.IsMemberOf owner) →
          ∀ owner, ¬ p.IsDirectlyIn .javaScript classWithObject owner) :=
  ⟨rfl, (methods_are_members_iff rfl classWithObject classWithObjectTree).2.2.2⟩

theorem above_of_method_classWithObject :
    ∀ p ∈ classWithObjectTree.places, p.node.kind = "method_definition" →
      p.above.head?.map Node.kind = some "object" := by
  decide +kernel

/-- The method of the object is declared as one of the class: neither are all methods members of their
class, nor are the methods of objects left out. -/
theorem object_method_declared :
    (¬ ∀ (l : Language) (source : String) (root : Node), l.isEcmaScript = true →
      ∀ d ∈ declarations l source root, d.kind = .method →
        ∃ p ∈ root.places, p.declaration? l source = some d ∧ p.node.kind = "method_definition" ∧
          ∃ owner, p.IsMemberOf owner ∧ d.name = className owner source ++ "." ++ p.ownName source) ∧
      ¬ ∀ (l : Language) (source : String) (root : Node), l.isEcmaScript = true →
        ∀ p ∈ root.places, p.node.kind = "method_definition" →
          p.above.head?.map Node.kind = some "object" → p.declaration? l source = none := by
  have found : declarations .javaScript classWithObject classWithObjectTree =
      [{ name := "A.q", startLine := 2, endLine := 2, kind := .method }] := by decide +kernel
  constructor
  · intro members
    obtain ⟨p, place, -, method, owner, ⟨-, body, outer, above, kind, -⟩, -⟩ :=
      members .javaScript classWithObject classWithObjectTree rfl _
        (found ▸ List.mem_singleton_self _) rfl
    have parent := above_of_method_classWithObject p place method
    rw [above, List.head?_cons, Option.map_some, kind] at parent
    exact absurd parent (by decide)
  · intro leftOut
    rw [declarations_eq] at found
    obtain ⟨p, place, declared⟩ := List.mem_filterMap.1 (found ▸ List.mem_singleton_self _)
    have method := (Place.declared?_method_iff rfl).1 (Place.declaration?_eq_some_iff.1 declared).1
    have none_declared := leftOut .javaScript classWithObject classWithObjectTree rfl p place method.1
      (above_of_method_classWithObject p place method.1)
    rw [declared] at none_declared
    cases none_declared

end TestImpact
