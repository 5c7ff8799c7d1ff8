import Mathlib.Tactic.MkIffOfInductiveProp
import TestImpact.Proofs.DeclaredPlaces

/-! The lines of declarations. Where the nodes of a tree lie inside each other and one after the other, so do
the declarations: each begins no earlier than the ones before it, and two of them are nested, or share
at most the line on which the first one ends. -/

namespace TestImpact

namespace Syntax

/-- The rows of a node are in order, its children lie inside it, and each child begins no earlier than
the children before it end. -/
@[mk_iff]
structure Node.LaidOut (n : Node) : Prop where
  ordered : n.span.startRow ≤ n.span.stopRow
  inside : ∀ c ∈ n.children, n.span.startRow ≤ c.span.startRow ∧ c.span.stopRow ≤ n.span.stopRow
  apart : n.children.Pairwise fun c d => c.span.stopRow ≤ d.span.startRow

instance (n : Node) : Decidable n.LaidOut := decidable_of_iff' _ n.laidOut_iff

/-- A piece of a source with a character that is no line feed: bytes are counted in words of 32 bits,
and in front of its end there are more of them than rows. -/
@[mk_iff]
structure Span.IsText (s : Span) : Prop where
  rows_lt : s.stopRow < s.stopByte
  word : s.stopByte < UInt32.size

instance (s : Span) : Decidable s.IsText := decidable_of_iff' _ s.isText_iff

namespace Place

variable {top p q : Place}

/-- What is below a place lies inside it. -/
theorem Over.inside (laidOut : ∀ r, p.Over r → r.node.LaidOut) (under : p.Over q) :
    p.node.span.startRow ≤ q.node.span.startRow ∧ q.node.span.stopRow ≤ p.node.span.stopRow := by
  induction under with
  | refl p => exact ⟨Nat.le_refl _, Nat.le_refl _⟩
  | @down p q i n at_child under ih =>
    have within := (laidOut p (.refl p)).inside n (List.mem_of_getElem? at_child)
    have below := ih fun r under => laidOut r (.down at_child under)
    exact ⟨Nat.le_trans within.1 below.1, Nat.le_trans below.2 within.2⟩

/-- What hangs from an earlier child ends before what hangs from a later one begins. -/
theorem Parts.apart (laidOut : ∀ r, top.Over r → r.node.LaidOut) (parts : top.Parts p q) :
    p.node.span.stopRow ≤ q.node.span.startRow := by
  obtain ⟨fork, under, i, j, m, n, lt, left, right, underLeft, underRight⟩ := parts
  have children : m.span.stopRow ≤ n.span.startRow := by
    obtain ⟨hi, rfl⟩ := List.getElem?_eq_some_iff.1 left
    obtain ⟨hj, rfl⟩ := List.getElem?_eq_some_iff.1 right
    exact List.pairwise_iff_getElem.1 (laidOut fork under).apart i j hi hj lt
  have first := underLeft.inside fun r h => laidOut r (under.trans (.down left h))
  have second := underRight.inside fun r h => laidOut r (under.trans (.down right h))
  exact Nat.le_trans first.2 (Nat.le_trans children second.1)

end Place

end Syntax

open Syntax (Node Place Span)

/-! ## Rows and lines -/

theorem toNat_line (row : Nat) (fits : row + 1 < UInt32.size) :
    (UInt32.ofNat row + 1).toNat = row + 1 := by
  have line : UInt32.ofNat row + 1 = UInt32.ofNat (row + 1) := (UInt32.ofNat_add row 1).symm
  rw [line, UInt32.toNat_ofNat_of_lt' fits]

/-- The lines of a declaration are the rows of its node, counted from one. -/
theorem Declaration.toNat_onSpan {s : Span} (ordered : s.startRow ≤ s.stopRow) (text : s.IsText)
    (name : String) (kind : DeclarationKind) :
    (onSpan s name kind).startLine.toNat = s.startRow + 1 ∧
      (onSpan s name kind).endLine.toNat = s.stopRow + 1 := by
  have rows := text.rows_lt
  have word := text.word
  have start := toNat_line s.startRow (by omega)
  have stop := toNat_line s.stopRow (by omega)
  have order : ¬ UInt32.ofNat s.stopRow + 1 < UInt32.ofNat s.startRow + 1 := by
    rw [UInt32.lt_iff_toNat_lt, start, stop]
    omega
  exact ⟨start, (congrArg UInt32.toNat (if_neg order)).trans stop⟩

section

variable {l : Language} {source : String} {root : Node}
  (laidOut : ∀ p ∈ root.places, p.node.LaidOut)
  (text : ∀ p ∈ root.places, (p.declared? l source).isSome = true → p.node.span.IsText)
include laidOut text

theorem toNat_lines {p : Place} {d : Declaration} (place : p ∈ root.places)
    (declared : p.declaration? l source = some d) :
    d.startLine.toNat = p.node.span.startRow + 1 ∧ d.endLine.toNat = p.node.span.stopRow + 1 := by
  obtain ⟨named, onSpan⟩ := Place.declaration?_eq_some_iff.1 declared
  rw [onSpan]
  exact Declaration.toNat_onSpan (laidOut p place).ordered (text p place (by rw [named]; rfl)) _ _

/-- A declaration further down in the walk lies inside the one above it, and begins on or behind the
last line of one that is not above it. -/
theorem lines_of_walks {p q : Place} {d e : Declaration} (first : p ∈ root.places)
    (second : q ∈ root.places) (walks : root.top.Walks p q)
    (declaredFirst : p.declaration? l source = some d)
    (declaredSecond : q.declaration? l source = some e) :
    d.startLine ≤ e.startLine ∧ (p.Over q → e.endLine ≤ d.endLine) ∧
      (¬ p.Over q → d.endLine ≤ e.startLine) := by
  have below : ∀ r, root.top.Over r → r.node.LaidOut := fun r under =>
    laidOut r (Place.mem_places_iff.2 under)
  have ordered := (laidOut p first).ordered
  obtain ⟨startFirst, endFirst⟩ := toNat_lines laidOut text first declaredFirst
  obtain ⟨startSecond, endSecond⟩ := toNat_lines laidOut text second declaredSecond
  simp only [UInt32.le_iff_toNat_le, startFirst, endFirst, startSecond, endSecond]
  have inside (under : p.Over q) :=
    under.inside fun r h => below r ((Place.mem_places_iff.1 first).trans h)
  rcases walks.2 with under | parts
  · have within := inside under
    exact ⟨by omega, fun _ => by omega, fun apart => absurd under apart⟩
  · have apart := parts.apart below
    have orderedSecond := (laidOut q second).ordered
    refine ⟨by omega, fun under => ?_, fun _ => by omega⟩
    have within := inside under
    omega

/-- **The lines of declarations are ordered and nested.** In a tree whose nodes lie inside each other and
one after the other, every declaration has lines from one on, and begins no earlier than those before
it. Of two declarations the later one lies inside the earlier one if its node is below that of the
other one; if not, it begins on the last line of the other one or behind it, so that they share at most
this line. -/
theorem declarations_ordered_nested :
    declarations l source root = root.places.filterMap (·.declaration? l source) ∧
      (∀ d ∈ declarations l source root, 1 ≤ d.startLine ∧ d.startLine ≤ d.endLine) ∧
      (declarations l source root).Pairwise (fun d e => d.startLine ≤ e.startLine) ∧
      root.places.Pairwise fun p q => ∀ d e, p.declaration? l source = some d →
        q.declaration? l source = some e →
        (p.Over q → d.startLine ≤ e.startLine ∧ e.endLine ≤ d.endLine) ∧
        (¬ p.Over q → d.endLine ≤ e.startLine ∧
          ∀ n, d.contains n = true → e.contains n = true → n = d.endLine) := by
  refine ⟨declarations_eq l source root, fun d member => ?_, ?_, ?_⟩
  · rw [declarations_eq] at member
    obtain ⟨p, place, declared⟩ := List.mem_filterMap.1 member
    obtain ⟨start, stop⟩ := toNat_lines laidOut text place declared
    have ordered := (laidOut p place).ordered
    rw [UInt32.le_iff_toNat_le, UInt32.le_iff_toNat_le, start, stop]
    exact ⟨Nat.le_add_left 1 _, Nat.succ_le_succ ordered⟩
  · rw [declarations_eq, List.pairwise_filterMap]
    refine (Place.pairwise_places root.top).imp_of_mem ?_
    intro p q first second walks d declaredFirst e declaredSecond
    exact (lines_of_walks laidOut text first second walks declaredFirst declaredSecond).1
  · refine (Place.pairwise_places root.top).imp_of_mem ?_
    intro p q first second walks d e declaredFirst declaredSecond
    obtain ⟨start, inside, apart⟩ :=
      lines_of_walks laidOut text first second walks declaredFirst declaredSecond
    refine ⟨fun under => ⟨start, inside under⟩, fun unrelated => ⟨apart unrelated, ?_⟩⟩
    intro n inFirst inSecond
    simp only [Declaration.contains, Bool.and_eq_true, decide_eq_true_eq] at inFirst inSecond
    exact UInt32.le_antisymm inFirst.2 (UInt32.le_trans (apart unrelated) inSecond.1)

end

/-- A function inside another one, and a third one that begins on the last line of both. -/
def threeFunctions : String :=
  "function outer() \x7b\n  function inner() \x7b\x7d\n\x7d const f = () => 1;\n"

def parameters (start row : Nat) : Node :=
  .mk "formal_parameters" (some "parameters") ⟨start, start + 2, row, row⟩
    [.mk "(" none ⟨start, start + 1, row, row⟩ [], .mk ")" none ⟨start + 1, start + 2, row, row⟩ []]

def threeFunctionsTree : Node :=
  .mk "program" none ⟨0, 62, 0, 3⟩
    [.mk "function_declaration" none ⟨0, 42, 0, 2⟩
      [.mk "function" none ⟨0, 8, 0, 0⟩ [],
        .mk "identifier" (some "name") ⟨9, 14, 0, 0⟩ [],
        parameters 14 0,
        .mk "statement_block" (some "body") ⟨17, 42, 0, 2⟩
          [.mk "\x7b" none ⟨17, 18, 0, 0⟩ [],
            .mk "function_declaration" none ⟨21, 40, 1, 1⟩
              [.mk "function" none ⟨21, 29, 1, 1⟩ [],
                .mk "identifier" (some "name") ⟨30, 35, 1, 1⟩ [],
                parameters 35 1,
                .mk "statement_block" (some "body") ⟨38, 40, 1, 1⟩
                  [.mk "\x7b" none ⟨38, 39, 1, 1⟩ [], .mk "\x7d" none ⟨39, 40, 1, 1⟩ []]],
            .mk "\x7d" none ⟨41, 42, 2, 2⟩ []]],
      .mk "lexical_declaration" none ⟨43, 61, 2, 2⟩
        [.mk "const" (some "kind") ⟨43, 48, 2, 2⟩ [],
          .mk "variable_declarator" none ⟨49, 60, 2, 2⟩
            [.mk "identifier" (some "name") ⟨49, 50, 2, 2⟩ [],
              .mk "=" none ⟨51, 52, 2, 2⟩ [],
              .mk "arrow_function" (some "value") ⟨53, 60, 2, 2⟩
                [parameters 53 2, .mk "=>" none ⟨56, 58, 2, 2⟩ [],
                  .mk "number" (some "body") ⟨59, 60, 2, 2⟩ []]],
          .mk ";" none ⟨60, 61, 2, 2⟩ []]]

theorem laidOut_threeFunctions : ∀ p ∈ threeFunctionsTree.places, p.node.LaidOut := by
  decide +kernel

theorem isText_threeFunctions : ∀ p ∈ threeFunctionsTree.places,
    (p.declared? .javaScript threeFunctions).isSome = true → p.node.span.IsText := by
  decide +kernel

theorem declarations_ordered_nested_three :
    (∀ p ∈ threeFunctionsTree.places, p.node.LaidOut) ∧
      (∀ p ∈ threeFunctionsTree.places,
        (p.declared? .javaScript threeFunctions).isSome = true → p.node.span.IsText) ∧
      declarations .javaScript threeFunctions threeFunctionsTree =
        [{ name := "outer", startLine := 1, endLine := 3, kind := .function },
          { name := "inner", startLine := 2, endLine := 2, kind := .function },
          { name := "f", startLine := 3, endLine := 3, kind := .boundValue }] ∧
      threeFunctionsTree.places.Pairwise fun p q => ∀ d e,
        p.declaration? .javaScript threeFunctions = some d →
        q.declaration? .javaScript threeFunctions = some e →
        (p.Over q → d.startLine ≤ e.startLine ∧ e.endLine ≤ d.endLine) ∧
        (¬ p.Over q → d.endLine ≤ e.startLine ∧
          ∀ n, d.contains n = true → e.contains n = true → n = d.endLine) :=
  ⟨laidOut_threeFunctions, isText_threeFunctions, by decide +kernel,
    (declarations_ordered_nested laidOut_threeFunctions isText_threeFunctions).2.2.2⟩

end TestImpact
