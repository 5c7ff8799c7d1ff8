import Mathlib.Data.List.Basic
import TestImpact.Syntax.Node

/-! The places of a syntax tree. A node can occur more than once in a tree, so places, not nodes, are
what a walk meets. They are listed in preorder: a place comes before those below it, and before those
that hang from a later child of a node above both. -/

namespace TestImpact.Syntax

mutual

theorem Node.induct {motive : Node → Prop}
    (step : ∀ n, (∀ c ∈ n.children, motive c) → motive n) : ∀ n, motive n
  | .mk _ _ _ children => step _ (Node.induct_children step children)

theorem Node.induct_children {motive : Node → Prop}
    (step : ∀ n, (∀ c ∈ n.children, motive c) → motive n) :
    ∀ children : List Node, ∀ c ∈ children, motive c
  | [], _, mem => nomatch mem
  | n :: rest, c, mem => by
    rcases List.mem_cons.1 mem with same | mem
    · rw [same]
      exact Node.induct step n
    · exact Node.induct_children step rest c mem

end

/-- A place in a tree: the numbers of the children on the way down to it, the nodes above it, of which
the nearest comes first, and the node there. -/
structure Place where
  address : List Nat
  above : List Node
  node : Node

mutual

/-- The places in a tree that itself stands at an address, in preorder. -/
def Node.placesAt (address : List Nat) (above : List Node) : Node → List Place
  | .mk kind field span children =>
    ⟨address, above, .mk kind field span children⟩ ::
      placesFrom 0 address (.mk kind field span children :: above) children

/-- The places in trees that stand beside each other, as the children from number `i` on. -/
def placesFrom (i : Nat) (address : List Nat) (above : List Node) : List Node → List Place
  | [] => []
  | n :: rest => n.placesAt (address ++ [i]) above ++ placesFrom (i + 1) address above rest

end

namespace Place

def child (p : Place) (i : Nat) (n : Node) : Place := ⟨p.address ++ [i], p.node :: p.above, n⟩

/-- The place itself and those below it. -/
def places (p : Place) : List Place := p.node.placesAt p.address p.above

/-- The place is another one or stands above it. -/
inductive Over : Place → Place → Prop
  | refl (p : Place) : p.Over p
  | down {p q : Place} {i : Nat} {n : Node} (at_child : p.node.children[i]? = some n)
      (under : (p.child i n).Over q) : p.Over q

/-- Below `top` there is a fork, and one place hangs from an earlier child there than the other one. -/
def Parts (top p q : Place) : Prop :=
  ∃ fork, top.Over fork ∧ ∃ i j m n, i < j ∧ fork.node.children[i]? = some m ∧
    fork.node.children[j]? = some n ∧ (fork.child i m).Over p ∧ (fork.child j n).Over q

/-- The order of places in a walk from `top` on: downwards, and from the first child to the last. -/
def Walks (top p q : Place) : Prop := p ≠ q ∧ (p.Over q ∨ top.Parts p q)

end Place

/-- The place at the top of a tree. -/
def Node.top (root : Node) : Place := ⟨[], [], root⟩

/-- All places of a tree in preorder. -/
def Node.places (root : Node) : List Place := root.top.places

theorem placesFrom_eq_flatMap (i : Nat) (address : List Nat) (above children : List Node) :
    placesFrom i address above children =
      (children.zipIdx i).flatMap fun c => c.1.placesAt (address ++ [c.2]) above := by
  induction children generalizing i with
  | nil => rfl
  | cons n rest ih => rw [placesFrom, ih, List.zipIdx_cons, List.flatMap_cons]

namespace Place

theorem places_eq (p : Place) :
    p.places = p :: p.node.children.zipIdx.flatMap fun c => (p.child c.2 c.1).places := by
  obtain ⟨address, above, kind, field, span, children⟩ := p
  rw [places, Node.placesAt, placesFrom_eq_flatMap]
  rfl

theorem induct {motive : Place → Prop}
    (step : ∀ p : Place, (∀ i n, p.node.children[i]? = some n → motive (p.child i n)) → motive p)
    (p : Place) : motive p := by
  obtain ⟨address, above, n⟩ := p
  induction n using Node.induct generalizing address above with
  | step n ih => exact step _ fun i c at_child => ih c (List.mem_of_getElem? at_child) _ _

theorem mem_places_cases {p q : Place} :
    q ∈ p.places ↔ q = p ∨ ∃ i n, p.node.children[i]? = some n ∧ q ∈ (p.child i n).places := by
  rw [places_eq, List.mem_cons, List.mem_flatMap]
  simp only [Prod.exists, List.mem_zipIdx_iff_getElem?]
  exact or_congr_right exists_comm

theorem mem_places_iff {p q : Place} : q ∈ p.places ↔ p.Over q := by
  constructor
  · induction p using induct with
    | step p ih =>
      intro mem
      rcases mem_places_cases.1 mem with rfl | ⟨i, n, at_child, mem⟩
      · exact .refl _
      · exact .down at_child (ih i n at_child mem)
  · intro under
    induction under with
    | refl p => exact mem_places_cases.2 (.inl rfl)
    | down at_child under ih => exact mem_places_cases.2 (.inr ⟨_, _, at_child, ih⟩)

theorem Over.trans {p q r : Place} (first : p.Over q) (second : q.Over r) : p.Over r := by
  induction first with
  | refl => exact second
  | down at_child under ih => exact .down at_child (ih second)

/-! ## Preorder -/

theorem Over.address_prefix {p q : Place} (under : p.Over q) : p.address <+: q.address := by
  induction under with
  | refl p => exact List.prefix_rfl
  | down at_child under ih => exact (List.prefix_append _ _).trans ih

theorem ne_of_child_over {p q : Place} {i : Nat} {n : Node} (under : (p.child i n).Over q) :
    p ≠ q := by
  rintro rfl
  have longer := under.address_prefix.length_le
  rw [child, List.length_append, List.length_singleton] at longer
  omega

theorem ne_of_children_over {p q r : Place} {i j : Nat} {m n : Node} (apart : i ≠ j)
    (left : (p.child i m).Over q) (right : (p.child j n).Over r) : q ≠ r := by
  rintro rfl
  have same := List.prefix_of_prefix_length_le left.address_prefix right.address_prefix
    (by simp [child])
  have equal := same.eq_of_length (by simp [child])
  exact apart (by simpa [child] using equal)

theorem Walks.up {top p q : Place} {i : Nat} {n : Node} (at_child : top.node.children[i]? = some n)
    (walks : (top.child i n).Walks p q) : top.Walks p q :=
  ⟨walks.1, walks.2.imp_right fun ⟨fork, under, parted⟩ => ⟨fork, .down at_child under, parted⟩⟩

theorem pairwise_places (p : Place) : p.places.Pairwise p.Walks := by
  induction p using induct with
  | step p ih =>
    rw [places_eq, List.pairwise_cons, List.pairwise_flatMap]
    refine ⟨fun q mem => ?_, fun c mem => ?_, ?_⟩
    · obtain ⟨⟨n, i⟩, at_child, mem⟩ := List.mem_flatMap.1 mem
      have under := mem_places_iff.1 mem
      exact ⟨ne_of_child_over under, .inl (.down (List.mem_zipIdx_iff_getElem?.1 at_child) under)⟩
    · have at_child := List.mem_zipIdx_iff_getElem?.1 mem
      exact (ih _ _ at_child).imp (Walks.up at_child)
    · -- children are numbered in ascending order, so what hangs from an earlier one is on the left
      have ascending : p.node.children.zipIdx.Pairwise fun c d => c.2 < d.2 :=
        List.pairwise_iff_getElem.2 fun i j hi hj lt => by
          rwa [List.getElem_zipIdx, List.getElem_zipIdx, Nat.zero_add, Nat.zero_add]
      refine ascending.imp_of_mem fun {c d} first second lt q left r right => ?_
      have underLeft := mem_places_iff.1 left
      have underRight := mem_places_iff.1 right
      exact ⟨ne_of_children_over (Nat.ne_of_lt lt) underLeft underRight,
        .inr ⟨p, .refl p, c.2, d.2, c.1, d.1, lt, List.mem_zipIdx_iff_getElem?.1 first,
          List.mem_zipIdx_iff_getElem?.1 second, underLeft, underRight⟩⟩

end Place

end TestImpact.Syntax
