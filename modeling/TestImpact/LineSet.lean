/-! Line numbers and finite sets of them. Line numbers are words of 32 bits, and where a sum of two is
no such word there is no sum. A set is its ascending list, so two sets with the same members are
equal. -/

namespace TestImpact

/-- A line number, counted from one. -/
abbrev LineNumber := UInt32

namespace LineNumber

/-- The sum of two line numbers, and nothing where it is past the last one. -/
def add? (a b : LineNumber) : Option LineNumber :=
  if a.toNat + b.toNat < UInt32.size then some (a + b) else none

theorem add?_eq_some_iff {a b sum : LineNumber} :
    add? a b = some sum ↔ a.toNat + b.toNat < UInt32.size ∧ sum = a + b := by
  unfold add?
  split
  · next fits => simp [fits, eq_comm]
  · next beyond => simp [beyond]

end LineNumber

/-- A finite set of line numbers, listed in ascending order. -/
structure LineSet where
  toList : List LineNumber
  ascending : toList.Pairwise (· < ·)
  deriving DecidableEq

namespace LineSet

def empty : LineSet := ⟨[], .nil⟩

instance : EmptyCollection LineSet := ⟨empty⟩
instance : Inhabited LineSet := ⟨empty⟩
instance : Membership LineNumber LineSet := ⟨fun s n => n ∈ s.toList⟩

instance (n : LineNumber) (s : LineSet) : Decidable (n ∈ s) :=
  inferInstanceAs (Decidable (n ∈ s.toList))

theorem mem_def {n : LineNumber} {s : LineSet} : n ∈ s ↔ n ∈ s.toList := Iff.rfl

theorem nodup (s : LineSet) : s.toList.Nodup :=
  s.ascending.imp UInt32.ne_of_lt

@[simp] theorem not_mem_empty {n : LineNumber} : n ∉ (∅ : LineSet) := nofun

/-- Puts a number into its place in an ascending list, once. -/
def place (n : LineNumber) : List LineNumber → List LineNumber
  | [] => [n]
  | m :: rest => if n < m then n :: m :: rest else if n = m then m :: rest else m :: place n rest

theorem mem_place {n k : LineNumber} {l : List LineNumber} : k ∈ place n l ↔ k = n ∨ k ∈ l := by
  induction l with
  | nil => simp [place]
  | cons m rest ih =>
    simp only [place]
    split
    · simp
    · split
      · next h => simp [h]
      · simp [ih, or_left_comm]

theorem place_ascending {n : LineNumber} {l : List LineNumber} (h : l.Pairwise (· < ·)) :
    (place n l).Pairwise (· < ·) := by
  induction l with
  | nil => simp [place]
  | cons m rest ih =>
    obtain ⟨below, tail⟩ := List.pairwise_cons.1 h
    simp only [place]
    split
    · next hn =>
      refine List.pairwise_cons.2 ⟨fun k hk => ?_, h⟩
      rcases List.mem_cons.1 hk with rfl | hk
      · exact hn
      · exact UInt32.lt_trans hn (below k hk)
    · split
      · exact h
      · next hn he =>
        refine List.pairwise_cons.2 ⟨fun k hk => ?_, ih tail⟩
        rcases mem_place.1 hk with rfl | hk
        · exact UInt32.lt_of_le_of_ne (UInt32.not_lt.1 hn) (Ne.symm he)
        · exact below k hk

def insert (n : LineNumber) (s : LineSet) : LineSet :=
  ⟨place n s.toList, place_ascending s.ascending⟩

@[simp] theorem mem_insert {n k : LineNumber} {s : LineSet} : k ∈ s.insert n ↔ k = n ∨ k ∈ s :=
  mem_place

/-- The set of the numbers in a list, which may repeat and come in any order. -/
def ofList (l : List LineNumber) : LineSet :=
  l.foldr insert ∅

@[simp] theorem mem_ofList {k : LineNumber} {l : List LineNumber} : k ∈ ofList l ↔ k ∈ l := by
  induction l with
  | nil => simp [ofList]
  | cons n rest ih => simp [ofList, ← ih]

def filter (p : LineNumber → Bool) (s : LineSet) : LineSet :=
  ⟨s.toList.filter p, s.ascending.filter p⟩

@[simp] theorem mem_filter {p : LineNumber → Bool} {k : LineNumber} {s : LineSet} :
    k ∈ s.filter p ↔ k ∈ s ∧ p k = true :=
  List.mem_filter

def isEmpty (s : LineSet) : Bool := s.toList.isEmpty

def size (s : LineSet) : Nat := s.toList.length

end LineSet

end TestImpact
