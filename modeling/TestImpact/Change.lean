/-! How a declaration changed, and the record of changed declarations of one file. A record keeps
its names in the order in which they came; the first entry for a name stays. -/

namespace TestImpact

inductive Change where
  | added
  | modified
  | deleted
  deriving DecidableEq, Repr

namespace Change

def label : Change → String
  | added => "added"
  | modified => "modified"
  | deleted => "deleted"

/-- Every change, for looking one up by its word. -/
def all : List Change := [added, modified, deleted]

end Change

/-- Changed declarations by name, in the order of their first mention. -/
structure ChangeRecord where
  entries : List (String × Change)
  distinct : (entries.map Prod.fst).Nodup
  deriving DecidableEq

namespace ChangeRecord

def empty : ChangeRecord := ⟨[], .nil⟩

instance : EmptyCollection ChangeRecord := ⟨empty⟩
instance : Inhabited ChangeRecord := ⟨empty⟩

def names (r : ChangeRecord) : List String := r.entries.map Prod.fst

def size (r : ChangeRecord) : Nat := r.entries.length

def isEmpty (r : ChangeRecord) : Bool := r.entries.isEmpty

def get? (r : ChangeRecord) (name : String) : Option Change :=
  r.entries.lookup name

/-- Records a change unless the name has one already. -/
def insert (r : ChangeRecord) (name : String) (change : Change) : ChangeRecord :=
  if h : name ∈ r.names then r
  else
    ⟨r.entries ++ [(name, change)], by
      rw [List.map_append, List.nodup_append]
      refine ⟨r.distinct, by simp, ?_⟩
      rintro a ha b hb rfl
      simp only [List.map_cons, List.map_nil, List.mem_singleton] at hb
      exact h (hb ▸ ha)⟩

/-- The record of a list of entries, of which the first for each name counts. -/
def ofList (entries : List (String × Change)) : ChangeRecord :=
  entries.foldl (fun r (name, change) => r.insert name change) ∅

@[simp] theorem names_empty : (∅ : ChangeRecord).names = [] := rfl

theorem names_insert (r : ChangeRecord) (name : String) (change : Change) :
    (r.insert name change).names = if name ∈ r.names then r.names else r.names ++ [name] := by
  by_cases h : name ∈ r.names
  · rw [if_pos h, insert, dif_pos h]
  · rw [if_neg h, insert, dif_neg h]
    simp [names]

end ChangeRecord

end TestImpact
