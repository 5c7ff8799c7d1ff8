import TestImpact.Healing.Element
import TestImpact.Healing.Endpoint

/-! Handles on ledgers. A copy of a handle stands for the same ledger as the handle it is made from:
what is recorded through one of them is seen through both, and a reset through one empties the ledger
for both. -/

namespace TestImpact

/-- What is done to a ledger. -/
inductive LedgerCall where
  | record (subject : HealingSubject) (tier : TierOutcome)
  | element (surface : Surface) (timeout : Option Nat) (descriptor : SelectorDescriptor)
  | endpoint (transport : Transport) (timeout : Option Nat) (method : HttpMethod) (path : String)
  | reset

namespace LedgerCall

/-- The ledger after a call at some time. -/
def apply (now : Timestamp) (ledger : HealingLedger) : LedgerCall → HealingLedger
  | record subject tier => ledger.record (.make subject tier now)
  | element surface timeout descriptor =>
    (resolveElement surface timeout now descriptor ledger).ledger
  | endpoint transport timeout method path =>
    (resolveEndpoint transport timeout now method path ledger).ledger
  | reset => ledger.reset

end LedgerCall

/-- Ledgers and the handles on them. A handle is a place in `handles`, where the number of its ledger
stands. -/
structure Ledgers where
  all : List HealingLedger
  handles : List Nat
  known : ∀ number ∈ handles, number < all.length

namespace Ledgers

/-- No ledger yet. -/
def empty : Ledgers := ⟨[], [], nofun⟩

instance : EmptyCollection Ledgers := ⟨empty⟩

theorem all_empty : (∅ : Ledgers).all = [] := rfl

/-- A new ledger, with a handle of its own behind the others. -/
def create (s : Ledgers) : Ledgers where
  all := s.all ++ [∅]
  handles := s.handles ++ [s.all.length]
  known := by
    intro number member
    rw [List.length_append, List.length_singleton]
    rcases List.mem_append.1 member with old | new
    · exact Nat.lt_succ_of_lt (s.known number old)
    · rw [List.mem_singleton.1 new]
      exact Nat.lt_succ_self _

/-- One more handle on the ledger of a handle, behind the others. -/
def copy (s : Ledgers) (handle : Nat) : Ledgers :=
  match stands : s.handles[handle]? with
  | none => s
  | some number =>
    { all := s.all
      handles := s.handles ++ [number]
      known := by
        intro other member
        rcases List.mem_append.1 member with old | new
        · exact s.known other old
        · rw [List.mem_singleton.1 new]
          exact s.known number (List.mem_of_getElem? stands) }

/-- Does something at some time to the ledger of a handle. -/
def call (s : Ledgers) (handle : Nat) (now : Timestamp) (c : LedgerCall) : Ledgers :=
  match s.handles[handle]? with
  | none => s
  | some number =>
    { s with
      all := s.all.modify number fun ledger => c.apply now ledger
      known := fun other member => by
        rw [List.length_modify]
        exact s.known other member }

def ledger? (s : Ledgers) (handle : Nat) : Option HealingLedger :=
  s.handles[handle]?.bind fun number => s.all[number]?

/-- Every handle has its ledger. -/
theorem ledger?_isSome {s : Ledgers} {handle : Nat} (there : handle < s.handles.length) :
    (s.ledger? handle).isSome = true := by
  have member : s.handles[handle] ∈ s.handles := List.getElem_mem there
  rw [ledger?, List.getElem?_eq_getElem there, Option.bind_some,
    List.getElem?_eq_getElem (s.known _ member)]
  rfl

end Ledgers

end TestImpact
