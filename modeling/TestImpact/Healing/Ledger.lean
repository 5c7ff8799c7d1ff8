import TestImpact.Number.Binary64
import TestImpact.Target.Selector
import TestImpact.Text.Numeral
import TestImpact.Timestamp

/-! The ledger of a run: every attempt to look something up, in the order of recording. Entries are
only added, and statistics are computed from the entries whenever they are asked for. -/

namespace TestImpact

/-- Which tier settled a look-up, or that none did. -/
inductive TierOutcome where
  | tier (number : UInt8)
  | failed
  deriving DecidableEq

namespace TierOutcome

/-- A look-up is healed when a tier behind the first settled it. -/
def isHealed : TierOutcome → Bool
  | tier number => 1 < number
  | failed => false

/-- The name under which an outcome is counted. -/
def key : TierOutcome → String
  | tier number => String.ofList (Text.decimal number.toNat)
  | failed => "failed"

end TierOutcome

inductive HealingSubject where
  | selectors (descriptor : SelectorDescriptor)
  | endpoint (path : String)
  deriving DecidableEq

structure HealingAttempt where
  subject : HealingSubject
  tier : TierOutcome
  success : Bool
  timestamp : Timestamp
  deriving DecidableEq

namespace HealingAttempt

/-- An attempt at a time. It succeeded unless it failed at every tier. -/
def make (subject : HealingSubject) (tier : TierOutcome) (timestamp : Timestamp) :
    HealingAttempt :=
  { subject, tier, success := tier != .failed, timestamp }

end HealingAttempt

/-! ## Counts by name -/

/-- Counts under names, in ascending order of the names. -/
abbrev Tally := List (String × Nat)

namespace Tally

def put (name : String) (count : Nat) : Tally → Tally
  | [] => [(name, count)]
  | (other, n) :: rest =>
    if name < other then (name, count) :: (other, n) :: rest
    else if name = other then (name, count) :: rest
    else (other, n) :: put name count rest

/-- The count under a name, zero if there is none. -/
def count (t : Tally) (name : String) : Nat :=
  (t.lookup name).getD 0

/-- Counts one more under a name. -/
def bump (t : Tally) (name : String) : Tally :=
  put name (t.count name + 1) t

end Tally

/-! ## Statistics -/

structure HealingStats where
  attempts : Nat
  successes : Nat
  /-- Successes at a tier behind the first. -/
  healed : Nat
  /-- Healed attempts by all of them, in double precision. -/
  healingRate : Fraction
  byTier : Tally
  deriving DecidableEq

namespace HealingStats

def ofAttempts (attempts : List HealingAttempt) : HealingStats :=
  let healed := attempts.countP fun a => a.tier.isHealed
  { attempts := attempts.length
    successes := attempts.countP (·.success)
    healed
    healingRate := (Binary64.ofCounts healed attempts.length).toFraction false
    byTier := attempts.foldl (fun tally a => tally.bump a.tier.key) [] }

end HealingStats

/-! ## The ledger -/

structure HealingLedger where
  entries : List HealingAttempt
  deriving DecidableEq

namespace HealingLedger

def empty : HealingLedger := ⟨[]⟩

instance : EmptyCollection HealingLedger := ⟨empty⟩
instance : Inhabited HealingLedger := ⟨empty⟩

def record (l : HealingLedger) (a : HealingAttempt) : HealingLedger :=
  ⟨l.entries ++ [a]⟩

/-- The ledger between two runs: nothing is left in it. -/
def reset (_ : HealingLedger) : HealingLedger := ∅

def size (l : HealingLedger) : Nat := l.entries.length

def isEmpty (l : HealingLedger) : Bool := l.entries.isEmpty

def stats (l : HealingLedger) : HealingStats :=
  .ofAttempts l.entries

@[simp] theorem entries_record (l : HealingLedger) (a : HealingAttempt) :
    (l.record a).entries = l.entries ++ [a] := rfl

end HealingLedger

end TestImpact
