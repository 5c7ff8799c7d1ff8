import TestImpact.Healing.Error
import TestImpact.Healing.Ledger
import TestImpact.Healing.Locator

/-! Looking up an element by its hints. The hints are tried in tiers, the most telling ones first. A
query settles the look-up only if it finds exactly one element; none, several, and an error all mean
that the next query is tried. -/

namespace TestImpact

/-- A reference to an element, meaningful to the surface that gave it. -/
structure ElementHandle where
  name : String
  deriving DecidableEq

/-- A query put to a surface, with a bound in milliseconds on the time it may take. -/
structure ElementQuery where
  locator : Locator
  timeout : Option Nat
  deriving DecidableEq

/-- A page that answers queries with all elements found. An answer may depend on the queries before. -/
structure Surface where
  answer : (earlier : List ElementQuery) → ElementQuery → Except SurfaceError (List ElementHandle)

namespace ElementTier

def identity (d : SelectorDescriptor) : List Locator :=
  (d.testId.map .testId).toList ++ (d.id.map .id).toList

def css (d : SelectorDescriptor) : List Locator :=
  (d.css.map fun selector => .css selector d.context).toList

def xpath (d : SelectorDescriptor) : List Locator :=
  (d.xpath.map .xpath).toList

def text (d : SelectorDescriptor) : List Locator :=
  (d.text.map .text).toList ++ (d.partialText.map .partialText).toList

def role (d : SelectorDescriptor) : List Locator :=
  (d.role.map fun role => .role role d.name).toList

def description (d : SelectorDescriptor) : List Locator :=
  match d.description with
  | some text => [.text text, .label text, .placeholder text]
  | none => []

/-- The tiers in their order; the first one is number one. -/
def all : List (SelectorDescriptor → List Locator) :=
  [identity, css, xpath, text, role, description]

end ElementTier

def elementCandidates (d : SelectorDescriptor) : List (UInt8 × Locator) :=
  ElementTier.all.zipIdx.flatMap fun (tier, index) =>
    (tier d).map fun locator => (UInt8.ofNat (index + 1), locator)

/-- An element, with the query and the tier that found it. -/
structure ResolvedElement where
  handle : ElementHandle
  tier : UInt8
  locator : Locator
  deriving DecidableEq

namespace ResolvedElement

def isHealed (e : ResolvedElement) : Bool := 1 < e.tier

end ResolvedElement

/-- Puts queries until one finds exactly one element. `asked` holds the queries put so far. -/
def seekElement (surface : Surface) (timeout : Option Nat) (asked : List ElementQuery) :
    List (UInt8 × Locator) → List ElementQuery × Option ResolvedElement
  | [] => (asked, none)
  | (tier, locator) :: rest =>
    let query : ElementQuery := ⟨locator, timeout⟩
    match surface.answer asked query with
    | .ok [handle] => (asked ++ [query], some ⟨handle, tier, locator⟩)
    | _ => seekElement surface timeout (asked ++ [query]) rest

/-- What came of a look-up: its result, what was asked, and the ledger with the attempt. -/
structure ElementRun where
  result : Except ResolveError ResolvedElement
  asked : List ElementQuery
  ledger : HealingLedger

/-- Looks an element up at a time and records the attempt. -/
def resolveElement (surface : Surface) (timeout : Option Nat) (now : Timestamp)
    (descriptor : SelectorDescriptor) (ledger : HealingLedger) : ElementRun :=
  let (asked, found) := seekElement surface timeout [] (elementCandidates descriptor)
  let attempt (outcome : TierOutcome) := HealingAttempt.make (.selectors descriptor) outcome now
  match found with
  | some element =>
    { result := .ok element, asked, ledger := ledger.record (attempt (.tier element.tier)) }
  | none =>
    { result := .error (.elementNotFound descriptor), asked,
      ledger := ledger.record (attempt .failed) }

end TestImpact
