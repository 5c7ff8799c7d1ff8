import TestImpact.Healing.Error
import TestImpact.Healing.Ledger
import TestImpact.HttpMethod
import TestImpact.Text.Blank
import TestImpact.Text.Search

/-! Looking up an endpoint by its path. Each tier changes the path in its own way, and each new
path is requested once; the first request that gets a response settles the look-up, whatever its
status. -/

namespace TestImpact

structure EndpointRequest where
  method : HttpMethod
  path : String
  timeout : Option Nat
  deriving DecidableEq

structure EndpointResponse where
  status : UInt16
  deriving DecidableEq

/-- Sends requests. An answer may depend on the requests before. -/
structure Transport where
  send : (earlier : List EndpointRequest) → EndpointRequest →
    Except TransportError EndpointResponse

/-! ## Paths -/

/-- A path with a slash in front. -/
def normalizePath (path : String) : String :=
  if Text.hasPrefix "/" path then path else "/" ++ path

/-- A path without slashes at its end; the root stays. -/
def stripTrailingSlashes (path : String) : String :=
  match Text.dropEndWhile (· == '/') path.toList with
  | [] => "/"
  | kept => String.ofList kept

def pluralWord (word : List Char) : List Char :=
  match Text.beforeSuffix? ['y'] word with
  | some stem => stem ++ ['i', 'e', 's']
  | none => if word.getLast? = some 's' then word else word ++ ['s']

/-- Whether a segment of a path names a resource rather than a parameter. -/
def namesResource (segment : List Char) : Bool :=
  !segment.isEmpty && segment.head? != some ':'

/-- The first segment that names a resource put into the plural. -/
def pluralizeFirst : List (List Char) → List (List Char)
  | [] => []
  | segment :: rest =>
    if namesResource segment then pluralWord segment :: rest else segment :: pluralizeFirst rest

/-- A path with its last resource in the plural. -/
def pluralizeResource (path : String) : String :=
  String.ofList (Text.joinWith '/' (pluralizeFirst (Text.splitAt '/' path.toList).reverse).reverse)

/-! ## Tiers -/

/-- A way to change a path, and the version of the interface that it speaks to. -/
structure EndpointTier where
  change : String → String
  version : Option String

namespace EndpointTier

def versioned (version : String) : EndpointTier :=
  ⟨fun path => "/" ++ version ++ path, some version⟩

/-- The tiers in their order; the first one is number one. -/
def all : List EndpointTier :=
  [⟨fun path => path, none⟩, versioned "api", versioned "v1", versioned "v2",
    ⟨stripTrailingSlashes, none⟩, ⟨pluralizeResource, none⟩]

def numbered : List (UInt8 × EndpointTier) :=
  all.zipIdx.map fun (tier, index) => (UInt8.ofNat (index + 1), tier)

end EndpointTier

/-! ## Looking up -/

structure EndpointResolution where
  requested : String
  resolvedPath : String
  tier : UInt8
  version : Option String
  healed : Bool
  status : UInt16
  deriving DecidableEq

/-- What came of the requests: a response at a tier, or the last error if anything was sent. -/
inductive EndpointFinding where
  | found (tier : UInt8) (version : Option String) (path : String) (response : EndpointResponse)
  | exhausted (last : Option TransportError)

/-- Requests the path of each tier unless an earlier tier had the same one. `sent` holds the requests
so far, and `last` the error of the last one. -/
def seekEndpoint (transport : Transport) (method : HttpMethod) (timeout : Option Nat)
    (path : String) (sent : List EndpointRequest) (last : Option TransportError) :
    List (UInt8 × EndpointTier) → List EndpointRequest × EndpointFinding
  | [] => (sent, .exhausted last)
  | (number, tier) :: rest =>
    let candidate := tier.change path
    if sent.any (·.path == candidate) then
      seekEndpoint transport method timeout path sent last rest
    else
      let request : EndpointRequest := ⟨method, candidate, timeout⟩
      match transport.send sent request with
      | .ok response => (sent ++ [request], .found number tier.version candidate response)
      | .error e =>
        seekEndpoint transport method timeout path (sent ++ [request]) (some e) rest

structure EndpointRun where
  result : Except ResolveError EndpointResolution
  sent : List EndpointRequest
  ledger : HealingLedger

/-- Looks an endpoint up at a time and records the attempt. -/
def resolveEndpoint (transport : Transport) (timeout : Option Nat) (now : Timestamp)
    (method : HttpMethod) (path : String) (ledger : HealingLedger) : EndpointRun :=
  let requested := normalizePath path
  let (sent, finding) :=
    seekEndpoint transport method timeout requested [] none EndpointTier.numbered
  let attempt (outcome : TierOutcome) := HealingAttempt.make (.endpoint requested) outcome now
  match finding with
  | .found tier version resolvedPath response =>
    { result := .ok {
        requested, resolvedPath, tier, version, healed := 1 < tier, status := response.status }
      sent
      ledger := ledger.record (attempt (.tier tier)) }
  | .exhausted last =>
    let source := last.getD (.network requested "no request issued")
    { result := .error (.endpointUnresolved requested sent.length source)
      sent
      ledger := ledger.record (attempt .failed) }

end TestImpact
