import TestImpact.Healing.Endpoint
import TestImpact.Url.Reader

/-! Requests to a server below a base address. The address of a request is its path read relative to
the base; what the server then does is left to an exchange. -/

namespace TestImpact

/-- What comes of one exchange with a server. -/
inductive Exchange where
  | response (status : UInt16)
  | timedOut
  | broken
  deriving DecidableEq

/-- Speaks to servers: a method, an address, and how many milliseconds there are. -/
abbrev Network := HttpMethod → Url → Option Nat → Exchange

namespace Url

/-- The URL with a slash at the end of its path, so that what is relative to it lies below it. -/
def asDirectory (u : Url) : Url :=
  match u.path with
  | .segments parts =>
    if parts.getLast? = some [] then u else { u with path := .segments (parts ++ [[]]) }
  | .opaqueText text =>
    if text.getLast? = some '/' then u else { u with path := .opaqueText (text ++ ['/']) }

/-- Characters that a host may have by the rules of URLs but not in a request. -/
def isRefusedInRequest (c : Char) : Bool :=
  c ∈ ['"', '`', '\x7b', '\x7d']

/-- Whether requests can be sent to a URL: its scheme is that of the web, and it has a host. -/
def isRequestable (u : Url) : Bool :=
  (String.ofList u.scheme ∈ ["http", "https"]) &&
    match u.authority with
    | some a => !a.host.isEmpty && !a.host.text.any isRefusedInRequest
    | none => false

end Url

open Url (NameRules)

structure HttpTransport where
  base : Url
  /-- How international names of hosts are read. -/
  names : NameRules

namespace HttpTransport

def ofBase (names : NameRules) (address : String) : Except TransportError HttpTransport :=
  match Url.parse names none address with
  | .ok url => .ok ⟨url.asDirectory, names⟩
  | .error e => .error (.invalidUrl address e.message)

/-- The address for a path; slashes at its front say nothing. -/
def urlFor (t : HttpTransport) (path : String) : Except TransportError Url :=
  match Url.parse t.names (some t.base) (String.ofList (path.toList.dropWhile (· == '/'))) with
  | .ok url => .ok url
  | .error e => .error (.invalidUrl path e.message)

/-- Sends one request. Reasons name the address without user and password. -/
def send (t : HttpTransport) (network : Network) (request : EndpointRequest) :
    Except TransportError EndpointResponse := do
  let url ← t.urlFor request.path
  let shown := url.withoutUser.text
  if url.isRequestable then
    match network request.method url request.timeout with
    | .response status => .ok ⟨status⟩
    | .timedOut => .error (.timeout url.text)
    | .broken => .error (.network url.text s!"error sending request for url ({shown})")
  else .error (.network url.text s!"builder error for url ({shown})")

/-- The transport as look-ups use it. -/
def through (t : HttpTransport) (network : Network) : Transport :=
  ⟨fun _ request => t.send network request⟩

end HttpTransport

end TestImpact
