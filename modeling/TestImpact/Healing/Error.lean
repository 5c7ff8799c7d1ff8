import TestImpact.Target.Selector

/-! What can go wrong while elements and endpoints are looked up. -/

namespace TestImpact

/-- A query that a page surface did not answer. -/
inductive SurfaceError where
  | timeout
  | invalidLocator (text : String)
  | driver (text : String)
  deriving DecidableEq

def SurfaceError.message : SurfaceError → String
  | timeout => "query timed out"
  | invalidLocator text => "invalid locator: " ++ text
  | driver text => "surface error: " ++ text

/-- A request that got no response. A response of any status is not an error. -/
inductive TransportError where
  | timeout (url : String)
  | invalidUrl (url reason : String)
  | network (url reason : String)
  deriving DecidableEq

def TransportError.message : TransportError → String
  | timeout url => "request to " ++ url ++ " timed out"
  | invalidUrl url reason => "invalid url " ++ url ++ ": " ++ reason
  | network url reason => "request to " ++ url ++ " failed: " ++ reason

/-- A look-up that no tier could settle. -/
inductive ResolveError where
  | elementNotFound (descriptor : SelectorDescriptor)
  | endpointUnresolved (path : String) (tiers : Nat) (source : TransportError)
  deriving DecidableEq

def ResolveError.message : ResolveError → String
  | elementNotFound descriptor => "element not found for " ++ descriptor.display
  | endpointUnresolved path tiers source =>
    s!"endpoint {path} unresolved after {tiers} tiers: {source.message}"

end TestImpact
