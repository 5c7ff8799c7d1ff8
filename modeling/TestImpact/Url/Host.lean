import TestImpact.Url.Address
import TestImpact.Url.Error
import TestImpact.Url.Percent

/-! Hosts. In the well-known schemes a host is a domain name or an address: names are in lower case
and ASCII, and a name whose last label is a number is an address. How international names are brought
into ASCII is left to rules from outside. In other schemes a host is any text without delimiters. -/

namespace TestImpact.Url

inductive Host where
  | name (text : List Char)
  | ipv4 (address : Nat)
  | ipv6 (pieces : List Nat)
  deriving DecidableEq

def Host.text : Host → List Char
  | name text => text
  | ipv4 address => ipv4Text address
  | ipv6 pieces => '[' :: ipv6Text pieces ++ [']']

def Host.isEmpty : Host → Bool
  | name text => text.isEmpty
  | _ => false

/-! ## Domain names -/

/-- The rules of international names: the ASCII form of a name, if it has one. -/
abbrev NameRules := String → Option (List Char)

def isForbiddenInName (c : Char) : Bool :=
  c.toNat ≤ 0x20 || c.toNat == 0x7F ||
    c ∈ ['%', '#', '/', ':', '<', '>', '?', '@', '[', '\\', ']', '^', '|']

/-- What labels begin with that stand for others. -/
def acePrefix : List Char := ['x', 'n', '-', '-']

/-- Whether a name in lower case is in ASCII and stands for itself. -/
def isPlainName (name : List Char) : Bool :=
  name.all (·.toNat < 0x80) &&
    (Text.splitAt '.' name).all fun label => (Text.afterPrefix? acePrefix label).isNone

/-- The ASCII form of a name. A plain name only loses its capitals. -/
def nameToAscii? (names : NameRules) (text : String) : Option (List Char) :=
  let lower := text.toList.map Char.toLower
  let ascii := if isPlainName lower then some lower else names text
  ascii.filter fun name => !name.any isForbiddenInName

/-! ## Hosts -/

/-- An IPv6 address in brackets. -/
def bracketed? (s : List Char) : Option (List Nat) :=
  match s.getLast? with
  | some ']' => ipv6? s.dropLast.tail
  | _ => none

/-- A host of a well-known scheme. -/
def Host.parse (names : NameRules) (s : List Char) : Except UrlError Host :=
  if s.head? = some '[' then
    match bracketed? s with
    | some pieces => .ok (.ipv6 pieces)
    | none => .error .invalidIpv6
  else
    match (Text.decode? (percentDecode s)).bind (nameToAscii? names) with
    | none => .error .invalidName
    | some [] => .error .emptyHost
    | some ascii =>
      if endsInNumber ascii then
        match ipv4? ascii with
        | some address => .ok (.ipv4 address)
        | none => .error .invalidIpv4
      else .ok (.name ascii)

/-- Characters that no host of another scheme may have. -/
def isForbiddenInHost (c : Char) : Bool :=
  c ∈ ['\x00', '\t', '\n', '\r', ' ', '#', '/', ':', '<', '>', '?', '@', '[', '\\', ']', '^', '|']

/-- A host of another scheme. -/
def Host.parseOpaque (s : List Char) : Except UrlError Host :=
  if s.head? = some '[' then
    match bracketed? s with
    | some pieces => .ok (.ipv6 pieces)
    | none => .error .invalidIpv6
  else if s.any isForbiddenInHost then .error .invalidHostCharacter
  else .ok (.name (percentEncode controlSet s))

end TestImpact.Url
