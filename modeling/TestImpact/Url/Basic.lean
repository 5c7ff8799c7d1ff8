import TestImpact.Url.Host

/-! URLs as values, and their text. A URL has a scheme, perhaps an authority, a path, and perhaps a
query and a fragment. All parts are kept in the form in which they are written. -/

namespace TestImpact.Url

/-- Whom to ask: user, password, host and port. Without a port the scheme tells it. -/
structure Authority where
  user : List Char := []
  password : List Char := []
  host : Host
  port : Option Nat := none
  deriving DecidableEq

/-- A path of segments, each of which a slash precedes, or a text that has no parts. -/
inductive UrlPath where
  | segments (parts : List (List Char))
  | opaqueText (text : List Char)
  deriving DecidableEq

end Url

open Url

structure Url where
  scheme : List Char
  authority : Option Authority
  path : UrlPath
  query : Option (List Char)
  fragment : Option (List Char)
  deriving DecidableEq

namespace Url

/-! ## Schemes -/

inductive SchemeKind where
  /-- The schemes that name a server. -/
  | server
  | file
  | other
  deriving DecidableEq

/-- The schemes that name a server, with their usual ports. -/
def serverSchemes : List (String × Nat) :=
  [("http", 80), ("https", 443), ("ws", 80), ("wss", 443), ("ftp", 21)]

def usualPort? (scheme : List Char) : Option Nat :=
  serverSchemes.lookup (String.ofList scheme)

def kindOf (scheme : List Char) : SchemeKind :=
  if (usualPort? scheme).isSome then .server
  else if scheme = ['f', 'i', 'l', 'e'] then .file
  else .other

/-! ## Text -/

def Authority.userText (a : Authority) : List Char :=
  if a.user.isEmpty && a.password.isEmpty then []
  else a.user ++ (if a.password.isEmpty then [] else ':' :: a.password) ++ ['@']

def Authority.text (a : Authority) : List Char :=
  a.userText ++ a.host.text ++ (a.port.map fun p => ':' :: Text.decimal p).getD []

def UrlPath.text : UrlPath → List Char
  | segments parts => parts.flatMap ('/' :: ·)
  | opaqueText text => text

/-- What stands before the path. A path that begins with an empty segment could be taken for an
authority, so where there is none a dot comes first. -/
def beforePath (u : Url) : List Char :=
  match u.authority, u.path with
  | some a, _ => '/' :: '/' :: a.text
  | none, .segments ([] :: _ :: _) => ['/', '.']
  | none, _ => []

def chars (u : Url) : List Char :=
  u.scheme ++ ':' :: u.beforePath ++ u.path.text ++
    (u.query.map ('?' :: ·)).getD [] ++ (u.fragment.map ('#' :: ·)).getD []

def text (u : Url) : String := String.ofList u.chars

def withoutUser (u : Url) : Url :=
  { u with authority := u.authority.map fun a => { a with user := [], password := [] } }

end Url

end TestImpact
