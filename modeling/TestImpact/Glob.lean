/-! Wildcard patterns for paths. `?` is any character, `*` any run of characters and `**` any run of
whole path parts; `[…]` is one character of a set and `[!…]` one outside of it. A run may hold
slashes and begin with a dot. -/

namespace TestImpact

namespace Glob

/-- Part of a set: one character or a range. -/
inductive Member where
  | single (c : Char)
  | range (first last : Char)
  deriving DecidableEq

def Member.contains (c : Char) : Member → Bool
  | single d => c == d
  | range first last => first ≤ c && c ≤ last

inductive Token where
  | literal (c : Char)
  | any
  | within (members : List Member)
  | outside (members : List Member)
  | run
  | parts
  deriving DecidableEq

def Token.accepts (c : Char) : Token → Bool
  | literal d => c == d
  | any => true
  | within members => members.any (·.contains c)
  | outside members => !members.any (·.contains c)
  | run | parts => false

end Glob

structure Glob where
  tokens : List Glob.Token
  deriving DecidableEq

namespace Glob

/-! ## Reading -/

/-- The members of a set: `a-b` is a range, everything else stands for itself. -/
def readMembers : List Char → List Member
  | a :: '-' :: b :: rest => .range a b :: readMembers rest
  | c :: rest => .single c :: readMembers rest
  | [] => []

/-- The characters up to the first closing bracket after the first character, which always belongs
to the set, and what stands behind the bracket. -/
def readSet? : List Char → Option (List Char × List Char)
  | [] => none
  | first :: rest =>
    match rest.dropWhile (· != ']') with
    | [] => none
    | _ :: after => some (first :: rest.takeWhile (· != ']'), after)

/-- Adds `**` to the tokens read so far, the last one first; a second one in a row says no more,
unless the first began the pattern. -/
def addParts (before : List Token) : List Token :=
  match before with
  | .parts :: _ :: _ => before
  | _ => .parts :: before

/-- Reads a pattern. `previous` is the character before the rest, and `before` holds the tokens read
so far, the last one first. `**` has to be a whole part of the path and takes the slash behind it
with it. A character is read at each step, so the length of the text is enough fuel. -/
def readTokens : Nat → Option Char → List Token → List Char → Option (List Token)
  | 0, _, before, _ => some before.reverse
  | _ + 1, _, before, [] => some before.reverse
  | fuel + 1, _, before, '?' :: rest => readTokens fuel (some '?') (.any :: before) rest
  | _ + 1, _, _, '*' :: '*' :: '*' :: _ => none
  | fuel + 1, previous, before, '*' :: '*' :: rest =>
    if previous = none ∨ previous = some '/' then
      match rest with
      | [] => some (addParts before).reverse
      | '/' :: rest => readTokens fuel (some '/') (addParts before) rest
      | _ => none
    else none
  | fuel + 1, _, before, '*' :: rest => readTokens fuel (some '*') (.run :: before) rest
  | fuel + 1, _, before, '[' :: '!' :: rest =>
    match readSet? rest with
    | some (set, after) => readTokens fuel (some ']') (.outside (readMembers set) :: before) after
    | none => none
  | fuel + 1, _, before, '[' :: rest =>
    match readSet? rest with
    | some (set, after) => readTokens fuel (some ']') (.within (readMembers set) :: before) after
    | none => none
  | fuel + 1, _, before, c :: rest => readTokens fuel (some c) (.literal c :: before) rest

def parse? (pattern : String) : Option Glob :=
  (readTokens (pattern.length + 1) none [] pattern.toList).map Glob.mk

/-! ## Matching -/

/-- What came of matching the rest of a text. `hopeless` is a pattern that needs more characters than
are left, so that no longer run before it could help either. -/
inductive Verdict where
  | matched
  | failed
  | hopeless
  deriving DecidableEq

/-- Tries the rest of a pattern after every run of characters, the shortest first. With `whole` only
runs that end a path part are tried; an empty run always is. -/
def tryRuns (whole : Bool) (after : Bool → List Char → Verdict) : Bool → List Char → Verdict
  | atPart, [] => after atPart []
  | atPart, c :: rest =>
    match after atPart (c :: rest) with
    | .failed => skip (c == '/') rest
    | verdict => verdict
where
  /-- Goes on behind one character more, the last of which was a slash or not. -/
  skip (atPart : Bool) : List Char → Verdict
    | [] => after atPart []
    | c :: rest =>
      if whole && !atPart then skip (c == '/') rest
      else
        match after atPart (c :: rest) with
        | .failed => skip (c == '/') rest
        | verdict => verdict

/-- Matches a text against tokens; `atPart` tells whether a path part begins here. -/
def matchTokens : List Token → Bool → List Char → Verdict
  | [], _, [] => .matched
  | [], _, _ :: _ => .failed
  | token :: tokens, atPart, s =>
    match token with
    | .run => tryRuns false (matchTokens tokens) atPart s
    | .parts => tryRuns true (matchTokens tokens) atPart s
    | token =>
      match s with
      | [] => .hopeless
      | c :: rest => if token.accepts c then matchTokens tokens (c == '/') rest else .failed

def accepts (g : Glob) (text : String) : Bool :=
  matchTokens g.tokens true text.toList == .matched

end Glob

end TestImpact
