import TestImpact.Text.Blank
import TestImpact.Text.Search
import TestImpact.Url.Basic

/-! Reading a URL from a text, alone or relative to a base. The text is cut at the first number sign
and the question mark before it; in what is left, slashes set off the authority and the segments of
the path. In the well-known schemes backslashes are slashes too. -/

namespace TestImpact.Url

/-! ## Pieces -/

/-- A text without control characters and spaces at its ends, and without tabs and line ends. -/
def clean (s : List Char) : List Char :=
  let inner := Text.dropEndWhile (·.toNat ≤ 0x20) (s.dropWhile (·.toNat ≤ 0x20))
  inner.filter fun c => !(c ∈ ['\t', '\n', '\r'])

def isSchemeChar (c : Char) : Bool :=
  c.isAlphanum || c == '+' || c == '-' || c == '.'

/-- The scheme of a text, in lower case, and what follows its colon. -/
def cutScheme? (s : List Char) : Option (List Char × List Char) :=
  if ((s.head?.map Char.isAlpha).getD false) then
    match s.dropWhile isSchemeChar with
    | ':' :: rest => some ((s.takeWhile isSchemeChar).map Char.toLower, rest)
    | _ => none
  else none

/-- A text up to its query and fragment, and these without the marks before them. -/
structure Pieces where
  front : List Char
  query : Option (List Char)
  fragment : Option (List Char)

def cutAt (mark : Char) (s : List Char) : List Char × Option (List Char) :=
  match Text.cutFirst? [mark] s with
  | some (before, behind) => (before, some behind)
  | none => (s, none)

def Pieces.of (s : List Char) : Pieces :=
  let (before, fragment) := cutAt '#' s
  let (front, query) := cutAt '?' before
  ⟨front, query, fragment⟩

def isSlash (kind : SchemeKind) (c : Char) : Bool :=
  c == '/' || (kind != .other && c == '\\')

def isAnySlash (c : Char) : Bool := c == '/' || c == '\\'

def encodeQuery (kind : SchemeKind) : List Char → List Char :=
  percentEncode (if kind = .other then querySet else specialQuerySet)

def close (kind : SchemeKind) (scheme : List Char) (authority : Option Authority) (path : UrlPath)
    (p : Pieces) : Url :=
  { scheme, authority, path
    query := p.query.map (encodeQuery kind)
    fragment := p.fragment.map (percentEncode fragmentSet) }

/-! ## Paths -/

/-- A segment that stays where it is. -/
def isSingleDot (segment : List Char) : Bool :=
  segment.map Char.toLower ∈ [['.'], ['%', '2', 'e']]

/-- A segment that leads upwards. -/
def isDoubleDot (segment : List Char) : Bool :=
  segment.map Char.toLower ∈
    [['.', '.'], ['.', '%', '2', 'e'], ['%', '2', 'e', '.'], ['%', '2', 'e', '%', '2', 'e']]

/-- A letter of a drive, which a colon or a bar follows. -/
def isDriveLetter (segment : List Char) : Bool :=
  match segment with
  | [letter, mark] => letter.isAlpha && (mark == ':' || mark == '|')
  | _ => false

/-- Segments without the last one. The letter of a drive stays if it is alone in the path of a file. -/
def shorten (kind : SchemeKind) (done : List (List Char)) : List (List Char) :=
  match kind, done with
  | .file, [segment] => if isDriveLetter segment then [segment] else []
  | _, _ => done.dropLast

/-- A segment as it is written behind others. In front of the path of a file a colon follows the letter
of a drive. -/
def settle (kind : SchemeKind) (done : List (List Char)) (segment : List Char) : List Char :=
  if kind = .file ∧ done = [] ∧ isDriveLetter segment then segment.take 1 ++ [':'] else segment

/-- Goes on from some segments by more of them. One that stays or leads upwards leaves an empty
segment behind if it is the last. -/
def walk (kind : SchemeKind) (done : List (List Char)) : List (List Char) → List (List Char)
  | [] => done
  | segment :: rest =>
    let ending : List (List Char) := if rest.isEmpty then [[]] else []
    if isDoubleDot segment then walk kind (shorten kind done ++ ending) rest
    else if isSingleDot segment then walk kind (done ++ ending) rest
    else walk kind (done ++ [settle kind done segment]) rest

/-- Segments without the empty ones in front of others, which the path of a file does not have. -/
def dropEmptyFront : List (List Char) → List (List Char)
  | [] :: next :: rest => dropEmptyFront (next :: rest)
  | segments => segments

def splitSegments (kind : SchemeKind) (s : List Char) : List (List Char) :=
  Text.splitAt '/' (s.map fun c => if isSlash kind c then '/' else c)

/-- Segments as the path of a URL has them. -/
def tidy (kind : SchemeKind) (segments : List (List Char)) : List (List Char) :=
  if kind = .file then dropEmptyFront segments else segments

/-- The segments to which some segments and a text lead. -/
def resolveSegments (kind : SchemeKind) (done : List (List Char)) (s : List Char) :
    List (List Char) :=
  walk kind done ((splitSegments kind s).map (percentEncode pathSet))

/-- The path that leads on from some segments by a text. -/
def resolvePath (kind : SchemeKind) (done : List (List Char)) (s : List Char) : UrlPath :=
  .segments (tidy kind (resolveSegments kind done s))

/-! ## Authorities -/

def readPort (scheme digits : List Char) : Except UrlError (Option Nat) :=
  if digits.isEmpty then .ok none
  else
    match Text.readBelow? 65536 digits with
    | none => .error .invalidPort
    | some port => .ok (if usualPort? scheme = some port then none else some port)

/-- The text before the first colon that is not in brackets, and what follows it. -/
def cutPort (brackets : Bool) : List Char → List Char × Option (List Char)
  | [] => ([], none)
  | c :: rest =>
    if c = ':' && !brackets then ([], some rest)
    else
      let (host, port) := cutPort (c == '[' || (brackets && c != ']')) rest
      (c :: host, port)

/-- The text before the last at sign, and what follows it. -/
def cutUser (s : List Char) : Option (List Char) × List Char :=
  match Text.cutLast? ['@'] s with
  | none => (none, s)
  | some (info, rest) => (some info, rest)

/-- Reads an authority. `atEnd` tells that nothing of the URL follows it. Without a host there is
neither a user nor a port, nor a lone at sign before a path. -/
def readAuthority (names : NameRules) (kind : SchemeKind) (scheme : List Char) (atEnd : Bool)
    (s : List Char) : Except UrlError Authority := do
  let (info, rest) := cutUser s
  let (userText, passwordText) := cutAt ':' (info.getD [])
  let user := percentEncode userSet userText
  let password := percentEncode userSet (passwordText.getD [])
  let (hostText, portText) := cutPort false rest
  let needsHost := kind != .other || portText.isSome || !user.isEmpty || !password.isEmpty ||
    (info == some [] && !atEnd)
  if hostText.isEmpty && needsHost then throw .emptyHost
  let host ← if kind = .other then Host.parseOpaque hostText else Host.parse names hostText
  let port ← readPort scheme (portText.getD [])
  return { user, password, host, port }

/-- Reads what stands behind the two slashes of an authority. -/
def readBehindSlashes (names : NameRules) (scheme s : List Char) : Except UrlError Url := do
  let kind := kindOf scheme
  let p := Pieces.of s
  let rest := p.front.dropWhile fun c => !isSlash kind c
  let atEnd := rest.isEmpty && p.query.isNone && p.fragment.isNone
  let authority ←
    readAuthority names kind scheme atEnd (p.front.takeWhile fun c => !isSlash kind c)
  let path : UrlPath :=
    if kind = .other && rest.isEmpty then .segments [] else resolvePath kind [] rest.tail
  return close kind scheme (some authority) path p

/-! ## References -/

/-- The segments of a URL that are left when its last one gives way. -/
def holdingSegments (base : Url) : List (List Char) :=
  match base.path with
  | .segments parts => shorten (kindOf base.scheme) parts
  | .opaqueText _ => []

def readRelative (names : NameRules) (base : Url) (s : List Char) : Except UrlError Url :=
  let kind := kindOf base.scheme
  let p := Pieces.of s
  let slashes := (p.front.takeWhile isAnySlash).length
  if p.front.isEmpty then
    match p.query with
    | none => .ok { base with fragment := p.fragment.map (percentEncode fragmentSet) }
    | some _ => .ok (close kind base.scheme base.authority base.path p)
  else if 2 ≤ slashes then
    match Text.afterPrefix? ['/', '/'] s with
    | some behind => readBehindSlashes names base.scheme behind
    | none => readBehindSlashes names base.scheme (s.drop slashes)
  else if slashes = 1 then
    .ok (close kind base.scheme base.authority (resolvePath kind [] p.front.tail) p)
  else
    .ok (close kind base.scheme base.authority (resolvePath kind (holdingSegments base) p.front) p)

/-! ## Files -/

def localHost : Authority := { host := .name [] }

/-- The URL of a file, with the query and the fragment of some pieces. -/
def fileUrl (authority : Authority) (path : UrlPath) (p : Pieces) : Url :=
  close .file ['f', 'i', 'l', 'e'] (some authority) path p

/-- Whether the first segment of a text is the letter of a drive. -/
def beginsWithDrive (front : List Char) : Bool :=
  isDriveLetter (front.takeWhile fun c => !isAnySlash c)

/-- Reads what stands behind the two slashes of a file. A file on a drive has no host. -/
def readFileHost (names : NameRules) (behind : List Char) (p : Pieces) : Except UrlError Url :=
  if beginsWithDrive behind then .ok (fileUrl localHost (resolvePath .file [] behind) p)
  else do
    let hostText := behind.takeWhile fun c => !isAnySlash c
    let rest := (behind.dropWhile fun c => !isAnySlash c).tail
    let host ← if hostText.isEmpty then .ok (.name []) else Host.parse names hostText
    let onDrive := ((resolveSegments .file [] rest).head?.map isDriveLetter).getD false
    let authority : Authority :=
      if host = .name "localhost".toList ∨ onDrive then localHost else { host }
    return fileUrl authority (resolvePath .file [] rest) p

/-- Where a file from the root of a base lies: on the drive of the base, or else at its host. -/
def rootOf (base : Url) : List (List Char) × Authority :=
  match base.path with
  | .segments (first :: _) =>
    if isDriveLetter first then ([first], localHost) else ([], base.authority.getD localHost)
  | _ => ([], base.authority.getD localHost)

/-- Reads a file, alone or relative to the URL of another one. -/
def readFile (names : NameRules) (base : Option Url) (s : List Char) : Except UrlError Url :=
  let p := Pieces.of s
  match ((p.front.take 2).takeWhile isAnySlash).length with
  | 0 =>
    match base.filter fun _ => !beginsWithDrive p.front with
    | some b => readRelative names b s
    | none => .ok (fileUrl localHost (resolvePath .file [] p.front) p)
  | 1 =>
    let (drive, authority) :=
      ((base.filter fun _ => !beginsWithDrive p.front.tail).map rootOf).getD ([], localHost)
    .ok (fileUrl authority (resolvePath .file drive p.front.tail) p)
  | _ => readFileHost names (p.front.drop 2) p

/-! ## URLs -/

/-- Reads what follows a scheme. In the scheme of the base, fewer than two slashes make it relative. -/
def readBehindScheme (names : NameRules) (base : Option Url) (scheme s : List Char) :
    Except UrlError Url :=
  let slashes := (s.takeWhile isAnySlash).length
  let own := base.filter fun b => b.scheme == scheme
  match kindOf scheme with
  | .server =>
    match own.filter fun _ => slashes < 2 with
    | some b => readRelative names b s
    | none => readBehindSlashes names scheme (s.drop slashes)
  | .file => readFile names own s
  | .other =>
    match Text.afterPrefix? ['/', '/'] s with
    | some behind => readBehindSlashes names scheme behind
    | none =>
      let p := Pieces.of s
      let path : UrlPath :=
        match p.front with
        | '/' :: rest => resolvePath .other [] rest
        | text => .opaqueText (percentEncode controlSet text)
      .ok (close .other scheme none path p)

/-- Whether a URL has a path without parts, to which nothing is relative but a fragment. -/
def isOpaque (u : Url) : Bool :=
  match u.path with
  | .opaqueText _ => true
  | .segments _ => false

/-- Reads what has no scheme of its own. -/
def readReference (names : NameRules) (base : Url) (s : List Char) : Except UrlError Url :=
  if kindOf base.scheme = .file then readFile names (some base) s else readRelative names base s

def parse (names : NameRules) (base : Option Url) (text : String) : Except UrlError Url :=
  let s := clean text.toList
  match cutScheme? s with
  | some (scheme, rest) => readBehindScheme names base scheme rest
  | none =>
    match base with
    | none => .error .relativeWithoutBase
    | some b =>
      if b.isOpaque && s.head? != some '#' then .error .relativeToOpaque
      else readReference names b s

end TestImpact.Url
