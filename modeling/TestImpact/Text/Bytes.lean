/-! Text as bytes: lengths and cuts in UTF-8 units, reading bytes as text, and writing text as
bytes. The reader is a machine over single bytes; its state says which bytes may come next, so a
byte it refuses is exactly one that no text can hold at that place. -/

namespace TestImpact.Text

/-! ## Lengths and cuts -/

/-- How many bytes a text takes. -/
def byteLength (s : List Char) : Nat :=
  s.foldr (fun c n => c.utf8Size + n) 0

/-- The text before and from byte `n` on, unless that is inside a character or past the end. -/
def splitAtByte? : Nat → List Char → Option (List Char × List Char)
  | 0, s => some ([], s)
  | _ + 1, [] => none
  | n + 1, c :: s =>
    if c.utf8Size ≤ n + 1 then
      (splitAtByte? (n + 1 - c.utf8Size) s).map fun (before, rest) => (c :: before, rest)
    else none

/-- The text from byte `first` up to byte `last`. -/
def byteSlice? (first last : Nat) (s : List Char) : Option (List Char) := do
  let (_, rest) ← splitAtByte? first s
  let (slice, _) ← splitAtByte? (last - first) rest
  return slice

/-! ## Bytes of a text -/

def encodeChar (c : Char) : List UInt8 :=
  let n := c.toNat
  let tail (shift : Nat) : UInt8 := UInt8.ofNat (0x80 + (n >>> shift) % 64)
  if n < 0x80 then [UInt8.ofNat n]
  else if n < 0x800 then [UInt8.ofNat (0xC0 + n >>> 6), tail 0]
  else if n < 0x10000 then [UInt8.ofNat (0xE0 + n >>> 12), tail 6, tail 0]
  else [UInt8.ofNat (0xF0 + n >>> 18), tail 12, tail 6, tail 0]

def encode (s : String) : List UInt8 :=
  s.toList.flatMap encodeChar

/-! ## Text of bytes -/

/-- How far into a character the reader is: how many bytes are owed, the bounds of the next one,
and the bits read so far. -/
structure Pending where
  owed : Nat
  low : Nat
  high : Nat
  bits : Nat

/-- What the first byte of a character says: a whole character, or what is still to come. -/
def firstByte (b : Nat) : Option (Sum Char Pending) :=
  if b < 0x80 then some (.inl (Char.ofNat b))
  else if b < 0xC2 then none
  else if b < 0xE0 then some (.inr ⟨1, 0x80, 0xBF, b - 0xC0⟩)
  else if b < 0xF0 then
    some (.inr ⟨2, if b = 0xE0 then 0xA0 else 0x80, if b = 0xED then 0x9F else 0xBF, b - 0xE0⟩)
  else if b < 0xF5 then
    some (.inr ⟨3, if b = 0xF0 then 0x90 else 0x80, if b = 0xF4 then 0x8F else 0xBF, b - 0xF0⟩)
  else none

def laterByte (p : Pending) (b : Nat) : Option (Sum Char Pending) :=
  if p.low ≤ b ∧ b ≤ p.high then
    let bits := p.bits * 64 + (b - 0x80)
    if p.owed ≤ 1 then some (.inl (Char.ofNat bits))
    else some (.inr ⟨p.owed - 1, 0x80, 0xBF, bits⟩)
  else none

/-- Reads bytes as characters; `none` stands for a longest stretch of bytes that begins like a
character and is not one. A byte that breaks a character off may begin the next one. -/
def readBytes : Option Pending → List UInt8 → List (Option Char)
  | none, [] => []
  | some _, [] => [none]
  | none, b :: rest =>
    match firstByte b.toNat with
    | none => none :: readBytes none rest
    | some (.inl c) => some c :: readBytes none rest
    | some (.inr p) => readBytes (some p) rest
  | some p, b :: rest =>
    match laterByte p b.toNat with
    | some (.inl c) => some c :: readBytes none rest
    | some (.inr p) => readBytes (some p) rest
    | none =>
      none :: match firstByte b.toNat with
        | none => none :: readBytes none rest
        | some (.inl c) => some c :: readBytes none rest
        | some (.inr p) => readBytes (some p) rest

/-- The text of some bytes, if all of them are text. -/
def decode? (bytes : List UInt8) : Option String :=
  ((readBytes none bytes).mapM id).map String.ofList

/-- The text of some bytes, with a replacement character for each stretch that is not text. -/
def decodeLossy (bytes : List UInt8) : String :=
  String.ofList ((readBytes none bytes).map (·.getD '\uFFFD'))

end TestImpact.Text
