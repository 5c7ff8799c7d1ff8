import TestImpact.Text.Bytes
import TestImpact.Text.Numeral

/-! Percent encoding: a byte as a percent sign and two hexadecimal digits. Each part of a URL has a
set of characters that it cannot hold as they are; characters outside ASCII belong to every set. -/

namespace TestImpact.Url

abbrev EncodeSet := Char → Bool

/-- Control characters and everything outside ASCII. -/
def controlSet : EncodeSet := fun c => c.toNat < 0x20 || 0x7E < c.toNat

def fragmentSet : EncodeSet := fun c => controlSet c || c ∈ [' ', '"', '<', '>', '`']

def querySet : EncodeSet := fun c => controlSet c || c ∈ [' ', '"', '#', '<', '>']

/-- Queries of well-known schemes encode single quotes too. -/
def specialQuerySet : EncodeSet := fun c => querySet c || c == '\''

def pathSet : EncodeSet := fun c => fragmentSet c || c ∈ ['#', '?', '\x7b', '\x7d']

def userSet : EncodeSet :=
  fun c => pathSet c || c ∈ ['/', ':', ';', '=', '@', '[', '\\', ']', '^', '|']

def percentByte (b : UInt8) : List Char :=
  let digit (n : Nat) : Char := (Nat.digitChar n).toUpper
  ['%', digit (b.toNat / 16), digit (b.toNat % 16)]

def percentEncode (set : EncodeSet) (s : List Char) : List Char :=
  s.flatMap fun c => if set c then (Text.encodeChar c).flatMap percentByte else [c]

theorem percentEncode_of_none {set : EncodeSet} {s : List Char} (h : ∀ c ∈ s, set c = false) :
    percentEncode set s = s := by
  induction s with
  | nil => rfl
  | cons c s ih =>
    simp only [List.mem_cons, forall_eq_or_imp] at h
    have := ih h.2
    simp only [percentEncode] at this ⊢
    simp [h.1, this]

/-- The bytes of a text, in which a percent sign with two hexadecimal digits stands for a byte. -/
def percentDecode : List Char → List UInt8
  | '%' :: a :: b :: rest =>
    match Text.digitValue? 16 a, Text.digitValue? 16 b with
    | some high, some low => UInt8.ofNat (high * 16 + low) :: percentDecode rest
    | _, _ => Text.encodeChar '%' ++ percentDecode (a :: b :: rest)
  | c :: rest => Text.encodeChar c ++ percentDecode rest
  | [] => []

end TestImpact.Url
