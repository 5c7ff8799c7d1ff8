/-! White space in the sense of Unicode: the characters that trimming removes from both ends of a
text and that a blank text consists of. -/

namespace TestImpact.Text

def isBlank (c : Char) : Bool :=
  let n := c.toNat
  (9 ≤ n && n ≤ 13) || n == 0x20 || n == 0x85 || n == 0xA0 || n == 0x1680 ||
    (0x2000 ≤ n && n ≤ 0x200A) || n == 0x2028 || n == 0x2029 || n == 0x202F || n == 0x205F ||
    n == 0x3000

def trimStart (s : List Char) : List Char :=
  s.dropWhile isBlank

/-- A text less the characters it ends with that satisfy `p`. -/
def dropEndWhile (p : Char → Bool) (s : List Char) : List Char :=
  (s.reverse.dropWhile p).reverse

theorem dropEndWhile_concat (p : Char → Bool) (s : List Char) (c : Char) :
    dropEndWhile p (s ++ [c]) = if p c then dropEndWhile p s else s ++ [c] := by
  rw [dropEndWhile, List.reverse_concat, List.dropWhile_cons]
  split
  · rfl
  · rw [List.reverse_cons, List.reverse_reverse]

theorem dropEndWhile_of_getLast? {p : Char → Bool} {s : List Char}
    (ends : ∀ c, s.getLast? = some c → p c = false) : dropEndWhile p s = s := by
  cases last : s.getLast? with
  | none =>
    rw [List.getLast?_eq_none_iff.1 last]
    rfl
  | some c =>
    obtain ⟨front, rfl⟩ := List.getLast?_eq_some_iff.1 last
    rw [dropEndWhile_concat, if_neg (Bool.not_eq_true _ ▸ ends c last)]

/-- A text less the blanks on both ends. -/
def trimChars (s : List Char) : List Char :=
  dropEndWhile isBlank (trimStart s)

def trim (s : String) : String :=
  String.ofList (trimChars s.toList)

/-- A text of blanks only, or no text at all. -/
def isAllBlank (s : String) : Bool :=
  s.toList.all isBlank

end TestImpact.Text
