import TestImpact.Text.Numeral
import TestImpact.Text.Search

/-! Quoted text in TOML: between double quotes with escapes, or between single quotes as it stands,
each on one line or, with three quotes, on several. Every reader begins behind the opening quotes
and gives the text with what follows the closing ones. -/

namespace TestImpact.Toml

/-- What a reader found, and the rest of the input. -/
abbrev Reading (α : Type) := Option (α × List Char)

/-- Control characters other than the tab have no place anywhere. -/
def isPlainChar (c : Char) : Bool :=
  c == '\t' || (0x20 ≤ c.toNat && c.toNat != 0x7F)

def isSpace (c : Char) : Bool :=
  c == ' ' || c == '\t'

/-- Puts characters before the text that was read. -/
def Reading.prepend (before : List Char) (r : Reading (List Char)) : Reading (List Char) :=
  r.map fun (text, rest) => (before ++ text, rest)

/-- A character by its number in a fixed count of hexadecimal digits. -/
def scalar? (count : Nat) (s : List Char) : Option (Char × List Char) :=
  let digits := s.take count
  if digits.length = count then
    match Text.readDigits? 16 digits with
    | some n => if n.isValidChar then some (Char.ofNat n, s.drop count) else none
    | none => none
  else none

def simpleEscape? : Char → Option Char
  | 'b' => some '\x08'
  | 't' => some '\t'
  | 'n' => some '\n'
  | 'f' => some '\x0c'
  | 'r' => some '\r'
  | '"' => some '"'
  | '\\' => some '\\'
  | _ => none

def escape? : List Char → Option (Char × List Char)
  | 'u' :: rest => scalar? 4 rest
  | 'U' :: rest => scalar? 8 rest
  | c :: rest => (simpleEscape? c).map fun e => (e, rest)
  | [] => none

theorem scalar?_length {count : Nat} {s rest : List Char} {c : Char}
    (h : scalar? count s = some (c, rest)) : rest.length ≤ s.length := by
  simp only [scalar?] at h
  split at h
  · split at h
    · split at h
      · simp only [Option.some.injEq, Prod.mk.injEq] at h
        rw [← h.2, List.length_drop]
        omega
      · simp at h
    · simp at h
  · simp at h

/-- An escape takes at least one character. -/
theorem escape?_length {s rest : List Char} {c : Char} (h : escape? s = some (c, rest)) :
    rest.length < s.length := by
  match s with
  | [] => simp [escape?] at h
  | d :: t =>
    simp only [escape?] at h
    split at h
    · next hs =>
      cases hs
      exact Nat.lt_succ_of_le (scalar?_length h)
    · next hs =>
      cases hs
      exact Nat.lt_succ_of_le (scalar?_length h)
    · next hs =>
      cases hs
      obtain ⟨e, _, he⟩ := Option.map_eq_some_iff.1 h
      cases he
      simp
    · next hs => cases hs

/-! ## On one line -/

/-- Text up to a double quote. -/
def basic (s : List Char) : Reading (List Char) :=
  match s with
  | [] => none
  | '"' :: rest => some ([], rest)
  | '\\' :: rest =>
    match _h : escape? rest with
    | some (c, after) => (basic after).prepend [c]
    | none => none
  | c :: rest => if isPlainChar c then (basic rest).prepend [c] else none
termination_by s.length
decreasing_by
  all_goals simp_wf
  · have := escape?_length _h
    omega

def literal : List Char → Reading (List Char)
  | [] => none
  | '\'' :: rest => some ([], rest)
  | c :: rest => if isPlainChar c then (literal rest).prepend [c] else none

/-! ## On several lines -/

def lineEnd? : List Char → Option (List Char)
  | '\n' :: rest => some rest
  | '\r' :: '\n' :: rest => some rest
  | _ => none

/-- The input behind blanks and line ends, the first of which must be a line end. This is what a
backslash at the end of a line leaves out. -/
def skipLineBreak? (s : List Char) : Option (List Char) :=
  (lineEnd? (s.dropWhile isSpace)).map fun rest => skipBlank rest
where
  skipBlank : List Char → List Char
    | '\n' :: rest => skipBlank rest
    | '\r' :: '\n' :: rest => skipBlank rest
    | ' ' :: rest => skipBlank rest
    | '\t' :: rest => skipBlank rest
    | rest => rest

/-- The end of a text that three quotes close: up to two quotes before them are part of it. -/
def closing? (quote : Char) (s : List Char) : Reading (List Char) :=
  let quotes := (s.takeWhile (· == quote)).take 5
  if 3 ≤ quotes.length then some (quotes.drop 3, s.drop quotes.length) else none

theorem skipBlank_length (s : List Char) : (skipLineBreak?.skipBlank s).length ≤ s.length := by
  fun_induction skipLineBreak?.skipBlank s with
  | case1 rest ih | case2 rest ih | case3 rest ih | case4 rest ih =>
    simp only [List.length_cons]
    omega
  | case5 => exact Nat.le_refl _

theorem lineEnd?_length {s rest : List Char} (h : lineEnd? s = some rest) :
    rest.length < s.length := by
  unfold lineEnd? at h
  split at h
  · cases h
    exact Nat.lt_succ_self _
  · cases h
    exact Nat.lt_succ_of_lt (Nat.lt_succ_self _)
  · cases h

theorem skipLineBreak?_length {s rest : List Char} (h : skipLineBreak? s = some rest) :
    rest.length < s.length := by
  obtain ⟨t, ht, rfl⟩ := Option.map_eq_some_iff.1 h
  have h1 := lineEnd?_length ht
  have h2 := skipBlank_length t
  have h3 := (List.dropWhile_suffix isSpace (l := s)).length_le
  omega

/-- Text with escapes up to three double quotes. Line ends become line feeds. -/
def basicLines (s : List Char) : Reading (List Char) :=
  match closing? '"' s with
  | some found => some found
  | none =>
    match s with
    | [] => none
    | '\n' :: rest => (basicLines rest).prepend ['\n']
    | '\r' :: '\n' :: rest => (basicLines rest).prepend ['\n']
    | '\\' :: rest =>
      match _h : skipLineBreak? rest with
      | some after => basicLines after
      | none =>
        match _h : escape? rest with
        | some (c, after) => (basicLines after).prepend [c]
        | none => none
    | c :: rest => if isPlainChar c then (basicLines rest).prepend [c] else none
termination_by s.length
decreasing_by
  all_goals simp only [List.length_cons]
  · omega
  · omega
  · have := skipLineBreak?_length _h
    omega
  · have := escape?_length _h
    omega
  · omega

/-- Text up to three single quotes. Line ends become line feeds. -/
def literalLines (s : List Char) : Reading (List Char) :=
  match closing? '\'' s with
  | some found => some found
  | none =>
    match s with
    | [] => none
    | '\n' :: rest => (literalLines rest).prepend ['\n']
    | '\r' :: '\n' :: rest => (literalLines rest).prepend ['\n']
    | c :: rest => if isPlainChar c then (literalLines rest).prepend [c] else none
termination_by s.length

/-- A line end right behind the opening quotes is left out. -/
def skipFirstLineEnd (s : List Char) : List Char :=
  (lineEnd? s).getD s

/-! ## Any quotes -/

def quotedLine : List Char → Reading (List Char)
  | '"' :: rest => basic rest
  | '\'' :: rest => literal rest
  | _ => none

/-- Quoted text on one or several lines. -/
def quotedText : List Char → Reading (List Char)
  | '"' :: '"' :: '"' :: rest => basicLines (skipFirstLineEnd rest)
  | '\'' :: '\'' :: '\'' :: rest => literalLines (skipFirstLineEnd rest)
  | s => quotedLine s

end TestImpact.Toml
