import TestImpact.Diff.Section

/-! The first line of a section, and the path in it. The line has no quotes, so where its first path
ends is a guess: the middle, as if both paths were one, and otherwise the last ` b/`. A cut in the
middle finds something exactly where one byte stands between two halves of one length with `a/` and
`b/` in front. -/

namespace TestImpact

namespace Text

/-! ## Cuts at bytes -/

theorem byteLength_cons (c : Char) (s : List Char) : byteLength (c :: s) = c.utf8Size + byteLength s :=
  rfl

theorem byteLength_append (s t : List Char) : byteLength (s ++ t) = byteLength s + byteLength t := by
  induction s with
  | nil => simp [byteLength]
  | cons c s ih => rw [List.cons_append, byteLength_cons, byteLength_cons, ih, Nat.add_assoc]

/-- Only a character of one byte takes one byte. -/
theorem exists_of_byteLength_eq_one {s : List Char} (one : byteLength s = 1) :
    ∃ c, s = [c] ∧ c.utf8Size = 1 := by
  cases s with
  | nil => cases one
  | cons c s =>
    rw [byteLength_cons] at one
    have size := c.utf8Size_pos
    cases s with
    | nil => exact ⟨c, rfl, one⟩
    | cons d s =>
      rw [byteLength_cons] at one
      have := d.utf8Size_pos
      omega

/-- A text is cut where its front ends. -/
theorem splitAtByte?_append (s t : List Char) : splitAtByte? (byteLength s) (s ++ t) = some (s, t) := by
  induction s with
  | nil => rw [List.nil_append, byteLength, List.foldr_nil, splitAtByte?]
  | cons c s ih =>
    obtain ⟨n, hn⟩ : ∃ n, byteLength (c :: s) = n + 1 :=
      Nat.exists_eq_succ_of_ne_zero (by rw [byteLength_cons]; have := c.utf8Size_pos; omega)
    rw [byteLength_cons] at hn
    have rest : n + 1 - c.utf8Size = byteLength s := by omega
    rw [byteLength_cons, hn, List.cons_append, splitAtByte?, if_pos (by omega), rest, ih]
    rfl

theorem splitAtByte?_eq_some_iff {n : Nat} {s u v : List Char} :
    splitAtByte? n s = some (u, v) ↔ s = u ++ v ∧ byteLength u = n := by
  constructor
  · intro cut
    fun_induction splitAtByte? n s generalizing u with
    | case1 s =>
      cases cut
      exact ⟨rfl, rfl⟩
    | case2 n => cases cut
    | case3 n c s fits ih =>
      obtain ⟨⟨front, back⟩, below, joined⟩ := Option.map_eq_some_iff.1 cut
      cases joined
      obtain ⟨rfl, length⟩ := ih below
      refine ⟨rfl, ?_⟩
      rw [byteLength_cons, length]
      omega
    | case4 n c s inside => cases cut
  · rintro ⟨rfl, rfl⟩
    exact splitAtByte?_append u v

/-- Between two cuts that are one byte apart stands a character of one byte. -/
theorem exists_between_cuts {u v s t : List Char} (same : u ++ v = s ++ t)
    (apart : byteLength s = byteLength u + 1) : ∃ c, v = c :: t ∧ c.utf8Size = 1 := by
  rcases List.append_eq_append_iff.1 same with ⟨m, rfl, rfl⟩ | ⟨m, rfl, rfl⟩
  · rw [byteLength_append] at apart
    obtain ⟨c, rfl, one⟩ := exists_of_byteLength_eq_one (s := m) (by omega)
    exact ⟨c, rfl, one⟩
  · rw [byteLength_append] at apart
    omega

end Text

namespace Diff

open Text (byteLength byteLength_append byteLength_cons splitAtByte?_eq_some_iff)

variable {rest u w : List Char}

/-- Without the byte in its middle the rest falls into `a/` with a text, and `b/` with a text. -/
def Halves (rest u w : List Char) : Prop :=
  ∃ c : Char, c.utf8Size = 1 ∧ rest = "a/".toList ++ u ++ c :: ("b/".toList ++ w) ∧
    byteLength u = byteLength w

theorem Halves.byteLength_eq (h : Halves rest u w) : byteLength rest = 2 * byteLength u + 5 := by
  obtain ⟨c, one, rfl, same⟩ := h
  rw [byteLength_append, byteLength_append, byteLength_cons, byteLength_append, one, ← same]
  show 2 + byteLength u + (1 + (2 + byteLength u)) = _
  omega

/-- The halves are what the two cuts in the middle leave. -/
theorem halves_iff : Halves rest u w ↔ byteLength rest % 2 = 1 ∧
    (∃ v, Text.splitAtByte? (byteLength rest / 2) rest = some ("a/".toList ++ u, v)) ∧
      ∃ v, Text.splitAtByte? (byteLength rest / 2 + 1) rest = some (v, "b/".toList ++ w) := by
  have front_length (t : List Char) : byteLength ("a/".toList ++ t) = 2 + byteLength t :=
    byteLength_append _ t
  have back_length (t : List Char) : byteLength ("b/".toList ++ t) = 2 + byteLength t :=
    byteLength_append _ t
  simp only [splitAtByte?_eq_some_iff]
  constructor
  · intro h
    have whole := h.byteLength_eq
    obtain ⟨c, one, written, same⟩ := h
    refine ⟨by omega, ⟨_, written, ?_⟩, "a/".toList ++ u ++ [c], ?_, ?_⟩
    · rw [front_length]
      omega
    · rw [written]
      simp
    · rw [byteLength_append, front_length, byteLength_cons, one]
      show 2 + byteLength u + (1 + 0) = _
      omega
  · rintro ⟨odd, ⟨v, front, middle⟩, s, back, behind⟩
    obtain ⟨c, rfl, one⟩ := Text.exists_between_cuts (front.symm.trans back) (by omega)
    refine ⟨c, one, front, ?_⟩
    have whole := congrArg byteLength back
    rw [byteLength_append, behind, back_length] at whole
    rw [front_length] at middle
    omega

theorem Halves.unique {u' w' : List Char} (h : Halves rest u w) (h' : Halves rest u' w') :
    u = u' ∧ w = w' := by
  obtain ⟨-, ⟨_, front⟩, _, back⟩ := halves_iff.1 h
  obtain ⟨-, ⟨_, front'⟩, _, back'⟩ := halves_iff.1 h'
  have fronts := (Prod.mk.inj (Option.some.inj (front.symm.trans front'))).1
  have backs := (Prod.mk.inj (Option.some.inj (back.symm.trans back'))).2
  exact ⟨List.append_cancel_left fronts, List.append_cancel_left backs⟩

/-- Between equal halves the last ` b/` does not matter. -/
theorem pathOfFirstLine?_of_halves (h : Halves rest u w) :
    pathOfFirstLine? rest =
      if u = w then some w else (Text.cutLast? " b/".toList rest).map Prod.snd := by
  obtain ⟨odd, ⟨_, front⟩, _, back⟩ := halves_iff.1 h
  rw [pathOfFirstLine?, if_pos odd]
  simp only [front, back, Option.bind_eq_bind, Option.bind_some, Text.afterPrefix?_append,
    Option.pure_def]

theorem pathOfFirstLine?_of_even (even : byteLength rest % 2 = 0) :
    pathOfFirstLine? rest = (Text.cutLast? " b/".toList rest).map Prod.snd :=
  if_neg (by omega)

/-- Where the middle is no cut, the last ` b/` is not looked for. -/
theorem pathOfFirstLine?_eq_none (odd : byteLength rest % 2 = 1) (uncut : ∀ u w, ¬ Halves rest u w) :
    pathOfFirstLine? rest = none := by
  rw [Option.eq_none_iff_forall_ne_some]
  intro path found
  rw [pathOfFirstLine?, if_pos odd] at found
  simp only [Option.bind_eq_bind, Option.bind_eq_some_iff, Text.afterPrefix?_eq_some_iff] at found
  obtain ⟨⟨_, _⟩, front, u, rfl, ⟨_, _⟩, back, w, rfl, -⟩ := found
  exact uncut u w (halves_iff.2 ⟨odd, ⟨_, front⟩, _, back⟩)

end Diff

end TestImpact
