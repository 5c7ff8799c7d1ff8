import TestImpact.Diff.Script.Shortest

/-! The furthest points of one search. Diagonal `k` holds the points whose old line number exceeds
the new one by `k`; round `d` visits every second diagonal from `-d` to `d`. A search may run past the
ends of the texts, but not near the diagonal of the end point before the two searches meet. -/

namespace TestImpact.Diff

/-! ## Runs of equal lines -/

theorem runLength_same {a b : Array String} {x y fuel t : Nat} (h : t < runLength a b x y fuel) :
    ∃ line, a[x + t]? = some line ∧ b[y + t]? = some line := by
  induction fuel generalizing x y t with
  | zero => simp [runLength] at h
  | succ fuel ih =>
    rw [runLength] at h
    split at h
    · next l r hl hr =>
      split at h
      · next he =>
        cases t with
        | zero => exact ⟨l, hl, by rw [he]; exact hr⟩
        | succ t =>
          obtain ⟨line, ha, hb⟩ := ih (by omega : t < runLength a b (x + 1) (y + 1) fuel)
          exact ⟨line, by rwa [Nat.add_right_comm] at ha, by rwa [Nat.add_right_comm] at hb⟩
      · simp at h
    · simp at h

theorem le_slide (a b : Array String) (k : Int) (x : Nat) : x ≤ slide a b k x := by
  unfold slide
  dsimp only
  split
  · exact Nat.le_add_right ..
  · exact Nat.le_refl x

/-- The lines that a search slides over are equal. -/
theorem slide_same {a b : Array String} {k : Int} {x t : Nat} (low : x ≤ t)
    (high : t < slide a b k x) :
    ∃ line, a[t]? = some line ∧ b[((t : Int) - k).toNat]? = some line := by
  unfold slide at high
  dsimp only at high
  split at high
  · next inside =>
    have run : t - x < runLength a b x ((x : Int) - k).toNat a.size := by omega
    obtain ⟨line, ha, hb⟩ := runLength_same run
    refine ⟨line, by rwa [Nat.add_sub_of_le low] at ha, ?_⟩
    have place : ((x : Int) - k).toNat + (t - x) = ((t : Int) - k).toNat := by omega
    rwa [place] at hb
  · omega

theorem slide_inside {a b : Array String} {k : Int} {x : Nat} (moved : x < slide a b k x) :
    slide a b k x ≤ a.size ∧ (slide a b k x : Int) - k ≤ b.size := by
  have last : slide a b k x - 1 < slide a b k x := by omega
  obtain ⟨line, ha, hb⟩ := slide_same (Nat.le_sub_one_of_lt moved) last
  have old_size := (Array.getElem?_eq_some_iff.1 ha).1
  have new_size := (Array.getElem?_eq_some_iff.1 hb).1
  omega

/-! ## Rounds -/

def OnRound (d : Nat) (k : Int) : Prop :=
  -(d : Int) ≤ k ∧ k ≤ d ∧ (k + d) % 2 = 0

theorem mem_diagonals {d : Nat} {k : Int} : k ∈ diagonals d ↔ OnRound d k := by
  unfold diagonals OnRound
  simp only [List.mem_map, List.mem_range]
  constructor
  · rintro ⟨i, hi, rfl⟩
    omega
  · rintro ⟨low, high, parity⟩
    exact ⟨((d - k) / 2).toNat, by omega, by omega⟩

/-- Where diagonal `k` is entered in round `d`, given what was reached before. -/
def enterFrom (reached : Int → Nat) (d : Nat) (k : Int) : Nat :=
  if k = -d ∨ (k ≠ d ∧ reached (k - 1) < reached (k + 1)) then reached (k + 1)
  else reached (k - 1) + 1

/-- The furthest old line that round `d` reaches on a diagonal. -/
def furthest (a b : Array String) : Nat → Int → Nat
  | 0, k => slide a b k (enterFrom (fun _ => 0) 0 k)
  | d + 1, k => slide a b k (enterFrom (furthest a b d) (d + 1) k)

/-- A diagonal is entered from one of its neighbours in the round before. -/
theorem enterFrom_cases (reached : Int → Nat) {d : Nat} {k : Int} (on : OnRound (d + 1) k) :
    (OnRound d (k + 1) ∧ enterFrom reached (d + 1) k = reached (k + 1)) ∨
      (OnRound d (k - 1) ∧ enterFrom reached (d + 1) k = reached (k - 1) + 1) := by
  unfold OnRound at *
  unfold enterFrom
  split
  · next h => exact .inl ⟨by omega, rfl⟩
  · next h => exact .inr ⟨by omega, rfl⟩

section

variable {a b : Array String} {d : Nat} {k : Int}

/-- A round passes what was reached on the diagonal above. -/
theorem furthest_down (on : OnRound d (k + 1)) (here : OnRound (d + 1) k) :
    furthest a b d (k + 1) ≤ furthest a b (d + 1) k := by
  refine Nat.le_trans ?_ (le_slide a b k _)
  unfold OnRound at *
  unfold enterFrom
  split
  · exact Nat.le_refl _
  · omega

theorem furthest_right (on : OnRound d (k - 1)) (here : OnRound (d + 1) k) :
    furthest a b d (k - 1) < furthest a b (d + 1) k := by
  refine Nat.lt_of_lt_of_le ?_ (le_slide a b k _)
  unfold OnRound at *
  unfold enterFrom
  split <;> omega

theorem le_furthest (on : OnRound d k) : k ≤ furthest a b d k := by
  induction d generalizing k with
  | zero =>
    unfold OnRound at on
    omega
  | succ d ih =>
    rcases enterFrom_cases (furthest a b d) on with ⟨on', -⟩ | ⟨on', -⟩
    · have := ih on'
      have := furthest_down (a := a) (b := b) on' on
      omega
    · have := ih on'
      have := furthest_right (a := a) (b := b) on' on
      omega

/-- The first round stays inside the texts. -/
theorem furthest_zero_inside (on : OnRound 0 k) :
    furthest a b 0 k ≤ a.size ∧ (furthest a b 0 k : Int) - k ≤ b.size := by
  unfold OnRound at on
  rw [furthest]
  have start : enterFrom (fun _ => 0) 0 k = 0 := by
    unfold enterFrom
    rw [if_pos (.inl (by omega))]
  rw [start]
  by_cases moved : 0 < slide a b k 0
  · exact slide_inside moved
  · omega

/-- Past the end of a text nothing is left to slide over. -/
theorem furthest_eq_enter (past : a.size < furthest a b (d + 1) k ∨
    (b.size : Int) < furthest a b (d + 1) k - k) :
    furthest a b (d + 1) k = enterFrom (furthest a b d) (d + 1) k := by
  rw [furthest] at past ⊢
  rcases Nat.eq_or_lt_of_le (le_slide a b k (enterFrom (furthest a b d) (d + 1) k)) with he | moved
  · exact he.symm
  · have := slide_inside moved
    omega

/-- A search that is past the last old line on a diagonal was there on the one below, a round
before. -/
theorem furthest_past_old (on : OnRound (d + 1) k) (past : a.size < furthest a b (d + 1) k) :
    OnRound d (k - 1) ∧ a.size ≤ furthest a b d (k - 1) := by
  have entered := furthest_eq_enter (.inl past)
  induction d generalizing k with
  | zero =>
    rcases enterFrom_cases (furthest a b 0) on with ⟨on', he⟩ | ⟨on', he⟩
    · have := (furthest_zero_inside (a := a) (b := b) on').1
      omega
    · exact ⟨on', by omega⟩
  | succ d ih =>
    rcases enterFrom_cases (furthest a b (d + 1)) on with ⟨on', he⟩ | ⟨on', he⟩
    -- Entered from above, that diagonal was past the end too, so this one was at the end before it.
    · have past' : a.size < furthest a b (d + 1) (k + 1) := by omega
      obtain ⟨on'', reached⟩ := ih on' past' (furthest_eq_enter (.inl past'))
      rw [Int.add_sub_cancel] at on'' reached
      have here : OnRound (d + 1) (k - 1) := by
        unfold OnRound at *
        omega
      have down : furthest a b d (k - 1 + 1) ≤ furthest a b (d + 1) (k - 1) :=
        furthest_down (by rwa [Int.sub_add_cancel]) here
      rw [Int.sub_add_cancel] at down
      exact ⟨here, Nat.le_trans reached down⟩
    · exact ⟨on', by omega⟩

/-- A search that is past the last new line on a diagonal was there on the one above, a round
before. -/
theorem furthest_past_new (on : OnRound (d + 1) k)
    (past : (b.size : Int) < furthest a b (d + 1) k - k) :
    OnRound d (k + 1) ∧ (b.size : Int) ≤ furthest a b d (k + 1) - (k + 1) := by
  have entered := furthest_eq_enter (.inr past)
  induction d generalizing k with
  | zero =>
    rcases enterFrom_cases (furthest a b 0) on with ⟨on', he⟩ | ⟨on', he⟩
    · exact ⟨on', by omega⟩
    · have := (furthest_zero_inside (a := a) (b := b) on').2
      omega
  | succ d ih =>
    rcases enterFrom_cases (furthest a b (d + 1)) on with ⟨on', he⟩ | ⟨on', he⟩
    · exact ⟨on', by omega⟩
    · have past' : (b.size : Int) < furthest a b (d + 1) (k - 1) - (k - 1) := by omega
      obtain ⟨on'', reached⟩ := ih on' past' (furthest_eq_enter (.inr past'))
      rw [Int.sub_add_cancel] at on'' reached
      have here : OnRound (d + 1) (k + 1) := by
        unfold OnRound at *
        omega
      have right : furthest a b d (k + 1 - 1) < furthest a b (d + 1) (k + 1) :=
        furthest_right (by rwa [Int.add_sub_cancel]) here
      rw [Int.add_sub_cancel] at right
      exact ⟨here, by omega⟩

end

/-! ## Before the searches meet -/

/-- The diagonals near that of the end point. -/
def Near (delta : Int) (c d : Nat) (k : Int) : Prop :=
  -((d : Int) - c) ≤ k - delta ∧ k - delta ≤ (d : Int) - c

/-- Near the diagonal of the end point a round has not reached the end of either text. -/
def ShortOf (a b : Array String) (c d : Nat) : Prop :=
  ∀ k, OnRound d k → Near (a.size - b.size) c d k →
    furthest a b d k < a.size ∧ (furthest a b d k : Int) - k < b.size

section

variable {a b : Array String} {c d : Nat} {k : Int}

/-- Next to the near diagonals, on the side of the old lines, a round that is short of the ends does
not pass the last old line. -/
theorem ShortOf.upper_edge (short : ShortOf a b c d) (on : OnRound d k)
    (edge : k - ((a.size : Int) - b.size) = d - c + 2) (small : c ≤ 1) :
    furthest a b d k ≤ a.size := by
  refine Nat.le_of_not_lt fun past => ?_
  cases d with
  | zero =>
    have := (furthest_zero_inside (a := a) (b := b) on).1
    omega
  | succ d =>
    obtain ⟨on', reached⟩ := furthest_past_old on past
    have here : OnRound (d + 1) (k - 2) := by
      unfold OnRound at *
      omega
    have above : k - 2 + 1 = k - 1 := by omega
    have down : furthest a b d (k - 2 + 1) ≤ furthest a b (d + 1) (k - 2) :=
      furthest_down (by rwa [above]) here
    rw [above] at down
    have := short (k - 2) here (by unfold Near; omega)
    omega

/-- The same on the side of the new lines. -/
theorem ShortOf.lower_edge (short : ShortOf a b c d) (on : OnRound d k)
    (edge : k - ((a.size : Int) - b.size) = -(d - c + 2)) (small : c ≤ 1) :
    (furthest a b d k : Int) - k ≤ b.size := by
  refine Int.not_lt.1 fun past => ?_
  cases d with
  | zero =>
    have := (furthest_zero_inside (a := a) (b := b) on).2
    omega
  | succ d =>
    obtain ⟨on', reached⟩ := furthest_past_new on past
    have here : OnRound (d + 1) (k + 2) := by
      unfold OnRound at *
      omega
    have below : k + 2 - 1 = k + 1 := by omega
    have right : furthest a b d (k + 2 - 1) < furthest a b (d + 1) (k + 2) :=
      furthest_right (by rwa [below]) here
    rw [below] at right
    have := short (k + 2) here (by unfold Near; omega)
    omega

/-- While the round before was short of the ends, the next one is entered inside the texts near the
diagonal of the end point. -/
theorem ShortOf.enter_inside (short : ShortOf a b c d) (on : OnRound (d + 1) k)
    (near : Near (a.size - b.size) c (d + 1) k) (small : c ≤ 1)
    (parity : ((a.size : Int) - b.size + c) % 2 = 0) :
    enterFrom (furthest a b d) (d + 1) k ≤ a.size ∧
      (enterFrom (furthest a b d) (d + 1) k : Int) - k ≤ b.size := by
  unfold Near at near
  have step := on
  unfold OnRound at step
  rcases enterFrom_cases (furthest a b d) on with ⟨on', he⟩ | ⟨on', he⟩
  · rw [he]
    by_cases inner : k + 1 - ((a.size : Int) - b.size) ≤ d - c
    · have := short (k + 1) on' (by unfold Near; omega)
      omega
    · have := short.upper_edge on' (by omega) small
      omega
  · rw [he]
    by_cases inner : -((d : Int) - c) ≤ k - 1 - ((a.size : Int) - b.size)
    · have := short (k - 1) on' (by unfold Near; omega)
      omega
    · have := short.lower_edge on' (by omega) small
      omega

/-- Then the end point itself is not entered. -/
theorem ShortOf.enter_lt (short : ShortOf a b c d) (zero : furthest a b 0 0 = 0)
    (nonempty : 0 < a.size ∧ 0 < b.size) (on : OnRound (d + 1) k) (small : c ≤ 1)
    (diagonal : k = a.size - b.size) (parity : ((a.size : Int) - b.size + c) % 2 = 0) :
    enterFrom (furthest a b d) (d + 1) k < a.size := by
  have step := on
  unfold OnRound at step
  rcases enterFrom_cases (furthest a b d) on with ⟨on', he⟩ | ⟨on', he⟩
  · rw [he]
    by_cases first : d = 0
    · subst first
      have middle : k + 1 = 0 := by
        unfold OnRound at on'
        omega
      rw [middle, zero]
      exact nonempty.1
    · have := short (k + 1) on' (by unfold Near; omega)
      omega
  · rw [he]
    by_cases first : d = 0
    · subst first
      have middle : k - 1 = 0 := by
        unfold OnRound at on'
        omega
      rw [middle, zero]
      omega
    · have := short (k - 1) on' (by unfold Near; omega)
      omega

theorem ShortOf.furthest_inside (short : ShortOf a b c d) (on : OnRound (d + 1) k)
    (near : Near (a.size - b.size) c (d + 1) k) (small : c ≤ 1)
    (parity : ((a.size : Int) - b.size + c) % 2 = 0) :
    furthest a b (d + 1) k ≤ a.size ∧ (furthest a b (d + 1) k : Int) - k ≤ b.size := by
  have inside := short.enter_inside on near small parity
  have on_from : enterFrom (furthest a b d) (d + 1) k ≤ furthest a b (d + 1) k := le_slide ..
  rcases Nat.eq_or_lt_of_le on_from with he | moved
  · rwa [← he]
  · exact slide_inside moved

/-- Where the last lines differ, no round slides into the end point. -/
theorem ShortOf.furthest_ne_end (short : ShortOf a b c d) (zero : furthest a b 0 0 = 0)
    (nonempty : 0 < a.size ∧ 0 < b.size) (last : a[a.size - 1]? ≠ b[b.size - 1]?)
    (on : OnRound (d + 1) k) (small : c ≤ 1) (parity : ((a.size : Int) - b.size + c) % 2 = 0) :
    ¬ (furthest a b (d + 1) k = a.size ∧ (furthest a b (d + 1) k : Int) - k = b.size) := by
  rintro ⟨old_end, new_end⟩
  have entered := short.enter_lt zero nonempty on small (by omega) parity
  have slid : a.size - 1 < slide a b k (enterFrom (furthest a b d) (d + 1) k) := by
    show a.size - 1 < furthest a b (d + 1) k
    omega
  obtain ⟨line, ha, hb⟩ := slide_same (by omega) slid
  have place : (((a.size - 1 : Nat) : Int) - k).toNat = b.size - 1 := by omega
  rw [place] at hb
  exact last (ha.trans hb.symm)

end

theorem enter_pos {a b : Array String} {d : Nat} {k : Int} (on : OnRound (d + 1) k) :
    k < 2 * (enterFrom (furthest a b d) (d + 1) k : Int) := by
  rcases enterFrom_cases (furthest a b d) on with ⟨on', he⟩ | ⟨on', he⟩
  · have := le_furthest (a := a) (b := b) on'
    omega
  · have := le_furthest (a := a) (b := b) on'
    omega

end TestImpact.Diff
