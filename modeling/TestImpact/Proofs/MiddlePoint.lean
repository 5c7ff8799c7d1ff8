import TestImpact.Proofs.FurthestPoint

/-! Where the two searches meet. A round reads only what the round before wrote, so the cells of a
frontier hold the furthest points of their rounds, whatever an earlier search left in the others. The
point where the searches meet lies inside the texts and is neither their beginning nor their end. -/

namespace TestImpact.Diff

/-! ## Frontiers -/

namespace Frontier

/-- The frontier has a cell for every diagonal up to `reach`. -/
def Sized (f : Frontier) (reach : Nat) : Prop :=
  f.center = reach ∧ f.cells.size = 2 * reach

theorem Sized.set {f : Frontier} {reach : Nat} (h : f.Sized reach) (k : Int) (x : Nat) :
    (f.set k x).Sized reach :=
  ⟨h.1, by rw [Frontier.set, Array.size_setIfInBounds]; exact h.2⟩

theorem get_set {f : Frontier} {reach : Nat} (h : f.Sized reach) {k l : Int} (x : Nat)
    (low : -(reach : Int) ≤ k) (high : k < reach) (low' : -(reach : Int) ≤ l) :
    (f.set k x).get l = if l = k then x else f.get l := by
  obtain ⟨center, size⟩ := h
  have inside : (k + f.center).toNat < f.cells.size := by omega
  have same : (k + f.center).toNat = (l + f.center).toNat ↔ l = k := by omega
  rw [get, get, set, Array.getD_eq_getD_getElem?, Array.getD_eq_getD_getElem?,
    Array.getElem?_setIfInBounds]
  by_cases he : l = k
  · rw [if_pos (same.2 he), if_pos inside, if_pos he]
    rfl
  · rw [if_neg (fun h => he (same.1 h)), if_neg he]

/-- The frontier holds what the given round reads. -/
def Ready (f : Frontier) (a b : Array String) : Nat → Prop
  | 0 => f.get 1 = 0
  | d + 1 => ∀ k, OnRound d k → f.get k = furthest a b d k

end Frontier

def entered (a b : Array String) : Nat → Int → Nat
  | 0, _ => 0
  | d + 1, k => enterFrom (furthest a b d) (d + 1) k

variable {a b : Array String} {d reach : Nat} {f : Frontier} {k : Int}

theorem slide_entered (on : OnRound d k) : slide a b k (entered a b d k) = furthest a b d k := by
  cases d with
  | zero =>
    unfold OnRound at on
    have start : enterFrom (fun _ => 0) 0 k = 0 := by
      unfold enterFrom
      rw [if_pos (.inl (by omega))]
    rw [furthest, start, entered]
  | succ d => rfl

theorem Frontier.Ready.enter_eq (ready : f.Ready a b d) (on : OnRound d k) :
    f.enter d k = entered a b d k := by
  cases d with
  | zero =>
    unfold OnRound at on
    have middle : k = 0 := by omega
    subst middle
    exact ready
  | succ d =>
    show enterFrom f.get (d + 1) k = enterFrom (furthest a b d) (d + 1) k
    unfold OnRound at on
    have above (h : k ≠ d + 1) : f.get (k + 1) = furthest a b d (k + 1) :=
      ready (k + 1) (by unfold OnRound; omega)
    have below (h : k ≠ -(d + 1)) : f.get (k - 1) = furthest a b d (k - 1) :=
      ready (k - 1) (by unfold OnRound; omega)
    unfold enterFrom
    by_cases low : k = -((d + 1 : Nat) : Int)
    · rw [if_pos (.inl low), if_pos (.inl low), above (by omega)]
    · by_cases high : k = ((d + 1 : Nat) : Int)
      · have last (P : Prop) : ¬ (k = -((d + 1 : Nat) : Int) ∨ k ≠ ((d + 1 : Nat) : Int) ∧ P) := by
          rintro (h | ⟨h, -⟩)
          · exact low h
          · exact h high
        rw [if_neg (last _), if_neg (last _), below low]
      · rw [above high, below low]

/-- A round does not touch what it reads. -/
theorem Frontier.Ready.set (ready : f.Ready a b d) (sized : f.Sized reach) (room : d < reach)
    (on : OnRound d k) (x : Nat) : (f.set k x).Ready a b d := by
  unfold OnRound at on
  cases d with
  | zero =>
    show (f.set k x).get 1 = 0
    rw [get_set sized x (by omega) (by omega) (by omega), if_neg (by omega)]
    exact ready
  | succ d =>
    intro l hl
    have place := hl
    unfold OnRound at place
    rw [get_set sized x (by omega) (by omega) (by omega), if_neg (by omega)]
    exact ready l hl

/-! ## One round of one search -/

/-- A round of one search: the frontier behind it, and the first diagonal that `met` accepts with the
points where it was entered and left. -/
def sweep (a b : Array String) (d : Nat) (met : Int → Nat → Bool) :
    List Int → Frontier → Frontier × Option (Int × Nat × Nat)
  | [], f => (f, none)
  | k :: ks, f =>
    let x := f.enter d k
    let far := slide a b k x
    let f := f.set k far
    if met k far then (f, some (k, x, far)) else sweep a b d met ks f

/-- A round stops at a diagonal that was met, at the points of the theory, and otherwise leaves the
furthest points of all its diagonals. -/
theorem sweep_spec {met : Int → Nat → Bool} {ks : List Int} (on : ∀ k ∈ ks, OnRound d k)
    (sized : f.Sized reach) (ready : f.Ready a b d) (room : d < reach) :
    (sweep a b d met ks f).1.Sized reach ∧
      (∀ k x far, (sweep a b d met ks f).2 = some (k, x, far) →
        OnRound d k ∧ x = entered a b d k ∧ far = furthest a b d k ∧ met k far = true) ∧
      ((sweep a b d met ks f).2 = none →
        (∀ k ∈ ks, met k (furthest a b d k) = false) ∧
        ∀ k, OnRound d k → k ∈ ks ∨ f.get k = furthest a b d k →
          (sweep a b d met ks f).1.get k = furthest a b d k) := by
  induction ks generalizing f with
  | nil =>
    refine ⟨sized, nofun, fun _ => ⟨nofun, fun k _ known => ?_⟩⟩
    rcases known with member | known
    · cases member
    · exact known
  | cons k ks ih =>
    have here := on k (.head _)
    have start := ready.enter_eq here
    have stop : slide a b k (f.enter d k) = furthest a b d k := by
      rw [start, slide_entered here]
    unfold sweep
    dsimp only
    rw [stop, start]
    split
    · next accepted =>
      refine ⟨sized.set _ _, fun l x far he => ?_, nofun⟩
      cases he
      exact ⟨here, rfl, rfl, accepted⟩
    · next refused =>
      -- The rest of the round reads cells of the other parity, which this step left alone.
      obtain ⟨size, stopped, passed⟩ := ih (fun l hl => on l (.tail _ hl)) (sized.set k _)
        (ready.set sized room here (furthest a b d k))
      refine ⟨size, stopped, fun h => ?_⟩
      obtain ⟨others, cells⟩ := passed h
      refine ⟨fun l hl => ?_, fun l hl known => cells l hl ?_⟩
      · rcases List.mem_cons.1 hl with rfl | hl
        · simpa using refused
        · exact others l hl
      · have diagonal := here
        have other := hl
        unfold OnRound at diagonal other
        rw [Frontier.get_set sized _ (by omega) (by omega) (by omega)]
        by_cases he : l = k
        · exact .inr (by rw [if_pos he, he])
        · rw [if_neg he]
          exact known.imp_left fun member => (List.mem_cons.1 member).resolve_left he

theorem forwardRound_eq (p : Problem) (d : Nat) (ks : List Int) (s : Search) :
    forwardRound p d ks s =
      let r := sweep p.old p.new d (fun k far => p.delta % 2 = 1 ∧
        ((k - p.delta).natAbs : Int) ≤ (d : Int) - 1 ∧
        p.old.size ≤ far + s.backward.get (p.delta - k)) ks s.forward
      ({ s with forward := r.1 }, r.2.map fun (k, x, _) => (x, ((x : Int) - k).toNat)) := by
  induction ks generalizing s with
  | nil => rfl
  | cons k ks ih =>
    unfold forwardRound sweep
    dsimp only
    split
    · next met =>
      rw [if_pos (by simpa using met)]
      rfl
    · next unmet =>
      rw [if_neg (by simpa using unmet), ih]

theorem backwardRound_eq (p : Problem) (d : Nat) (ks : List Int) (s : Search) :
    backwardRound p d ks s =
      let r := sweep p.oldBack p.newBack d (fun k far => p.delta % 2 = 0 ∧
        (k - p.delta).natAbs ≤ d ∧ p.old.size ≤ far + s.forward.get (p.delta - k)) ks s.backward
      ({ s with backward := r.1 }, r.2.map fun (k, _, far) =>
        (p.old.size - far, ((p.new.size : Int) - ((far : Int) - k)).toNat)) := by
  induction ks generalizing s with
  | nil => rfl
  | cons k ks ih =>
    unfold backwardRound sweep
    dsimp only
    split
    · next met =>
      rw [if_pos (by simpa using met)]
      rfl
    · next unmet =>
      rw [if_neg (by simpa using unmet), ih]

/-! ## All rounds -/

/-- A problem whose texts are not empty and have no common line at either end. -/
structure Problem.Parted (p : Problem) : Prop where
  nonempty : 0 < p.old.size ∧ 0 < p.new.size
  back_sizes : p.oldBack.size = p.old.size ∧ p.newBack.size = p.new.size
  delta_eq : p.delta = (p.old.size : Int) - p.new.size
  front : p.old[0]? ≠ p.new[0]?
  back : p.oldBack[0]? ≠ p.newBack[0]?
  last : p.oldBack[p.old.size - 1]? ≠ p.newBack[p.new.size - 1]?

/-- The point lies inside the texts and is neither their beginning nor their end. -/
def Problem.Cuts (p : Problem) (point : Point) : Prop :=
  point.1 ≤ p.old.size ∧ point.2 ≤ p.new.size ∧ 0 < point.1 + point.2 ∧
    point.1 + point.2 < p.old.size + p.new.size

theorem furthest_zero (different : a[0]? ≠ b[0]?) : furthest a b 0 0 = 0 := by
  have start : furthest a b 0 0 = slide a b 0 0 := (slide_entered (by unfold OnRound; omega)).symm
  rw [start]
  refine Nat.eq_zero_of_not_pos fun moved => different ?_
  obtain ⟨line, ha, hb⟩ := slide_same (Nat.le_refl 0) moved
  rw [ha]
  exact hb.symm

section

variable {p : Problem}

/-- The searches that meet while going forward meet at a cut. -/
theorem forward_cuts (parted : p.Parted) (on : OnRound d k) (odd : p.delta % 2 = 1)
    (near : ((k - p.delta).natAbs : Int) ≤ (d : Int) - 1)
    (short : ∀ e, d = e + 1 → ShortOf p.old p.new 1 e) :
    p.Cuts (entered p.old p.new d k, ((entered p.old p.new d k : Int) - k).toNat) := by
  obtain ⟨old_pos, new_pos⟩ := parted.nonempty
  have delta := parted.delta_eq
  cases d with
  | zero => omega
  | succ d =>
    have behind := short d rfl
    have near' : Near (p.old.size - p.new.size) 1 (d + 1) k := by
      unfold Near
      omega
    have inside := behind.enter_inside on near' (Nat.le_refl 1) (by omega)
    have passed := enter_pos (a := p.old) (b := p.new) on
    have no_end : k = p.old.size - p.new.size →
        enterFrom (furthest p.old p.new d) (d + 1) k < p.old.size := fun diagonal =>
      behind.enter_lt (furthest_zero parted.front) parted.nonempty on (Nat.le_refl 1) diagonal
        (by omega)
    unfold Problem.Cuts entered
    dsimp only
    omega

/-- The searches that meet while going backward meet at a cut. -/
theorem backward_cuts (parted : p.Parted) (on : OnRound d k) (even : p.delta % 2 = 0)
    (near : (k - p.delta).natAbs ≤ d) {other : Nat}
    (met : p.old.size ≤ furthest p.oldBack p.newBack d k + other)
    (first : d = 0 → other = 0) (short : ∀ e, d = e + 1 → ShortOf p.oldBack p.newBack 0 e) :
    p.Cuts (p.old.size - furthest p.oldBack p.newBack d k,
      ((p.new.size : Int) - ((furthest p.oldBack p.newBack d k : Int) - k)).toNat) := by
  obtain ⟨old_pos, new_pos⟩ := parted.nonempty
  obtain ⟨old_size, new_size⟩ := parted.back_sizes
  have delta := parted.delta_eq
  cases d with
  | zero =>
    have middle : k = 0 := by
      unfold OnRound at on
      omega
    rw [middle, furthest_zero parted.back, first rfl] at met
    omega
  | succ d =>
    have behind := short d rfl
    have near' : Near (p.oldBack.size - p.newBack.size) 0 (d + 1) k := by
      unfold Near
      omega
    have last := parted.last
    rw [← old_size, ← new_size] at last
    have inside := behind.furthest_inside on near' (Nat.zero_le 1) (by omega)
    have no_end := behind.furthest_ne_end (furthest_zero parted.back) (by omega) last on
      (Nat.zero_le 1) (by omega)
    have passed := enter_pos (a := p.oldBack) (b := p.newBack) on
    have low := le_furthest (a := p.oldBack) (b := p.newBack) on
    have on_from : enterFrom (furthest p.oldBack p.newBack d) (d + 1) k ≤
        furthest p.oldBack p.newBack (d + 1) k := le_slide ..
    unfold Problem.Cuts
    dsimp only
    omega

/-- Both frontiers have a cell for every diagonal up to `reach`. -/
def Search.Sized (s : Search) (reach : Nat) : Prop :=
  s.forward.Sized reach ∧ s.backward.Sized reach

/-- The searches are about to begin round `d` and have not met. -/
structure Problem.Searching (p : Problem) (reach d : Nat) (s : Search) : Prop where
  sized : s.Sized reach
  forward_ready : s.forward.Ready p.old p.new d
  backward_ready : s.backward.Ready p.oldBack p.newBack d
  forward_short : p.delta % 2 = 1 → ∀ e, d = e + 1 → ShortOf p.old p.new 1 e
  backward_short : p.delta % 2 = 0 → ∀ e, d = e + 1 → ShortOf p.oldBack p.newBack 0 e

variable {s : Search}

theorem forwardRound_spec (parted : p.Parted) (h : p.Searching reach d s) (room : d < reach) :
    (forwardRound p d (diagonals d) s).1.backward = s.backward ∧
      (forwardRound p d (diagonals d) s).1.forward.Sized reach ∧
      (∀ point, (forwardRound p d (diagonals d) s).2 = some point → p.Cuts point) ∧
      ((forwardRound p d (diagonals d) s).2 = none →
        (forwardRound p d (diagonals d) s).1.forward.Ready p.old p.new (d + 1) ∧
        (p.delta % 2 = 1 → ShortOf p.old p.new 1 d)) := by
  rw [forwardRound_eq]
  obtain ⟨sized, stopped, passed⟩ :=
    sweep_spec (fun _ => mem_diagonals.1) h.sized.1 h.forward_ready room
  refine ⟨rfl, sized, fun point hp => ?_, fun hn => ?_⟩
  · obtain ⟨⟨k, x, far⟩, hs, rfl⟩ := Option.map_eq_some_iff.1 hp
    obtain ⟨on, rfl, rfl, met⟩ := stopped k x far hs
    simp only [decide_eq_true_eq] at met
    exact forward_cuts parted on met.1 met.2.1 (h.forward_short met.1)
  · obtain ⟨unmet, cells⟩ := passed (Option.map_eq_none_iff.1 hn)
    refine ⟨fun k on => cells k on (.inl (mem_diagonals.2 on)), fun odd k on near => ?_⟩
    have delta := parted.delta_eq
    have apart := unmet k (mem_diagonals.2 on)
    have place := on
    unfold Near at near
    unfold OnRound at place
    simp only [decide_eq_false_iff_not, not_and] at apart
    cases d with
    | zero => omega
    | succ d =>
      -- The other search has at least `p.delta - k` old lines on the facing diagonal, so where the
      -- two do not overlap this one is short of the new lines as well.
      have facing : OnRound d (p.delta - k) := by
        unfold OnRound
        omega
      have reached := le_furthest (a := p.oldBack) (b := p.newBack) facing
      have cell := h.backward_ready _ facing
      have := apart odd (by omega)
      omega

theorem backwardRound_spec (parted : p.Parted) (h : p.Searching reach d s) (room : d < reach)
    {after : Frontier} (ready : after.Ready p.old p.new (d + 1)) :
    let r := backwardRound p d (diagonals d) { s with forward := after }
    r.1.forward = after ∧ r.1.backward.Sized reach ∧
      (∀ point, r.2 = some point → p.Cuts point) ∧
      (r.2 = none → r.1.backward.Ready p.oldBack p.newBack (d + 1) ∧
        (p.delta % 2 = 0 → ShortOf p.oldBack p.newBack 0 d)) := by
  dsimp only
  rw [backwardRound_eq]
  obtain ⟨sized, stopped, passed⟩ :=
    sweep_spec (fun _ => mem_diagonals.1) h.sized.2 h.backward_ready room
  obtain ⟨old_size, new_size⟩ := parted.back_sizes
  have delta := parted.delta_eq
  have facing {k : Int} (on : OnRound d k) (even : p.delta % 2 = 0)
      (near : (k - p.delta).natAbs ≤ d) : OnRound d (p.delta - k) := by
    unfold OnRound at *
    omega
  refine ⟨rfl, sized, fun point hp => ?_, fun hn => ?_⟩
  · obtain ⟨⟨k, x, far⟩, hs, rfl⟩ := Option.map_eq_some_iff.1 hp
    obtain ⟨on, rfl, rfl, met⟩ := stopped k x far hs
    simp only [decide_eq_true_eq] at met
    refine backward_cuts parted on met.1 met.2.1 met.2.2 (fun first => ?_) (h.backward_short met.1)
    subst first
    have there := facing on met.1 met.2.1
    rw [ready _ there]
    have middle : p.delta - k = 0 := by
      unfold OnRound at there
      omega
    rw [middle, furthest_zero parted.front]
  · obtain ⟨unmet, cells⟩ := passed (Option.map_eq_none_iff.1 hn)
    refine ⟨fun k on => cells k on (.inl (mem_diagonals.2 on)), fun even k on near => ?_⟩
    have apart := unmet k (mem_diagonals.2 on)
    unfold Near at near
    simp only [decide_eq_false_iff_not, not_and] at apart
    have there := facing on even (by omega)
    have reached := le_furthest (a := p.old) (b := p.new) there
    have cell := ready _ there
    have := apart even (by omega)
    omega

/-- **Searches that meet, meet at a cut.** -/
theorem searchRounds_spec (parted : p.Parted) (rounds : Nat) (h : p.Searching reach d s)
    (room : d + rounds ≤ reach) :
    (searchRounds p rounds d s).1.Sized reach ∧
      ∀ point, (searchRounds p rounds d s).2 = some point → p.Cuts point := by
  induction rounds generalizing d s with
  | zero => exact ⟨h.sized, nofun⟩
  | succ rounds ih =>
    obtain ⟨same, sized, cuts, onward⟩ := forwardRound_spec parted h (by omega)
    unfold searchRounds
    split
    · next after point he =>
      rw [he] at same sized cuts
      refine ⟨⟨sized, same ▸ h.sized.2⟩, fun other ho => ?_⟩
      cases ho
      exact cuts point rfl
    · next after he =>
      rw [he] at same sized onward
      obtain ⟨forward_ready, forward_short⟩ := onward rfl
      have shape : { s with forward := after.forward } = after := by
        rw [← same]
      obtain ⟨same', sized', cuts', onward'⟩ := backwardRound_spec parted h (by omega) forward_ready
      rw [shape] at same' sized' cuts' onward'
      split
      · next last point hb =>
        rw [hb] at same' sized' cuts'
        refine ⟨⟨same' ▸ sized, sized'⟩, fun other ho => ?_⟩
        cases ho
        exact cuts' point rfl
      · next last hb =>
        rw [hb] at same' sized' onward'
        obtain ⟨backward_ready, backward_short⟩ := onward' rfl
        refine ih ⟨⟨same' ▸ sized, sized'⟩, same' ▸ forward_ready, backward_ready, ?_, ?_⟩ (by omega)
        · intro odd e he
          cases he
          exact forward_short odd
        · intro even e he
          cases he
          exact backward_short even

/-- The cut of a problem, by a search whatever the frontiers held before. -/
theorem middle_spec {old new : List String} (parted : (Problem.of old new).Parted)
    (sized : s.Sized reach) (room : maxRounds old.length new.length ≤ reach) :
    (middle old new s).1.Sized reach ∧
      ∀ point, (middle old new s).2 = some point → (Problem.of old new).Cuts point := by
  have old_pos : 0 < old.length := by simpa [Problem.of] using parted.nonempty.1
  have wide : (1 : Int) < reach := by
    unfold maxRounds at room
    omega
  have first {f : Frontier} (hf : f.Sized reach) : (f.set 1 0).get 1 = 0 := by
    rw [Frontier.get_set hf 0 (by omega) wide (by omega), if_pos rfl]
  exact searchRounds_spec parted _ ⟨⟨sized.1.set 1 0, sized.2.set 1 0⟩, first sized.1, first sized.2,
    nofun, nofun⟩ (by omega)

end

end TestImpact.Diff
