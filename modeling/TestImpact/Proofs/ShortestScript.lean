import TestImpact.Proofs.EditScript
import TestImpact.Proofs.MiddlePoint

/-! The script between two texts is right. Common lines at the ends are kept; every cut leaves two
smaller problems, and so do their scripts, one behind the other. -/

namespace TestImpact.Diff

/-! ## Parts of a text -/

/-- The lines stand in the whole text from a given line on. -/
def Part (part whole : List String) (start : Nat) : Prop :=
  start + part.length ≤ whole.length ∧ ∀ t < part.length, whole[start + t]? = part[t]?

theorem Part.take {part whole : List String} {start : Nat} (h : Part part whole start) (n : Nat) :
    Part (part.take n) whole start := by
  refine ⟨?_, fun t ht => ?_⟩
  · have := h.1
    rw [List.length_take]
    omega
  · rw [List.length_take] at ht
    rw [List.getElem?_take_of_lt (by omega)]
    exact h.2 t (by omega)

theorem Part.drop {part whole : List String} {start n : Nat} (h : Part part whole start)
    (short : n ≤ part.length) : Part (part.drop n) whole (start + n) := by
  refine ⟨?_, fun t ht => ?_⟩
  · have := h.1
    rw [List.length_drop]
    omega
  · rw [List.length_drop] at ht
    rw [List.getElem?_drop, Nat.add_assoc]
    exact h.2 (n + t) (by omega)

theorem Part.self (whole : List String) : Part whole whole 0 :=
  ⟨by omega, fun t _ => by rw [Nat.zero_add]⟩

/-- Behind the common front two texts differ. -/
theorem getElem?_commonPrefix_ne {as bs : List String} (ha : commonPrefix as bs < as.length)
    (hb : commonPrefix as bs < bs.length) :
    as[commonPrefix as bs]? ≠ bs[commonPrefix as bs]? := by
  induction as generalizing bs with
  | nil => cases ha
  | cons a as ih =>
    cases bs with
    | nil => cases hb
    | cons b bs =>
      have step : commonPrefix (a :: as) (b :: bs) = if a = b then commonPrefix as bs + 1 else 0 := rfl
      rw [step] at ha hb ⊢
      split
      · next he =>
        rw [if_pos he] at ha hb
        rw [List.getElem?_cons_succ, List.getElem?_cons_succ]
        exact ih (Nat.lt_of_succ_lt_succ ha) (Nat.lt_of_succ_lt_succ hb)
      · next he => simpa using he

variable {O N : List String} {old new : List String} {i j reach : Nat} {s : Search}

/-! ## Problems without common ends -/

/-- Texts that differ in their first and in their last line, if they have any. -/
structure Cores (old new : List String) : Prop where
  front : 0 < old.length → 0 < new.length → old[0]? ≠ new[0]?
  back : 0 < old.length → 0 < new.length → old.reverse[0]? ≠ new.reverse[0]?

theorem Cores.parted (cores : Cores old new) (ho : 0 < old.length) (hn : 0 < new.length) :
    (Problem.of old new).Parted := by
  refine ⟨⟨ho, hn⟩, by simp [Problem.of], rfl, by simpa [Problem.of] using cores.front ho hn,
    by simpa [Problem.of] using cores.back ho hn, ?_⟩
  have first_line (lines : List String) (h : 0 < lines.length) :
      lines.reverse[lines.length - 1]? = lines[0]? := by
    rw [List.getElem?_reverse (by omega)]
    congr 1
    omega
  have old_last := first_line old ho
  have new_last := first_line new hn
  simp only [Problem.of, List.getElem?_toArray, List.size_toArray, old_last, new_last]
  exact cores.front ho hn

/-- The common ends cut off, two texts differ at both ends. -/
theorem cores_of_common (old new : List String) :
    let front := commonPrefix old new
    let back := commonSuffix (old.drop front) (new.drop front)
    Cores ((old.drop front).take ((old.drop front).length - back))
      ((new.drop front).take ((new.drop front).length - back)) := by
  dsimp only
  constructor
  · intro ho hn
    rw [List.length_take, List.length_drop] at ho hn
    rw [List.getElem?_take_of_lt (by rw [List.length_drop]; omega),
      List.getElem?_take_of_lt (by rw [List.length_drop]; omega), List.getElem?_drop,
      List.getElem?_drop]
    exact getElem?_commonPrefix_ne (by omega) (by omega)
  · intro ho hn
    obtain ⟨old_back, new_back⟩ := commonSuffix_le (old.drop (commonPrefix old new))
      (new.drop (commonPrefix old new))
    rw [List.length_take] at ho hn
    have last {rest : List String} {back : Nat} (h : back ≤ rest.length) :
        (rest.take (rest.length - back)).reverse[0]? = rest.reverse[back]? := by
      rw [List.reverse_take, List.getElem?_drop, Nat.sub_sub_self h, Nat.add_zero]
    rw [last old_back, last new_back]
    exact getElem?_commonPrefix_ne (by rw [List.length_reverse]; unfold commonSuffix at *; omega)
      (by rw [List.length_reverse]; unfold commonSuffix at *; omega)

/-- The script between the common ends. -/
def coreScript (fuel : Nat) (old new : List String) (i j : Nat) (s : Search) : List Edit × Search :=
  match old, new with
  | [], [] => ([], s)
  | _, [] => ([.delete i old.length j], s)
  | [], _ => ([.insert i j new.length], s)
  | _, _ =>
    match middle old new s with
    | (s, some (x, y)) =>
      let (left, s) := conquer fuel (old.take x) (new.take y) i j s
      let (right, s) := conquer fuel (old.drop x) (new.drop y) (i + x) (j + y) s
      (left ++ right, s)
    | (s, none) => ([.delete i old.length j, .insert i j new.length], s)

theorem conquer_succ (fuel : Nat) (old new : List String) (i j : Nat) (s : Search) :
    conquer (fuel + 1) old new i j s =
      let front := commonPrefix old new
      let back := commonSuffix (old.drop front) (new.drop front)
      let oldCore := (old.drop front).take ((old.drop front).length - back)
      let newCore := (new.drop front).take ((new.drop front).length - back)
      let core := coreScript fuel oldCore newCore (i + front) (j + front) s
      ((if front = 0 then [] else [.keep i j front]) ++ core.1 ++
        (if back = 0 then []
          else [.keep (i + front + oldCore.length) (j + front + newCore.length) back]), core.2) := by
  rfl

/-- Problems of a given size are solved: their scripts read, and leave usable frontiers. -/
def Solved (O N : List String) (reach fuel : Nat) : Prop :=
  ∀ (old new : List String) (i j : Nat) (s : Search), Part old O i → Part new N j →
    old.length + new.length < fuel → maxRounds old.length new.length ≤ reach → s.Sized reach →
    Reads O N i j (conquer fuel old new i j s).1 (i + old.length) (j + new.length) ∧
      (conquer fuel old new i j s).2.Sized reach

theorem coreScript_reads {fuel : Nat} (smaller : Solved O N reach fuel) (cores : Cores old new)
    (ho : Part old O i) (hn : Part new N j) (enough : old.length + new.length ≤ fuel)
    (room : maxRounds old.length new.length ≤ reach) (sized : s.Sized reach) :
    Reads O N i j (coreScript fuel old new i j s).1 (i + old.length) (j + new.length) ∧
      (coreScript fuel old new i j s).2.Sized reach := by
  have delete : (Edit.delete i old.length j).Fits O N i j := .delete ho.1 (by have := hn.1; omega)
  have insert (a : Nat) : (Edit.insert i j new.length).Fits O N a j := .insert hn.1
  unfold coreScript
  split
  · exact ⟨.nil _ _, sized⟩
  · exact ⟨.singleton delete, sized⟩
  · exact ⟨.singleton (insert i), sized⟩
  · next some_old some_new _ =>
    have parted := cores.parted (List.length_pos_iff.2 some_old) (List.length_pos_iff.2 some_new)
    obtain ⟨sized', cuts⟩ := middle_spec parted sized room
    split
    · next after x y he =>
      rw [he] at sized' cuts
      obtain ⟨hx, hy, some_left, some_right⟩ := cuts (x, y) rfl
      simp only [Problem.of, List.size_toArray] at hx hy some_right
      unfold maxRounds at room
      have left := smaller (old.take x) (new.take y) i j after (ho.take x) (hn.take y)
        (by rw [List.length_take, List.length_take]; omega)
        (by unfold maxRounds; rw [List.length_take, List.length_take]; omega) sized'
      have right := smaller (old.drop x) (new.drop y) (i + x) (j + y) _ (ho.drop hx) (hn.drop hy)
        (by rw [List.length_drop, List.length_drop]; omega)
        (by unfold maxRounds; rw [List.length_drop, List.length_drop]; omega) left.2
      rw [List.length_take_of_le hx, List.length_take_of_le hy] at left
      rw [List.length_drop, List.length_drop, Nat.add_assoc, Nat.add_assoc, Nat.add_sub_of_le hx,
        Nat.add_sub_of_le hy] at right
      exact ⟨left.1.append right.1, right.2⟩
    · next after he =>
      rw [he] at sized'
      exact ⟨.cons delete (.singleton (insert _)), sized'⟩

/-- Equal lines of two parts are kept lines of the whole texts. -/
theorem Part.keep {x y n : Nat} (ho : Part old O i) (hn : Part new N j) (hx : x + n ≤ old.length)
    (hy : y + n ≤ new.length) (same : ∀ t < n, old[x + t]? = new[y + t]?) :
    Reads O N (i + x) (j + y) (if n = 0 then [] else [.keep (i + x) (j + y) n]) (i + x + n)
      (j + y + n) := by
  have fits : (Edit.keep (i + x) (j + y) n).Fits O N (i + x) (j + y) := by
    refine .keep (by have := ho.1; omega) (by have := hn.1; omega) fun t ht => ?_
    rw [Nat.add_assoc, Nat.add_assoc, ho.2 _ (by omega), hn.2 _ (by omega)]
    exact same t ht
  split
  · next empty =>
    subst empty
    exact .nil _ _
  · exact .singleton fits

/-- **Every problem is solved by a search with enough steps.** -/
theorem solved (O N : List String) (reach fuel : Nat) : Solved O N reach fuel := by
  induction fuel with
  | zero => exact fun _ _ _ _ _ _ _ none_enough => absurd none_enough (Nat.not_lt_zero _)
  | succ fuel ih =>
    intro old new i j s ho hn enough room sized
    have cores := cores_of_common old new
    have front_same {t : Nat} := @getElem?_commonPrefix old new t
    obtain ⟨old_front, new_front⟩ := commonPrefix_le old new
    rw [conquer_succ]
    dsimp only at cores ⊢
    generalize commonPrefix old new = front at *
    have back_same {t : Nat} := @getElem?_commonSuffix (old.drop front) (new.drop front) t
    obtain ⟨old_back, new_back⟩ := commonSuffix_le (old.drop front) (new.drop front)
    generalize commonSuffix (old.drop front) (new.drop front) = back at *
    rw [List.length_drop] at old_back new_back
    simp only [List.length_drop] at cores back_same ⊢
    have old_core : ((old.drop front).take (old.length - front - back)).length =
        old.length - front - back := by
      rw [List.length_take, List.length_drop]
      omega
    have new_core : ((new.drop front).take (new.length - front - back)).length =
        new.length - front - back := by
      rw [List.length_take, List.length_drop]
      omega
    have first := @Part.keep O N old new i j 0 0 front ho hn (by omega) (by omega) fun t ht => by
      rw [Nat.zero_add]
      exact front_same ht
    obtain ⟨core, sized'⟩ := coreScript_reads ih cores ((ho.drop old_front).take _)
      ((hn.drop new_front).take _) (by omega)
      (by unfold maxRounds at *; omega) sized
    have last := (ho.drop old_front).keep (hn.drop new_front)
      (by rw [List.length_drop]; omega) (by rw [List.length_drop]; omega) fun t => back_same (t := t)
    rw [old_core, new_core] at *
    refine ⟨?_, sized'⟩
    -- Kept lines in front, the core, and kept lines behind follow each other.
    have whole := (first.append core).append last
    rwa [show i + front + (old.length - front - back) + back = i + old.length by omega,
      show j + front + (new.length - front - back) + back = j + new.length by omega] at whole

/-- **The shortest script is right.** -/
theorem correct_shortestScript (old new : List String) :
    Correct old new (shortestScript old new) := by
  let reach := maxRounds old.length new.length
  have sized : Search.Sized ⟨.ofReach reach, .ofReach reach⟩ reach :=
    ⟨⟨rfl, Array.size_replicate⟩, ⟨rfl, Array.size_replicate⟩⟩
  have whole := (solved old new reach _ old new 0 0 _ (.self old) (.self new) (Nat.lt_succ_self _)
    (Nat.le_refl _) sized).1
  rwa [Nat.zero_add, Nat.zero_add] at whole

end TestImpact.Diff
