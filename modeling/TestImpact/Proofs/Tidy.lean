import TestImpact.Proofs.EditScript

/-! Tidying keeps a script right: sliding an insertion over equal lines, changing the places of a
deletion and an insertion next to each other, and joining neighbours. -/

namespace TestImpact.Diff

variable {old new : List String}

/-! ## Settling -/

/-- An insertion passes kept lines above it that end like it. -/
theorem slide_up_fits {i j l k m n : Nat} (keep : (Edit.keep i j l).Fits old new i j)
    (insert : (Edit.insert k (j + l) m).Fits old new (i + l) (j + l))
    (common : n = commonSuffix ((Edit.keep i j l).oldLines old)
      ((Edit.insert k (j + l) m).newLines new)) :
    n ≤ l ∧ n ≤ m ∧
      (Edit.keep (i + l - n) (j + l + m - n) n).Fits old new (i + l - n) (j + l + m - n) := by
  have old_length : ((Edit.keep i j l).oldLines old).length = l := keep.oldLines_length
  have new_length : ((Edit.insert k (j + l) m).newLines new).length = m := insert.newLines_length
  obtain ⟨hl, hm⟩ := commonSuffix_le ((Edit.keep i j l).oldLines old)
    ((Edit.insert k (j + l) m).newLines new)
  rw [← common, old_length] at hl
  rw [← common, new_length] at hm
  refine ⟨hl, hm, ?_⟩
  cases keep with
  | keep old_end new_end same =>
    cases insert with
    | insert new_end' =>
      refine .keep (by omega) (by omega) fun t ht => ?_
      have equal := getElem?_commonSuffix (common ▸ ht)
      rw [← common, old_length, new_length, Edit.getElem?_oldLines (by simp only [Edit.keep]; omega),
        Edit.getElem?_newLines (by simp only [Edit.insert]; omega)] at equal
      simp only [Edit.keep, Edit.insert] at equal
      rwa [← Nat.add_assoc, ← Nat.add_assoc, ← Nat.add_sub_assoc hl, ← Nat.add_sub_assoc hm] at equal

/-- An insertion passes kept lines below it that begin like it. -/
theorem slide_down_fits {i j l k m n : Nat} (insert : (Edit.insert k j m).Fits old new i j)
    (keep : (Edit.keep i (j + m) l).Fits old new i (j + m))
    (common : n = commonPrefix ((Edit.keep i (j + m) l).oldLines old)
      ((Edit.insert k j m).newLines new)) :
    n ≤ l ∧ n ≤ m ∧ (Edit.keep i j n).Fits old new i j := by
  have old_length : ((Edit.keep i (j + m) l).oldLines old).length = l := keep.oldLines_length
  have new_length : ((Edit.insert k j m).newLines new).length = m := insert.newLines_length
  obtain ⟨hl, hm⟩ := commonPrefix_le ((Edit.keep i (j + m) l).oldLines old)
    ((Edit.insert k j m).newLines new)
  rw [← common, old_length] at hl
  rw [← common, new_length] at hm
  refine ⟨hl, hm, ?_⟩
  cases keep with
  | keep old_end new_end same =>
    refine .keep (by omega) (by omega) fun t ht => ?_
    have equal := getElem?_commonPrefix (common ▸ ht)
    rwa [Edit.getElem?_oldLines (by simp only [Edit.keep]; omega),
      Edit.getElem?_newLines (by simp only [Edit.insert]; omega)] at equal

theorem opposed_comm (e f : Edit) : Place.opposed e f = Place.opposed f e := by
  unfold Place.opposed
  cases e.kind <;> cases f.kind <;> rfl

namespace Reads

variable {e f : Edit} {s t front : List Edit} {i j i' j' : Nat}

/-- What reads alike may be exchanged behind any edits. -/
theorem under (h : Reads old new i j (front ++ s) i' j')
    (alike : ∀ a b, Reads old new a b s i' j' → Reads old new a b t i' j') :
    Reads old new i j (front ++ t) i' j' := by
  obtain ⟨a, b, first, second⟩ := append_iff.1 h
  exact first.append (alike a b second)

theorem behind (h : Reads old new i j (e :: s) i' j')
    (alike : ∀ a b, Reads old new a b s i' j' → Reads old new a b t i' j') :
    Reads old new i j (e :: t) i' j' := by
  cases h with
  | cons fits rest => exact .cons fits (alike _ _ rest)

theorem drop_empty (h : Reads old new i j (e :: s) i' j') (empty : e.isEmpty = true) :
    Reads old new i j s i' j' := by
  simp only [Edit.isEmpty, Bool.and_eq_true, beq_iff_eq] at empty
  cases h with
  | cons _ rest =>
    rw [empty.1, empty.2] at rest
    exact rest

theorem drop_below (h : Reads old new i j (e :: s) i' j') :
    Reads old new i j (if e.isEmpty then s else e :: s) i' j' := by
  split
  · next empty => exact h.drop_empty empty
  · exact h

/-- The edits in front of an edit, listed from the nearest on, and the edit unless it is empty. -/
theorem drop_above {before : List Edit} (h : Reads old new i j (before.reverse ++ e :: s) i' j') :
    Reads old new i j ((if e.isEmpty then before else e :: before).reverse ++ s) i' j' := by
  split
  · next empty => exact h.under fun _ _ => (·.drop_empty empty)
  · rwa [List.reverse_cons, List.append_assoc]

theorem join (h : Reads old new i j (e :: f :: s) i' j') (kind : e.kind = f.kind) :
    Reads old new i j (e.join f :: s) i' j' := by
  cases h with
  | cons first rest =>
    cases rest with
    | cons second rest =>
      refine .cons (first.join second kind) ?_
      rw [Nat.add_assoc, Nat.add_assoc] at rest
      exact rest

/-- A deletion and an insertion next to each other may change places. -/
theorem swap (h : Reads old new i j (e :: f :: s) i' j') (opposed : Place.opposed e f = true) :
    Reads old new i j (f :: e :: s) i' j' := by
  cases h with
  | cons first rest =>
    cases rest with
    | cons second rest =>
      rw [Nat.add_right_comm i, Nat.add_right_comm j] at rest
      cases first with
      | keep => exact absurd opposed (by simp [Place.opposed, Edit.keep])
      | replace => exact absurd opposed (by simp [Place.opposed, Edit.replace])
      | delete old_end place =>
        cases second with
        | insert new_end => exact .cons (.insert new_end) (.cons (.delete old_end place) rest)
        | keep => exact absurd opposed (by simp [Place.opposed, Edit.keep, Edit.delete])
        | delete => exact absurd opposed (by simp [Place.opposed, Edit.delete])
        | replace => exact absurd opposed (by simp [Place.opposed, Edit.delete, Edit.replace])
      | insert new_end =>
        cases second with
        | delete old_end place => exact .cons (.delete old_end place) (.cons (.insert new_end) rest)
        | keep => exact absurd opposed (by simp [Place.opposed, Edit.keep, Edit.insert])
        | insert => exact absurd opposed (by simp [Place.opposed, Edit.insert])
        | replace => exact absurd opposed (by simp [Place.opposed, Edit.insert, Edit.replace])

/-- An insertion slides up to where the lines above it end like it. A deletion has no line in common
with them, so it stays. -/
theorem slide_up {n : Nat} (h : Reads old new i j (e :: f :: s) i' j') (kept : e.kind = .keep)
    (movable : f.kind = .insert ∨ f.kind = .delete)
    (common : n = commonSuffix (e.oldLines old) (f.newLines new)) (some_common : 0 < n) :
    Reads old new i j
      (e.shorten n :: f.moveUp n :: .keep (e.oldStop - n) (f.newStop - n) n :: s) i' j' := by
  cases h with
  | cons first rest =>
    cases rest with
    | cons second rest =>
      cases first with
      | delete => cases kept
      | insert => cases kept
      | replace => cases kept
      | @keep _ _ l old_end new_end same =>
        cases second with
        | keep => exact absurd movable (by simp [Edit.keep])
        | replace => exact absurd movable (by simp [Edit.replace])
        | delete =>
          rw [Edit.newLines_delete, commonSuffix_nil] at common
          omega
        | @insert _ _ m k new_end' =>
          obtain ⟨hl, hm, below⟩ :=
            slide_up_fits (.keep old_end new_end same) (.insert new_end') common
          obtain ⟨r, rfl⟩ := Nat.exists_eq_add_of_le' hl
          obtain ⟨above, -⟩ := Edit.Fits.keep_split (.keep old_end new_end same)
          simp only [Edit.keep, Edit.insert] at new_end' below rest
          have he : (Edit.keep i j (r + n)).shorten n = .keep i j r := by
            simp [Edit.keep, Edit.shorten]
          have hf : (Edit.insert k (j + (Edit.keep i j (r + n)).newLength) m).moveUp n =
              .insert (k - n) (j + r) m := by
            simp only [Edit.keep, Edit.insert, Edit.moveUp, Edit.mk.injEq, true_and, and_true]
            omega
          have hg : Edit.keep ((Edit.keep i j (r + n)).oldStop - n)
              ((Edit.insert k (j + (Edit.keep i j (r + n)).newLength) m).newStop - n) n =
                .keep (i + r) (j + r + m) n := by
            simp only [Edit.keep, Edit.insert, Edit.oldStop, Edit.newStop, Edit.mk.injEq, true_and,
              and_true]
            omega
          have place : i + (r + n) - n = i + r ∧ j + (r + n) + m - n = j + r + m := by omega
          rw [place.1, place.2] at below
          rw [he, hf, hg]
          refine .cons above (.cons (.insert ?_) (.cons below ?_))
          · omega
          · simp only [Edit.keep, Edit.insert]
            rwa [show i + r + 0 + n = i + (r + n) + 0 by omega,
              show j + r + m + n = j + (r + n) + m by omega]

theorem slide_down {n : Nat} (h : Reads old new i j (f :: e :: s) i' j') (kept : e.kind = .keep)
    (movable : f.kind = .insert ∨ f.kind = .delete)
    (common : n = commonPrefix (e.oldLines old) (f.newLines new)) (some_common : 0 < n) :
    Reads old new i j
      (.keep e.oldStart f.newStart n :: f.moveDown n :: (e.moveDown n).shorten n :: s) i' j' := by
  cases h with
  | cons first rest =>
    cases rest with
    | cons second rest =>
      cases second with
      | delete => cases kept
      | insert => cases kept
      | replace => cases kept
      | @keep _ _ l old_end new_end same =>
        cases first with
        | keep => exact absurd movable (by simp [Edit.keep])
        | replace => exact absurd movable (by simp [Edit.replace])
        | delete =>
          rw [Edit.newLines_delete, commonPrefix_nil] at common
          omega
        | @insert _ _ m k new_end' =>
          obtain ⟨hl, hm, above⟩ :=
            slide_down_fits (.insert new_end') (.keep old_end new_end same) common
          obtain ⟨r, rfl⟩ := Nat.exists_eq_add_of_le hl
          obtain ⟨-, below⟩ := Edit.Fits.keep_split (.keep old_end new_end same)
          simp only [Edit.keep, Edit.insert] at new_end below rest
          have he : ((Edit.keep (i + (Edit.insert k j m).oldLength) (j + (Edit.insert k j m).newLength)
              (n + r)).moveDown n).shorten n = .keep (i + n) (j + m + n) r := by
            simp [Edit.keep, Edit.insert, Edit.moveDown, Edit.shorten]
          have moved : (Edit.insert (k + n) (j + n) m).Fits old new (i + n) (j + n) :=
            .insert (by omega)
          rw [he]
          refine .cons above (.cons moved (.cons ?_ ?_))
          · simp only [Edit.keep, Edit.insert, Edit.moveDown, Nat.add_zero] at *
            rwa [show j + n + m = j + m + n by omega]
          · simp only [Edit.keep, Edit.insert, Edit.moveDown, Nat.add_zero] at *
            rwa [show i + n + r = i + (n + r) by omega, show j + n + m + r = j + m + (n + r) by omega]

/-- A kept range before another one becomes part of it. -/
theorem absorb_below {x y n : Nat} :
    Reads old new i j (.keep x y n :: s) i' j' →
      Reads old new i j
        (match s with
          | next :: more =>
            if next.kind = .keep then (next.moveUp n).extend n :: more else .keep x y n :: s
          | [] => [.keep x y n]) i' j' := by
  intro h
  cases s with
  | nil => exact h
  | cons next more =>
    show Reads old new i j (if next.kind = .keep then _ else _) i' j'
    split
    · next kept =>
      have joined := h.join kept.symm
      have widened : (next.moveUp n).extend n = (Edit.keep x y n).join next := by
        cases h with
        | cons first rest =>
          cases first
          cases rest with
          | cons second _ =>
            cases second with
            | delete => cases kept
            | insert => cases kept
            | replace => cases kept
            | keep => simp [Edit.keep, Edit.moveUp, Edit.extend, Edit.join, Nat.add_comm]
      rwa [widened]
    · exact h

/-- A kept range behind another one becomes part of it. Here the edits in front are listed from the
nearest on. -/
theorem absorb_above {before : List Edit} {x y n : Nat} :
    Reads old new i j (before.reverse ++ Edit.keep x y n :: s) i' j' →
      Reads old new i j
        ((match before with
          | prev :: more =>
            if prev.kind = EditKind.keep then prev.extend n :: more else Edit.keep x y n :: before
          | [] => [Edit.keep x y n]).reverse ++ s) i' j' := by
  intro h
  cases before with
  | nil => exact h
  | cons prev more =>
    show Reads old new i j (List.reverse (if prev.kind = EditKind.keep then _ else _) ++ s) i' j'
    split
    · next kept =>
      rw [List.reverse_cons, List.append_assoc] at h ⊢
      exact h.under fun _ _ => (·.join kept)
    · rwa [List.reverse_cons, List.append_assoc]

end Reads

namespace Place

open Reads

/-- The whole script around a place. -/
def edits (p : Place) : List Edit :=
  p.before.reverse ++ p.here :: p.after

/-- The place holds an insertion or a deletion. -/
def Movable (p : Place) : Prop :=
  p.here.kind = .insert ∨ p.here.kind = .delete

variable {p q : Place} {i j i' j' : Nat}

theorem reads_stepUp? (movable : p.Movable) (step : stepUp? old new p = some q)
    (h : Reads old new i j p.edits i' j') :
    Reads old new i j q.edits i' j' ∧ q.here.kind = p.here.kind := by
  obtain ⟨before, here, after⟩ := p
  cases before with
  | nil => cases step
  | cons prev rest =>
    simp only [edits, List.reverse_cons, List.append_assoc, List.singleton_append] at h
    simp only [stepUp?] at step
    split at step
    · next kept =>
      split at step
      · next some_common =>
        cases step
        refine ⟨?_, rfl⟩
        have slid := h.under fun _ _ hr => (hr.slide_up kept movable rfl some_common).behind
          fun _ _ => (·.behind fun _ _ => absorb_below)
        exact drop_above slid
      · split at step
        · next empty =>
          cases step
          exact ⟨h.under fun _ _ => (·.drop_empty empty), rfl⟩
        · cases step
    · split at step
      · next facing =>
        cases step
        rw [opposed_comm] at facing
        exact ⟨h.under fun _ _ => (·.swap facing), rfl⟩
      · split at step
        · next kind =>
          cases step
          exact ⟨h.under fun _ _ => (·.join kind.symm), kind.symm⟩
        · cases step

theorem reads_stepDown? (movable : p.Movable) (step : stepDown? old new p = some q)
    (h : Reads old new i j p.edits i' j') :
    Reads old new i j q.edits i' j' ∧ q.here.kind = p.here.kind := by
  obtain ⟨before, here, after⟩ := p
  cases after with
  | nil => cases step
  | cons next rest =>
    simp only [edits] at h
    simp only [stepDown?] at step
    split at step
    · next kept =>
      split at step
      · next some_common =>
        cases step
        refine ⟨?_, rfl⟩
        have slid := h.under fun _ _ hr => hr.slide_down kept movable rfl some_common
        exact (absorb_above slid).under fun _ _ => (·.behind fun _ _ => drop_below)
      · split at step
        · next empty =>
          cases step
          exact ⟨h.under fun _ _ => (·.behind fun _ _ => (·.drop_empty empty)), rfl⟩
        · cases step
    · split at step
      · next facing =>
        cases step
        have swapped := h.under fun _ _ => (·.swap facing)
        refine ⟨?_, rfl⟩
        simpa [edits] using swapped
      · split at step
        · next kind =>
          cases step
          exact ⟨h.under fun _ _ => (·.join kind), rfl⟩
        · cases step

/-! ## Passing through a script -/

theorem reads_repeatStep {step : Place → Option Place}
    (keeps : ∀ {p q : Place}, p.Movable → step p = some q → Reads old new i j p.edits i' j' →
      Reads old new i j q.edits i' j' ∧ q.here.kind = p.here.kind)
    (fuel : Nat) {p : Place} (movable : p.Movable) (h : Reads old new i j p.edits i' j') :
    Reads old new i j (repeatStep step fuel p).edits i' j' ∧
      (repeatStep step fuel p).here.kind = p.here.kind := by
  induction fuel generalizing p with
  | zero => exact ⟨h, rfl⟩
  | succ fuel ih =>
    rw [repeatStep]
    split
    · next q hq =>
      obtain ⟨hr, kind⟩ := keeps movable hq h
      have movable' : q.Movable := by rwa [Movable, kind]
      obtain ⟨hr', kind'⟩ := ih movable' hr
      exact ⟨hr', kind'.trans kind⟩
    · exact ⟨h, rfl⟩

theorem reads_settle {p : Place} (movable : p.Movable) (h : Reads old new i j p.edits i' j') :
    Reads old new i j (settle old new p).edits i' j' := by
  obtain ⟨up, kind⟩ := reads_repeatStep (fun {_ _} => reads_stepUp?) p.room movable h
  have movable' : Movable (repeatStep (stepUp? old new) p.room p) := by rwa [Movable, kind]
  exact (reads_repeatStep (fun {_ _} => reads_stepDown?) _ movable' up).1

end Place

theorem reads_settleAll {kind : EditKind} (movable : kind = .insert ∨ kind = .delete)
    {i j i' j' : Nat} (fuel : Nat) {before after : List Edit}
    (h : Reads old new i j (before.reverse ++ after) i' j') :
    Reads old new i j (settleAll old new kind fuel before after) i' j' := by
  induction fuel generalizing before after with
  | zero => exact h
  | succ fuel ih =>
    cases after with
    | nil => simpa [settleAll] using h
    | cons e after =>
      rw [settleAll]
      split
      · next he =>
        have settled := Place.reads_settle (p := ⟨before, e, after⟩) (by rwa [Place.Movable, he]) h
        apply ih
        rwa [List.reverse_cons, List.append_assoc]
      · apply ih
        rwa [List.reverse_cons, List.append_assoc]

/-! ## Joining neighbours -/

/-- What is open reads from one place to another: kept lines, or deleted and inserted ones. -/
inductive Open.Reads (old new : List String) : Open → Nat → Nat → Nat → Nat → Prop
  | nothing (i j : Nat) : Reads old new {} i j i j
  | kept {i j n : Nat} (fits : (Edit.keep i j n).Fits old new i j) :
      Reads old new { kept := some (.keep i j n) } i j (i + n) (j + n)
  | deleted {i j n k : Nat} (fits : (Edit.delete i n k).Fits old new i j) :
      Reads old new { deleted := some (.delete i n k) } i j (i + n) j
  | inserted {i j n k : Nat} (fits : (Edit.insert k j n).Fits old new i j) :
      Reads old new { inserted := some (.insert k j n) } i j i (j + n)
  | replaced {i j n m k l : Nat} (deleted : (Edit.delete i n k).Fits old new i j)
      (inserted : (Edit.insert l j m).Fits old new (i + n) j) :
      Reads old new { deleted := some (.delete i n k), inserted := some (.insert l j m) } i j
        (i + n) (j + m)

namespace Open.Reads

variable {o : Open} {i j a b : Nat}

/-- Everything that is open may be written. -/
theorem written (h : Open.Reads old new o i j a b) :
    Diff.Reads old new i j (o.kept.toList ++ o.change) a b := by
  cases h with
  | nothing => exact .nil _ _
  | kept fits => exact .singleton fits
  | deleted fits => exact .singleton fits
  | inserted fits => exact .singleton fits
  | replaced deleted inserted =>
    cases deleted with
    | delete old_end =>
      cases inserted with
      | insert new_end => exact .singleton (.replace old_end new_end)

/-- Kept lines are added to kept ones, after the changes are written. -/
theorem keep {n : Nat} (h : Open.Reads old new o i j a b)
    (fits : (Edit.keep a b n).Fits old new a b) :
    ∃ a' b', Diff.Reads old new i j o.change a' b' ∧
      Open.Reads old new { kept := add o.kept (.keep a b n) } a' b' (a + n) (b + n) := by
  cases h with
  | nothing => exact ⟨_, _, .nil _ _, .kept fits⟩
  | @kept _ _ m first =>
    refine ⟨i, j, .nil _ _, ?_⟩
    have joined : (Edit.keep i j (m + n)).Fits old new i j := first.join fits rfl
    rw [Nat.add_assoc, Nat.add_assoc]
    exact .kept joined
  | deleted first => exact ⟨_, _, .singleton first, .kept fits⟩
  | inserted first => exact ⟨_, _, .singleton first, .kept fits⟩
  | replaced deleted inserted =>
    exact ⟨_, _, (replaced deleted inserted).written, .kept fits⟩

/-- Deleted lines are added to deleted ones, after kept lines are written. -/
theorem delete {n k : Nat} (h : Open.Reads old new o i j a b)
    (fits : (Edit.delete a n k).Fits old new a b) :
    ∃ a' b', Diff.Reads old new i j o.kept.toList a' b' ∧
      Open.Reads old new { o with kept := none, deleted := add o.deleted (.delete a n k) } a' b'
        (a + n) b := by
  cases h with
  | nothing => exact ⟨_, _, .nil _ _, .deleted fits⟩
  | kept first => exact ⟨_, _, .singleton first, .deleted fits⟩
  | @deleted _ _ m l first =>
    refine ⟨i, j, .nil _ _, ?_⟩
    have joined : (Edit.delete i (m + n) l).Fits old new i j := first.join fits rfl
    rw [Nat.add_assoc]
    exact .deleted joined
  | @inserted _ _ m l first =>
    cases fits with
    | delete old_end place =>
      cases first with
      | insert new_end => exact ⟨i, j, .nil _ _, .replaced (.delete old_end place) (.insert new_end)⟩
  | @replaced _ _ m m' l l' deleted inserted =>
    cases fits with
    | delete old_end place =>
      cases inserted with
      | insert new_end =>
        have joined : (Edit.delete i (m + n) l).Fits old new i j :=
          deleted.join (.delete old_end place) rfl
        rw [Nat.add_assoc]
        exact ⟨i, j, .nil _ _, .replaced joined (.insert new_end)⟩

/-- Inserted lines are added to inserted ones, after kept lines are written. -/
theorem insert {n k : Nat} (h : Open.Reads old new o i j a b)
    (fits : (Edit.insert k b n).Fits old new a b) :
    ∃ a' b', Diff.Reads old new i j o.kept.toList a' b' ∧
      Open.Reads old new { o with kept := none, inserted := add o.inserted (.insert k b n) } a' b'
        a (b + n) := by
  cases h with
  | nothing => exact ⟨_, _, .nil _ _, .inserted fits⟩
  | kept first => exact ⟨_, _, .singleton first, .inserted fits⟩
  | deleted first => exact ⟨i, j, .nil _ _, .replaced first fits⟩
  | @inserted _ _ m l first =>
    refine ⟨i, j, .nil _ _, ?_⟩
    have joined : (Edit.insert l j (m + n)).Fits old new i j := first.join fits rfl
    rw [Nat.add_assoc]
    exact .inserted joined
  | @replaced _ _ m m' l l' deleted inserted =>
    have joined : (Edit.insert l' j (m' + n)).Fits old new (i + m) j := inserted.join fits rfl
    rw [Nat.add_assoc]
    exact ⟨i, j, .nil _ _, .replaced deleted joined⟩

end Open.Reads

theorem reads_joinNeighbours {o : Open} {script : List Edit} {i j a b i' j' : Nat}
    (pending : Open.Reads old new o i j a b) (h : Reads old new a b script i' j') :
    Reads old new i j (joinNeighbours o script) i' j' := by
  induction script generalizing o i j a b with
  | nil =>
    cases h
    exact pending.written
  | cons e rest ih =>
    cases h with
    | cons fits h =>
      cases fits with
      | keep old_end new_end same =>
        obtain ⟨a', b', first, pending'⟩ := pending.keep (.keep old_end new_end same)
        exact first.append (ih pending' h)
      | delete old_end place =>
        obtain ⟨a', b', first, pending'⟩ := pending.delete (.delete old_end place)
        exact first.append (ih pending' h)
      | insert new_end =>
        obtain ⟨a', b', first, pending'⟩ := pending.insert (.insert new_end)
        exact first.append (ih pending' h)
      | replace old_end new_end =>
        exact pending.written.append (.cons (.replace old_end new_end) (ih (.nothing _ _) h))

/-- **A tidied script is as right as the script was.** -/
theorem correct_tidy {script : List Edit} (h : Correct old new script) :
    Correct old new (tidy old new script) := by
  have deletions : Correct old new (settleAll old new .delete (weight script + 1) [] script) :=
    reads_settleAll (.inr rfl) _ h
  have insertions : ∀ fuel, Correct old new (settleAll old new .insert fuel [] _) :=
    fun fuel => reads_settleAll (.inl rfl) fuel deletions
  exact reads_joinNeighbours (.nothing 0 0) (insertions _)

end TestImpact.Diff
