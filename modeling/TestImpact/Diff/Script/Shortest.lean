import TestImpact.Diff.Script.Edit

/-! A shortest edit script in linear space. Two searches, one from each end, extend the furthest
points reached on every diagonal by one edit a round; where they meet, the problem is cut in two.
The furthest points of one search are kept for the next, which overwrites those that it reads, all
but the ones past its own diagonals. -/

namespace TestImpact.Diff

/-- The furthest old line reached on each diagonal, numbered from `-center`. -/
structure Frontier where
  cells : Array Nat
  center : Nat

namespace Frontier

def ofReach (reach : Nat) : Frontier := ⟨Array.replicate (2 * reach) 0, reach⟩

def get (f : Frontier) (k : Int) : Nat :=
  f.cells.getD (k + f.center).toNat 0

def set (f : Frontier) (k : Int) (x : Nat) : Frontier :=
  { f with cells := f.cells.setIfInBounds (k + f.center).toNat x }

/-- Where diagonal `k` is entered in round `d`: from the neighbour that is further on. -/
def enter (f : Frontier) (d : Nat) (k : Int) : Nat :=
  if k = -d ∨ (k ≠ d ∧ f.get (k - 1) < f.get (k + 1)) then f.get (k + 1) else f.get (k - 1) + 1

end Frontier

/-- How many lines `a` from `x` and `b` from `y` on are equal, `fuel` of them at most. -/
def runLength (a b : Array String) (x y : Nat) : Nat → Nat
  | 0 => 0
  | fuel + 1 =>
    match a[x]?, b[y]? with
    | some l, some r => if l = r then runLength a b (x + 1) (y + 1) fuel + 1 else 0
    | _, _ => 0

/-- How far the search on diagonal `k` gets from `x` along equal lines. -/
def slide (a b : Array String) (k : Int) (x : Nat) : Nat :=
  let y := (x : Int) - k
  if 0 ≤ y then x + runLength a b x y.toNat a.size else x

/-- The diagonals of round `d`, the highest first. -/
def diagonals (d : Nat) : List Int :=
  (List.range (d + 1)).map fun (i : Nat) => (d : Int) - 2 * (i : Int)

structure Search where
  forward : Frontier
  backward : Frontier

/-- The lines to be compared, in both directions, and the difference of their numbers. -/
structure Problem where
  old : Array String
  new : Array String
  oldBack : Array String
  newBack : Array String
  delta : Int

def Problem.of (old new : List String) : Problem where
  old := old.toArray
  new := new.toArray
  oldBack := old.reverse.toArray
  newBack := new.reverse.toArray
  delta := old.length - new.length

abbrev Point := Nat × Nat

/-- One round of the search from the front. It meets the other one only where the difference of the
line counts is odd; the meeting point is where the run of equal lines begins. -/
def forwardRound (p : Problem) (d : Nat) : List Int → Search → Search × Option Point
  | [], s => (s, none)
  | k :: ks, s =>
    let x := s.forward.enter d k
    let far := slide p.old p.new k x
    let s := { s with forward := s.forward.set k far }
    if p.delta % 2 = 1 ∧ ((k - p.delta).natAbs : Int) ≤ (d : Int) - 1 ∧
        p.old.size ≤ far + s.backward.get (p.delta - k) then
      (s, some (x, ((x : Int) - k).toNat))
    else forwardRound p d ks s

def backwardRound (p : Problem) (d : Nat) : List Int → Search → Search × Option Point
  | [], s => (s, none)
  | k :: ks, s =>
    let far := slide p.oldBack p.newBack k (s.backward.enter d k)
    let s := { s with backward := s.backward.set k far }
    if p.delta % 2 = 0 ∧ (k - p.delta).natAbs ≤ d ∧
        p.old.size ≤ far + s.forward.get (p.delta - k) then
      (s, some (p.old.size - far, ((p.new.size : Int) - ((far : Int) - k)).toNat))
    else backwardRound p d ks s

/-- Rounds `d`, `d + 1`, … until the searches meet. -/
def searchRounds (p : Problem) : Nat → Nat → Search → Search × Option Point
  | 0, _, s => (s, none)
  | rounds + 1, d, s =>
    match forwardRound p d (diagonals d) s with
    | (s, some point) => (s, some point)
    | (s, none) =>
      match backwardRound p d (diagonals d) s with
      | (s, some point) => (s, some point)
      | (s, none) => searchRounds p rounds (d + 1) s

def maxRounds (n m : Nat) : Nat := (n + m + 1) / 2 + 1

/-- Where to cut a problem in two. -/
def middle (old new : List String) (s : Search) : Search × Option Point :=
  searchRounds (Problem.of old new) (maxRounds old.length new.length) 0
    { forward := s.forward.set 1 0, backward := s.backward.set 1 0 }

/-- The script for `old` and `new`, which begin at the given lines of the whole texts. Common lines
on both ends are kept; what remains is deleted, inserted, or cut in two. -/
def conquer : Nat → List String → List String → Nat → Nat → Search → List Edit × Search
  | 0, _, _, _, _, s => ([], s)
  | fuel + 1, old, new, oldStart, newStart, s =>
    let front := commonPrefix old new
    let oldRest := old.drop front
    let newRest := new.drop front
    let back := commonSuffix oldRest newRest
    let oldCore := oldRest.take (oldRest.length - back)
    let newCore := newRest.take (newRest.length - back)
    let i := oldStart + front
    let j := newStart + front
    let (core, s) : List Edit × Search :=
      match oldCore, newCore with
      | [], [] => ([], s)
      | _, [] => ([.delete i oldCore.length j], s)
      | [], _ => ([.insert i j newCore.length], s)
      | _, _ =>
        match middle oldCore newCore s with
        | (s, some (x, y)) =>
          let (left, s) := conquer fuel (oldCore.take x) (newCore.take y) i j s
          let (right, s) := conquer fuel (oldCore.drop x) (newCore.drop y) (i + x) (j + y) s
          (left ++ right, s)
        | (s, none) => ([.delete i oldCore.length j, .insert i j newCore.length], s)
    ((if front = 0 then [] else [.keep oldStart newStart front]) ++ core ++
      (if back = 0 then [] else [.keep (i + oldCore.length) (j + newCore.length) back]), s)

/-- A shortest script that turns `old` into `new`. Every cut leaves less on both sides, so one step
a line is enough. -/
def shortestScript (old new : List String) : List Edit :=
  let reach := maxRounds old.length new.length
  (conquer (old.length + new.length + 1) old new 0 0
    { forward := .ofReach reach, backward := .ofReach reach }).1

end TestImpact.Diff
