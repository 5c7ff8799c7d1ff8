/-! Edit scripts. A script lists ranges of old and new lines from front to back; reading the kept
and deleted ranges gives the old lines, reading the kept and inserted ones the new lines. -/

namespace TestImpact.Diff

inductive EditKind where
  | keep
  | delete
  | insert
  | replace
  deriving DecidableEq, Repr

/-- One range of a script. A kept range has equally many old and new lines; a deleted range has no
new lines and an inserted range no old ones. -/
structure Edit where
  kind : EditKind
  oldStart : Nat
  oldLength : Nat
  newStart : Nat
  newLength : Nat
  deriving DecidableEq, Repr

namespace Edit

def keep (oldStart newStart length : Nat) : Edit :=
  ⟨.keep, oldStart, length, newStart, length⟩

def delete (oldStart length newStart : Nat) : Edit :=
  ⟨.delete, oldStart, length, newStart, 0⟩

def insert (oldStart newStart length : Nat) : Edit :=
  ⟨.insert, oldStart, 0, newStart, length⟩

def replace (oldStart oldLength newStart newLength : Nat) : Edit :=
  ⟨.replace, oldStart, oldLength, newStart, newLength⟩

/-- One past the last old line. -/
def oldStop (e : Edit) : Nat := e.oldStart + e.oldLength

def newStop (e : Edit) : Nat := e.newStart + e.newLength

def isEmpty (e : Edit) : Bool := e.oldLength == 0 && e.newLength == 0

def oldLines (e : Edit) (old : List String) : List String :=
  (old.drop e.oldStart).take e.oldLength

def newLines (e : Edit) (new : List String) : List String :=
  (new.drop e.newStart).take e.newLength

end Edit

def commonPrefix : List String → List String → Nat
  | a :: as, b :: bs => if a = b then commonPrefix as bs + 1 else 0
  | _, _ => 0

def commonSuffix (as bs : List String) : Nat :=
  commonPrefix as.reverse bs.reverse

theorem take_commonPrefix (as bs : List String) :
    as.take (commonPrefix as bs) = bs.take (commonPrefix as bs) := by
  induction as generalizing bs with
  | nil => simp [commonPrefix]
  | cons a as ih =>
    cases bs with
    | nil => simp [commonPrefix]
    | cons b bs =>
      simp only [commonPrefix]
      split
      · next h => simp [h, ih bs]
      · rfl

end TestImpact.Diff
