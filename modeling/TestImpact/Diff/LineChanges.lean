import TestImpact.Change
import TestImpact.LineSet

/-! The changed lines of one file, by kind of change. All numbers count lines of the new file. -/

namespace TestImpact.Diff

structure LineChanges where
  added : LineSet := ∅
  deleted : LineSet := ∅
  modified : LineSet := ∅
  deriving DecidableEq

namespace LineChanges

instance : Inhabited LineChanges := ⟨{}⟩

def isEmpty (c : LineChanges) : Bool :=
  c.added.isEmpty && c.deleted.isEmpty && c.modified.isEmpty

/-- The changed lines that the new file has: the added ones, then the modified ones. -/
def touched (c : LineChanges) : List LineNumber :=
  c.added.toList ++ c.modified.toList

/-- Every changed line with its change, in the order in which they decide what happened to a
declaration: deletions first, then additions, then modifications. -/
def byWeight (c : LineChanges) : List (LineNumber × Change) :=
  c.deleted.toList.map (·, .deleted) ++
    c.added.toList.map (·, .added) ++
    c.modified.toList.map (·, .modified)

theorem mem_touched {c : LineChanges} {n : LineNumber} :
    n ∈ c.touched ↔ n ∈ c.added ∨ n ∈ c.modified :=
  List.mem_append

end LineChanges

end TestImpact.Diff
