import TestImpact.Diff.LineChanges

/-! Pairing deleted lines with added ones. An edit shows up in a diff as a deletion beside an
addition, so a deleted line takes the first added line within reach that is still free, and the two
become one modified line under the number of the added one. -/

namespace TestImpact.Diff

/-- How far apart two paired line numbers may be. -/
def reach : LineNumber := 1

/-- The distance of two line numbers, without wrapping. -/
def distance (a b : LineNumber) : LineNumber :=
  if a ≤ b then b - a else a - b

/-- The first of the free lines that `line` can be paired with, and the others. -/
def takeNear? (line : LineNumber) : List LineNumber → Option (LineNumber × List LineNumber)
  | [] => none
  | candidate :: free =>
    if distance candidate line ≤ reach then some (candidate, free)
    else (takeNear? line free).map fun (found, rest) => (found, candidate :: rest)

/-- Which lines were paired, and which stayed alone. -/
structure Pairing where
  /-- Each deleted line with the added line it took. -/
  pairs : List (LineNumber × LineNumber)
  loneAdded : List LineNumber
  loneDeleted : List LineNumber

/-- Pairs the deleted lines, in order, with the free added lines. -/
def pairUp : List LineNumber → List LineNumber → Pairing
  | [], free => ⟨[], free, []⟩
  | line :: deleted, free =>
    match takeNear? line free with
    | some (found, free) =>
      let p := pairUp deleted free
      { p with pairs := (line, found) :: p.pairs }
    | none =>
      let p := pairUp deleted free
      { p with loneDeleted := line :: p.loneDeleted }

/-- The changed lines left when pairs are counted as modifications. A deleted line that stayed alone
is dropped where its number is that of a line of the new file that changed. -/
def reconcile (added deleted : LineSet) : LineChanges :=
  let p := pairUp deleted.toList added.toList
  let modified := LineSet.ofList (p.pairs.map Prod.snd)
  let added := LineSet.ofList p.loneAdded
  let deleted := (LineSet.ofList p.loneDeleted).filter fun n => n ∉ added ∧ n ∉ modified
  { added, deleted, modified }

end TestImpact.Diff
