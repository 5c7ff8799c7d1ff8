import TestImpact.Diff.LineChanges
import TestImpact.Source.Declaration

/-! Which declarations a set of changed lines touches. A declaration is touched when a changed line
lies in its range, and what happened to it is the gravest change among these lines: a deletion, else
an addition, else a modification. A line inside nested declarations counts for each of them. -/

namespace TestImpact

/-- What the changed lines did to a declaration. -/
def Declaration.change? (d : Declaration) (lines : Diff.LineChanges) : Option Change :=
  (lines.byWeight.find? fun (line, _) => d.contains line).map Prod.snd

/-- The declarations that changed lines touch, in their order. -/
def touchedDeclarations (declarations : List Declaration) (lines : Diff.LineChanges) : ChangeRecord :=
  ChangeRecord.ofList
    (declarations.filterMap fun d => (d.change? lines).map fun change => (d.name, change))

/-- Every declaration as modified, for want of a diff. -/
def assumeModified (declarations : List Declaration) : ChangeRecord :=
  ChangeRecord.ofList (declarations.map fun d => (d.name, .modified))

end TestImpact
