import TestImpact.Diff.Script.Edit

/-! Tidying a script. An insertion slides over equal lines as far up and then down as it can go, so
that it ends up against other edits; neighbouring edits of one kind become one, and a deletion
beside an insertion becomes a replacement. -/

namespace TestImpact.Diff

namespace Edit

def moveUp (e : Edit) (n : Nat) : Edit :=
  { e with oldStart := e.oldStart - n, newStart := e.newStart - n }

def moveDown (e : Edit) (n : Nat) : Edit :=
  { e with oldStart := e.oldStart + n, newStart := e.newStart + n }

/-- A kept range with `n` more lines at its end. -/
def extend (e : Edit) (n : Nat) : Edit :=
  { e with oldLength := e.oldLength + n, newLength := e.newLength + n }

/-- A kept range less `n` lines at its end. -/
def shorten (e : Edit) (n : Nat) : Edit :=
  { e with oldLength := e.oldLength - n, newLength := e.newLength - n }

/-- One range as long as two of the same kind, at the place of the first. -/
def join (e other : Edit) : Edit :=
  { e with oldLength := e.oldLength + other.oldLength, newLength := e.newLength + other.newLength }

end Edit

/-- The lines of all ranges and two more for each: a bound on the steps that pass an edit or some of
its lines. -/
def weight (script : List Edit) : Nat :=
  script.foldr (fun e n => e.oldLength + e.newLength + 2 + n) 0

/-- A place in a script: the edits before it, the nearest first, the edit there, and those after. -/
structure Place where
  before : List Edit
  here : Edit
  after : List Edit

namespace Place

/-- Whether the place holds an insertion and the other edit is a deletion, or the reverse. -/
def opposed (here other : Edit) : Bool :=
  (here.kind == .insert && other.kind == .delete) || (here.kind == .delete && other.kind == .insert)

/-- One step up: the place with the edit before it dealt with, or nothing when it stays. Kept lines
before an insertion that end like it pass to the other side; a deletion never passes kept lines,
because it inserts nothing that could equal them. -/
def stepUp? (old new : List String) (p : Place) : Option Place :=
  match p.before with
  | [] => none
  | prev :: rest =>
    if prev.kind = .keep then
      let n := commonSuffix (prev.oldLines old) (p.here.newLines new)
      if 0 < n then
        let after :=
          match p.after with
          | next :: more =>
            if next.kind = .keep then (next.moveUp n).extend n :: more
            else .keep (prev.oldStop - n) (p.here.newStop - n) n :: p.after
          | [] => [.keep (prev.oldStop - n) (p.here.newStop - n) n]
        let prev := prev.shorten n
        some ⟨if prev.isEmpty then rest else prev :: rest, p.here.moveUp n, after⟩
      else if prev.isEmpty then some { p with before := rest }
      else none
    else if opposed p.here prev then some ⟨rest, p.here, prev :: p.after⟩
    else if p.here.kind = prev.kind then some ⟨rest, prev.join p.here, p.after⟩
    else none

/-- One step down, the same towards the other end. -/
def stepDown? (old new : List String) (p : Place) : Option Place :=
  match p.after with
  | [] => none
  | next :: rest =>
    if next.kind = .keep then
      let n := commonPrefix (next.oldLines old) (p.here.newLines new)
      if 0 < n then
        let before :=
          match p.before with
          | prev :: more =>
            if prev.kind = .keep then prev.extend n :: more
            else .keep next.oldStart p.here.newStart n :: p.before
          | [] => [.keep next.oldStart p.here.newStart n]
        let next := (next.moveDown n).shorten n
        some ⟨before, p.here.moveDown n, if next.isEmpty then rest else next :: rest⟩
      else if next.isEmpty then some { p with after := rest }
      else none
    else if opposed p.here next then some ⟨next :: p.before, p.here, rest⟩
    else if p.here.kind = next.kind then some ⟨p.before, p.here.join next, rest⟩
    else none

/-- Repeats a step for as long as it applies, `fuel` times at most. -/
def repeatStep (step : Place → Option Place) : Nat → Place → Place
  | 0, p => p
  | fuel + 1, p =>
    match step p with
    | some p => repeatStep step fuel p
    | none => p

def room (p : Place) : Nat :=
  weight p.before + weight p.after + weight [p.here]

/-- The edit at a place moved up as far as it goes and then down as far as it goes. -/
def settle (old new : List String) (p : Place) : Place :=
  let p := repeatStep (stepUp? old new) p.room p
  repeatStep (stepDown? old new) p.room p

end Place

/-- Settles every edit of a kind from front to back. `before` holds the edits already passed, the
nearest first. Settling never leaves more edits behind the place than were there, so one step for
each edit is enough. -/
def settleAll (old new : List String) (kind : EditKind) :
    Nat → List Edit → List Edit → List Edit
  | 0, before, after => before.reverse ++ after
  | _ + 1, before, [] => before.reverse
  | fuel + 1, before, e :: after =>
    if e.kind = kind then
      let p := Place.settle old new ⟨before, e, after⟩
      settleAll old new kind fuel (p.here :: p.before) p.after
    else settleAll old new kind fuel (e :: before) after

/-- Edits that are next to each other and not yet written: kept lines, or deleted and inserted ones. -/
structure Open where
  kept : Option Edit := none
  deleted : Option Edit := none
  inserted : Option Edit := none

namespace Open

def add (o : Option Edit) (e : Edit) : Option Edit :=
  match o with
  | some first => some (first.join e)
  | none => some e

def change (o : Open) : List Edit :=
  match o.deleted, o.inserted with
  | some d, some i => [.replace d.oldStart d.oldLength i.newStart i.newLength]
  | some d, none => [d]
  | none, some i => [i]
  | none, none => []

end Open

def joinNeighbours (o : Open) : List Edit → List Edit
  | [] => o.kept.toList ++ o.change
  | e :: rest =>
    match e.kind with
    | .keep =>
      o.change ++ joinNeighbours { kept := Open.add o.kept e } rest
    | .delete =>
      o.kept.toList ++ joinNeighbours { o with kept := none, deleted := Open.add o.deleted e } rest
    | .insert =>
      o.kept.toList ++ joinNeighbours { o with kept := none, inserted := Open.add o.inserted e } rest
    | .replace => o.kept.toList ++ o.change ++ e :: joinNeighbours {} rest

/-- A script with its deletions and then its insertions settled and neighbours joined. -/
def tidy (old new : List String) (script : List Edit) : List Edit :=
  let script := settleAll old new .delete (weight script + 1) [] script
  let script := settleAll old new .insert (weight script + 1) [] script
  joinNeighbours {} script

end TestImpact.Diff
