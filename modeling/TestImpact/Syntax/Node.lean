import TestImpact.Text.Bytes

/-! Syntax trees. A node has a kind, the name of its place in its parent, the piece of the source it
covers, and children. Nodes for punctuation and keywords are there too; their kind is their text. -/

namespace TestImpact.Syntax

/-- A piece of a source: its bytes, and its rows counted from zero. -/
structure Span where
  startByte : Nat
  stopByte : Nat
  startRow : Nat
  stopRow : Nat
  deriving DecidableEq

inductive Node where
  | mk (kind : String) (field : Option String) (span : Span) (children : List Node)

namespace Node

def kind : Node → String
  | mk kind _ _ _ => kind

def field : Node → Option String
  | mk _ field _ _ => field

def span : Node → Span
  | mk _ _ span _ => span

def children : Node → List Node
  | mk _ _ _ children => children

/-- The first child in a place. -/
def child? (n : Node) (field : String) : Option Node :=
  n.children.find? fun child => child.field == some field

def text? (n : Node) (source : String) : Option String :=
  (Text.byteSlice? n.span.startByte n.span.stopByte source.toList).map String.ofList

/-- The source of the first child in a place. -/
def childText? (n : Node) (field : String) (source : String) : Option String :=
  (n.child? field).bind (·.text? source)

end Node

/-- A node of a listing: how deep it lies, and what it is apart from its children. -/
structure Row where
  depth : Nat
  kind : String
  field : Option String
  span : Span

/-- The trees at `depth` or deeper that a listing in preorder begins with, and the rest of it. A
node's children are the rows below it that lie deeper. Each row is read once, so their number is
enough fuel. -/
def readForest (depth : Nat) : Nat → List Row → List Node × List Row
  | 0, rows => ([], rows)
  | _ + 1, [] => ([], [])
  | fuel + 1, row :: rows =>
    if row.depth < depth then ([], row :: rows)
    else
      let (children, rows) := readForest (row.depth + 1) fuel rows
      let (siblings, rows) := readForest depth fuel rows
      (.mk row.kind row.field row.span children :: siblings, rows)

/-- The tree that a listing in preorder describes. -/
def Node.ofRows? (rows : List Row) : Option Node :=
  (readForest 0 (rows.length + 1) rows).1.head?

end TestImpact.Syntax
