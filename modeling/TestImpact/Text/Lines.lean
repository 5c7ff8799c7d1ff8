/-! The lines of a text. A line ends at a line feed, which it does not keep, nor a carriage return
just before it. What follows the last line feed is a line too, unless it is empty; it keeps
its carriage return. -/

namespace TestImpact.Text

/-- The lines of a text, in order. -/
def splitLines : List Char → List (List Char)
  | [] => []
  | '\n' :: rest => [] :: splitLines rest
  | '\r' :: '\n' :: rest => [] :: splitLines rest
  | c :: rest =>
    match splitLines rest with
    | [] => [[c]]
    | line :: more => (c :: line) :: more

def lines (text : String) : List String :=
  (splitLines text.toList).map String.ofList

/-- Every line followed by a line feed. -/
def joinLines (ls : List String) : String :=
  String.join (ls.map (· ++ "\n"))

theorem splitLines_nil : splitLines [] = [] := rfl

theorem splitLines_cons {c : Char} (hn : c ≠ '\n') (hr : c ≠ '\r') (rest : List Char) :
    splitLines (c :: rest) =
      match splitLines rest with
      | [] => [[c]]
      | line :: more => (c :: line) :: more := by
  rw [splitLines]
  · exact hn
  · exact fun _ h => absurd h hr

/-- A line without feeds and returns, closed by a feed, is the first line of the text. -/
theorem splitLines_append_feed (line rest : List Char) (hn : '\n' ∉ line) (hr : '\r' ∉ line) :
    splitLines (line ++ '\n' :: rest) = line :: splitLines rest := by
  induction line with
  | nil => rfl
  | cons c line ih =>
    simp only [List.mem_cons, not_or] at hn hr
    rw [List.cons_append, splitLines_cons (Ne.symm hn.1) (Ne.symm hr.1), ih hn.2 hr.2]

end TestImpact.Text
