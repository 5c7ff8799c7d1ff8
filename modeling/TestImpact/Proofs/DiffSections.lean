import TestImpact.Analysis.Diff
import TestImpact.Proofs.Pool
import TestImpact.Proofs.RenderedText

/-! A diff over several files, taken apart. Where one text ends at a line feed and the next begins
with the first line of a section, nothing of the one reaches into the other: neither a line, nor a
section, nor what the analysis says of a file. -/

namespace TestImpact

namespace Text

/-- The text is empty or ends at a line feed. -/
def Closed (text : String) : Prop :=
  text = "" ∨ ∃ front, text = front ++ "\n"

theorem Closed.append {first second : String} (closed : Closed first) (more : Closed second) :
    Closed (first ++ second) := by
  rcases more with rfl | ⟨front, rfl⟩
  · rwa [String.append_empty]
  · exact .inr ⟨first ++ front, by rw [String.append_assoc]⟩

end Text

namespace Diff

/-- The first line of the text is the first line of a section. -/
def BeginsSection (text : String) : Prop :=
  ∃ line rest, Text.lines text = line :: rest ∧ Text.hasPrefix sectionSign line = true

/-- The lines up to the next section do not change when whole sections follow. -/
theorem takeWhile_append_section {header : String} (sign : Text.hasPrefix sectionSign header = true)
    (body below : List String) :
    (body ++ header :: below).takeWhile (fun line => !Text.hasPrefix sectionSign line) =
      body.takeWhile fun line => !Text.hasPrefix sectionSign line := by
  induction body with
  | nil => simp [sign]
  | cons line body ih => simp [List.takeWhile_cons, ih]

theorem sectionsOf_append {header : String} (sign : Text.hasPrefix sectionSign header = true)
    (above below : List String) :
    sectionsOf (above ++ header :: below) = sectionsOf above ++ sectionsOf (header :: below) := by
  induction above with
  | nil => rfl
  | cons line above ih =>
    simp only [List.cons_append, sectionsOf, ih, takeWhile_append_section sign]
    split
    · rfl
    · rfl

end Diff

/-! ## Analysis -/

/-- The analysis goes through the sections one by one. -/
theorem analyzeDiff_eq (g : Grammar) (diff : String) (filter : FileFilter) (workers : Nat)
    (load : String → Option String) :
    analyzeDiff g diff filter workers load =
      ((Diff.Section.split diff).filter fun s => !s.deleted && filter.accepts s.path).mapM
        fun s => analyzeFile g s.path s.body (load s.path) := by
  rw [analyzeDiff, Pool.runOrdered_eq_map, List.mapM_map]
  rfl

end TestImpact
