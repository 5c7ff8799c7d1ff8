import TestImpact.Proofs.SectionBlocks

/-! Files that moved. Without a line `--- a/` or `+++ b/` only the first line of a section names the
file, and there the old path and the new one stand side by side. The new path is found behind the last
` b/`, unless the line has an odd number of bytes: then its middle is taken for the place between the
paths, and where that is inside one of them nothing is found. -/

namespace TestImpact

namespace Diff

open Text (byteLength)

/-! ## Two paths in a first line -/

/-- What stands in the first line of a section behind its sign when the file has moved. -/
def movedLine (old new : String) : String :=
  "a/" ++ old ++ " b/" ++ new

theorem toList_movedLine (old new : String) :
    (movedLine old new).toList = "a/".toList ++ old.toList ++ ' ' :: ("b/".toList ++ new.toList) := by
  rw [movedLine, String.toList_append, String.toList_append, String.toList_append, List.append_assoc]
  rfl

/-- The path that is read from that, empty where there is none. -/
def pathMoved (old new : String) : String :=
  ((pathOfFirstLine? (movedLine old new).toList).map String.ofList).getD ""

variable {old new : String}

theorem cutLast?_movedLine (absent : ¬ " b/".toList <:+: new.toList) :
    Text.cutLast? " b/".toList (movedLine old new).toList =
      some ("a/".toList ++ old.toList, new.toList) := by
  have last : ¬ ' ' :: "b/".toList <:+: "b/".toList ++ new.toList :=
    mt (Text.infix_append_iff (by decide)).1 absent
  rw [toList_movedLine]
  have found := Text.cutLast?_append ("a/".toList ++ old.toList) last
  rwa [List.append_assoc] at found

theorem byteLength_movedLine :
    byteLength (movedLine old new).toList = byteLength old.toList + byteLength new.toList + 5 := by
  rw [toList_movedLine, Text.byteLength_append, Text.byteLength_append, Text.byteLength_cons,
    Text.byteLength_append]
  show 2 + byteLength old.toList + (1 + (2 + byteLength new.toList)) = _
  omega

/-! ### The four ways of reading it -/

theorem pathMoved_self (path : String) : pathMoved path path = path := by
  have same : movedLine path path = firstLine path := rfl
  rw [pathMoved, same, pathOfFirstLine?_firstLine]
  exact String.ofList_toList

theorem pathMoved_of_odd_sum (plain : ¬ " b/".toList <:+: new.toList)
    (odd : (byteLength old.toList + byteLength new.toList) % 2 = 1) : pathMoved old new = new := by
  have even : byteLength (movedLine old new).toList % 2 = 0 := by
    rw [byteLength_movedLine]
    omega
  rw [pathMoved, pathOfFirstLine?_of_even even, cutLast?_movedLine plain]
  exact String.ofList_toList

theorem pathMoved_of_halves {u w : List Char} (plain : ¬ " b/".toList <:+: new.toList)
    (h : Halves (movedLine old new).toList u w) :
    pathMoved old new = if u = w then String.ofList w else new := by
  rw [pathMoved, pathOfFirstLine?_of_halves h, cutLast?_movedLine plain]
  split
  · rfl
  · exact String.ofList_toList

theorem pathMoved_of_uncut (even : (byteLength old.toList + byteLength new.toList) % 2 ≠ 1)
    (uncut : ∀ u w, ¬ Halves (movedLine old new).toList u w) : pathMoved old new = "" := by
  have odd : byteLength (movedLine old new).toList % 2 = 1 := by
    rw [byteLength_movedLine]
    omega
  rw [pathMoved, pathOfFirstLine?_eq_none odd uncut]
  rfl

/-- Equal halves are not the new path of a file that has moved. -/
theorem Halves.ne_new {u : List Char} (moved : old ≠ new)
    (h : Halves (movedLine old new).toList u u) : u ≠ new.toList := by
  rintro rfl
  obtain ⟨c, -, written, -⟩ := h
  rw [toList_movedLine] at written
  -- The byte between the halves need not be a blank, so only what stands in front of it is compared.
  have fronts := List.append_inj_left' written rfl
  exact moved (String.toList_inj.1 (List.append_cancel_left fronts))

/-- The first line of a moved file names the new path: the file kept its path, the line has an even
number of bytes, its middle cuts it into different halves, or there is no path to be found. -/
def NamesNew (old new : String) : Prop :=
  old = new ∨ (byteLength old.toList + byteLength new.toList) % 2 = 1 ∨
    (∃ u w, Halves (movedLine old new).toList u w ∧ u ≠ w) ∨
    new = "" ∧ ∀ u w, ¬ Halves (movedLine old new).toList u w

theorem pathMoved_eq_iff (plain : old = new ∨ ¬ " b/".toList <:+: new.toList) :
    pathMoved old new = new ↔ NamesNew old new := by
  by_cases same : old = new
  · subst same
    exact iff_of_true (pathMoved_self old) (.inl rfl)
  have plain := plain.resolve_left same
  by_cases odd : (byteLength old.toList + byteLength new.toList) % 2 = 1
  · exact iff_of_true (pathMoved_of_odd_sum plain odd) (.inr (.inl odd))
  by_cases cut : ∃ u w, Halves (movedLine old new).toList u w
  · obtain ⟨u, w, halves⟩ := cut
    rw [pathMoved_of_halves plain halves]
    split
    · next equal =>
      subst equal
      refine iff_of_false (fun named => halves.ne_new same ?_) ?_
      · rw [← named]
        exact String.toList_ofList.symm
      · rintro (kept | even | ⟨s, t, others, different⟩ | ⟨-, uncut⟩)
        · exact same kept
        · exact odd even
        · obtain ⟨rfl, rfl⟩ := halves.unique others
          exact different rfl
        · exact uncut u u halves
    · next different => exact iff_of_true rfl (.inr (.inr (.inl ⟨u, w, halves, different⟩)))
  · have uncut : ∀ u w, ¬ Halves (movedLine old new).toList u w :=
      fun u w halves => cut ⟨u, w, halves⟩
    rw [pathMoved_of_uncut odd uncut]
    refine ⟨fun empty => .inr (.inr (.inr ⟨empty.symm, uncut⟩)), ?_⟩
    rintro (kept | even | ⟨u, w, halves, -⟩ | ⟨empty, -⟩)
    · exact absurd kept same
    · exact absurd even odd
    · exact absurd halves (uncut u w)
    · exact empty.symm

/-! ## Sections -/

/-- A section without names of its file takes the path of its first line. -/
theorem path_ofLines {first : String} {below : List String}
    (unnamed : ∀ line ∈ below.takeWhile fun line => !Text.hasPrefix headerSign line,
      Text.hasPrefix "--- a/" line = false ∧ Text.hasPrefix "+++ b/" line = false) :
    (Section.ofLines first below).path =
      ((pathOfFirstLine? first.toList).map String.ofList).getD "" := by
  have none_named : (below.takeWhile fun line => !Text.hasPrefix headerSign line).filterMap namedPath? =
      [] := by
    refine List.filterMap_eq_nil_iff.2 fun line member => ?_
    obtain ⟨old_side, new_side⟩ := unnamed line member
    rw [namedPath?, Text.stripPrefix?_eq_none old_side, Text.stripPrefix?_eq_none new_side]
    rfl
  rw [Section.ofLines]
  dsimp only
  rw [none_named]
  rfl

/-- **When the first line of a section names the new path.** In a section that has no other names in
front of its hunks, and where the new path has no ` b/` in it unless it is the old one. -/
theorem path_eq_new_iff {diff old new : String} {above below : List String}
    (placed : Text.lines diff = above ++ (sectionSign ++ movedLine old new) :: below)
    (unnamed : ∀ line ∈ (linesOfSection below).takeWhile fun line => !Text.hasPrefix headerSign line,
      Text.hasPrefix "--- a/" line = false ∧ Text.hasPrefix "+++ b/" line = false)
    (plain : old = new ∨ ¬ " b/".toList <:+: new.toList) :
    ∃ s, Section.split diff = sectionsOf above ++ s :: sectionsOf below ∧
      s.body = Text.joinLines (linesOfSection below) ∧ (s.path = new ↔ NamesNew old new) := by
  refine ⟨Section.ofLines (movedLine old new) (linesOfSection below), ?_, rfl, ?_⟩
  · rw [Section.split, placed, sectionsOf_append (Text.hasPrefix_append ..), sectionsOf,
      Text.stripPrefix?_append]
    rfl
  · rw [path_ofLines unnamed]
    exact pathMoved_eq_iff plain

/-- A file with another mode, and one that was renamed to a name of the same length. -/
def renamedDiff : String :=
  "diff --git a/run.sh b/run.sh\nold mode 100644\nnew mode 100755\n" ++
    "diff --git a/src/a.js b/src/b.js\nsimilarity index 100%\n"

theorem path_eq_new_iff_renamed :
    Text.lines renamedDiff =
        ["diff --git a/run.sh b/run.sh", "old mode 100644", "new mode 100755"] ++
          (sectionSign ++ movedLine "src/a.js" "src/b.js") :: ["similarity index 100%"] ∧
      (∀ line ∈ (linesOfSection ["similarity index 100%"]).takeWhile
          fun line => !Text.hasPrefix headerSign line,
        Text.hasPrefix "--- a/" line = false ∧ Text.hasPrefix "+++ b/" line = false) ∧
      ("src/a.js" = "src/b.js" ∨ ¬ " b/".toList <:+: "src/b.js".toList) ∧
      ∃ s, Section.split renamedDiff =
          sectionsOf ["diff --git a/run.sh b/run.sh", "old mode 100644", "new mode 100755"] ++
            s :: sectionsOf ["similarity index 100%"] ∧
        s.body = Text.joinLines (linesOfSection ["similarity index 100%"]) ∧
        (s.path = "src/b.js" ↔ NamesNew "src/a.js" "src/b.js") :=
  have placed : Text.lines renamedDiff =
      ["diff --git a/run.sh b/run.sh", "old mode 100644", "new mode 100755"] ++
        (sectionSign ++ movedLine "src/a.js" "src/b.js") :: ["similarity index 100%"] := by
    decide +kernel
  have unnamed : ∀ line ∈ (linesOfSection ["similarity index 100%"]).takeWhile
      fun line => !Text.hasPrefix headerSign line,
      Text.hasPrefix "--- a/" line = false ∧ Text.hasPrefix "+++ b/" line = false := by
    decide +kernel
  have plain : "src/a.js" = "src/b.js" ∨ ¬ " b/".toList <:+: "src/b.js".toList := by
    decide +kernel
  ⟨placed, unnamed, plain, path_eq_new_iff placed unnamed plain⟩

/-- A file that was renamed to a name that is two bytes longer. -/
def lengthenedDiff : String :=
  "diff --git a/src/a.js b/src/abc.js\nsimilarity index 100%\n"

/-- The middle of the line is inside the longer path, and no path is found. -/
theorem no_path_for_lengthened_name :
    Section.split lengthenedDiff = [⟨"", "similarity index 100%\n", false⟩] ∧
      ¬ ∀ (diff old new : String) (above below : List String),
        Text.lines diff = above ++ (sectionSign ++ movedLine old new) :: below →
        (∀ line ∈ (linesOfSection below).takeWhile fun line => !Text.hasPrefix headerSign line,
          Text.hasPrefix "--- a/" line = false ∧ Text.hasPrefix "+++ b/" line = false) →
        (old = new ∨ ¬ " b/".toList <:+: new.toList) →
        ∃ s, Section.split diff = sectionsOf above ++ s :: sectionsOf below ∧ s.path = new := by
  have sections : Section.split lengthenedDiff = [⟨"", "similarity index 100%\n", false⟩] := by
    decide +kernel
  refine ⟨sections, fun named => ?_⟩
  obtain ⟨s, split, path⟩ := named lengthenedDiff "src/a.js" "src/abc.js" []
    ["similarity index 100%"] (by decide +kernel) (by decide +kernel) (by decide +kernel)
  rw [sections] at split
  obtain ⟨rfl, -⟩ := List.cons.inj split
  exact absurd path (by decide)

/-- Where a cut in the middle happens to leave equal halves, they are taken for the path. -/
example : pathMoved "p b/q b/p" "q" = "p b/q" := by decide +kernel

end Diff

end TestImpact
