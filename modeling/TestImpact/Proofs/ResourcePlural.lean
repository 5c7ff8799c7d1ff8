import Mathlib.Data.List.Basic
import TestImpact.Proofs.RequestAddress

/-! The plural of a path. Only the last segment that names a resource changes: the plural of a word names
a resource as well and ends in `s`, so it is the last one again and stays as it is. A path that changes
gets longer, by two characters at most. -/

namespace TestImpact

/-! ## Words -/

/-- A word and its plural: a word that ends in `s` is one already, a `y` at the end gives way to `ies`,
and any other word gains an `s`. -/
inductive IsPlural : List Char → List Char → Prop
  | already {word : List Char} : word.getLast? = some 's' → IsPlural word word
  | final_y (stem : List Char) : IsPlural (stem ++ ['y']) (stem ++ ['i', 'e', 's'])
  | gained {word : List Char} : word.getLast? ≠ some 's' → word.getLast? ≠ some 'y' →
      IsPlural word (word ++ ['s'])

theorem isPlural_pluralWord (word : List Char) : IsPlural word (pluralWord word) := by
  rw [pluralWord]
  cases found : Text.beforeSuffix? ['y'] word with
  | some stem =>
    obtain rfl := Text.beforeSuffix?_eq_some_iff.1 found
    exact .final_y stem
  | none =>
    have no_y : word.getLast? ≠ some 'y' := by
      intro last
      obtain ⟨stem, written⟩ := List.getLast?_eq_some_iff.1 last
      rw [Text.beforeSuffix?_eq_some_iff.2 written] at found
      cases found
    by_cases plural : word.getLast? = some 's'
    · simp only [if_pos plural]
      exact .already plural
    · simp only [if_neg plural]
      exact .gained plural no_y

namespace IsPlural

variable {word plural : List Char} (h : IsPlural word plural)

include h

theorem getLast?_eq : plural.getLast? = some 's' := by
  cases h with
  | already ends => exact ends
  | final_y stem => exact List.getLast?_append_of_ne_nil stem (List.cons_ne_nil _ _)
  | gained _ _ => exact List.getLast?_concat

theorem eq_self_iff : plural = word ↔ word.getLast? = some 's' := by
  constructor
  · intro same
    rw [← same]
    exact h.getLast?_eq
  · intro ends
    cases h with
    | already _ => rfl
    | final_y stem =>
      rw [List.getLast?_concat] at ends
      cases ends
    | gained differs _ => exact absurd ends differs

theorem length_le : plural.length ≤ word.length + 2 := by
  cases h with
  | already _ => exact Nat.le_add_right _ 2
  | final_y stem => simp
  | gained _ _ => simp

theorem length_lt (changed : plural ≠ word) : word.length < plural.length := by
  cases h with
  | already _ => exact absurd rfl changed
  | final_y stem => simp
  | gained _ _ => simp

theorem slash_notMem (absent : '/' ∉ word) : '/' ∉ plural := by
  cases h with
  | already _ => exact absent
  | final_y stem => simpa using absent
  | gained _ _ => simpa using absent

theorem namesResource (names : namesResource word = true) : namesResource plural = true := by
  cases h with
  | already _ => exact names
  | final_y stem =>
    cases stem with
    | nil => rfl
    | cons c rest => exact names
  | gained _ _ =>
    cases word with
    | nil => cases names
    | cons c rest => exact names

end IsPlural

/-! ## Segments -/

theorem namesResource_eq_false_iff {segment : List Char} :
    namesResource segment = false ↔ segment = [] ∨ segment.head? = some ':' := by
  simp [namesResource, Decidable.or_iff_not_imp_left]

theorem pluralizeFirst_eq_self {segments : List (List Char)}
    (idle : ∀ segment ∈ segments, namesResource segment = false) :
    pluralizeFirst segments = segments := by
  induction segments with
  | nil => rfl
  | cons segment rest ih =>
    obtain ⟨here, later⟩ := List.forall_mem_cons.1 idle
    rw [pluralizeFirst, if_neg (Bool.not_eq_true _ ▸ here), ih later]

theorem pluralizeFirst_append {front rest : List (List Char)} {word : List Char}
    (idle : ∀ segment ∈ front, namesResource segment = false) (names : namesResource word = true) :
    pluralizeFirst (front ++ word :: rest) = front ++ pluralWord word :: rest := by
  induction front with
  | nil => exact if_pos names
  | cons segment front ih =>
    obtain ⟨here, later⟩ := List.forall_mem_cons.1 idle
    rw [List.cons_append, pluralizeFirst, if_neg (Bool.not_eq_true _ ▸ here), ih later]
    rfl

/-- The last segment that is there and is no parameter, with what stands in front of it and behind. -/
structure LastResource (segments front : List (List Char)) (word : List Char)
    (back : List (List Char)) : Prop where
  split : segments = front ++ word :: back
  some_char : word ≠ []
  no_parameter : word.head? ≠ some ':'
  last : ∀ segment ∈ back, segment = [] ∨ segment.head? = some ':'

namespace LastResource

variable {segments front back : List (List Char)} {word : List Char}

theorem names (h : LastResource segments front word back) : namesResource word = true := by
  rw [← Bool.not_eq_false, namesResource_eq_false_iff, not_or]
  exact ⟨h.some_char, h.no_parameter⟩

theorem pluralize (h : LastResource segments front word back) :
    (pluralizeFirst segments.reverse).reverse = front ++ pluralWord word :: back := by
  have idle : ∀ segment ∈ back.reverse, namesResource segment = false := by
    intro segment mem
    exact namesResource_eq_false_iff.2 (h.last segment (List.mem_reverse.1 mem))
  rw [h.split, List.reverse_append, List.reverse_cons, List.append_assoc, List.singleton_append,
    pluralizeFirst_append idle h.names]
  simp

/-- The plural is the last resource of the segments with it. -/
theorem replaced (h : LastResource segments front word back) {plural : List Char}
    (is_plural : IsPlural word plural) :
    LastResource (front ++ plural :: back) front plural back := by
  have names := is_plural.namesResource h.names
  rw [← Bool.not_eq_false, namesResource_eq_false_iff, not_or] at names
  exact ⟨rfl, names.1, names.2, h.last⟩

end LastResource

/-- Some segment is the last resource, unless none is one. -/
theorem exists_lastResource_or (segments : List (List Char)) :
    (∀ segment ∈ segments, segment = [] ∨ segment.head? = some ':') ∨
      ∃ front word back, LastResource segments front word back := by
  induction segments with
  | nil => exact Or.inl (List.forall_mem_nil _)
  | cons segment rest ih =>
    cases ih with
    | inr later =>
      obtain ⟨front, word, back, here⟩ := later
      exact Or.inr ⟨segment :: front, word, back, congrArg _ here.split, here.some_char,
        here.no_parameter, here.last⟩
    | inl idle =>
      by_cases none : segment = [] ∨ segment.head? = some ':'
      · exact Or.inl (List.forall_mem_cons.2 ⟨none, idle⟩)
      · obtain ⟨some_char, no_parameter⟩ := not_or.1 none
        exact Or.inr ⟨[], segment, rest, rfl, some_char, no_parameter, idle⟩

/-! ## Paths -/

theorem pluralizeResource_eq_self {path : String}
    (idle : ∀ segment ∈ path.toList.splitOn '/', segment = [] ∨ segment.head? = some ':') :
    pluralizeResource path = path := by
  rw [← Text.splitAt_eq_splitOn] at idle
  rw [pluralizeResource, pluralizeFirst_eq_self, List.reverse_reverse, Text.joinWith_splitAt,
    String.ofList_toList]
  intro segment mem
  exact namesResource_eq_false_iff.2 (idle segment (List.mem_reverse.1 mem))

section

variable {path : String} {front back : List (List Char)} {word : List Char}
  (resource : LastResource (path.toList.splitOn '/') front word back)

include resource

theorem toList_pluralizeResource :
    (pluralizeResource path).toList = Text.joinWith '/' (front ++ pluralWord word :: back) := by
  rw [← Text.splitAt_eq_splitOn] at resource
  rw [pluralizeResource, String.toList_ofList, resource.pluralize]

theorem splitOn_pluralizeResource :
    (pluralizeResource path).toList.splitOn '/' = front ++ pluralWord word :: back := by
  have absent : ∀ segment ∈ front ++ word :: back, '/' ∉ segment := by
    rw [← resource.split, ← Text.splitAt_eq_splitOn]
    exact fun segment => Text.notMem_of_mem_splitAt
  rw [List.forall_mem_append, List.forall_mem_cons] at absent
  rw [toList_pluralizeResource resource, ← Text.splitAt_eq_splitOn]
  refine Text.splitAt_joinWith (by simp) ?_
  rw [List.forall_mem_append, List.forall_mem_cons]
  exact ⟨absent.1, (isPlural_pluralWord word).slash_notMem absent.2.1, absent.2.2⟩

theorem pluralizeResource_eq_self_iff :
    pluralizeResource path = path ↔ word.getLast? = some 's' := by
  have pieces := splitOn_pluralizeResource resource
  rw [← (isPlural_pluralWord word).eq_self_iff]
  constructor
  · intro same
    rw [same, resource.split] at pieces
    exact (List.cons.inj (List.append_cancel_left pieces)).1.symm
  · intro same
    apply String.toList_inj.1
    rw [toList_pluralizeResource resource, same, ← resource.split, ← Text.splitAt_eq_splitOn,
      Text.joinWith_splitAt]

/-- A path and its plural differ in length as the words do. -/
theorem length_pluralizeResource :
    (pluralizeResource path).length + word.length = path.length + (pluralWord word).length := by
  have rooted (s : List Char) : Url.textLength (Text.splitAt '/' s) = s.length + 1 := by
    rw [Url.textLength, Url.text_splitAt, List.length_cons]
  have before := rooted path.toList
  have after := rooted (pluralizeResource path).toList
  rw [Text.splitAt_eq_splitOn, resource.split, Url.textLength_append, Url.textLength_cons,
    String.length_toList] at before
  rw [Text.splitAt_eq_splitOn, splitOn_pluralizeResource resource, Url.textLength_append,
    Url.textLength_cons, String.length_toList] at after
  omega

end

theorem length_pluralizeResource_le (path : String) :
    (pluralizeResource path).length ≤ path.length + 2 := by
  cases exists_lastResource_or (path.toList.splitOn '/') with
  | inl idle =>
    rw [pluralizeResource_eq_self idle]
    exact Nat.le_add_right _ 2
  | inr named =>
    obtain ⟨front, word, back, resource⟩ := named
    have lengths := length_pluralizeResource resource
    have bound := (isPlural_pluralWord word).length_le
    omega

theorem length_lt_pluralizeResource {path : String} (changed : pluralizeResource path ≠ path) :
    path.length < (pluralizeResource path).length := by
  cases exists_lastResource_or (path.toList.splitOn '/') with
  | inl idle => exact absurd (pluralizeResource_eq_self idle) changed
  | inr named =>
    obtain ⟨front, word, back, resource⟩ := named
    rw [Ne, pluralizeResource_eq_self_iff resource, ← (isPlural_pluralWord word).eq_self_iff] at changed
    have lengths := length_pluralizeResource resource
    have longer := (isPlural_pluralWord word).length_lt changed
    omega

theorem pluralizeResource_idempotent (path : String) :
    pluralizeResource (pluralizeResource path) = pluralizeResource path := by
  cases exists_lastResource_or (path.toList.splitOn '/') with
  | inl idle => rw [pluralizeResource_eq_self idle, pluralizeResource_eq_self idle]
  | inr named =>
    obtain ⟨front, word, back, resource⟩ := named
    have plural := isPlural_pluralWord word
    have again := resource.replaced plural
    rw [← splitOn_pluralizeResource resource] at again
    exact (pluralizeResource_eq_self_iff again).2 plural.getLast?_eq

/-- A path and the one with its last resource in the plural, which is the path itself where it has no
resource. -/
inductive PluralPath (path : String) : String → Prop
  | idle (none : ∀ segment ∈ path.toList.splitOn '/', segment = [] ∨ segment.head? = some ':') :
      PluralPath path path
  | resource {front back : List (List Char)} {word plural : List Char} {changed : String}
      (last : LastResource (path.toList.splitOn '/') front word back) (plurals : IsPlural word plural)
      (splits : changed.toList.splitOn '/' = front ++ plural :: back) : PluralPath path changed

theorem pluralPath_pluralizeResource (path : String) : PluralPath path (pluralizeResource path) := by
  cases exists_lastResource_or (path.toList.splitOn '/') with
  | inl idle =>
    rw [pluralizeResource_eq_self idle]
    exact .idle idle
  | inr named =>
    obtain ⟨front, word, back, last⟩ := named
    exact .resource last (isPlural_pluralWord word) (splitOn_pluralizeResource last)

/-- **The plural of a path changes its last resource only, and once.** The segments stay as many, and all
but the last one that is there and no parameter stay as they are; this one is put into the plural, so
the path stays the same exactly where there is none or it ends in `s`, and a second time. -/
theorem pluralizeResource_changes_last_resource (path : String) :
    ((pluralizeResource path).toList.splitOn '/').length = (path.toList.splitOn '/').length ∧
      (∀ front word back, LastResource (path.toList.splitOn '/') front word back →
        ∃ plural, IsPlural word plural ∧
          (pluralizeResource path).toList.splitOn '/' = front ++ plural :: back) ∧
      (pluralizeResource path = path ↔
        (∀ segment ∈ path.toList.splitOn '/', segment = [] ∨ segment.head? = some ':') ∨
          ∃ front word back, LastResource (path.toList.splitOn '/') front word back ∧
            word.getLast? = some 's') ∧
      pluralizeResource (pluralizeResource path) = pluralizeResource path := by
  refine ⟨?_, ?_, ?_, pluralizeResource_idempotent path⟩
  · cases exists_lastResource_or (path.toList.splitOn '/') with
    | inl idle => rw [pluralizeResource_eq_self idle]
    | inr named =>
      obtain ⟨front, word, back, resource⟩ := named
      rw [splitOn_pluralizeResource resource, resource.split, List.length_append, List.length_append,
        List.length_cons, List.length_cons]
  · intro front word back resource
    exact ⟨pluralWord word, isPlural_pluralWord word, splitOn_pluralizeResource resource⟩
  · constructor
    · intro same
      cases exists_lastResource_or (path.toList.splitOn '/') with
      | inl idle => exact Or.inl idle
      | inr named =>
        obtain ⟨front, word, back, resource⟩ := named
        exact Or.inr ⟨front, word, back, resource, (pluralizeResource_eq_self_iff resource).1 same⟩
    · intro either
      cases either with
      | inl idle => exact pluralizeResource_eq_self idle
      | inr plural =>
        obtain ⟨front, word, back, resource, ends⟩ := plural
        exact (pluralizeResource_eq_self_iff resource).2 ends

example : pluralizeResource "/category/:id/" = "/categories/:id/" := by decide +kernel

end TestImpact
