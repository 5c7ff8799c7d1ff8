import TestImpact.Rule

/-! Which rule of a table applies. A rule applies to a name of which one of its words is a part, in
lower case, and the first rule that applies counts. So the rule that one table applies is the one that
another table applies, unless the other table asks before it for a word that the first one does not
know by then. -/

namespace TestImpact

/-- One of the words is a part of a text. -/
def Text.HasWord (words : List String) (text : String) : Prop :=
  ∃ word ∈ words, word.toList <:+: text.toList

instance (words : List String) (text : String) : Decidable (Text.HasWord words text) :=
  inferInstanceAs (Decidable (∃ word ∈ words, word.toList <:+: text.toList))

namespace Rule

variable {α β : Type}

theorem mentions_iff {words : List String} {name : String} :
    mentions words name = true ↔ Text.HasWord words (Text.toLower name) := by
  rw [mentions, List.any_eq_true]
  simp only [Text.contains_iff]
  rfl

/-- A rule applies to a name, and none of those in front of it does. -/
structure Counts (front : List (Rule α)) (rule : Rule α) (name : String) : Prop where
  applies : Text.HasWord rule.words (Text.toLower name)
  first : ∀ earlier ∈ front, ¬ Text.HasWord earlier.words (Text.toLower name)

/-- The rule of a table that counts for a name has this value. -/
def Gives (rules : List (Rule α)) (name : String) (value : α) : Prop :=
  ∃ front rule back, rules = front ++ rule :: back ∧ Counts front rule name ∧ rule.value = value

theorem first?_eq_some_iff {rules : List (Rule α)} {name : String} {value : α} :
    first? rules name = some value ↔ Gives rules name value := by
  rw [first?, Option.map_eq_some_iff]
  simp only [List.find?_eq_some_iff_append, mentions_iff, Bool.not_eq_true', ← Bool.not_eq_true]
  constructor
  · intro h
    obtain ⟨rule, ⟨applies, front, back, split, first⟩, same⟩ := h
    exact ⟨front, rule, back, split, ⟨applies, first⟩, same⟩
  · intro h
    obtain ⟨front, rule, back, split, counts, same⟩ := h
    exact ⟨rule, ⟨counts.applies, front, back, split, counts.first⟩, same⟩

theorem mem_of_first? {rules : List (Rule α)} {name : String} {value : α}
    (h : first? rules name = some value) : ∃ rule ∈ rules, rule.value = value := by
  obtain ⟨front, rule, back, rfl, _, same⟩ := first?_eq_some_iff.1 h
  exact ⟨rule, List.mem_append_right _ List.mem_cons_self, same⟩

theorem isSome_first?_iff {rules : List (Rule α)} {name : String} :
    (first? rules name).isSome = true ↔
      ∃ rule ∈ rules, Text.HasWord rule.words (Text.toLower name) := by
  rw [first?, Option.isSome_map, List.find?_isSome]
  simp only [mentions_iff]

/-- A table that never gives a value in front of a rule gives it for a name of this rule exactly where
none of the rules in front applies. -/
theorem first?_eq_value_iff {front back : List (Rule α)} {rule : Rule α} {name : String}
    (applies : Text.HasWord rule.words (Text.toLower name))
    (other : ∀ earlier ∈ front, earlier.value ≠ rule.value) :
    first? (front ++ rule :: back) name = some rule.value ↔
      ∀ earlier ∈ front, ¬ Text.HasWord earlier.words (Text.toLower name) := by
  induction front with
  | nil =>
    rw [List.nil_append, first?_cons, if_pos (mentions_iff.2 applies)]
    exact iff_of_true rfl (List.forall_mem_nil _)
  | cons head front ih =>
    obtain ⟨differs, other⟩ := List.forall_mem_cons.1 other
    rw [List.cons_append, first?_cons, List.forall_mem_cons, ← ih other, ← mentions_iff]
    by_cases mentioned : mentions head.words name = true
    · rw [if_pos mentioned, Option.some.injEq]
      exact iff_of_false differs fun both => both.1 mentioned
    · rw [if_neg mentioned]
      exact (and_iff_right mentioned).symm

/-- The words in front of a rule of one table that do not stand in front of a rule of another. -/
def newWords (front : List (Rule α)) (other : List (Rule β)) : List String :=
  (front.flatMap words).filter fun word => word ∉ other.flatMap words

/-- Where a rule of one table counts, a rule of another table with the same words counts as well, unless
a word that is new to the first table stands in front of it. -/
theorem Counts.first?_eq_value_iff {front back : List (Rule α)} {rule : Rule α}
    {other : List (Rule β)} {counted : Rule β} {name : String} (counts : Counts other counted name)
    (known : ∀ word ∈ counted.words, word ∈ rule.words)
    (differ : ∀ earlier ∈ front, earlier.value ≠ rule.value) :
    first? (front ++ rule :: back) name = some rule.value ↔
      ¬ Text.HasWord (newWords front other) (Text.toLower name) := by
  obtain ⟨word, member, part⟩ := counts.applies
  rw [Rule.first?_eq_value_iff ⟨word, known word member, part⟩ differ]
  constructor
  · intro idle some_new
    obtain ⟨word, new, part⟩ := some_new
    obtain ⟨rule, inFront, member⟩ := List.mem_flatMap.1 (List.mem_filter.1 new).1
    exact idle rule inFront ⟨word, member, part⟩
  · intro no_new rule inFront mentioned
    obtain ⟨word, member, part⟩ := mentioned
    refine no_new ⟨word, List.mem_filter.2 ⟨List.mem_flatMap.2 ⟨rule, inFront, member⟩, ?_⟩, part⟩
    refine decide_eq_true fun old => ?_
    obtain ⟨earlier, inOther, member⟩ := List.mem_flatMap.1 old
    exact counts.first earlier inOther ⟨word, member, part⟩

end Rule

end TestImpact
