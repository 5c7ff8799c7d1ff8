import TestImpact.Proofs.JsonText

/-! Reading back written JSON. The compact and the pretty form differ in blanks only, so both are
read as one form with some blanks: a value made of text, truth values, natural numbers, arrays and
objects is read as itself, however it is spaced, as long as it is not nested too deep. -/

namespace TestImpact.Json

/-- How written JSON is spaced: what stands in front of an item at a depth, and behind the colon of
a field. -/
structure Layout where
  line : Nat → List Char
  space : List Char
  line_gap : ∀ depth, ∀ c ∈ line depth, isGap c = true
  space_gap : ∀ c ∈ space, isGap c = true

namespace Layout

def compact : Layout where
  line _ := []
  space := []
  line_gap := by simp
  space_gap := by simp

def pretty : Layout where
  line := newLine
  space := [' ']
  line_gap depth c h := by
    rcases List.mem_cons.1 h with rfl | h
    · decide
    · rw [(List.mem_replicate.1 h).2]
      decide
  space_gap c h := by
    rw [List.mem_singleton.1 h]
    decide

mutual

def chars (l : Layout) (depth : Nat) : Json → List Char
  | .array [] => ['[', ']']
  | .array items => '[' :: l.line (depth + 1) ++ itemChars l depth items
  | .object [] => ['\x7b', '\x7d']
  | .object fields => '\x7b' :: l.line (depth + 1) ++ fieldChars l depth fields
  | .null => "null".toList
  | .bool true => "true".toList
  | .bool false => "false".toList
  | .natural n => Text.decimal n
  | .real x => x.text
  | .string s => stringText s
  | .unreadable => "null".toList

def itemChars (l : Layout) (depth : Nat) : List Json → List Char
  | [] => l.line depth ++ [']']
  | [item] => chars l (depth + 1) item ++ l.line depth ++ [']']
  | item :: rest =>
    chars l (depth + 1) item ++ ',' :: l.line (depth + 1) ++ itemChars l depth rest

def fieldChars (l : Layout) (depth : Nat) : List (String × Json) → List Char
  | [] => l.line depth ++ ['\x7d']
  | [(name, value)] =>
    stringText name ++ ':' :: l.space ++ chars l (depth + 1) value ++ l.line depth ++ ['\x7d']
  | (name, value) :: rest =>
    stringText name ++ ':' :: l.space ++ chars l (depth + 1) value ++
      ',' :: l.line (depth + 1) ++ fieldChars l depth rest

end

mutual

theorem chars_compact : ∀ (v : Json) (depth : Nat), compact.chars depth v = v.compactChars
  | .array [], _ => rfl
  | .array (item :: rest), depth => congrArg ('[' :: ·) (itemChars_compact (item :: rest) depth)
  | .object [], _ => rfl
  | .object (field :: rest), depth =>
    congrArg ('\x7b' :: ·) (fieldChars_compact (field :: rest) depth)
  | .null, _ | .bool true, _ | .bool false, _ | .natural _, _ | .real _, _ | .string _, _
  | .unreadable, _ => rfl

theorem itemChars_compact :
    ∀ (items : List Json) (depth : Nat), compact.itemChars depth items = compactItems items
  | [], _ => rfl
  | [item], depth => by
    rw [itemChars, chars_compact item, compactItems]
    simp [compact]
  | item :: next :: rest, depth => by
    rw [itemChars, chars_compact item, itemChars_compact (next :: rest)]
    · show _ = compactChars item ++ ',' :: compactItems (next :: rest)
      simp [compact]
    · simp

theorem fieldChars_compact :
    ∀ (fields : List (String × Json)) (depth : Nat),
      compact.fieldChars depth fields = compactFields fields
  | [], _ => rfl
  | [(name, value)], depth => by
    rw [fieldChars, chars_compact value, compactFields]
    simp [compact]
  | (name, value) :: next :: rest, depth => by
    rw [fieldChars, chars_compact value, fieldChars_compact (next :: rest)]
    · show _ = stringText name ++ ':' :: compactChars value ++ ',' :: compactFields (next :: rest)
      simp [compact]
    · simp

end

mutual

theorem chars_pretty : ∀ (v : Json) (depth : Nat), pretty.chars depth v = prettyChars depth v
  | .array [], _ => rfl
  | .array (item :: rest), depth =>
    congrArg ('[' :: newLine (depth + 1) ++ ·) (itemChars_pretty (item :: rest) depth)
  | .object [], _ => rfl
  | .object (field :: rest), depth =>
    congrArg ('\x7b' :: newLine (depth + 1) ++ ·) (fieldChars_pretty (field :: rest) depth)
  | .null, _ | .bool true, _ | .bool false, _ | .natural _, _ | .real _, _ | .string _, _
  | .unreadable, _ => rfl

theorem itemChars_pretty :
    ∀ (items : List Json) (depth : Nat), pretty.itemChars depth items = prettyItems depth items
  | [], _ => rfl
  | [item], depth => by
    rw [itemChars, chars_pretty item, prettyItems]
    rfl
  | item :: next :: rest, depth => by
    rw [itemChars, chars_pretty item, itemChars_pretty (next :: rest)]
    · rfl
    · simp

theorem fieldChars_pretty :
    ∀ (fields : List (String × Json)) (depth : Nat),
      pretty.fieldChars depth fields = prettyFields depth fields
  | [], _ => rfl
  | [(name, value)], depth => by
    rw [fieldChars, chars_pretty value, prettyFields]
    simp [pretty]
  | (name, value) :: next :: rest, depth => by
    rw [fieldChars, chars_pretty value, fieldChars_pretty (next :: rest)]
    · show _ = stringText name ++ ':' :: ' ' :: prettyChars (depth + 1) value ++
        ',' :: newLine (depth + 1) ++ prettyFields depth (next :: rest)
      simp [pretty]
    · simp

end

end Layout

/-! ## Plain values -/

/-- A value that its text keeps: without fractions and unreadable pieces, with numbers below the
bound, and with at most so many arrays and objects open at once. -/
inductive Plain : Nat → Json → Prop
  | null {levels : Nat} : Plain levels .null
  | bool {levels : Nat} (b : Bool) : Plain levels (.bool b)
  | natural {levels n : Nat} (small : n < naturalBound) : Plain levels (.natural n)
  | string {levels : Nat} (s : String) : Plain levels (.string s)
  | array {levels : Nat} {items : List Json} (below : ∀ item ∈ items, Plain levels item) :
    Plain (levels + 1) (.array items)
  | object {levels : Nat} {fields : List (String × Json)}
    (below : ∀ field ∈ fields, Plain levels field.2) : Plain (levels + 1) (.object fields)

/-! ## What stands at the ends of a value -/

theorem skipGap_append {gap : List Char} (blank : ∀ c ∈ gap, isGap c = true) (s : List Char) :
    skipGap (gap ++ s) = skipGap s :=
  List.dropWhile_append_of_pos blank

@[simp] theorem skipGap_cons {c : Char} (visible : isGap c = false) (s : List Char) :
    skipGap (c :: s) = c :: s :=
  List.dropWhile_cons_of_neg (by simp [visible])

theorem outsideNumber_of_isGap {c : Char} (gap : isGap c = true) : OutsideNumber c := by
  simp only [isGap, Bool.or_eq_true, beq_iff_eq] at gap
  rcases gap with ((rfl | rfl) | rfl) | rfl <;> decide

/-- No number goes on behind a blank. -/
theorem EndsNumber.gap {gap : List Char} (blank : ∀ c ∈ gap, isGap c = true) {rest : List Char}
    (ends : EndsNumber rest) : EndsNumber (gap ++ rest) := by
  cases gap with
  | nil => exact ends
  | cons c gap => exact .cons (outsideNumber_of_isGap (blank c (by simp))) _

/-- The text of a value begins with it: with no blank, and not by closing an array. -/
def StartsValue (s : List Char) : Prop :=
  ∃ c rest, s = c :: rest ∧ isGap c = false ∧ c ≠ ']'

theorem StartsValue.append {s : List Char} (starts : StartsValue s) (rest : List Char) :
    StartsValue (s ++ rest) := by
  obtain ⟨c, tail, rfl, visible, other⟩ := starts
  exact ⟨c, tail ++ rest, rfl, visible, other⟩

theorem StartsValue.skipGap_eq {s : List Char} (starts : StartsValue s) : skipGap s = s := by
  obtain ⟨c, tail, rfl, visible, -⟩ := starts
  exact skipGap_cons visible tail

theorem startsValue_decimal (n : Nat) : StartsValue (Text.decimal n) := by
  obtain ⟨c, digits, written, digit⟩ := Text.exists_decimal_eq_cons n
  refine ⟨c, digits, written, Bool.eq_false_iff.2 fun gap => ?_, ?_⟩
  · exact absurd digit (by simp [(outsideNumber_of_isGap gap).1])
  · rintro rfl
    exact absurd digit (by decide)

theorem startsValue_array (l : Layout) (depth : Nat) (items : List Json) :
    StartsValue (l.chars depth (.array items)) := by
  cases items <;> exact ⟨'[', _, rfl, by decide, by decide⟩

theorem startsValue_object (l : Layout) (depth : Nat) (fields : List (String × Json)) :
    StartsValue (l.chars depth (.object fields)) := by
  cases fields <;> exact ⟨'\x7b', _, rfl, by decide, by decide⟩

/-! ## Reading -/

theorem readValue?_string (fuel depth : Nat) (s : String) (rest : List Char) :
    readValue? (fuel + 1) depth (stringText s ++ rest) = some (.string s, rest) := by
  obtain ⟨text, written, read⟩ := readString?_stringText s rest
  rw [written]
  show (readString? text).map _ = _
  rw [read]
  rfl

theorem readValue?_natural (fuel depth : Nat) {n : Nat} (small : n < naturalBound) {rest : List Char}
    (ends : EndsNumber rest) :
    readValue? (fuel + 1) depth (Text.decimal n ++ rest) = some (.natural n, rest) := by
  have number := readNumeral?_decimal n ends
  obtain ⟨c, digits, written, digit⟩ := Text.exists_decimal_eq_cons n
  rw [written, List.cons_append] at number ⊢
  unfold readValue?
  split
  case h_7 =>
    rw [number]
    simp [← written, value_decimal small]
  all_goals
    next same =>
      obtain ⟨rfl, -⟩ := List.cons.inj same
      simp at digit

section Reading

variable {l : Layout} {depth : Nat}

/-- The value is read as it is written, by two steps a character, whatever follows it that cannot
belong to a number. -/
structure Layout.ReadsBack (l : Layout) (depth : Nat) (v : Json) : Prop where
  starts : StartsValue (l.chars depth v)
  read (fuel : Nat) (rest : List Char) : 2 * (l.chars depth v).length ≤ fuel → EndsNumber rest →
    readValue? fuel depth (l.chars depth v ++ rest) = some (v, rest)

/-- Nothing that stands behind an item or a field belongs to a number. -/
theorem endsNumber_line {c : Char} (outside : OutsideNumber c) (rest : List Char) :
    EndsNumber (l.line depth ++ c :: rest) :=
  .gap (l.line_gap depth) (.cons outside rest)

theorem skipGap_line {c : Char} (visible : isGap c = false) (rest : List Char) :
    skipGap (l.line depth ++ c :: rest) = c :: rest := by
  rw [skipGap_append (l.line_gap depth), skipGap_cons visible]

theorem skipGap_line_starts {s : List Char} (starts : StartsValue s) :
    skipGap (l.line depth ++ s) = s := by
  rw [skipGap_append (l.line_gap depth), starts.skipGap_eq]

theorem startsValue_itemChars {items : List Json} (some_item : items ≠ [])
    (below : ∀ item ∈ items, l.ReadsBack (depth + 1) item) : StartsValue (l.itemChars depth items) := by
  cases items with
  | nil => exact absurd rfl some_item
  | cons item items =>
    have first := (below item (by simp)).starts
    cases items with
    | nil => exact (first.append _).append _
    | cons next items => exact (first.append _).append _

theorem readItems?_itemChars {items : List Json} (some_item : items ≠ [])
    (below : ∀ item ∈ items, l.ReadsBack (depth + 1) item) (rest : List Char) (fuel : Nat)
    (enough : 2 * (l.itemChars depth items).length ≤ fuel) :
    readItems? fuel (depth + 1) (l.itemChars depth items ++ rest) = some (items, rest) := by
  induction items generalizing fuel with
  | nil => exact absurd rfl some_item
  | cons item items ih =>
    have first := (below item (by simp)).read
    cases items with
    | nil =>
      rw [Layout.itemChars] at enough ⊢
      -- one step of the fuel is for the list, the others are for the text of the item
      obtain _ | fuel := fuel
      · simp at enough
      · simp only [List.append_assoc, List.cons_append, List.nil_append]
        rw [readItems?, first fuel _ (by simp at enough; omega) (endsNumber_line (by decide) _)]
        simp [skipGap_line (c := ']') (by decide)]
    | cons next items =>
      have written : l.itemChars depth (item :: next :: items) = l.chars (depth + 1) item ++
          ',' :: (l.line (depth + 1) ++ l.itemChars depth (next :: items)) := by
        rw [← List.cons_append, ← List.append_assoc]
        rfl
      have later : ∀ v ∈ next :: items, l.ReadsBack (depth + 1) v := fun v h => below v (by simp [h])
      have starts := (startsValue_itemChars (by simp) later).append rest
      rw [written] at enough ⊢
      obtain _ | fuel := fuel
      · simp at enough
      · simp only [List.append_assoc, List.cons_append]
        simp only [List.length_append, List.length_cons] at enough
        rw [readItems?, first fuel _ (by omega) (.cons (by decide) _)]
        have following := ih (by simp) later fuel (by omega)
        simp [skipGap_cons (c := ',') (by decide), skipGap_line_starts starts, following]

theorem fieldChars_eq_cons (l : Layout) (depth : Nat) (field : String × Json)
    (fields : List (String × Json)) : ∃ rest, l.fieldChars depth (field :: fields) = '"' :: rest := by
  cases fields <;> exact ⟨_, rfl⟩

/-- A name and its value are read, and what follows the value is left. -/
theorem readField (name : String) {v : Json} (back : l.ReadsBack (depth + 1) v) (fuel : Nat)
    (enough : 2 * (l.chars (depth + 1) v).length ≤ fuel) (tail : List Char) (ends : EndsNumber tail) :
    ∃ text behind,
      stringText name ++ ':' :: (l.space ++ (l.chars (depth + 1) v ++ tail)) = '"' :: text ∧
      readString? text = some (some name, ':' :: behind) ∧
      readValue? fuel (depth + 1) (skipGap behind) = some (v, tail) := by
  obtain ⟨text, written, read⟩ := readString?_stringText name
    (':' :: (l.space ++ (l.chars (depth + 1) v ++ tail)))
  refine ⟨text, _, written, read, ?_⟩
  rw [skipGap_append l.space_gap, (back.starts.append tail).skipGap_eq]
  exact back.read fuel tail enough ends

theorem readFields?_fieldChars {fields : List (String × Json)} (some_field : fields ≠ [])
    (below : ∀ field ∈ fields, l.ReadsBack (depth + 1) field.2) (rest : List Char) (fuel : Nat)
    (enough : 2 * (l.fieldChars depth fields).length ≤ fuel) :
    readFields? fuel (depth + 1) (l.fieldChars depth fields ++ rest) = some (some fields, rest) := by
  induction fields generalizing fuel with
  | nil => exact absurd rfl some_field
  | cons field fields ih =>
    obtain ⟨name, v⟩ := field
    have back : l.ReadsBack (depth + 1) v := below (name, v) (by simp)
    cases fields with
    | nil =>
      have written : l.fieldChars depth [(name, v)] ++ rest = stringText name ++
          ':' :: (l.space ++ (l.chars (depth + 1) v ++ (l.line depth ++ '\x7d' :: rest))) := by
        rw [Layout.fieldChars]
        simp only [List.append_assoc, List.cons_append, List.nil_append]
      rw [Layout.fieldChars] at enough
      simp only [List.length_append, List.length_cons] at enough
      obtain _ | fuel := fuel
      · omega
      · obtain ⟨text, behind, starts, named, valued⟩ := readField name back fuel (by omega)
          (l.line depth ++ '\x7d' :: rest) (endsNumber_line (by decide) _)
        rw [written, starts, readFields?, named]
        simp [skipGap_cons (c := ':') (by decide), valued, skipGap_line (c := '\x7d') (by decide)]
    | cons next fields =>
      have written : l.fieldChars depth ((name, v) :: next :: fields) = stringText name ++
          ':' :: l.space ++ l.chars (depth + 1) v ++
            ',' :: l.line (depth + 1) ++ l.fieldChars depth (next :: fields) := rfl
      have later : ∀ field ∈ next :: fields, l.ReadsBack (depth + 1) field.2 :=
        fun field h => below field (by simp [h])
      obtain ⟨tail, opens⟩ := fieldChars_eq_cons l depth next fields
      rw [written] at enough ⊢
      simp only [List.length_append, List.length_cons] at enough
      simp only [List.append_assoc, List.cons_append]
      obtain _ | fuel := fuel
      · omega
      · have following := ih (by simp) later fuel (by omega)
        obtain ⟨text, behind, starts, named, valued⟩ := readField name back fuel (by omega)
          (',' :: (l.line (depth + 1) ++ (l.fieldChars depth (next :: fields) ++ rest)))
          (.cons (by decide) _)
        rw [starts, readFields?, named]
        rw [opens, List.cons_append] at following valued
        simp [skipGap_cons (c := ':') (by decide), valued, skipGap_cons (c := ',') (by decide),
          skipGap_line (c := '"') (by decide), following]

/-- A value takes at least one step to read. -/
theorem Layout.ReadsBack.of_succ {v : Json} (starts : StartsValue (l.chars depth v))
    (read : ∀ fuel rest, 2 * (l.chars depth v).length ≤ fuel + 1 → EndsNumber rest →
      readValue? (fuel + 1) depth (l.chars depth v ++ rest) = some (v, rest)) :
    l.ReadsBack depth v := by
  refine ⟨starts, fun fuel rest enough ends => ?_⟩
  obtain _ | fuel := fuel
  · obtain ⟨c, tail, written, -⟩ := starts
    simp [written] at enough
  · exact read fuel rest enough ends

theorem readsBack_array {items : List Json} (shallow : depth < depthLimit)
    (inner : ∀ item ∈ items, l.ReadsBack (depth + 1) item) : l.ReadsBack depth (.array items) := by
  refine .of_succ (startsValue_array l depth items) fun fuel rest enough _ => ?_
  have kept (v : Json) : nested depth v = v := if_pos shallow
  cases items with
  | nil => exact congrArg (fun v => some (v, rest)) (kept (.array []))
  | cons item items =>
    have written : l.chars depth (.array (item :: items)) =
      '[' :: l.line (depth + 1) ++ l.itemChars depth (item :: items) := rfl
    rw [written] at enough ⊢
    simp only [List.length_append, List.length_cons] at enough
    have read := readItems?_itemChars (by simp) inner rest fuel (by omega)
    obtain ⟨c, tail, starts, visible, other⟩ := (startsValue_itemChars (by simp) inner).append rest
    rw [starts] at read
    rw [List.append_assoc, List.cons_append, starts, readValue?, skipGap_line visible]
    simp [other, read, kept]

theorem readsBack_object {fields : List (String × Json)} (shallow : depth < depthLimit)
    (inner : ∀ field ∈ fields, l.ReadsBack (depth + 1) field.2) :
    l.ReadsBack depth (.object fields) := by
  refine .of_succ (startsValue_object l depth fields) fun fuel rest enough _ => ?_
  have kept (v : Json) : nested depth v = v := if_pos shallow
  cases fields with
  | nil => exact congrArg (fun v => some (v, rest)) (kept (.object []))
  | cons field fields =>
    have written : l.chars depth (.object (field :: fields)) =
      '\x7b' :: l.line (depth + 1) ++ l.fieldChars depth (field :: fields) := rfl
    rw [written] at enough ⊢
    simp only [List.length_append, List.length_cons] at enough
    have read := readFields?_fieldChars (by simp) inner rest fuel (by omega)
    obtain ⟨tail, starts⟩ := fieldChars_eq_cons l depth field fields
    rw [starts, List.cons_append] at read
    rw [starts, List.append_assoc, List.cons_append, List.cons_append, readValue?,
      skipGap_line (by decide)]
    simp [read, kept]

theorem Plain.readsBack {levels : Nat} {v : Json} (plain : Plain levels v) :
    ∀ depth, depth + levels ≤ depthLimit → l.ReadsBack depth v := by
  induction plain with
  | null => exact fun depth _ => .of_succ ⟨'n', _, rfl, by decide, by decide⟩ fun _ _ _ _ => rfl
  | bool b =>
    intro depth _
    cases b <;> exact .of_succ ⟨_, _, rfl, by decide, by decide⟩ fun _ _ _ _ => rfl
  | natural small =>
    exact fun depth _ => .of_succ (startsValue_decimal _) fun fuel rest _ ends =>
      readValue?_natural fuel depth small ends
  | string s =>
    exact fun depth _ => .of_succ ⟨'"', _, rfl, by decide, by decide⟩ fun fuel rest _ _ =>
      readValue?_string fuel depth s rest
  | array _ ih =>
    exact fun depth deep => readsBack_array (by omega) fun item member =>
      ih item member (depth + 1) (by omega)
  | object _ ih =>
    exact fun depth deep => readsBack_object (by omega) fun field member =>
      ih field member (depth + 1) (by omega)

end Reading

/-! ## Texts -/

/-- **A plain value is read back from its text**, however it is spaced. -/
theorem Layout.read?_chars (l : Layout) {v : Json} (plain : Plain depthLimit v) :
    read? (String.ofList (l.chars 0 v)) = some v := by
  have back := plain.readsBack (l := l) 0 (by omega)
  have read := back.read (2 * (l.chars 0 v).length + 2) [] (by omega) .nil
  rw [List.append_nil] at read
  simp only [read?, String.toList_ofList, back.starts.skipGap_eq, read]
  rfl

theorem read?_compact {v : Json} (plain : Plain depthLimit v) : read? v.compact = some v := by
  rw [compact, ← Layout.chars_compact v 0]
  exact Layout.compact.read?_chars plain

theorem read?_pretty {v : Json} (plain : Plain depthLimit v) : read? v.pretty = some v := by
  rw [pretty, ← Layout.chars_pretty v 0]
  exact Layout.pretty.read?_chars plain

end TestImpact.Json
