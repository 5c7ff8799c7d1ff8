/-! Finding a word in a text: at its start, at its end, first and last occurrence. Every function
works on the characters and says what stands on each side of the word. -/

namespace TestImpact.Text

/-- What follows `word` when the text begins with it. -/
def afterPrefix? (word s : List Char) : Option (List Char) :=
  List.isPrefixOf? word s

theorem afterPrefix?_eq_some_iff {word s rest : List Char} :
    afterPrefix? word s = some rest ↔ s = word ++ rest := by
  induction word generalizing s with
  | nil =>
    have whole : afterPrefix? [] s = some s := by cases s <;> rfl
    rw [whole, Option.some.injEq, List.nil_append]
  | cons c word ih =>
    cases s with
    | nil => exact iff_of_false nofun nofun
    | cons d s =>
      have step : afterPrefix? (c :: word) (d :: s) =
          if c == d then afterPrefix? word s else none := rfl
      rw [step, List.cons_append, List.cons.injEq, ← ih]
      by_cases h : c = d
      · simp [h]
      · simp [h, Ne.symm h]

@[simp] theorem afterPrefix?_append (word rest : List Char) :
    afterPrefix? word (word ++ rest) = some rest :=
  afterPrefix?_eq_some_iff.2 rfl

/-- What precedes `word` when the text ends with it. -/
def beforeSuffix? (word s : List Char) : Option (List Char) :=
  (List.isPrefixOf? word.reverse s.reverse).map List.reverse

theorem beforeSuffix?_eq_some_iff {word s before : List Char} :
    beforeSuffix? word s = some before ↔ s = before ++ word := by
  have reflected := @afterPrefix?_eq_some_iff word.reverse s.reverse before.reverse
  rw [← List.reverse_append, List.reverse_inj] at reflected
  rw [← reflected, beforeSuffix?, afterPrefix?, Option.map_eq_some_iff]
  constructor
  · rintro ⟨rest, found, rfl⟩
    rw [List.reverse_reverse, found]
  · intro found
    exact ⟨before.reverse, found, List.reverse_reverse before⟩

/-- What stands before and after the first occurrence of `word`. -/
def cutFirst? (word : List Char) : List Char → Option (List Char × List Char)
  | [] => if word.isEmpty then some ([], []) else none
  | c :: s =>
    match afterPrefix? word (c :: s) with
    | some rest => some ([], rest)
    | none => (cutFirst? word s).map fun (before, rest) => (c :: before, rest)

/-- What stands before and after the last occurrence of `word`. -/
def cutLast? (word : List Char) : List Char → Option (List Char × List Char)
  | [] => if word.isEmpty then some ([], []) else none
  | c :: s =>
    match cutLast? word s with
    | some (before, rest) => some (c :: before, rest)
    | none => (afterPrefix? word (c :: s)).map ([], ·)

def occursIn (word s : List Char) : Bool :=
  (cutFirst? word s).isSome

theorem occursIn_iff {word s : List Char} : occursIn word s = true ↔ word <:+: s := by
  rw [occursIn]
  induction s with
  | nil =>
    rw [cutFirst?, List.infix_nil]
    cases word with
    | nil => exact iff_of_true rfl rfl
    | cons c word => exact iff_of_false nofun nofun
  | cons c s ih =>
    have here := Option.isSome_iff_exists (x := afterPrefix? word (c :: s))
    simp only [afterPrefix?_eq_some_iff, eq_comm (b := word ++ _)] at here
    rw [List.infix_cons_iff, ← ih, cutFirst?, List.IsPrefix, ← here]
    cases afterPrefix? word (c :: s) with
    | some rest => simp
    | none => simp

/-- A word does not begin inside a text that lacks its first character. -/
theorem infix_append_iff {c : Char} {word front back : List Char} (absent : c ∉ front) :
    c :: word <:+: front ++ back ↔ c :: word <:+: back := by
  induction front with
  | nil => rfl
  | cons d front ih =>
    obtain ⟨other, absent⟩ := not_or.1 (mt List.mem_cons.2 absent)
    rw [List.cons_append, List.infix_cons_iff, ih absent]
    exact or_iff_right fun begins => other (List.cons_prefix_cons.1 begins).1

/-- A word does not end inside a text that lacks its last character. -/
theorem infix_append_iff_of_last {c : Char} {word front back : List Char} (absent : c ∉ back) :
    word ++ [c] <:+: front ++ back ↔ word ++ [c] <:+: front := by
  have mirrored : c :: word.reverse <:+: back.reverse ++ front.reverse ↔
      c :: word.reverse <:+: front.reverse :=
    infix_append_iff (mt List.mem_reverse.1 absent)
  rw [← List.reverse_append, ← List.reverse_concat, List.reverse_infix, List.reverse_infix] at mirrored
  exact mirrored

/-! ### The first and the last occurrence -/

theorem cutFirst?_eq_none_iff {word s : List Char} : cutFirst? word s = none ↔ ¬ word <:+: s := by
  rw [← occursIn_iff, occursIn, Bool.not_eq_true, Option.isSome_eq_false_iff, Option.isNone_iff_eq_none]

theorem cutFirst?_of_prefix {word : List Char} (some_char : word ≠ []) (back : List Char) :
    cutFirst? word (word ++ back) = some ([], back) := by
  obtain ⟨c, rest, rfl⟩ := List.exists_cons_of_ne_nil some_char
  rw [List.cons_append, cutFirst?, ← List.cons_append, afterPrefix?_append]

/-- In front of the first occurrence of a word there is no other one. -/
theorem cutFirst?_append {c : Char} {word front : List Char} (back : List Char)
    (first : ¬ word ++ [c] <:+: front ++ word) :
    cutFirst? (word ++ [c]) (front ++ (word ++ [c] ++ back)) = some (front, back) := by
  induction front with
  | nil => exact cutFirst?_of_prefix (List.append_ne_nil_of_right_ne_nil _ (List.cons_ne_nil c [])) back
  | cons d front ih =>
    rw [List.cons_append, List.infix_cons_iff, not_or] at first
    obtain ⟨not_here, later⟩ := first
    have elsewhere : afterPrefix? (word ++ [c]) (d :: (front ++ (word ++ [c] ++ back))) = none := by
      refine Option.eq_none_iff_forall_ne_some.2 fun rest found => not_here ?_
      -- The word is no longer than what stands in front of its last character.
      have begins : word ++ [c] <+: d :: (front ++ (word ++ [c] ++ back)) :=
        ⟨rest, (afterPrefix?_eq_some_iff.1 found).symm⟩
      have ahead : d :: (front ++ word) <+: d :: (front ++ (word ++ [c] ++ back)) := by simp
      refine List.prefix_of_prefix_length_le begins ahead ?_
      simp only [List.length_append, List.length_cons, List.length_nil]
      omega
    rw [List.cons_append, cutFirst?, elsewhere, ih later]
    rfl

theorem cutLast?_eq_none_iff {word s : List Char} : cutLast? word s = none ↔ ¬ word <:+: s := by
  induction s with
  | nil =>
    rw [List.infix_nil, cutLast?]
    cases word with
    | nil => simp
    | cons c word => simp
  | cons c s ih =>
    rw [List.infix_cons_iff, cutLast?]
    cases below : cutLast? word s with
    | some cut =>
      have occurs : word <:+: s := Decidable.byContradiction fun absent => by
        rw [ih.2 absent] at below
        cases below
      exact iff_of_false nofun fun absent => absent (.inr occurs)
    | none =>
      have absent := ih.1 below
      rw [Option.map_eq_none_iff, Option.eq_none_iff_forall_ne_some]
      simp only [Ne, afterPrefix?_eq_some_iff]
      exact ⟨fun elsewhere => not_or.2 ⟨fun ⟨rest, h⟩ => elsewhere rest h.symm, absent⟩,
        fun nowhere rest h => nowhere (.inl ⟨rest, h.symm⟩)⟩

/-- Behind the last occurrence of a word there is no other one. -/
theorem cutLast?_append {c : Char} {word back : List Char} (front : List Char)
    (last : ¬ c :: word <:+: word ++ back) :
    cutLast? (c :: word) (front ++ c :: word ++ back) = some (front, back) := by
  induction front with
  | nil =>
    rw [List.nil_append, List.cons_append, cutLast?, cutLast?_eq_none_iff.2 last]
    exact congrArg (Option.map _) (afterPrefix?_append (c :: word) back)
  | cons d front ih =>
    rw [List.cons_append, List.cons_append, cutLast?, ih]

/-! ### Pieces -/

/-- The pieces of a text between occurrences of `mark`: always one more than there are marks. -/
def splitAt (mark : Char) : List Char → List (List Char)
  | [] => [[]]
  | c :: s =>
    if c = mark then [] :: splitAt mark s
    else
      match splitAt mark s with
      | [] => [[c]]
      | piece :: more => (c :: piece) :: more

/-- The pieces with `mark` between them. -/
def joinWith (mark : Char) : List (List Char) → List Char
  | [] => []
  | [piece] => piece
  | piece :: more => piece ++ mark :: joinWith mark more

theorem splitAt_ne_nil (mark : Char) (s : List Char) : splitAt mark s ≠ [] := by
  cases s with
  | nil => simp [splitAt]
  | cons c s =>
    simp only [splitAt]
    split
    · simp
    · split <;> simp

/-- Splitting loses nothing. -/
theorem joinWith_splitAt (mark : Char) (s : List Char) : joinWith mark (splitAt mark s) = s := by
  induction s with
  | nil => rfl
  | cons c s ih =>
    simp only [splitAt]
    split
    · next h =>
      subst h
      cases hs : splitAt c s with
      | nil => exact absurd hs (splitAt_ne_nil c s)
      | cons piece more =>
        rw [hs] at ih
        simp [joinWith, ih]
    · split
      · next hs => exact absurd hs (splitAt_ne_nil mark s)
      · next piece more hs =>
        rw [hs] at ih
        cases more with
        | nil => simpa [joinWith] using ih
        | cons next more => simpa [joinWith] using ih

/-- With a mark in front as well there is one in front of every piece. -/
theorem cons_joinWith (mark : Char) {pieces : List (List Char)} (some_piece : pieces ≠ []) :
    mark :: joinWith mark pieces = pieces.flatMap (mark :: ·) := by
  induction pieces with
  | nil => exact absurd rfl some_piece
  | cons piece more ih =>
    cases more with
    | nil => simp [joinWith]
    | cons next more =>
      have step : joinWith mark (piece :: next :: more) = piece ++ mark :: joinWith mark (next :: more) :=
        rfl
      rw [step, ih (List.cons_ne_nil next more)]
      simp

theorem splitAt_eq_splitOn (mark : Char) (s : List Char) : splitAt mark s = s.splitOn mark := by
  rw [List.splitOn_eq_splitOnP]
  induction s with
  | nil => rfl
  | cons c s ih =>
    rw [splitAt, List.splitOnP_cons_eq_if_modifyHead, ← ih]
    by_cases here : c = mark
    · rw [if_pos here, if_pos (beq_iff_eq.2 here)]
    · rw [if_neg here, if_neg (mt beq_iff_eq.1 here)]
      cases pieces : splitAt mark s with
      | nil => exact absurd pieces (splitAt_ne_nil mark s)
      | cons piece more => rfl

theorem splitAt_append_cons (mark : Char) (front back : List Char) :
    splitAt mark (front ++ mark :: back) = splitAt mark front ++ splitAt mark back := by
  simp only [splitAt_eq_splitOn, List.splitOn_eq_splitOnP]
  exact List.splitOnP_append_cons front back (beq_self_eq_true mark)

theorem joinWith_eq_intercalate (mark : Char) (pieces : List (List Char)) :
    joinWith mark pieces = [mark].intercalate pieces := by
  induction pieces with
  | nil => rfl
  | cons piece more ih =>
    cases more with
    | nil => exact List.intercalate_singleton.symm
    | cons next more =>
      rw [joinWith, ih, List.intercalate_cons_cons, List.append_assoc]
      · rfl
      · exact List.cons_ne_nil next more

/-- Pieces without marks are split as they were joined. -/
theorem splitAt_joinWith {mark : Char} {pieces : List (List Char)} (some_piece : pieces ≠ [])
    (absent : ∀ piece ∈ pieces, mark ∉ piece) : splitAt mark (joinWith mark pieces) = pieces := by
  rw [splitAt_eq_splitOn, joinWith_eq_intercalate]
  exact List.splitOn_intercalate mark absent some_piece

theorem splitAt_of_notMem {mark : Char} {s : List Char} (absent : mark ∉ s) :
    splitAt mark s = [s] :=
  splitAt_joinWith (List.cons_ne_nil s []) (List.forall_mem_singleton.2 absent)

theorem notMem_of_mem_splitAt {mark : Char} {piece s : List Char}
    (mem : piece ∈ splitAt mark s) : mark ∉ piece := by
  induction s generalizing piece with
  | nil =>
    rw [List.mem_singleton.1 mem]
    exact List.not_mem_nil
  | cons c s ih =>
    rw [splitAt] at mem
    by_cases here : c = mark
    · rw [if_pos here] at mem
      rcases List.mem_cons.1 mem with rfl | later
      · exact List.not_mem_nil
      · exact ih later
    · rw [if_neg here] at mem
      cases pieces : splitAt mark s with
      | nil => exact absurd pieces (splitAt_ne_nil mark s)
      | cons first more =>
        rw [pieces] at mem ih
        rcases List.mem_cons.1 mem with rfl | later
        · exact List.not_mem_cons_of_ne_of_not_mem (Ne.symm here) (ih List.mem_cons_self)
        · exact ih (List.mem_cons_of_mem first later)

/-! ## The same on strings -/

def stripPrefix? (word s : String) : Option String :=
  (afterPrefix? word.toList s.toList).map String.ofList

def stripSuffix? (word s : String) : Option String :=
  (beforeSuffix? word.toList s.toList).map String.ofList

def hasPrefix (word s : String) : Bool :=
  (afterPrefix? word.toList s.toList).isSome

theorem hasPrefix_iff {word s : String} : hasPrefix word s = true ↔ word.toList <+: s.toList := by
  rw [hasPrefix, Option.isSome_iff_exists]
  simp only [afterPrefix?_eq_some_iff, eq_comm (b := word.toList ++ _)]
  rfl

@[simp] theorem hasPrefix_append (word s : String) : hasPrefix word (word ++ s) = true :=
  hasPrefix_iff.2 ⟨s.toList, String.toList_append.symm⟩

/-- A text that begins with a sign does not begin with a word of another first character. -/
theorem hasPrefix_eq_false_of_sign {word sign line : String} {c d : Char} {s t : List Char}
    (hw : word.toList = c :: s) (hs : sign.toList = d :: t) (other : c ≠ d)
    (signed : hasPrefix sign line = true) : hasPrefix word line = false := by
  rw [hasPrefix_iff, hs] at signed
  obtain ⟨rest, written⟩ := signed
  rw [Bool.eq_false_iff, Ne, hasPrefix_iff, hw, ← written]
  exact fun worded => other (List.cons_prefix_cons.1 worded).1

def hasSuffix (word s : String) : Bool :=
  (beforeSuffix? word.toList s.toList).isSome

theorem hasSuffix_iff {word s : String} : hasSuffix word s = true ↔ word.toList <:+ s.toList := by
  rw [hasSuffix, Option.isSome_iff_exists]
  simp only [beforeSuffix?_eq_some_iff, eq_comm (b := _ ++ word.toList)]
  rfl

def contains (word s : String) : Bool :=
  occursIn word.toList s.toList

theorem contains_iff {word s : String} : contains word s = true ↔ word.toList <:+: s.toList :=
  occursIn_iff

def replaceChar (old new : Char) (s : String) : String :=
  String.ofList (s.toList.map fun c => if c = old then new else c)

end TestImpact.Text
