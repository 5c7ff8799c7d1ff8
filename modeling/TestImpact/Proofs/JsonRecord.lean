import Mathlib.Data.List.Forall2
import TestImpact.Json.Decode
import TestImpact.Proofs.JsonLayout

/-! Decoding what was encoded. A record is written as the fields that it has, and its decoder finds
each of them under its name; fields that are left out come back as such. -/

namespace TestImpact.Json

/-! ## Plain values -/

section Plain

variable {levels : Nat}

@[simp] theorem plain_bool (b : Bool) : Plain levels (.bool b) := .bool b

@[simp] theorem plain_string (s : String) : Plain levels (.string s) := .string s

theorem plain_count {n : Nat} (word : n < UInt64.size) : Plain levels (.natural n) :=
  .natural word

@[simp] theorem plain_uint8 (n : UInt8) : Plain levels (.natural n.toNat) :=
  .natural (Nat.lt_of_lt_of_le n.toNat_lt (by decide))

@[simp] theorem plain_uint16 (n : UInt16) : Plain levels (.natural n.toNat) :=
  .natural (Nat.lt_of_lt_of_le n.toNat_lt (by decide))

@[simp] theorem plain_uint32 (n : UInt32) : Plain levels (.natural n.toNat) :=
  .natural (Nat.lt_of_lt_of_le n.toNat_lt (by decide))

@[simp] theorem plain_array_iff {items : List Json} :
    Plain (levels + 1) (.array items) ↔ ∀ item ∈ items, Plain levels item :=
  ⟨fun | .array below => below, .array⟩

/-- Fields whose values are plain. -/
def PlainFields (levels : Nat) (fields : List (String × Json)) : Prop :=
  ∀ field ∈ fields, Plain levels field.2

@[simp] theorem plain_object_iff {fields : List (String × Json)} :
    Plain (levels + 1) (.object fields) ↔ PlainFields levels fields :=
  ⟨fun | .object below => below, .object⟩

@[simp] theorem plainFields_nil : PlainFields levels [] := nofun

@[simp] theorem plainFields_cons {field : String × Json}
    {fields : List (String × Json)} :
    PlainFields levels (field :: fields) ↔ Plain levels field.2 ∧ PlainFields levels fields :=
  List.forall_mem_cons

@[simp] theorem plainFields_append {fields more : List (String × Json)} :
    PlainFields levels (fields ++ more) ↔ PlainFields levels fields ∧ PlainFields levels more :=
  List.forall_mem_append

@[simp] theorem plainFields_map {α : Type} {f : α → String × Json} {items : List α} :
    PlainFields levels (items.map f) ↔ ∀ a ∈ items, Plain levels (f a).2 :=
  List.forall_mem_map

@[simp] theorem plainFields_optionalField {α : Type} {name : String}
    {encode : α → Json} {value : Option α} :
    PlainFields levels (optionalField name encode value) ↔ ∀ a ∈ value, Plain levels (encode a) := by
  cases value <;> simp [optionalField]

@[simp] theorem plain_strings (items : List String) :
    Plain (levels + 1) (strings items) := by
  simp [strings]

theorem allReadable_iff {items : List Json} :
    allReadable items = true ↔ ∀ item ∈ items, item.isReadable = true := by
  induction items with
  | nil => simp [allReadable]
  | cons item items ih => simp [allReadable, ih]

theorem fieldsReadable_iff {fields : List (String × Json)} :
    fieldsReadable fields = true ↔ ∀ field ∈ fields, field.2.isReadable = true := by
  induction fields with
  | nil => simp [fieldsReadable]
  | cons field fields ih => simp [fieldsReadable, ih]

theorem Plain.isReadable {v : Json} (plain : Plain levels v) : v.isReadable = true := by
  induction plain with
  | null | bool b | natural small | string s => rfl
  | array below ih =>
    rw [Json.isReadable]
    exact allReadable_iff.2 ih
  | object below ih =>
    rw [Json.isReadable]
    exact fieldsReadable_iff.2 ih

end Plain

/-! ## Words and numbers -/

theorem word?_words {α : Type} {members : List α} {label : α → String} {a : α} (member : a ∈ members)
    (distinct : ∀ b ∈ members, label b = label a → b = a) :
    word? (words members label) (.string (label a)) = some a := by
  show (members.map fun b => (label b, b)).lookup (label a) = some a
  induction members with
  | nil => simp at member
  | cons b members ih =>
    by_cases same : label b = label a
    · simp [distinct b (by simp) same]
    · have other : (label a == label b) = false := by simpa using Ne.symm same
      rw [List.map_cons, List.lookup_cons, other]
      refine ih ?_ fun c hc => distinct c (by simp [hc])
      rcases List.mem_cons.1 member with rfl | member
      · exact absurd rfl same
      · exact member

theorem below?_natural {bound n : Nat} (small : n < bound) : below? bound (.natural n) = some n :=
  if_pos small

@[simp] theorem uint8?_toNat (n : UInt8) : uint8? (.natural n.toNat) = some n := by
  simp [uint8?, below?_natural n.toNat_lt]

@[simp] theorem uint16?_toNat (n : UInt16) : uint16? (.natural n.toNat) = some n := by
  simp [uint16?, below?_natural n.toNat_lt]

@[simp] theorem uint32?_toNat (n : UInt32) : uint32? (.natural n.toNat) = some n := by
  simp [uint32?, below?_natural n.toNat_lt]

@[simp] theorem count?_natural {n : Nat} (small : n < UInt64.size) : count? (.natural n) = some n :=
  below?_natural small

/-! ## Lists -/

theorem mapM_eq_some_iff {α β : Type} {f : α → Option β} {items : List α} {results : List β} :
    items.mapM f = some results ↔ List.Forall₂ (fun a b => f a = some b) items results := by
  induction items generalizing results with
  | nil => cases results <;> simp
  | cons a items ih =>
    rw [List.mapM_cons]
    cases first : f a with
    | none => cases results <;> simp [first]
    | some b =>
      cases rest : items.mapM f with
      | none => cases results <;> simp [first, ← ih, rest]
      | some bs => cases results <;> simp [first, ← ih, rest]

theorem mapM_map {α β γ : Type} {f : γ → β} {g : β → Option α} {h : γ → α} {items : List γ}
    (each : ∀ c ∈ items, g (f c) = some (h c)) : (items.map f).mapM g = some (items.map h) := by
  rw [mapM_eq_some_iff, List.forall₂_map_left_iff, List.forall₂_map_right_iff, List.forall₂_same]
  exact each

theorem list?_map {α : Type} {encode : α → Json} {decode : Json → Option α} {items : List α}
    (back : ∀ a ∈ items, decode (encode a) = some a) :
    list? decode (.array (items.map encode)) = some items :=
  (mapM_map (h := id) back).trans (by rw [List.map_id])

@[simp] theorem list?_strings (items : List String) : list? string? (strings items) = some items :=
  list?_map fun _ _ => rfl

section Decoded

variable {α : Type} {decode : Json → Option α} {fields : List (String × Json)}
  {entries : List (String × α)}

/-- Entries that are decoded one by one have the names of their fields. -/
theorem map_fst_decoded
    (decoded : List.Forall₂ (fun field entry => (decode field.2).map (field.1, ·) = some entry)
      fields entries) : entries.map Prod.fst = fields.map Prod.fst := by
  induction decoded with
  | nil => rfl
  | cons first _ ih =>
    obtain ⟨a, -, rfl⟩ := Option.map_eq_some_iff.1 first
    exact congrArg (_ :: ·) ih

theorem lookup_decoded
    (decoded : List.Forall₂ (fun field entry => (decode field.2).map (field.1, ·) = some entry)
      fields entries) (name : String) : entries.lookup name = (fields.lookup name).bind decode := by
  induction decoded with
  | nil => rfl
  | @cons field entry fields entries first _ ih =>
    obtain ⟨a, read, rfl⟩ := Option.map_eq_some_iff.1 first
    obtain ⟨other, v⟩ := field
    rw [List.lookup_cons, List.lookup_cons]
    by_cases same : name = other
    · simp [same, read]
    · simpa [beq_false_of_ne same] using ih

end Decoded

/-! ## Records -/

/-- The fields that have a value. -/
def present (fields : List (String × Option Json)) : List (String × Json) :=
  fields.filterMap fun (name, value) => value.map (name, ·)

@[simp] theorem present_nil : present [] = [] := rfl

@[simp] theorem present_some (name : String) (v : Json) (fields : List (String × Option Json)) :
    present ((name, some v) :: fields) = (name, v) :: present fields := rfl

@[simp] theorem present_map {α : Type} (name : String) (encode : α → Json) (value : Option α)
    (fields : List (String × Option Json)) :
    present ((name, value.map encode) :: fields) =
      optionalField name encode value ++ present fields := by
  cases value <;> rfl

theorem mem_present {name : String} {v : Json} {fields : List (String × Option Json)} :
    (name, v) ∈ present fields ↔ (name, some v) ∈ fields := by
  simp only [present, List.mem_filterMap, Option.map_eq_some_iff, Prod.mk.injEq, Prod.exists]
  constructor
  · rintro ⟨name, value, member, v, rfl, rfl, rfl⟩
    exact member
  · intro member
    exact ⟨name, some v, member, v, rfl, rfl, rfl⟩

theorem single?_of_filter {fields : List (String × Json)} {name : String} {value : Option Json}
    (found : fields.filter (·.1 == name) = (value.map (name, ·)).toList) :
    single? fields name = some value := by
  unfold single?
  split
  next same =>
    have nothing : (value.map (name, ·)).toList = [] := found.symm.trans same
    cases value with
    | none => rfl
    | some v => simp at nothing
  next other v same =>
    have one : (value.map (name, ·)).toList = [(other, v)] := found.symm.trans same
    cases value with
    | none => simp at one
    | some w =>
      simp only [Option.map_some, Option.toList_some, List.cons.injEq, Prod.mk.injEq] at one
      rw [one.1.2]
  next not_nil not_one =>
    cases value with
    | none => exact absurd found not_nil
    | some v => exact absurd found (not_one name v)

theorem filter_present_of_notMem {name : String} {fields : List (String × Option Json)}
    (absent : name ∉ fields.map Prod.fst) : (present fields).filter (·.1 == name) = [] := by
  rw [List.filter_eq_nil_iff]
  rintro ⟨other, v⟩ member same
  rw [← eq_of_beq same] at absent
  exact absent (List.mem_map.2 ⟨_, mem_present.1 member, rfl⟩)

/-- A field is found under its name among fields of other names. -/
theorem single?_present {fields : List (String × Option Json)}
    (distinct : (fields.map Prod.fst).Nodup) {name : String} {value : Option Json}
    (member : (name, value) ∈ fields) : single? (present fields) name = some value := by
  have found : (present fields).filter (·.1 == name) = (value.map (name, ·)).toList := by
    induction fields with
    | nil => simp at member
    | cons field fields ih =>
      obtain ⟨absent, apart⟩ := List.nodup_cons.1 distinct
      rcases List.mem_cons.1 member with rfl | member
      · have others := filter_present_of_notMem absent
        cases value with
        | none => exact others
        | some v => simp [others]
      · have other : field.1 ≠ name := by
          rintro rfl
          exact absent (List.mem_map.2 ⟨_, member, rfl⟩)
        have rest := ih apart member
        obtain ⟨_, _ | v⟩ := field
        · exact rest
        · rw [present_some, List.filter_cons_of_neg (by simpa using other), rest]
  exact single?_of_filter found

theorem named?_present {part fields : List (String × Option Json)}
    (distinct : (fields.map Prod.fst).Nodup) (inside : part ⊆ fields) :
    named? (part.map Prod.fst) (present fields) = some (part.map Prod.snd) :=
  mapM_map fun _ member => single?_present distinct (inside member)

/-- **A record is read as the values that it was written from**, those that it lacks among them. -/
theorem record?_of_present {names : List String} {values : List (Option Json)} {v : Json}
    (written : v = .object (present (names.zip values))) (complete : names.length = values.length)
    (distinct : names.Nodup) : record? names v = some values := by
  have named : (names.zip values).map Prod.fst = names := List.map_fst_zip (Nat.le_of_eq complete)
  have read := named?_present (named.symm ▸ distinct) (List.Subset.refl (names.zip values))
  rw [named, List.map_snd_zip (Nat.le_of_eq complete.symm)] at read
  rw [written]
  exact read

@[simp] theorem required_some {α : Type} (decode : Json → Option α) (v : Json) :
    required decode (some v) = decode v := rfl

theorem optional_map {α : Type} {encode : α → Json} {decode : Json → Option α} {value : Option α}
    (back : ∀ a ∈ value, decode (encode a) = some a) (given : ∀ a ∈ value, encode a ≠ .null) :
    optional decode (value.map encode) = some value := by
  cases value with
  | none => rfl
  | some a =>
    rw [Option.map_some, optional, back a rfl]
    · rfl
    · exact given a rfl

/-- The field of a record under one of its names, as an object or an array gives it. -/
def field? (names : List String) (name : String) (v : Json) : Option Json := do
  let values ← record? names v
  ((names.zip values).lookup name).join

end TestImpact.Json
