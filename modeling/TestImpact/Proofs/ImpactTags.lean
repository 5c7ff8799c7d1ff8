import Mathlib.Data.List.Basic
import Mathlib.Data.List.Induction
import TestImpact.FileChange
import TestImpact.Impact.Tags
import TestImpact.Proofs.RuleTables

/-! The tags of a changed file. Each path tag brings along tags of its own, which no other path tag
has, so the list is one block for each rule that the path meets, in the order of the rules: the path
tag, and behind it what the names of the functions add, each tag once and where a function first calls
for it. -/

namespace TestImpact

/-! ## Lists without repetition -/

theorem eraseDups_concat {α : Type} [BEq α] [LawfulBEq α] (front : List α) (last : α) :
    (front ++ [last]).eraseDups = front.eraseDups ++ if last ∈ front then [] else [last] := by
  rw [List.eraseDups_append]
  by_cases old : last ∈ front
  · simp [List.removeAll, old]
  · simp [List.removeAll, old, List.eraseDups_cons]

theorem eraseDups_of_nodup {α : Type} [BEq α] [LawfulBEq α] {values : List α}
    (distinct : values.Nodup) : values.eraseDups = values := by
  induction values with
  | nil => rfl
  | cons first rest ih =>
    obtain ⟨new, distinct⟩ := List.nodup_cons.1 distinct
    rw [List.eraseDups_cons, List.filter_eq_self.2, ih distinct]
    intro other mem
    rw [Bool.not_eq_true', beq_eq_false_iff_ne]
    rintro rfl
    exact new mem

/-- Adding values one by one to a list adds those that it lacks, the first of each. -/
theorem foldl_addNew_append {α : Type} [BEq α] [LawfulBEq α] (list values : List α) :
    values.foldl addNew list = list ++ values.eraseDups.filter fun value => value ∉ list := by
  induction values using List.reverseRecOn with
  | nil => simp
  | append_singleton values value ih =>
    rw [List.foldl_append, ih, eraseDups_concat, List.filter_append, ← List.append_assoc]
    by_cases old : value ∈ list
    · by_cases known : value ∈ values <;> simp [addNew, old, known]
    · by_cases known : value ∈ values <;> simp [addNew, old, known]

theorem foldl_addNew {α : Type} [BEq α] [LawfulBEq α] (values : List α) :
    values.foldl addNew [] = values.eraseDups := by
  simp [foldl_addNew_append]

/-- What is left without repetitions stands in the order in which values first come up. -/
theorem pairwise_eraseDups {α : Type} [BEq α] [LawfulBEq α] (values : List α) :
    values.eraseDups.Pairwise fun first second =>
      ∃ front back, values = front ++ back ∧ first ∈ front ∧ second ∉ front := by
  induction values using List.reverseRecOn with
  | nil => exact .nil
  | append_singleton values value ih =>
    have kept : values.eraseDups.Pairwise fun first second =>
        ∃ front back, values ++ [value] = front ++ back ∧ first ∈ front ∧ second ∉ front := by
      refine ih.imp ?_
      intro first second earlier
      obtain ⟨front, back, split, mem, absent⟩ := earlier
      exact ⟨front, back ++ [value], by rw [split, List.append_assoc], mem, absent⟩
    rw [← foldl_addNew, List.foldl_append, foldl_addNew, List.foldl_cons, List.foldl_nil, addNew]
    by_cases known : value ∈ values
    · rwa [if_pos (by simpa using known)]
    · rw [if_neg (by simpa using known)]
      refine List.pairwise_append.2 ⟨kept, List.pairwise_singleton _ _, ?_⟩
      intro first mem second new
      obtain rfl := List.mem_singleton.1 new
      exact ⟨values, [second], rfl, List.mem_eraseDups.1 mem, known⟩

theorem nodup_eraseDups {α : Type} [BEq α] [LawfulBEq α] (values : List α) :
    values.eraseDups.Nodup := by
  refine (pairwise_eraseDups values).imp ?_
  intro first second earlier same
  obtain ⟨front, _, _, mem, absent⟩ := earlier
  exact absent (same ▸ mem)

/-- Where no value stands in two of the lists, each of them loses its own repetitions. -/
theorem eraseDups_flatMap {α β : Type} [BEq β] [LawfulBEq β] {f : α → List β} {items : List α}
    (apart : items.Pairwise fun a b => ∀ value ∈ f a, value ∉ f b) :
    (items.flatMap f).eraseDups = items.flatMap fun item => (f item).eraseDups := by
  induction items with
  | nil => rfl
  | cons item items ih =>
    obtain ⟨here, later⟩ := List.pairwise_cons.1 apart
    have fresh : (items.flatMap f).removeAll (f item) = items.flatMap f := by
      refine List.filter_eq_self.2 fun value mem => ?_
      obtain ⟨other, member, inside⟩ := List.mem_flatMap.1 mem
      have absent : value ∉ f item := fun known => here other member value known inside
      simpa using absent
    rw [List.flatMap_cons, List.eraseDups_append, fresh, ih later, List.flatMap_cons]

/-! ## Path tags and what they bring along -/

/-- A file has a tag exactly when the tag is one of its path or follows one. -/
theorem mem_impactTags_iff {file tag : String} {functions : ChangeRecord} :
    tag ∈ impactTags file functions ↔
      ∃ rule ∈ PathTag.rules, PathTag.applies rule file = true ∧
        (tag = rule.value.label ∨ tag ∈ rule.value.followers functions.names) := by
  rw [impactTags, foldl_addNew, List.mem_eraseDups, List.mem_flatMap]
  simp only [List.mem_filter, List.mem_cons, and_assoc]

namespace PathTag

/-- A path has a word of one of the rules for a tag. -/
def Marks (tag : PathTag) (file : String) : Prop :=
  ∃ rule ∈ rules, rule.value = tag ∧ Text.HasWord rule.words file

theorem applies_iff {rule : Rule PathTag} {file : String} :
    applies rule file = true ↔ Text.HasWord rule.words file := by
  rw [applies, List.any_eq_true]
  simp only [Text.contains_iff]
  rfl

theorem marks_iff {tag : PathTag} {file : String} : tag.marks file = true ↔ tag.Marks file := by
  rw [marks, List.any_eq_true]
  simp only [Bool.and_eq_true, beq_iff_eq, applies_iff]
  rfl

/-- The tags that a path tag can bring along. -/
def companions : PathTag → List String
  | uiRendering => [userInteractions]
  | apiEndpoints => requestRules.map Rule.value
  | applicationState | navigation => []

theorem mem_companions_of_mem_followers {tag : PathTag} {names : List String} {follower : String}
    (mem : follower ∈ tag.followers names) : follower ∈ tag.companions := by
  cases tag with
  | uiRendering =>
    rw [followers] at mem
    split at mem
    · exact mem
    · cases mem
  | apiEndpoints =>
    obtain ⟨name, -, first⟩ := List.mem_filterMap.1 mem
    exact List.mem_map.2 (Rule.mem_of_first? first)
  | applicationState => cases mem
  | navigation => cases mem

/-- A tag comes with one path tag only. -/
theorem companions_apart {tag other : PathTag} (differ : tag ≠ other) :
    ∀ value ∈ tag.label :: tag.companions, value ∉ other.label :: other.companions := by
  revert differ
  cases tag <;> cases other <;> decide

theorem label_notMem_companions (tag other : PathTag) : tag.label ∉ other.companions := by
  cases tag <;> cases other <;> decide

/-- A path tag with the tags that it brings along for some names. -/
def block (names : List String) (rule : Rule PathTag) : List String :=
  rule.value.label :: rule.value.followers names

theorem block_subset {names : List String} {rule : Rule PathTag} :
    ∀ value ∈ block names rule, value ∈ rule.value.label :: rule.value.companions := by
  intro value mem
  rcases List.mem_cons.1 mem with rfl | follower
  · exact List.mem_cons_self
  · exact List.mem_cons_of_mem _ (mem_companions_of_mem_followers follower)

theorem eraseDups_block (names : List String) (rule : Rule PathTag) :
    (block names rule).eraseDups = rule.value.label :: (rule.value.followers names).eraseDups := by
  rw [block, List.eraseDups_cons]
  congr 2
  refine List.filter_eq_self.2 fun follower mem => ?_
  have other : follower ≠ rule.value.label := by
    intro same
    exact label_notMem_companions rule.value rule.value
      (same ▸ mem_companions_of_mem_followers mem)
  simpa using other

end PathTag

theorem impactTags_eq_flatMap (file : String) (functions : ChangeRecord) :
    impactTags file functions =
      (PathTag.rules.filter fun rule => PathTag.applies rule file).flatMap fun rule =>
        rule.value.label :: (rule.value.followers functions.names).eraseDups := by
  have apart : PathTag.rules.Pairwise fun first second =>
      ∀ value ∈ PathTag.block functions.names first, value ∉ PathTag.block functions.names second := by
    have differ : PathTag.rules.Pairwise fun first second => first.value ≠ second.value := by decide
    refine differ.imp ?_
    intro first second differ value mem other
    exact PathTag.companions_apart differ value (PathTag.block_subset value mem)
      (PathTag.block_subset value other)
  rw [impactTags, foldl_addNew]
  refine (eraseDups_flatMap (f := PathTag.block functions.names) (apart.filter _)).trans ?_
  simp only [PathTag.eraseDups_block]

namespace PathTag

variable {file : String} {functions : ChangeRecord}

theorem mem_impactTags_iff_of_family {tag : PathTag} {value : String}
    (family : value ∈ tag.label :: tag.companions) :
    value ∈ impactTags file functions ↔
      tag.Marks file ∧ (value = tag.label ∨ value ∈ tag.followers functions.names) := by
  rw [mem_impactTags_iff]
  simp only [applies_iff]
  constructor
  · intro h
    obtain ⟨rule, member, applies, mem⟩ := h
    have inBlock : value ∈ block functions.names rule := List.mem_cons.2 mem
    have same : rule.value = tag := by
      by_contra differ
      exact companions_apart differ value (block_subset value inBlock) family
    exact ⟨⟨rule, member, same, applies⟩, same ▸ mem⟩
  · intro h
    obtain ⟨⟨rule, member, rfl, applies⟩, mem⟩ := h
    exact ⟨rule, member, applies, mem⟩

theorem label_mem_impactTags_iff {tag : PathTag} :
    tag.label ∈ impactTags file functions ↔ tag.Marks file := by
  rw [mem_impactTags_iff_of_family List.mem_cons_self]
  exact and_iff_left (Or.inl rfl)

theorem companion_mem_impactTags_iff {tag : PathTag} {value : String}
    (companion : value ∈ tag.companions) :
    value ∈ impactTags file functions ↔ tag.Marks file ∧ value ∈ tag.followers functions.names := by
  have other : value ≠ tag.label := fun same => label_notMem_companions tag tag (same ▸ companion)
  rw [mem_impactTags_iff_of_family (List.mem_cons_of_mem _ companion), or_iff_right other]

/-- A path tag stands in front of what it brings along. -/
theorem block_infix {tag : PathTag} (marks : tag.Marks file) :
    tag.label :: (tag.followers functions.names).eraseDups <:+: impactTags file functions := by
  obtain ⟨rule, member, rfl, applies⟩ := marks
  have found : rule ∈ PathTag.rules.filter fun rule => PathTag.applies rule file :=
    List.mem_filter.2 ⟨member, applies_iff.2 applies⟩
  obtain ⟨front, back, split⟩ := List.append_of_mem found
  rw [impactTags_eq_flatMap, split, List.flatMap_append, List.flatMap_cons]
  exact ⟨_, _, List.append_assoc _ _ _⟩

theorem filter_labels_impactTags (file : String) (functions : ChangeRecord) :
    (impactTags file functions).filter (fun tag => tag ∈ rules.map fun rule => rule.value.label) =
      (rules.filter fun rule => applies rule file).map fun rule => rule.value.label := by
  rw [impactTags_eq_flatMap, List.filter_flatMap]
  refine Eq.trans (List.flatMap_congr fun rule member => ?_) List.map_eq_flatMap.symm
  have labelled : rule.value.label ∈ rules.map fun rule => rule.value.label :=
    List.mem_map.2 ⟨rule, (List.mem_filter.1 member).1, rfl⟩
  have no_follower : ∀ follower ∈ (rule.value.followers functions.names).eraseDups,
      ¬ decide (follower ∈ rules.map fun rule => rule.value.label) = true := by
    intro follower mem known
    obtain ⟨other, _, rfl⟩ := List.mem_map.1 (of_decide_eq_true known)
    exact label_notMem_companions other.value rule.value
      (mem_companions_of_mem_followers (List.mem_eraseDups.1 mem))
  rw [List.filter_cons, if_pos (decide_eq_true labelled), List.filter_eq_nil_iff.2 no_follower]

end PathTag

/-! ## What the tags tell -/

/-- Going through the names, one calls for the first tag while none has called for the second. -/
def RequestedBefore (names : List String) (first second : String) : Prop :=
  ∃ front back, names = front ++ back ∧ (∃ name ∈ front, Rule.Gives requestRules name first) ∧
    ∀ name ∈ front, ¬ Rule.Gives requestRules name second

theorem pairwise_followers (names : List String) :
    (PathTag.apiEndpoints.followers names).eraseDups.Pairwise (RequestedBefore names) := by
  refine (pairwise_eraseDups _).imp ?_
  intro first second earlier
  obtain ⟨front, back, split, mem, absent⟩ := earlier
  obtain ⟨before, after, rfl, rfl, -⟩ := List.filterMap_eq_append_iff.1 split
  obtain ⟨name, member, gives⟩ := List.mem_filterMap.1 mem
  refine ⟨before, after, rfl, ⟨name, member, Rule.first?_eq_some_iff.1 gives⟩, ?_⟩
  intro other inFront gives
  exact absent (List.mem_filterMap.2 ⟨other, inFront, Rule.first?_eq_some_iff.2 gives⟩)

/-- The tags of a file are those that its path and the names of its functions call for, each once: the
tags of the path in the order of the rules, the tag of interactions behind that of rendering, and the
tags of requests behind that of endpoints, in the order in which the functions call for them. -/
structure TellsImpact (tags : List String) (file : String) (names : List String) : Prop where
  distinct : tags.Nodup
  known : ∀ tag ∈ tags, tag ∈ PathTag.rules.map (fun rule => rule.value.label) ∨
    tag = userInteractions ∨ tag ∈ requestRules.map Rule.value
  pathTags : tags.filter (fun tag => tag ∈ PathTag.rules.map fun rule => rule.value.label) =
    (PathTag.rules.filter fun rule => Text.HasWord rule.words file).map fun rule => rule.value.label
  interactions_iff : userInteractions ∈ tags ↔ PathTag.uiRendering.Marks file ∧
    ∃ name ∈ names, Text.HasWord interactionWords (Text.toLower name)
  interactions_behind : userInteractions ∈ tags →
    [PathTag.uiRendering.label, userInteractions] <:+: tags
  request_iff : ∀ tag ∈ requestRules.map Rule.value, tag ∈ tags ↔
    PathTag.apiEndpoints.Marks file ∧ ∃ name ∈ names, Rule.Gives requestRules name tag
  requests_behind : PathTag.apiEndpoints.Marks file → ∃ requests,
    PathTag.apiEndpoints.label :: requests <:+: tags ∧
      (∀ tag, tag ∈ requests ↔ tag ∈ tags ∧ tag ∈ requestRules.map Rule.value) ∧
      requests.Pairwise (RequestedBefore names)

theorem interactions_companion : userInteractions ∈ PathTag.uiRendering.companions :=
  List.mem_singleton_self _

theorem mem_followers_uiRendering_iff {names : List String} :
    userInteractions ∈ PathTag.uiRendering.followers names ↔
      ∃ name ∈ names, Text.HasWord interactionWords (Text.toLower name) := by
  rw [PathTag.followers]
  simp only [← Rule.mentions_iff, ← List.any_eq_true]
  split
  · next some_name => exact iff_of_true (List.mem_singleton_self _) some_name
  · next no_name => exact iff_of_false List.not_mem_nil no_name

theorem mem_followers_apiEndpoints_iff {names : List String} {tag : String} :
    tag ∈ PathTag.apiEndpoints.followers names ↔
      ∃ name ∈ names, Rule.Gives requestRules name tag := by
  rw [PathTag.followers, List.mem_filterMap]
  simp only [Rule.first?_eq_some_iff]

theorem tellsImpact_impactTags (file : String) (functions : ChangeRecord) :
    TellsImpact (impactTags file functions) file functions.names where
  distinct := by
    rw [impactTags, foldl_addNew]
    exact nodup_eraseDups _
  known tag mem := by
    obtain ⟨⟨words, value⟩, member, -, label | follower⟩ := mem_impactTags_iff.1 mem
    · exact .inl (List.mem_map.2 ⟨_, member, label.symm⟩)
    · have companion := PathTag.mem_companions_of_mem_followers follower
      cases value with
      | uiRendering => exact .inr (.inl (List.mem_singleton.1 companion))
      | apiEndpoints => exact .inr (.inr companion)
      | applicationState => cases companion
      | navigation => cases companion
  pathTags := by
    rw [PathTag.filter_labels_impactTags]
    congr 1
    refine List.filter_congr fun rule _ => ?_
    rw [Bool.eq_iff_iff, PathTag.applies_iff, decide_eq_true_iff]
  interactions_iff := by
    rw [← mem_followers_uiRendering_iff]
    exact PathTag.companion_mem_impactTags_iff interactions_companion
  interactions_behind mem := by
    obtain ⟨marks, handler⟩ :=
      (PathTag.companion_mem_impactTags_iff interactions_companion).1 mem
    have behind : (PathTag.uiRendering.followers functions.names).eraseDups = [userInteractions] := by
      rw [PathTag.followers] at handler ⊢
      split
      · rfl
      · next no_handler =>
        rw [if_neg no_handler] at handler
        cases handler
    rw [← behind]
    exact PathTag.block_infix marks
  request_iff tag request := by
    have companion : tag ∈ PathTag.apiEndpoints.companions := request
    rw [← mem_followers_apiEndpoints_iff]
    exact PathTag.companion_mem_impactTags_iff companion
  requests_behind marks := by
    refine ⟨_, PathTag.block_infix marks, ?_, pairwise_followers _⟩
    intro tag
    rw [List.mem_eraseDups]
    constructor
    · intro follower
      have companion := PathTag.mem_companions_of_mem_followers follower
      exact ⟨(PathTag.companion_mem_impactTags_iff companion).2 ⟨marks, follower⟩, companion⟩
    · intro h
      obtain ⟨mem, request⟩ := h
      have companion : tag ∈ PathTag.apiEndpoints.companions := request
      exact ((PathTag.companion_mem_impactTags_iff companion).1 mem).2

/-- Which tags there are does not hang on the order of the names. -/
theorem mem_followers_congr {names others : List String}
    (same : ∀ name, name ∈ others ↔ name ∈ names) (tag : PathTag) (value : String) :
    value ∈ tag.followers others ↔ value ∈ tag.followers names := by
  cases tag with
  | uiRendering =>
    have handlers : others.any (Rule.mentions interactionWords) =
        names.any (Rule.mentions interactionWords) := by
      rw [Bool.eq_iff_iff, List.any_eq_true, List.any_eq_true]
      exact exists_congr fun name => and_congr_left fun _ => same name
    rw [PathTag.followers, PathTag.followers, handlers]
  | apiEndpoints =>
    rw [PathTag.followers, PathTag.followers, List.mem_filterMap, List.mem_filterMap]
    exact exists_congr fun name => and_congr_left fun _ => same name
  | applicationState => exact Iff.rfl
  | navigation => exact Iff.rfl

/-- The tags of a file are those that its path and its functions tell. -/
def FileChange.Tagged (f : FileChange) : Prop :=
  f.impact = impactTags f.file f.functions

instance (f : FileChange) : Decidable f.Tagged :=
  inferInstanceAs (Decidable (_ = _))

theorem FileChange.Tagged.hasImpact_label {f : FileChange} (tagged : f.Tagged) (tag : PathTag) :
    f.hasImpact tag.label = tag.marks f.file := by
  rw [Bool.eq_iff_iff, hasImpact, List.contains_iff_mem, tagged, PathTag.label_mem_impactTags_iff,
    PathTag.marks_iff]

/-- **The tags of a file are exact, and each is there once.** They are those that the path and the names
call for, in the order of the rules and of the functions; records with the same names have the same
tags; and a file has the tags of rendering and of endpoints exactly where its path tells so. -/
theorem impactTags_exact (file : String) (functions : ChangeRecord) :
    TellsImpact (impactTags file functions) file functions.names ∧
      (∀ others : ChangeRecord, (∀ name, name ∈ others.names ↔ name ∈ functions.names) →
        ∀ tag, tag ∈ impactTags file others ↔ tag ∈ impactTags file functions) ∧
      ∀ lines hunks,
        let f : FileChange := ⟨file, lines, functions, hunks, impactTags file functions⟩
        f.hasImpact PathTag.uiRendering.label = isUiFile file ∧
          f.hasImpact PathTag.apiEndpoints.label = isApiFile file := by
  refine ⟨tellsImpact_impactTags file functions, ?_, ?_⟩
  · intro others same tag
    rw [mem_impactTags_iff, mem_impactTags_iff]
    simp only [mem_followers_congr same]
  · intro lines hunks f
    have tagged : f.Tagged := rfl
    exact ⟨tagged.hasImpact_label .uiRendering, tagged.hasImpact_label .apiEndpoints⟩

/-- The functions of a page that is also a service, and the same ones in another order. -/
def accountFunctions : ChangeRecord :=
  .ofList [("getAccount", .modified), ("updateAccount", .added), ("onSubmit", .deleted)]

def sortedFunctions : ChangeRecord :=
  .ofList [("onSubmit", .deleted), ("updateAccount", .added), ("getAccount", .modified)]

theorem impactTags_exact_sorted :
    (∀ name, name ∈ sortedFunctions.names ↔ name ∈ accountFunctions.names) ∧
      impactTags "src/pages/api/account.js" accountFunctions = ["UI rendering", "User interactions",
        "API endpoints", "GET requests", "PUT requests"] ∧
      impactTags "src/pages/api/account.js" sortedFunctions = ["UI rendering", "User interactions",
        "API endpoints", "PUT requests", "GET requests"] ∧
      ∀ tag, tag ∈ impactTags "src/pages/api/account.js" sortedFunctions ↔
        tag ∈ impactTags "src/pages/api/account.js" accountFunctions := by
  have same : ∀ name, name ∈ sortedFunctions.names ↔ name ∈ accountFunctions.names := by
    have swapped : sortedFunctions.names = accountFunctions.names.reverse := by decide
    intro name
    rw [swapped, List.mem_reverse]
  exact ⟨same, by decide +kernel, by decide +kernel, (impactTags_exact _ _).2.1 _ same⟩

end TestImpact
