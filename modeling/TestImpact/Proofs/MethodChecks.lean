import Mathlib.Data.List.TakeWhile
import TestImpact.Proofs.ImpactTags
import TestImpact.Proofs.LiveTargets

/-! What a target for an endpoint checks, and the method that it asks with. The table of methods, the
table of checks and the table of request tags all read the name of the function, and the rules of the
last two are each meant for one method. They agree on a name unless the table of methods finds another
word in it first, which the other table does not know or asks for later. -/

namespace TestImpact

/-! ## Which method is meant -/

/-- The method whose responses a check is meant for, if for one only. -/
def Validation.method? : Validation → Option HttpMethod
  | hasData => some .get
  | hasId => some .post
  | dataUpdated => some .put
  | status code => if code = 201 then some .post else if code = 204 then some .delete else none
  | authCheck => none

namespace HttpMethod

/-- The tag of files with functions that send requests with a method. -/
def requestTag (m : HttpMethod) : String :=
  m.label ++ " requests"

/-- The words that tell of a method. -/
def words (m : HttpMethod) : List String :=
  ((methodRules.find? fun rule => rule.value == m).map Rule.words).getD []

/-- The rules that are asked before that of a method. -/
def rulesBefore (m : HttpMethod) : List (Rule HttpMethod) :=
  methodRules.takeWhile fun rule => rule.value != m

theorem methodRules_split (m : HttpMethod) :
    ∃ back, methodRules = m.rulesBefore ++ ⟨m.words, m⟩ :: back := by
  cases m <;> exact ⟨_, rfl⟩

/-- The words that lead to another method where the checks of this one are made. -/
def wordsBeforeChecks : HttpMethod → List String
  | get | patch => []
  | post => ["fetch", "find"]
  | put => ["fetch", "find", "add"]
  | delete => ["fetch", "find", "add", "patch"]

/-- The words that lead to another method where the request tag of this one is given. -/
def wordsBeforeTag : HttpMethod → List String
  | get | patch => []
  | post => ["fetch", "find"]
  | put => ["fetch", "find", "create", "add"]
  | delete => ["fetch", "find", "create", "add", "patch"]

end HttpMethod

/-! ## The table of methods and another one -/

namespace Rule

variable {α : Type}

/-- A rule behind others is one for a method: the method has all its words, and the words that are
asked before those of the method, and not before the rule, are the given ones. -/
structure StandsFor (passed : List (Rule α)) (rule : Rule α) (method : HttpMethod)
    (others : List String) : Prop where
  known : ∀ word ∈ rule.words, word ∈ method.words
  before : newWords method.rulesBefore passed = others

instance (passed : List (Rule α)) (rule : Rule α) (method : HttpMethod) (others : List String) :
    Decidable (StandsFor passed rule method others) :=
  decidable_of_iff ((∀ word ∈ rule.words, word ∈ method.words) ∧
    newWords method.rulesBefore passed = others) ⟨fun h => ⟨h.1, h.2⟩, fun h => ⟨h.1, h.2⟩⟩

theorem StandsFor.inferMethod_eq_iff {passed : List (Rule α)} {rule : Rule α} {method : HttpMethod}
    {others : List String} {name : String} (stands : StandsFor passed rule method others)
    (counts : Counts passed rule name) :
    inferMethod name = method ↔ ¬ Text.HasWord others (Text.toLower name) := by
  obtain ⟨back, table⟩ := method.methodRules_split
  have differ : ∀ earlier ∈ method.rulesBefore, earlier.value ≠ method := by
    intro earlier mem
    rw [HttpMethod.rulesBefore] at mem
    have differs := List.mem_takeWhile_imp mem
    exact bne_iff_ne.1 differs
  have first : first? (method.rulesBefore ++ ⟨method.words, method⟩ :: back) name = some method ↔
      ¬ Text.HasWord (newWords method.rulesBefore passed) (Text.toLower name) :=
    counts.first?_eq_value_iff stands.known differ
  obtain ⟨word, member, part⟩ := counts.applies
  have some_rule : (first? methodRules name).isSome = true := by
    refine isSome_first?_iff.2 ⟨⟨method.words, method⟩, ?_, word, stands.known word member, part⟩
    rw [table]
    exact List.mem_append_right _ List.mem_cons_self
  obtain ⟨value, found⟩ := Option.isSome_iff_exists.1 some_rule
  rw [← stands.before, ← first, ← table, inferMethod, found, Option.getD_some, Option.some.injEq]

/-- Behind some rules of a table, every rule stands for the methods that its value means. -/
def Aligned (meant : α → List HttpMethod) (others : HttpMethod → List String)
    (passed : List (Rule α)) : List (Rule α) → Prop
  | [] => True
  | rule :: rest =>
    (∀ method ∈ meant rule.value, StandsFor passed rule method (others method)) ∧
      Aligned meant others (passed ++ [rule]) rest

instance decidableAligned (meant : α → List HttpMethod) (others : HttpMethod → List String) :
    (passed rules : List (Rule α)) → Decidable (Aligned meant others passed rules)
  | _, [] => .isTrue trivial
  | passed, rule :: rest =>
    have := decidableAligned meant others (passed ++ [rule]) rest
    inferInstanceAs (Decidable (_ ∧ _))

theorem Aligned.inferMethod_eq_iff {meant : α → List HttpMethod} {others : HttpMethod → List String}
    {passed rules : List (Rule α)} {name : String} {value : α} {method : HttpMethod}
    (aligned : Aligned meant others passed rules)
    (idle : ∀ earlier ∈ passed, ¬ Text.HasWord earlier.words (Text.toLower name))
    (found : first? rules name = some value) (means : method ∈ meant value) :
    inferMethod name = method ↔ ¬ Text.HasWord (others method) (Text.toLower name) := by
  induction rules generalizing passed with
  | nil => cases found
  | cons rule rest ih =>
    obtain ⟨stands, tail⟩ := aligned
    rw [first?_cons] at found
    by_cases mentioned : mentions rule.words name = true
    · rw [if_pos mentioned] at found
      cases found
      exact (stands method means).inferMethod_eq_iff ⟨mentions_iff.1 mentioned, idle⟩
    · rw [if_neg mentioned] at found
      rw [mentions_iff] at mentioned
      exact ih tail (List.forall_mem_append.2 ⟨idle, List.forall_mem_singleton.2 mentioned⟩) found

end Rule

theorem aligned_validationRules :
    Rule.Aligned (fun checks => checks.filterMap Validation.method?) HttpMethod.wordsBeforeChecks []
      validationRules := by
  decide

theorem aligned_requestRules :
    Rule.Aligned (fun tag => HttpMethod.all.filter fun m => m.requestTag == tag)
      HttpMethod.wordsBeforeTag [] requestRules := by
  decide

/-! ## Targets for endpoints -/

/-- A target for an endpoint asks with a method, and makes checks. Where one of them is meant for a
method, or the tag that its function calls for, this is the method unless the name of the function has
another word that comes before. -/
structure TestTarget.FitsMethod (t : TestTarget) (method : HttpMethod) (checks : List Validation) :
    Prop where
  asks : t.method = some method
  makes : t.validations = some checks
  checks_iff : ∀ check ∈ checks, ∀ m, check.method? = some m →
    (method = m ↔ ¬ Text.HasWord m.wordsBeforeChecks (Text.toLower t.function))
  tag_iff : ∀ m, Rule.Gives requestRules t.function m.requestTag →
    (method = m ↔ ¬ Text.HasWord m.wordsBeforeTag (Text.toLower t.function))

/-- A check for one method comes from the table. -/
theorem exists_of_mem_checks {function : String} {authorization : Bool} {check : Validation}
    {m : HttpMethod} (means : check.method? = some m)
    (mem : check ∈ (Rule.first? validationRules function).getD [] ++
      if authorization then [.authCheck] else []) :
    ∃ checks, Rule.first? validationRules function = some checks ∧ check ∈ checks := by
  rw [List.mem_append] at mem
  cases mem with
  | inl table =>
    cases found : Rule.first? validationRules function with
    | none =>
      rw [found] at table
      cases table
    | some checks =>
      rw [found] at table
      exact ⟨checks, rfl, table⟩
  | inr added =>
    cases authorization with
    | false => cases added
    | true =>
      rw [if_pos rfl, List.mem_singleton] at added
      rw [added] at means
      cases means

theorem fitsMethod_apiTarget (file function : String) (authorization : Bool) (change : Change) :
    (apiTarget file authorization function change).FitsMethod (inferMethod function)
      ((Rule.first? validationRules function).getD [] ++
        if authorization then [.authCheck] else []) where
  asks := rfl
  makes := rfl
  checks_iff := by
    intro check mem m means
    obtain ⟨checks, found, member⟩ := exists_of_mem_checks means mem
    exact aligned_validationRules.inferMethod_eq_iff (List.forall_mem_nil _) found
      (List.mem_filterMap.2 ⟨check, member, means⟩)
  tag_iff := by
    intro m gives
    have known : m ∈ HttpMethod.all := by
      cases m <;> decide
    exact aligned_requestRules.inferMethod_eq_iff (List.forall_mem_nil _)
      (Rule.first?_eq_some_iff.2 gives) (List.mem_filter.2 ⟨known, beq_self_eq_true _⟩)

theorem mem_generateTargets_api_iff {files : List FileChange} {t : TestTarget} :
    t ∈ generateTargets files ∧ t.kind = .api ↔
      ∃ f ∈ files, f.hasImpact PathTag.apiEndpoints.label = true ∧
        ∃ p ∈ liveFunctions f, apiTarget f.file (touchesAuthorization f.lines) p.1 p.2 = t := by
  rw [generateTargets, List.mem_flatMap]
  constructor
  · intro h
    obtain ⟨⟨f, mem, made⟩, kind⟩ := h
    rcases mem_targetsOfFile_iff.1 made with ⟨_, ⟨p, _, rfl⟩ | looks⟩ | ⟨tagged, p, live, made⟩
    · cases kind
    · rw [kind_of_visualTarget? looks] at kind
      cases kind
    · exact ⟨f, mem, tagged, p, live, made⟩
  · intro h
    obtain ⟨f, mem, tagged, p, live, rfl⟩ := h
    exact ⟨⟨f, mem, mem_targetsOfFile_iff.2 (Or.inr ⟨tagged, p, live, rfl⟩)⟩, rfl⟩

/-- **A target for an endpoint fits its method up to the order of the words.** Every function of a file
with endpoints that still exists has its target, and what a target checks is meant for its method, as is
the request tag of its function, exactly where the name has no word that leads to another method
before. -/
theorem apiTargets_fit_method (files : List FileChange) :
    (∀ f ∈ files, f.hasImpact PathTag.apiEndpoints.label = true →
      ∀ function change, (function, change) ∈ f.functions.entries → change ≠ .deleted →
        ∃ t ∈ generateTargets files, t.kind = .api ∧ t.file = f.file ∧ t.function = function) ∧
      ∀ t ∈ generateTargets files, t.kind = .api → ∃ method checks, t.FitsMethod method checks := by
  constructor
  · intro f mem tagged function change entry live
    have kept : (function, change) ∈ liveFunctions f :=
      List.mem_filter.2 ⟨entry, bne_iff_ne.2 live⟩
    obtain ⟨made, kind⟩ := mem_generateTargets_api_iff.2 ⟨f, mem, tagged, _, kept, rfl⟩
    exact ⟨_, made, kind, rfl, rfl⟩
  · intro t made kind
    obtain ⟨f, _, _, p, _, rfl⟩ := mem_generateTargets_api_iff.1 ⟨made, kind⟩
    exact ⟨_, _, fitsMethod_apiTarget f.file p.1 _ p.2⟩

/-- A service with one function that updates, which is asked for by `GET`, and one that creates. -/
def fetchingService : FileChange where
  file := "api/users.js"
  lines := {}
  functions := .ofList [("fetchAndUpdate", .modified), ("createUser", .added)]
  hunks := []
  impact := ["API endpoints", "PUT requests"]

def fetchTarget : TestTarget :=
  apiTarget "api/users.js" false "fetchAndUpdate" .modified

theorem fetchTarget_made : fetchTarget ∈ generateTargets [fetchingService] :=
  (mem_generateTargets_api_iff.2 ⟨fetchingService, List.mem_singleton_self _, by decide +kernel,
    ("fetchAndUpdate", .modified), by decide +kernel, rfl⟩).1

theorem apiTargets_fit_method_fetching :
    (fetchingService.hasImpact PathTag.apiEndpoints.label = true ∧
      ("createUser", Change.added) ∈ fetchingService.functions.entries ∧
      ∃ t ∈ generateTargets [fetchingService], t.kind = .api ∧ t.file = "api/users.js" ∧
        t.function = "createUser") ∧
      fetchTarget ∈ generateTargets [fetchingService] ∧ fetchTarget.kind = .api ∧
        ∃ method checks, fetchTarget.FitsMethod method checks := by
  have tagged : fetchingService.hasImpact PathTag.apiEndpoints.label = true := by decide +kernel
  have entry : ("createUser", Change.added) ∈ fetchingService.functions.entries := by decide +kernel
  obtain ⟨complete, fits⟩ := apiTargets_fit_method [fetchingService]
  exact ⟨⟨tagged, entry, complete _ (List.mem_singleton_self _) tagged _ _ entry (by decide)⟩,
    fetchTarget_made, rfl, fits _ fetchTarget_made rfl⟩

/-- The function with two words is asked for by `GET`, and then checked for an update, which its request
tag tells of too. -/
theorem fetching_target_contradicts_itself :
    ¬ ∀ f : FileChange, f.Tagged → f.hasImpact PathTag.apiEndpoints.label = true →
      ∀ t ∈ generateTargets [f], t.kind = .api →
        ∀ method checks, t.method = some method → t.validations = some checks →
          (∀ check ∈ checks, ∀ m, check.method? = some m → method = m) ∧
            ∀ m, m.requestTag ∈ f.impact → Rule.Gives requestRules t.function m.requestTag →
              method = m := by
  intro agree
  have fits := agree fetchingService (by decide +kernel) (by decide +kernel) fetchTarget
    fetchTarget_made rfl .get [.status 200, .dataUpdated] (by decide +kernel) (by decide +kernel)
  exact absurd (fits.1 .dataUpdated (by decide) .put rfl) (by decide)

end TestImpact
