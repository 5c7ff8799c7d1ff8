import TestImpact.Healing.Element
import TestImpact.Healing.Endpoint

/-! Looking up in tiers. Questions are put in the order of the tiers until one of them is settled, and
what was asked is the list of all questions up to that one. What a surface or a transport answers may
depend on everything that was asked before. Of the paths of the tiers each is requested once, for the
first tier that has it. -/

namespace TestImpact

/-! ## Questions put in order -/

section

variable {Question : Type} {settles : List Question → Question → Prop}

/-- None of the questions is settled when they are put in order, after some earlier ones. -/
def Unsettled (settles : List Question → Question → Prop) :
    List Question → List Question → Prop
  | _, [] => True
  | earlier, question :: rest =>
    ¬ settles earlier question ∧ Unsettled settles (earlier ++ [question]) rest

theorem Unsettled.not_settles {earlier before after : List Question} {question : Question}
    (h : Unsettled settles earlier (before ++ question :: after)) :
    ¬ settles (earlier ++ before) question := by
  induction before generalizing earlier with
  | nil => simpa using h.1
  | cons first before ih => simpa using ih h.2

end

/-! ## Elements -/

/-- A query settles a look-up if it finds exactly one element. -/
def Surface.Settles (surface : Surface) (earlier : List ElementQuery) (query : ElementQuery) : Prop :=
  ∃ handle, surface.answer earlier query = .ok [handle]

/-- The queries for the locators of some candidates. -/
def elementQueries (timeout : Option Nat) (candidates : List (UInt8 × Locator)) :
    List ElementQuery :=
  candidates.map fun candidate => ⟨candidate.2, timeout⟩

theorem seekElement_of_settled {surface : Surface} {timeout : Option Nat} {asked : List ElementQuery}
    {tier : UInt8} {locator : Locator} {handle : ElementHandle}
    (settled : surface.answer asked ⟨locator, timeout⟩ = .ok [handle])
    (rest : List (UInt8 × Locator)) :
    seekElement surface timeout asked ((tier, locator) :: rest) =
      (asked ++ [⟨locator, timeout⟩], some ⟨handle, tier, locator⟩) := by
  simp only [seekElement, settled]

theorem seekElement_of_not_settled {surface : Surface} {timeout : Option Nat}
    {asked : List ElementQuery} {tier : UInt8} {locator : Locator}
    (missed : ¬ surface.Settles asked ⟨locator, timeout⟩) (rest : List (UInt8 × Locator)) :
    seekElement surface timeout asked ((tier, locator) :: rest) =
      seekElement surface timeout (asked ++ [⟨locator, timeout⟩]) rest := by
  rw [seekElement]
  split
  · next handle settled => exact absurd ⟨handle, settled⟩ missed
  · rfl

/-- The search ends at the first candidate that is settled, or goes through all of them. -/
theorem seekElement_cases (surface : Surface) (timeout : Option Nat) (asked : List ElementQuery)
    (candidates : List (UInt8 × Locator)) :
    (∃ before tier locator after handle, candidates = before ++ (tier, locator) :: after ∧
      Unsettled surface.Settles asked (elementQueries timeout before) ∧
      surface.answer (asked ++ elementQueries timeout before) ⟨locator, timeout⟩ = .ok [handle] ∧
      seekElement surface timeout asked candidates =
        (asked ++ elementQueries timeout (before ++ [(tier, locator)]),
          some ⟨handle, tier, locator⟩)) ∨
    (Unsettled surface.Settles asked (elementQueries timeout candidates) ∧
      seekElement surface timeout asked candidates =
        (asked ++ elementQueries timeout candidates, none)) := by
  induction candidates generalizing asked with
  | nil => exact .inr ⟨trivial, by simp [seekElement, elementQueries]⟩
  | cons candidate rest ih =>
    obtain ⟨number, first⟩ := candidate
    by_cases settled : surface.Settles asked ⟨first, timeout⟩
    · obtain ⟨handle, answered⟩ := settled
      refine .inl ⟨[], number, first, rest, handle, rfl, trivial, ?_, ?_⟩
      · simpa [elementQueries] using answered
      · rw [seekElement_of_settled answered]
        rfl
    · rw [seekElement_of_not_settled settled]
      rcases ih (asked ++ [⟨first, timeout⟩]) with
        ⟨before, tier, locator, after, handle, rfl, unsettled, answered, found⟩ | ⟨unsettled, none⟩
      · refine .inl ⟨(number, first) :: before, tier, locator, after, handle, rfl,
          ⟨settled, unsettled⟩, ?_, ?_⟩
        · simpa [elementQueries] using answered
        · rw [found]
          simp [elementQueries]
      · refine .inr ⟨⟨settled, unsettled⟩, ?_⟩
        rw [none]
        simp [elementQueries]

/-- The locators for the hints of a descriptor, in the order of the tiers and each with the number of
its own. A selector is looked up in the context, and a role under the name. -/
def hintedLocators (d : SelectorDescriptor) : List (UInt8 × Locator) :=
  (d.testId.map fun hint => (1, .testId hint)).toList ++
    (d.id.map fun hint => (1, .id hint)).toList ++
    (d.css.map fun hint => (2, .css hint d.context)).toList ++
    (d.xpath.map fun hint => (3, .xpath hint)).toList ++
    (d.text.map fun hint => (4, .text hint)).toList ++
    (d.partialText.map fun hint => (4, .partialText hint)).toList ++
    (d.role.map fun hint => (5, .role hint d.name)).toList ++
    (d.description.map fun hint =>
      [(6, .text hint), (6, .label hint), (6, .placeholder hint)]).getD []

theorem elementCandidates_eq (d : SelectorDescriptor) : elementCandidates d = hintedLocators d := by
  have description : (ElementTier.description d).map (fun locator => ((6 : UInt8), locator)) =
      (d.description.map fun hint =>
        [(6, .text hint), (6, .label hint), (6, .placeholder hint)]).getD [] := by
    rw [ElementTier.description]
    cases d.description with
    | none => rfl
    | some hint => rfl
  rw [hintedLocators, ← description]
  simp only [elementCandidates, ElementTier.all, List.zipIdx_cons, List.zipIdx_nil,
    List.flatMap_cons, List.flatMap_nil, ElementTier.identity, ElementTier.css, ElementTier.xpath,
    ElementTier.text, ElementTier.role, List.map_append, ← Option.toList_map, Option.map_map,
    List.append_assoc, List.append_nil]
  rfl

/-- **A look-up of an element takes the first locator that has exactly one element.** The queries are
those for the locators of all hints, in the order of the tiers, up to that one; the result is its
element, with the number of its tier. No element is found exactly where no query is settled, and then
all of them were put. Either way one attempt is recorded behind the others. -/
theorem resolveElement_follows_tiers (surface : Surface) (timeout : Option Nat) (now : Timestamp)
    (d : SelectorDescriptor) (ledger : HealingLedger) :
    let run := resolveElement surface timeout now d ledger
    let queries := elementQueries timeout (hintedLocators d)
    (run.result = .error (.elementNotFound d) ↔ Unsettled surface.Settles [] queries) ∧
    ((∃ before tier locator after handle,
        hintedLocators d = before ++ (tier, locator) :: after ∧
        Unsettled surface.Settles [] (elementQueries timeout before) ∧
        surface.answer (elementQueries timeout before) ⟨locator, timeout⟩ = .ok [handle] ∧
        run.asked = elementQueries timeout before ++ [⟨locator, timeout⟩] ∧
        run.result = .ok ⟨handle, tier, locator⟩ ∧
        run.ledger.entries = ledger.entries ++ [.make (.selectors d) (.tier tier) now]) ∨
      (run.asked = queries ∧ run.result = .error (.elementNotFound d) ∧
        run.ledger.entries = ledger.entries ++ [.make (.selectors d) .failed now])) := by
  intro run queries
  have made : run = resolveElement surface timeout now d ledger := rfl
  rw [resolveElement, elementCandidates_eq] at made
  rcases seekElement_cases surface timeout [] (hintedLocators d) with
    ⟨before, tier, locator, after, handle, split, unsettled, answered, found⟩ | ⟨unsettled, none⟩
  · rw [found] at made
    refine ⟨iff_of_false ?_ ?_, .inl ⟨before, tier, locator, after, handle, split, unsettled,
      answered, ?_, ?_, ?_⟩⟩
    · rw [made]
      nofun
    · intro none_settled
      simp only [queries, split, elementQueries, List.map_append, List.map_cons] at none_settled
      exact none_settled.not_settles ⟨handle, answered⟩
    all_goals rw [made]
    · exact List.map_append
    · rfl
  · rw [none] at made
    refine ⟨iff_of_true ?_ unsettled, .inr ⟨?_, ?_, ?_⟩⟩
    all_goals rw [made]
    · rfl
    · rfl

/-- A page with two buttons, of which one has a label. -/
def labelledButton : Surface where
  answer _ query :=
    match query.locator with
    | .css _ _ => .error (.driver "no frame")
    | .role _ _ => .ok [⟨"first"⟩, ⟨"second"⟩]
    | .label "Save" => .ok [⟨"second"⟩]
    | _ => .ok []

theorem resolveElement_follows_tiers_label :
    let d : SelectorDescriptor := {
      id := some "save", css := some "button", context := some "form", role := some "button",
      name := some "Send", description := some "Save" }
    ∀ timeout now,
      (resolveElement labelledButton timeout now d ∅).asked =
        [⟨.id "save", timeout⟩, ⟨.css "button" (some "form"), timeout⟩,
          ⟨.role "button" (some "Send"), timeout⟩, ⟨.text "Save", timeout⟩,
          ⟨.label "Save", timeout⟩] ∧
      (resolveElement labelledButton timeout now d ∅).result =
        .ok ⟨⟨"second"⟩, 6, .label "Save"⟩ ∧
      ∃ before after, hintedLocators d = before ++ (6, .label "Save") :: after ∧
        Unsettled labelledButton.Settles [] (elementQueries timeout before) := by
  intro d timeout now
  refine ⟨rfl, rfl, ?_⟩
  obtain ⟨-, found | ⟨-, failed, -⟩⟩ := resolveElement_follows_tiers labelledButton timeout now d ∅
  · obtain ⟨before, _, _, after, _, split, unsettled, -, -, result, -⟩ := found
    cases result
    exact ⟨before, after, split, unsettled⟩
  · cases failed

/-! ## Endpoints -/

/-- A request settles a look-up if it gets any response. -/
def Transport.Settles (transport : Transport) (earlier : List EndpointRequest)
    (request : EndpointRequest) : Prop :=
  ∃ response, transport.send earlier request = .ok response

def endpointRequests (method : HttpMethod) (timeout : Option Nat) (paths : List String) :
    List EndpointRequest :=
  paths.map fun path => ⟨method, path, timeout⟩

/-- The paths that some tiers make, without those that were requested before; of equal ones the first
stays. -/
def freshPaths (path : String) (requested : List String) (tiers : List (UInt8 × EndpointTier)) :
    List String :=
  ((tiers.map fun tier => tier.2.change path).removeAll requested).eraseDups

theorem not_mem_of_mem_freshPaths {path candidate : String} {requested : List String}
    {tiers : List (UInt8 × EndpointTier)} (h : candidate ∈ freshPaths path requested tiers) :
    candidate ∉ requested := by
  rw [freshPaths, List.mem_eraseDups, List.removeAll, List.mem_filter] at h
  simpa using h.2

theorem freshPaths_cons_of_mem {path : String} {requested : List String} {number : UInt8}
    {tier : EndpointTier} (old : tier.change path ∈ requested) (rest : List (UInt8 × EndpointTier)) :
    freshPaths path requested ((number, tier) :: rest) = freshPaths path requested rest := by
  simp [freshPaths, List.removeAll, old]

theorem freshPaths_cons_of_not_mem {path : String} {requested : List String} {number : UInt8}
    {tier : EndpointTier} (new : tier.change path ∉ requested)
    (rest : List (UInt8 × EndpointTier)) :
    freshPaths path requested ((number, tier) :: rest) =
      tier.change path :: freshPaths path (requested ++ [tier.change path]) rest := by
  have both (other : String) : (!(other == tier.change path) && !requested.elem other) =
      !(requested ++ [tier.change path]).elem other := by
    by_cases same : other = tier.change path
    · simp [same]
    · simp [same]
  rw [freshPaths, List.map_cons, List.removeAll, List.filter_cons_of_pos (by simpa using new),
    List.eraseDups_cons, List.filter_filter]
  simp only [both]
  rfl

/-- Which error is the last one when requests fail: that of the last request, or the one before all of
them if there are none. -/
def LastError (transport : Transport) (sent requests : List EndpointRequest)
    (last found : Option TransportError) : Prop :=
  requests = [] ∧ found = last ∨
    ∃ before request e, requests = before ++ [request] ∧
      transport.send (sent ++ before) request = .error e ∧ found = some e

theorem LastError.cons {transport : Transport} {sent requests : List EndpointRequest}
    {request : EndpointRequest} {e : TransportError} {found : Option TransportError}
    (failed : transport.send sent request = .error e)
    (h : LastError transport (sent ++ [request]) requests (some e) found)
    (last : Option TransportError) : LastError transport sent (request :: requests) last found := by
  rcases h with ⟨rfl, rfl⟩ | ⟨before, final, later, rfl, failed, rfl⟩
  · exact .inr ⟨[], request, e, rfl, by simpa using failed, rfl⟩
  · exact .inr ⟨request :: before, final, later, rfl, by simpa using failed, rfl⟩

/-- How a search over some tiers ends: at the first fresh path that gets a response, for the first tier
that makes this path, or with a request for every fresh path. -/
inductive EndpointSearch (transport : Transport) (method : HttpMethod) (timeout : Option Nat)
    (path : String) (sent : List EndpointRequest) (last : Option TransportError)
    (tiers : List (UInt8 × EndpointTier)) (run : List EndpointRequest × EndpointFinding) : Prop where
  | found (before : List String) (candidate : String) (after : List String)
      (front : List (UInt8 × EndpointTier)) (number : UInt8) (tier : EndpointTier)
      (back : List (UInt8 × EndpointTier)) (response : EndpointResponse)
      (fresh : freshPaths path (sent.map EndpointRequest.path) tiers = before ++ candidate :: after)
      (unsettled : Unsettled transport.Settles sent (endpointRequests method timeout before))
      (answered : transport.send (sent ++ endpointRequests method timeout before)
        ⟨method, candidate, timeout⟩ = .ok response)
      (split : tiers = front ++ (number, tier) :: back) (makes : tier.change path = candidate)
      (first : ∀ earlier ∈ front, earlier.2.change path ≠ candidate)
      (stops : run = (sent ++ endpointRequests method timeout (before ++ [candidate]),
        .found number tier.version candidate response))
  | exhausted (requests : List EndpointRequest) (final : Option TransportError)
      (fresh : requests = endpointRequests method timeout
        (freshPaths path (sent.map EndpointRequest.path) tiers))
      (unsettled : Unsettled transport.Settles sent requests)
      (ends : LastError transport sent requests last final)
      (stops : run = (sent ++ requests, .exhausted final))

section

variable {transport : Transport} {method : HttpMethod} {timeout : Option Nat} {path : String}
  {sent : List EndpointRequest} {last : Option TransportError} {number : UInt8} {tier : EndpointTier}
  {rest : List (UInt8 × EndpointTier)} {run : List EndpointRequest × EndpointFinding}

namespace EndpointSearch

/-- A tier whose path was requested already sends nothing. -/
theorem behind_old (old : tier.change path ∈ sent.map EndpointRequest.path)
    (h : EndpointSearch transport method timeout path sent last rest run) :
    EndpointSearch transport method timeout path sent last ((number, tier) :: rest) run := by
  have paths : freshPaths path (sent.map EndpointRequest.path) ((number, tier) :: rest) =
      freshPaths path (sent.map EndpointRequest.path) rest := freshPaths_cons_of_mem old rest
  cases h with
  | found before candidate after front later found back response fresh unsettled answered split makes
      first stops =>
    have new := not_mem_of_mem_freshPaths (fresh ▸ List.mem_append_right _ (.head _))
    refine .found before candidate after ((number, tier) :: front) later found back response
      (paths.trans fresh) unsettled answered (by rw [split, List.cons_append]) makes ?_ stops
    exact List.forall_mem_cons.2 ⟨fun same => new (same ▸ old), first⟩
  | exhausted requests final fresh unsettled ends stops =>
    exact .exhausted requests final (paths ▸ fresh) unsettled ends stops

/-- A tier with a new path sends a request, and the search goes on if it fails. -/
theorem behind_failed {request : EndpointRequest} {e : TransportError}
    (new : tier.change path ∉ sent.map EndpointRequest.path)
    (made : request = ⟨method, tier.change path, timeout⟩)
    (failed : transport.send sent request = .error e)
    (h : EndpointSearch transport method timeout path (sent ++ [request]) (some e) rest run) :
    EndpointSearch transport method timeout path sent last ((number, tier) :: rest) run := by
  have paths : freshPaths path (sent.map EndpointRequest.path) ((number, tier) :: rest) =
      tier.change path :: freshPaths path ((sent ++ [request]).map EndpointRequest.path) rest := by
    rw [freshPaths_cons_of_not_mem new, List.map_append, made]
    rfl
  have requests_cons (paths : List String) :
      endpointRequests method timeout (tier.change path :: paths) =
        request :: endpointRequests method timeout paths := by
    rw [made]
    rfl
  have missed : ¬ transport.Settles sent request := by
    rintro ⟨response, settled⟩
    cases failed.symm.trans settled
  cases h with
  | found before candidate after front later found back response fresh unsettled answered split makes
      first stops =>
    have other := not_mem_of_mem_freshPaths (fresh ▸ List.mem_append_right _ (.head _))
    refine .found (tier.change path :: before) candidate after ((number, tier) :: front) later found
      back response ?_ ?_ ?_ ?_ makes ?_ ?_
    · rw [paths, fresh, List.cons_append]
    · rw [requests_cons]
      exact ⟨missed, unsettled⟩
    · rwa [requests_cons, List.append_cons]
    · rw [split, List.cons_append]
    · refine List.forall_mem_cons.2 ⟨fun same => other ?_, first⟩
      simp [made, ← same]
    · rw [stops, List.cons_append, requests_cons, List.append_assoc]
      rfl
  | exhausted requests final fresh unsettled ends stops =>
    refine .exhausted (request :: requests) final ?_ ⟨missed, unsettled⟩ (ends.cons failed last) ?_
    · rw [paths, requests_cons, fresh]
    · rw [stops, List.append_assoc]
      rfl

end EndpointSearch

theorem seekEndpoint_of_old (old : tier.change path ∈ sent.map EndpointRequest.path) :
    seekEndpoint transport method timeout path sent last ((number, tier) :: rest) =
      seekEndpoint transport method timeout path sent last rest := by
  have again : sent.any (fun request => request.path == tier.change path) = true := by
    simpa using old
  rw [seekEndpoint]
  exact if_pos again

theorem seekEndpoint_of_new (new : tier.change path ∉ sent.map EndpointRequest.path) :
    seekEndpoint transport method timeout path sent last ((number, tier) :: rest) =
      match transport.send sent ⟨method, tier.change path, timeout⟩ with
      | .ok response => (sent ++ [⟨method, tier.change path, timeout⟩],
          .found number tier.version (tier.change path) response)
      | .error e => seekEndpoint transport method timeout path
          (sent ++ [⟨method, tier.change path, timeout⟩]) (some e) rest := by
  have first : ¬ sent.any (fun request => request.path == tier.change path) = true := by
    simpa using new
  rw [seekEndpoint]
  exact if_neg first

end

theorem seekEndpoint_spec (transport : Transport) (method : HttpMethod) (timeout : Option Nat)
    (path : String) (sent : List EndpointRequest) (last : Option TransportError)
    (tiers : List (UInt8 × EndpointTier)) :
    EndpointSearch transport method timeout path sent last tiers
      (seekEndpoint transport method timeout path sent last tiers) := by
  induction tiers generalizing sent last with
  | nil =>
    refine .exhausted [] last rfl trivial (.inl ⟨rfl, rfl⟩) ?_
    rw [seekEndpoint, List.append_nil]
  | cons numbered rest ih =>
    obtain ⟨number, tier⟩ := numbered
    by_cases old : tier.change path ∈ sent.map EndpointRequest.path
    · rw [seekEndpoint_of_old old]
      exact (ih sent last).behind_old old
    · rw [seekEndpoint_of_new old]
      cases answered : transport.send sent ⟨method, tier.change path, timeout⟩ with
      | ok response =>
        refine .found [] (tier.change path) _ [] number tier rest response
          (freshPaths_cons_of_not_mem old rest) trivial ?_ rfl rfl nofun rfl
        simpa [endpointRequests] using answered
      | error e => exact (ih _ _).behind_failed old rfl answered

namespace EndpointTier

theorem map_snd_numbered : numbered.map Prod.snd = all := rfl

theorem numbered_eq_append {front back : List (UInt8 × EndpointTier)} {number : UInt8}
    {tier : EndpointTier} (h : numbered = front ++ (number, tier) :: back) :
    all = front.map Prod.snd ++ tier :: back.map Prod.snd ∧ number.toNat = front.length + 1 := by
  constructor
  · rw [← map_snd_numbered, h, List.map_append, List.map_cons]
  · have place : numbered[front.length]? = some (number, tier) := by simp [h]
    have few : front.length < all.length := by
      rw [← map_snd_numbered, h, List.length_map, List.length_append, List.length_cons]
      omega
    rw [numbered, List.getElem?_map, List.getElem?_zipIdx, Nat.zero_add] at place
    simp only [Option.map_map, Option.map_eq_some_iff, Function.comp_apply, Prod.mk.injEq] at place
    obtain ⟨_, _, rfl, _⟩ := place
    have six : all.length = 6 := rfl
    rw [UInt8.toNat_ofNat']
    omega

/-- Only the first tier leaves a path as it is, as far as the tiers in front of another one tell. -/
theorem front_eq_nil_iff {front back : List EndpointTier} {tier : EndpointTier} {path : String}
    (split : all = front ++ tier :: back)
    (first : ∀ earlier ∈ front, earlier.change path ≠ tier.change path) :
    front = [] ↔ tier.change path = path := by
  cases front with
  | nil =>
    cases split
    exact iff_of_true rfl rfl
  | cons exact front =>
    obtain ⟨rfl, _⟩ := List.cons.inj split
    exact iff_of_false nofun fun same => first _ (.head _) same.symm

/-- The first tier that makes a path lies behind the first of all exactly for another path. -/
theorem behind_first_iff {front back : List (UInt8 × EndpointTier)} {number : UInt8}
    {tier : EndpointTier} {path : String} (split : numbered = front ++ (number, tier) :: back)
    (first : ∀ earlier ∈ front, earlier.2.change path ≠ tier.change path) :
    1 < number ↔ tier.change path ≠ path := by
  obtain ⟨tiers, number_eq⟩ := numbered_eq_append split
  have exact := front_eq_nil_iff tiers (List.forall_mem_map.2 first)
  rw [Ne, ← exact, List.map_eq_nil_iff, ← List.length_eq_zero_iff, UInt8.lt_iff_toNat_lt, number_eq,
    UInt8.toNat_one]
  omega

theorem freshPaths_numbered (path : String) :
    freshPaths path [] numbered = (all.map fun tier => tier.change path).eraseDups := by
  rw [← map_snd_numbered, List.map_map, freshPaths, List.removeAll]
  exact congrArg List.eraseDups (List.filter_eq_self.2 fun _ _ => rfl)

end EndpointTier

end TestImpact
