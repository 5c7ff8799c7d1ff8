import TestImpact.Proofs.ResourcePlural
import TestImpact.Proofs.Tiers

/-! Looking up an endpoint, with the paths of the six tiers written out: the path from the root, the same
below `/api`, `/v1` and `/v2`, the path without slashes at its end, and its plural. -/

namespace TestImpact

/-! ## Paths -/

theorem normalizePath_eq (path : String) :
    normalizePath path = if path.toList.head? = some '/' then path else "/" ++ path := by
  rw [normalizePath]
  refine if_congr (Text.hasPrefix_iff.trans ?_) rfl rfl
  cases path.toList with
  | nil => decide
  | cons c rest => simp [eq_comm]

/-- A path and what it is without the slashes at its end: `/` where nothing else is left. -/
def WithoutTrailingSlashes (path stripped : String) : Prop :=
  ∃ kept slashes, path.toList = kept ++ List.replicate slashes '/' ∧ kept.getLast? ≠ some '/' ∧
    stripped.toList = if kept = [] then ['/'] else kept

theorem Text.exists_dropEndWhile_append (c : Char) (s : List Char) :
    ∃ n, s = dropEndWhile (· == c) s ++ List.replicate n c := by
  have ends : s.reverse.takeWhile (· == c) =
      List.replicate (s.reverse.takeWhile (· == c)).length c := by
    refine List.eq_replicate_of_mem fun d mem => ?_
    exact beq_iff_eq.1 (List.all_eq_true.1 List.all_takeWhile d mem)
  refine ⟨(s.reverse.takeWhile (· == c)).length, ?_⟩
  rw [← List.reverse_replicate, ← ends, dropEndWhile, ← List.reverse_append,
    List.takeWhile_append_dropWhile, List.reverse_reverse]

theorem Text.getLast?_dropEndWhile_ne (c : Char) (s : List Char) :
    (dropEndWhile (· == c) s).getLast? ≠ some c := by
  rw [dropEndWhile, List.getLast?_reverse]
  intro last
  have stops := List.head?_dropWhile_not (· == c) s.reverse
  rw [last] at stops
  simp at stops

theorem withoutTrailingSlashes_strip (path : String) :
    WithoutTrailingSlashes path (stripTrailingSlashes path) := by
  obtain ⟨slashes, written⟩ := Text.exists_dropEndWhile_append '/' path.toList
  refine ⟨_, slashes, written, Text.getLast?_dropEndWhile_ne '/' path.toList, ?_⟩
  rw [stripTrailingSlashes]
  cases Text.dropEndWhile (· == '/') path.toList with
  | nil => rfl
  | cons c kept => exact String.toList_ofList

/-! ## Looking up -/

/-- **A look-up of an endpoint takes the first path that gets a response.** The paths of the tiers are
requested in order, each once, up to that one; the result has this path, its first tier with its
version, and the status. The path is another one than was asked for exactly behind the first tier. If
every request fails, the error tells how many there were and how the last one failed. Either way one
attempt is recorded behind the others. -/
theorem resolveEndpoint_follows_tiers (transport : Transport) (timeout : Option Nat)
    (now : Timestamp) (method : HttpMethod) (path : String) (ledger : HealingLedger) :
    let run := resolveEndpoint transport timeout now method path ledger
    ∃ requested stripped plural : String,
      requested = (if path.toList.head? = some '/' then path else "/" ++ path) ∧
      WithoutTrailingSlashes requested stripped ∧ PluralPath requested plural ∧
      let tiers : List (String × Option String) :=
        [(requested, none), ("/api" ++ requested, some "api"), ("/v1" ++ requested, some "v1"),
          ("/v2" ++ requested, some "v2"), (stripped, none), (plural, none)]
      let requests := endpointRequests method timeout (tiers.map Prod.fst).eraseDups
      (∃ before request after response front version back resolution,
          requests = before ++ request :: after ∧
          Unsettled transport.Settles [] before ∧ transport.send before request = .ok response ∧
          run.sent = before ++ [request] ∧
          tiers = front ++ (request.path, version) :: back ∧
          (∀ earlier ∈ front, earlier.1 ≠ request.path) ∧
          run.result = .ok resolution ∧
          resolution.requested = requested ∧ resolution.resolvedPath = request.path ∧
          resolution.tier.toNat = front.length + 1 ∧ resolution.version = version ∧
          resolution.status = response.status ∧
          (resolution.healed = true ↔ 1 < resolution.tier) ∧
          (1 < resolution.tier ↔ resolution.resolvedPath ≠ resolution.requested) ∧
          run.ledger.entries = ledger.entries ++
            [.make (.endpoint requested) (.tier resolution.tier) now]) ∨
        ∃ before request e,
          requests = before ++ [request] ∧
          Unsettled transport.Settles [] requests ∧ transport.send before request = .error e ∧
          run.sent = requests ∧
          run.result = .error (.endpointUnresolved requested requests.length e) ∧
          run.ledger.entries = ledger.entries ++ [.make (.endpoint requested) .failed now] := by
  intro run
  have made : run = resolveEndpoint transport timeout now method path ledger := rfl
  rw [resolveEndpoint] at made
  refine ⟨_, _, _, normalizePath_eq path, withoutTrailingSlashes_strip _,
    pluralPath_pluralizeResource _, ?_⟩
  generalize normalizePath path = requested at made ⊢
  intro tiers requests
  have written : tiers = EndpointTier.all.map fun tier => (tier.change requested, tier.version) := rfl
  have fresh : freshPaths requested [] EndpointTier.numbered = (tiers.map Prod.fst).eraseDups :=
    EndpointTier.freshPaths_numbered requested
  rcases seekEndpoint_spec transport method timeout requested [] none EndpointTier.numbered with
    ⟨before, candidate, after, front, number, tier, back, response, paths, unsettled, answered,
      split, makes, earlier, found⟩ | ⟨_, found, rfl, unsettled, ends, exhausted⟩
  · rw [List.map_nil, fresh] at paths
    rw [found] at made
    obtain ⟨all, numbered⟩ := EndpointTier.numbered_eq_append split
    have behind : 1 < number ↔ candidate ≠ requested := by
      rw [← makes]
      exact EndpointTier.behind_first_iff split (makes ▸ earlier)
    refine .inl ⟨endpointRequests method timeout before, ⟨method, candidate, timeout⟩,
      endpointRequests method timeout after, response,
      front.map fun other => (other.2.change requested, other.2.version), tier.version,
      back.map fun other => (other.2.change requested, other.2.version),
      { requested, resolvedPath := candidate, tier := number, version := tier.version,
        healed := 1 < number, status := response.status },
      ?_, unsettled, answered, ?_, ?_, List.forall_mem_map.2 earlier, ?_, rfl, rfl, ?_, rfl, rfl,
      decide_eq_true_iff, behind, ?_⟩
    · simp only [requests, paths]
      exact List.map_append
    · rw [made]
      exact List.map_append
    · rw [written, all, List.map_append, List.map_cons, List.map_map, List.map_map, makes]
      rfl
    · rw [made]
    · rw [numbered, List.length_map]
    · rw [made]
      rfl
  · rw [List.map_nil, fresh] at unsettled ends exhausted
    rw [exhausted] at made
    rcases ends with ⟨none_sent, _⟩ | ⟨before, request, e, split, failed, rfl⟩
    · rw [endpointRequests, List.map_cons, List.eraseDups_cons] at none_sent
      cases none_sent
    · refine .inr ⟨before, request, e, split, unsettled, failed, ?_, ?_, ?_⟩
      all_goals rw [made]
      · rfl
      · rfl
      · rfl

/-- A server that knows a resource by its plural only. -/
def widgetServer : Transport where
  send _ request :=
    if request.path = "/widgets" then .ok ⟨200⟩
    else .error (.network request.path "connection refused")

theorem resolveEndpoint_follows_tiers_widget (timeout : Option Nat) (now : Timestamp) :
    let run := resolveEndpoint widgetServer timeout now .get "/widget" ∅
    run.sent.map EndpointRequest.path =
        ["/widget", "/api/widget", "/v1/widget", "/v2/widget", "/widgets"] ∧
      run.result = .ok {
        requested := "/widget", resolvedPath := "/widgets", tier := 6, version := none,
        healed := true, status := 200 } ∧
      ∃ before request, run.sent = before ++ [request] ∧ request.path = "/widgets" ∧
        Unsettled widgetServer.Settles [] before := by
  refine ⟨rfl, rfl, ?_⟩
  obtain ⟨_, _, _, _, _, _, found | failed⟩ :=
    resolveEndpoint_follows_tiers widgetServer timeout now .get "/widget" ∅
  · obtain ⟨before, request, _, _, _, _, _, _, _, unsettled, _, sent, _, _, result, _, resolved, _⟩ :=
      found
    cases result
    exact ⟨before, request, sent, resolved.symm, unsettled⟩
  · obtain ⟨_, _, _, _, _, _, _, result, _⟩ := failed
    cases result

end TestImpact
