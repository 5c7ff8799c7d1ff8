import Mathlib.Data.List.Nodup
import TestImpact.Proofs.EndpointTiers
import TestImpact.Proofs.ImpactTags

/-! How many requests a look-up sends that gets no response, and which error it gives. The path and the
ones with a version in front differ from each other and, since they are longer by more than a plural
is, from the other two. These count as far as they change the path, and the plural is the only one of
the two that is longer than it. So at least four requests are sent, and there is a last error. -/

namespace TestImpact

/-! ## Slashes at the end -/

namespace WithoutTrailingSlashes

variable {path stripped : String} (h : WithoutTrailingSlashes path stripped) (some_char : path ≠ "")

include h some_char

theorem length_le : stripped.length ≤ path.length := by
  obtain ⟨kept, slashes, written, _, rest⟩ := h
  have some_char : 0 < path.length :=
    Nat.pos_of_ne_zero (mt String.length_eq_zero_iff.1 some_char)
  rw [← String.length_toList, ← String.length_toList, rest]
  rw [← String.length_toList] at some_char
  split
  · exact some_char
  · rw [written, List.length_append]
    exact Nat.le_add_right _ _

theorem eq_self_iff : stripped = path ↔ ¬ (path.toList.getLast? = some '/' ∧ path ≠ "/") := by
  obtain ⟨kept, slashes, written, inner, rest⟩ := h
  rw [← String.toList_inj, Ne, ← String.toList_inj, rest]
  rw [Ne, ← String.toList_inj] at some_char
  cases slashes with
  | zero =>
    rw [List.replicate_zero, List.append_nil] at written
    have some_kept : kept ≠ [] := by
      rw [← written]
      exact some_char
    rw [if_neg some_kept, written]
    exact iff_of_true rfl fun both => inner both.1
  | succ slashes =>
    have ends : path.toList.getLast? = some '/' := by
      rw [written, List.replicate_succ', ← List.append_assoc, List.getLast?_concat]
    rw [and_iff_right ends, not_not]
    by_cases none_kept : kept = []
    · rw [if_pos none_kept]
      exact eq_comm
    · rw [if_neg none_kept]
      have shorter : kept.length < path.toList.length := by
        rw [written, List.length_append, List.length_replicate]
        omega
      have several : path.toList.length ≠ 1 := by
        have := List.length_pos_iff.2 none_kept
        omega
      refine iff_of_false (fun same => ?_) fun root => several (congrArg List.length root)
      rw [same] at shorter
      exact Nat.lt_irrefl _ shorter

end WithoutTrailingSlashes

/-! ## The paths of all tiers -/

/-- The paths that the first four tiers make. -/
def versionedPaths (path : String) : List String :=
  [path, "/api" ++ path, "/v1" ++ path, "/v2" ++ path]

theorem nodup_versionedPaths (path : String) : (versionedPaths path).Nodup := by
  have differ : ["", "/api", "/v1", "/v2"].Nodup := by decide
  have made : versionedPaths path = ["", "/api", "/v1", "/v2"].map (· ++ path) := by
    rw [List.map_cons, String.empty_append]
    rfl
  rw [made]
  refine List.Nodup.map (fun front other same => ?_) differ
  have chars := congrArg String.toList same
  rw [String.toList_append, String.toList_append] at chars
  exact String.toList_inj.1 (List.append_cancel_right chars)

/-- A path that is not longer by three characters is no version of another one. -/
theorem mem_versionedPaths_iff {path other : String} (short : other.length ≤ path.length + 2) :
    other ∈ versionedPaths path ↔ other = path := by
  have behind (front : String) (long : 2 < front.length) : other ≠ front ++ path := by
    rintro rfl
    rw [String.length_append] at short
    omega
  simp only [versionedPaths, List.mem_cons, List.not_mem_nil, or_false,
    behind "/api" (by decide), behind "/v1" (by decide), behind "/v2" (by decide)]

/-- Every path that the tiers make, once: besides the versions the one without slashes at its end and the
plural, where they are not the path itself. -/
theorem eraseDups_tierPaths {path : String} (some_char : path ≠ "") :
    (EndpointTier.all.map fun tier => tier.change path).eraseDups =
      versionedPaths path ++
        (if stripTrailingSlashes path = path then [] else [stripTrailingSlashes path]) ++
        if pluralizeResource path = path then [] else [pluralizeResource path] := by
  have split : (EndpointTier.all.map fun tier => tier.change path) =
      versionedPaths path ++ [stripTrailingSlashes path] ++ [pluralizeResource path] := rfl
  have shorter := (withoutTrailingSlashes_strip path).length_le some_char
  have stripped : stripTrailingSlashes path ∈ versionedPaths path ↔ stripTrailingSlashes path = path :=
    mem_versionedPaths_iff (by omega)
  have plural : pluralizeResource path ∈ versionedPaths path ++ [stripTrailingSlashes path] ↔
      pluralizeResource path = path := by
    rw [List.mem_append, List.mem_singleton,
      mem_versionedPaths_iff (length_pluralizeResource_le path), or_iff_left_iff_imp]
    intro same
    by_contra changed
    have longer := length_lt_pluralizeResource changed
    rw [same] at longer
    omega
  rw [split, eraseDups_concat, eraseDups_concat, eraseDups_of_nodup (nodup_versionedPaths path)]
  simp only [stripped, plural]

/-- The path that is requested last if no request gets a response. -/
def lastPath (path : String) : String :=
  if pluralizeResource path ≠ path then pluralizeResource path
  else if stripTrailingSlashes path ≠ path then stripTrailingSlashes path
  else "/v2" ++ path

/-- How many paths there are to request. -/
def tierCount (path : String) : Nat :=
  4 + (if path.toList.getLast? = some '/' ∧ path ≠ "/" then 1 else 0) +
    if pluralizeResource path ≠ path then 1 else 0

theorem exists_tierPaths_eq_concat {path : String} (some_char : path ≠ "") :
    ∃ front, (EndpointTier.all.map fun tier => tier.change path).eraseDups = front ++ [lastPath path] ∧
      front.length + 1 = tierCount path := by
  have stripped := (withoutTrailingSlashes_strip path).eq_self_iff some_char
  rw [eraseDups_tierPaths some_char, lastPath, tierCount]
  by_cases changed : pluralizeResource path = path
  · by_cases closed : stripTrailingSlashes path = path
    · rw [if_pos changed, if_pos closed, if_neg (not_not.2 changed), if_neg (not_not.2 closed),
        if_neg (stripped.1 closed), if_neg (not_not.2 changed)]
      exact ⟨[path, "/api" ++ path, "/v1" ++ path], rfl, rfl⟩
    · rw [if_pos changed, if_neg closed, if_neg (not_not.2 changed), if_pos closed,
        if_pos (not_not.1 (mt stripped.2 closed)), if_neg (not_not.2 changed)]
      exact ⟨versionedPaths path, List.append_nil _, rfl⟩
  · rw [if_neg changed, if_pos changed, if_pos changed]
    refine ⟨_, rfl, ?_⟩
    by_cases closed : stripTrailingSlashes path = path
    · rw [if_pos closed, if_neg (stripped.1 closed)]
      rfl
    · rw [if_neg closed, if_pos (not_not.1 (mt stripped.2 closed))]
      rfl

/-! ## Looking up -/

theorem normalizePath_ne_empty (path : String) : normalizePath path ≠ "" := by
  rw [normalizePath]
  split
  · next rooted =>
    rintro rfl
    cases rooted
  · intro none
    have length := congrArg String.length none
    rw [String.length_append] at length
    simp at length

/-- Without any response every path is requested, and the error of the last request is kept. -/
theorem seekEndpoint_of_down {transport : Transport} {path last : String} {front : List String}
    (method : HttpMethod) (timeout : Option Nat)
    (down : ∀ earlier request, ¬ transport.Settles earlier request)
    (paths : (EndpointTier.all.map fun tier => tier.change path).eraseDups = front ++ [last]) :
    ∃ source,
      transport.send (endpointRequests method timeout front) ⟨method, last, timeout⟩ =
        .error source ∧
      seekEndpoint transport method timeout path [] none EndpointTier.numbered =
        (endpointRequests method timeout front ++ [⟨method, last, timeout⟩], .exhausted (some source)) := by
  cases seekEndpoint_spec transport method timeout path [] none EndpointTier.numbered with
  | found _ _ _ _ _ _ _ response _ _ answered _ _ _ _ =>
    exact (down _ _ ⟨response, answered⟩).elim
  | exhausted requests final fresh _ ends stops =>
    rw [List.map_nil, EndpointTier.freshPaths_numbered, paths, endpointRequests, List.map_append] at fresh
    cases ends with
    | inl none_sent =>
      rw [none_sent.1] at fresh
      exact absurd fresh.symm (List.append_ne_nil_of_right_ne_nil _ (List.cons_ne_nil _ _))
    | inr some_sent =>
      obtain ⟨before, request, source, split, failed, rfl⟩ := some_sent
      rw [split] at fresh
      obtain ⟨rfl, same⟩ := List.append_inj' fresh rfl
      obtain ⟨rfl, _⟩ := List.cons.inj same
      exact ⟨source, failed, by rw [stops, split]; rfl⟩

/-- **An endpoint that nothing answers for is given up after four to six requests.** With `p` the path
from the root, there are four, one more if `p` ends in a slash and is not the root, and one more if it
is not its own plural; the error counts them, and tells how the last one failed. This one is for the
plural of `p`, or for `p` without the slashes at its end, or for its second version. -/
theorem resolveEndpoint_exhausted (transport : Transport) (timeout : Option Nat) (now : Timestamp)
    (method : HttpMethod) (path : String) (ledger : HealingLedger)
    (down : ∀ earlier request, ¬ transport.Settles earlier request) :
    let p := normalizePath path
    let run := resolveEndpoint transport timeout now method path ledger
    4 ≤ tierCount p ∧ tierCount p ≤ 6 ∧ WithoutTrailingSlashes p (stripTrailingSlashes p) ∧
      ∃ before source,
        run.sent = before ++ [⟨method, lastPath p, timeout⟩] ∧ run.sent.length = tierCount p ∧
        transport.send before ⟨method, lastPath p, timeout⟩ = .error source ∧
        (seekEndpoint transport method timeout p [] none EndpointTier.numbered).2 =
          .exhausted (some source) ∧
        run.result = .error (.endpointUnresolved p (tierCount p) source) := by
  intro p run
  have made : run = resolveEndpoint transport timeout now method path ledger := rfl
  have few : 4 ≤ tierCount p ∧ tierCount p ≤ 6 := by
    rw [tierCount]
    split <;> split <;> decide
  obtain ⟨front, paths, length⟩ := exists_tierPaths_eq_concat (normalizePath_ne_empty path)
  obtain ⟨source, failed, exhausted⟩ :=
    seekEndpoint_of_down method timeout down paths
  have number (request : EndpointRequest) :
      (endpointRequests method timeout front ++ [request]).length = tierCount p := by
    rw [List.length_append, endpointRequests, List.length_map]
    exact length
  rw [resolveEndpoint, exhausted] at made
  refine ⟨few.1, few.2, withoutTrailingSlashes_strip p, endpointRequests method timeout front, source,
    ?_, ?_, failed, ?_, ?_⟩
  · rw [made]
  · rw [made]
    exact number _
  · rw [exhausted]
  · rw [made, ← number ⟨method, lastPath p, timeout⟩]
    rfl

/-- A server that takes no connection. -/
def closedServer : Transport where
  send _ request := .error (.network request.path "connection refused")

theorem resolveEndpoint_exhausted_categories :
    (∀ earlier request, ¬ closedServer.Settles earlier request) ∧
      ∀ timeout now ledger,
        (resolveEndpoint closedServer timeout now .get "category/:id/" ledger).result =
          .error (.endpointUnresolved "/category/:id/" 6
            (.network "/categories/:id/" "connection refused")) := by
  have down : ∀ earlier request, ¬ closedServer.Settles earlier request := by
    intro earlier request settled
    obtain ⟨_, answered⟩ := settled
    cases answered
  have tiers : tierCount "/category/:id/" = 6 := by decide +kernel
  have last : lastPath "/category/:id/" = "/categories/:id/" := by decide +kernel
  refine ⟨down, fun timeout now ledger => ?_⟩
  obtain ⟨_, _, _, before, source, _, _, failed, _, result⟩ :=
    resolveEndpoint_exhausted closedServer timeout now .get "category/:id/" ledger down
  have rooted : normalizePath "category/:id/" = "/category/:id/" := by decide +kernel
  rw [rooted, last] at failed
  rw [rooted, tiers] at result
  cases failed
  exact result

end TestImpact
