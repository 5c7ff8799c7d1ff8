import Mathlib.Algebra.GroupWithZero.Nat
import Mathlib.Logic.Relation
import TestImpact.Healing.Batch
import TestImpact.Proofs.LedgerStats
import TestImpact.Proofs.Pool
import TestImpact.Proofs.Tiers

/-! Looking targets up by several workers at once. Workers take targets from one queue, put their
queries and requests, and record their attempts in one ledger, each at a time of its own; what they
do between two steps of one of them is left open. Answers depend on the question alone, so that a
worker, whatever it has done already, has a certain report and certain attempts still to give. These
debts and what was given add up to the run in order, in every state. -/

namespace TestImpact

/-- A page that answers a query in the same way whatever was asked before. -/
def Surface.steady (find : ElementQuery → Except SurfaceError (List ElementHandle)) : Surface :=
  ⟨fun _ query => find query⟩

def Transport.steady (send : EndpointRequest → Except TransportError EndpointResponse) : Transport :=
  ⟨fun _ request => send request⟩

theorem Surface.settles_steady {find : ElementQuery → Except SurfaceError (List ElementHandle)}
    {earlier : List ElementQuery} {query : ElementQuery} :
    (steady find).Settles earlier query ↔ ∃ handle, find query = .ok [handle] := .rfl

/-- What a steady page was asked before does not matter for what is found. -/
theorem seekElement_steady (find : ElementQuery → Except SurfaceError (List ElementHandle))
    (timeout : Option Nat) (left : List (UInt8 × Locator)) (asked earlier : List ElementQuery) :
    (seekElement (.steady find) timeout asked left).2 =
      (seekElement (.steady find) timeout earlier left).2 := by
  induction left generalizing asked earlier with
  | nil => rfl
  | cons candidate left ih =>
    obtain ⟨tier, locator⟩ := candidate
    by_cases settled : ∃ handle, find ⟨locator, timeout⟩ = .ok [handle]
    · obtain ⟨handle, answered⟩ := settled
      rw [seekElement_of_settled answered, seekElement_of_settled answered]
    · have missed (asked : List ElementQuery) :
          ¬ (Surface.steady find).Settles asked ⟨locator, timeout⟩ :=
        mt Surface.settles_steady.1 settled
      rw [seekElement_of_not_settled (missed asked), seekElement_of_not_settled (missed earlier)]
      exact ih _ _

/-- Collaborators whose answers depend on the question alone. -/
structure SteadyCollaborators where
  find : Option (ElementQuery → Except SurfaceError (List ElementHandle)) := none
  send : Option (EndpointRequest → Except TransportError EndpointResponse) := none

def SteadyCollaborators.collaborators (c : SteadyCollaborators) : Collaborators where
  surface := c.find.map .steady
  transport := c.send.map .steady

theorem SteadyCollaborators.collaborators_surface (c : SteadyCollaborators) :
    c.collaborators.surface = c.find.map .steady := rfl

theorem SteadyCollaborators.collaborators_transport (c : SteadyCollaborators) :
    c.collaborators.transport = c.send.map .steady := rfl

/-- The attempt as it would be at another time. -/
def HealingAttempt.dated (a : HealingAttempt) (now : Timestamp) : HealingAttempt :=
  { a with timestamp := now }

namespace Batch

/-! ## Workers -/

/-- How far a worker is with its target. -/
inductive Work where
  | taken
  | element (find : ElementQuery → Except SurfaceError (List ElementHandle))
      (descriptor : SelectorDescriptor) (left : List (UInt8 × Locator))
  | endpoint (send : EndpointRequest → Except TransportError EndpointResponse)
      (method : HttpMethod) (path : String) (sent : List EndpointRequest)
      (last : Option TransportError) (left : List (UInt8 × EndpointTier))
  /-- The look-up is over, and its attempt is not yet in the ledger. -/
  | settled (attempt : HealingAttempt) (outcome : TargetOutcome)
  | finished (outcome : TargetOutcome)

namespace Work

/-- What a worker does with a target that it took. -/
def begin (c : SteadyCollaborators) (t : TestTarget) : Work :=
  match t.kind with
  | .visual => .finished (.notTested "visual comparison is not resolved")
  | .ui =>
    match c.find, t.selectors with
    | some find, some selectors => .element find selectors (elementCandidates selectors)
    | _, _ => .finished (.notTested "no UI surface or selectors")
  | .api =>
    match c.send, t.endpoint with
    | some send, some path =>
      .endpoint send (t.method.getD .get) (normalizePath path) [] none EndpointTier.numbered
    | _, _ => .finished (.notTested "no transport or endpoint")

/-- The next step that a worker makes by itself at a time: a query, a request, or the end of its
look-up. -/
def next? (c : SteadyCollaborators) (timeout : Option Nat) (now : Timestamp) (t : TestTarget) :
    Work → Option Work
  | taken => some (begin c t)
  | element _ descriptor [] =>
    some (.settled (.make (.selectors descriptor) .failed now)
      (.failed (ResolveError.elementNotFound descriptor).message))
  | element find descriptor ((tier, locator) :: left) =>
    match find ⟨locator, timeout⟩ with
    | .ok [_] => some (.settled (.make (.selectors descriptor) (.tier tier) now) (.ofTier tier))
    | _ => some (.element find descriptor left)
  | endpoint _ _ path sent last [] =>
    let source := last.getD (.network path "no request issued")
    some (.settled (.make (.endpoint path) .failed now)
      (.failed (ResolveError.endpointUnresolved path sent.length source).message))
  | endpoint send method path sent last ((number, tier) :: left) =>
    let candidate := tier.change path
    if sent.any (·.path == candidate) then some (.endpoint send method path sent last left)
    else
      let request : EndpointRequest := ⟨method, candidate, timeout⟩
      match send request with
      | .ok _ => some (.settled (.make (.endpoint path) (.tier number) now) (.ofTier number))
      | .error e => some (.endpoint send method path (sent ++ [request]) (some e) left)
  | settled _ _ => none
  | finished _ => none

end Work

/-- What the workers share, and what each of them holds. -/
structure State where
  queue : List (Nat × TestTarget)
  held : List (Option (Nat × TestTarget × Work))
  delivered : List (Nat × TargetReport)
  ledger : HealingLedger

def reportOf (t : TestTarget) (outcome : TargetOutcome) : TargetReport :=
  { id := t.id, name := t.name, kind := t.kind, outcome }

/-- One step of one worker. -/
inductive Step (c : SteadyCollaborators) (timeout : Option Nat) : State → State → Prop where
  /-- A free worker takes the next target. -/
  | take (number : Nat) (t : TestTarget) (queue before after delivered ledger) :
    Step c timeout ⟨(number, t) :: queue, before ++ none :: after, delivered, ledger⟩
      ⟨queue, before ++ some (number, t, .taken) :: after, delivered, ledger⟩
  /-- A worker goes on with its look-up. -/
  | work (now : Timestamp) (number : Nat) (t : TestTarget) {work next : Work}
      (goes : work.next? c timeout now t = some next) (queue before after delivered ledger) :
    Step c timeout ⟨queue, before ++ some (number, t, work) :: after, delivered, ledger⟩
      ⟨queue, before ++ some (number, t, next) :: after, delivered, ledger⟩
  /-- A worker records its attempt. -/
  | record (number : Nat) (t : TestTarget) (attempt : HealingAttempt) (outcome : TargetOutcome)
      (queue before after delivered ledger) :
    Step c timeout
      ⟨queue, before ++ some (number, t, .settled attempt outcome) :: after, delivered, ledger⟩
      ⟨queue, before ++ some (number, t, .finished outcome) :: after, delivered,
        ledger.record attempt⟩
  /-- A worker delivers its report and is free again. -/
  | deliver (number : Nat) (t : TestTarget) (outcome : TargetOutcome)
      (queue before after delivered ledger) :
    Step c timeout
      ⟨queue, before ++ some (number, t, .finished outcome) :: after, delivered, ledger⟩
      ⟨queue, before ++ none :: after, delivered ++ [(number, reportOf t outcome)], ledger⟩

def start (targets : List TestTarget) (workers : Nat) (ledger : HealingLedger) : State :=
  ⟨Pool.jobs targets, List.replicate (Pool.workerCount targets.length workers) none, [], ledger⟩

def State.isDone (s : State) : Bool :=
  s.queue.isEmpty && s.held.all Option.isNone

/-! ## Schedules end -/

namespace Work

/-- How many steps a worker that has begun makes at most until it is free again. -/
def stepsBegun : Work → Nat
  | taken => 0
  | element _ _ left => left.length + 3
  | endpoint _ _ _ _ _ left => left.length + 3
  | settled _ _ => 2
  | finished _ => 1

def stepsLeft (c : SteadyCollaborators) (t : TestTarget) : Work → Nat
  | taken => (begin c t).stepsBegun + 1
  | work => work.stepsBegun

theorem stepsLeft_begin (c : SteadyCollaborators) (t : TestTarget) :
    (begin c t).stepsLeft c t = (begin c t).stepsBegun := by
  rw [begin]
  split
  · rfl
  all_goals
    split
    · rfl
    · rfl

theorem stepsLeft_next? {c : SteadyCollaborators} {timeout : Option Nat} {now : Timestamp}
    {t : TestTarget} {work next : Work} (goes : work.next? c timeout now t = some next) :
    next.stepsLeft c t < work.stepsLeft c t := by
  revert goes
  fun_cases next? c timeout now t work with
  | case1 =>
    rintro ⟨⟩
    rw [stepsLeft_begin]
    exact Nat.lt_succ_self _
  | case2 | case3 | case4 | case5 | case6 | case7 | case8 =>
    rintro ⟨⟩
    simp [stepsLeft, stepsBegun]
  | case9 | case10 => nofun

/-- A worker that has nothing to do by itself has an attempt to record or a report to deliver. -/
theorem next?_eq_none {c : SteadyCollaborators} {timeout : Option Nat} {now : Timestamp}
    {t : TestTarget} {work : Work} (stays : work.next? c timeout now t = none) :
    (∃ attempt outcome, work = .settled attempt outcome) ∨ ∃ outcome, work = .finished outcome := by
  revert stays
  fun_cases next? c timeout now t work with
  | case1 | case2 | case3 | case4 | case5 | case6 | case7 | case8 => nofun
  | case9 attempt outcome => exact fun _ => .inl ⟨attempt, outcome, rfl⟩
  | case10 outcome => exact fun _ => .inr ⟨outcome, rfl⟩

end Work

/-- How many steps there are at most until all workers stop. -/
def State.stepsLeft (c : SteadyCollaborators) (s : State) : Nat :=
  (s.queue.map fun job => Work.taken.stepsLeft c job.2 + 1).sum +
    (s.held.map fun
      | none => 0
      | some (_, t, work) => work.stepsLeft c t).sum

variable {c : SteadyCollaborators} {timeout : Option Nat}

theorem Step.stepsLeft_lt {s next : State} (step : Step c timeout s next) :
    next.stepsLeft c < s.stepsLeft c := by
  cases step with
  | take number t queue before after =>
    simp only [State.stepsLeft, List.map_cons, List.map_append, List.sum_cons, List.sum_append]
    omega
  | work now number t goes queue before after =>
    have less := Work.stepsLeft_next? goes
    simp only [State.stepsLeft, List.map_cons, List.map_append, List.sum_cons, List.sum_append]
    omega
  | record number t attempt outcome queue before after =>
    simp [State.stepsLeft, Work.stepsLeft, Work.stepsBegun]
  | deliver number t outcome queue before after =>
    simp [State.stepsLeft, Work.stepsLeft, Work.stepsBegun]

/-- No schedule goes on for ever. -/
theorem step_wellFounded (c : SteadyCollaborators) (timeout : Option Nat) :
    WellFounded fun next s => Step c timeout s next :=
  Subrelation.wf Step.stepsLeft_lt (InvImage.wf (State.stepsLeft c) Nat.lt_wfRel.wf)

theorem State.isDone_iff {s : State} :
    s.isDone = true ↔ s.queue = [] ∧ ∀ held ∈ s.held, held = none := by
  simp [State.isDone]

theorem not_step_of_isDone {s : State} (done : s.isDone = true) (next : State) :
    ¬ Step c timeout s next := by
  obtain ⟨queue, held⟩ := State.isDone_iff.1 done
  intro step
  cases step with
  | take => cases queue
  | work | record | deliver => cases held _ (List.mem_append_right _ (.head _))

/-- Workers that stop have nothing left to do. -/
theorem isDone_of_stopped {s : State} (workers : s.held ≠ [])
    (stopped : ∀ next, ¬ Step c timeout s next) (now : Timestamp) : s.isDone = true := by
  obtain ⟨queue, held, delivered, ledger⟩ := s
  have free : ∀ work ∈ held, work = none := by
    intro work member
    obtain ⟨before, after, rfl⟩ := List.append_of_mem member
    cases work with
    | none => rfl
    | some job =>
      obtain ⟨number, t, work⟩ := job
      cases goes : work.next? c timeout now t with
      | some next => exact absurd (.work now number t goes ..) (stopped _)
      | none =>
        rcases Work.next?_eq_none goes with ⟨attempt, outcome, rfl⟩ | ⟨outcome, rfl⟩
        · exact absurd (.record number t attempt outcome ..) (stopped _)
        · exact absurd (.deliver number t outcome ..) (stopped _)
  refine State.isDone_iff.2 ⟨?_, free⟩
  cases queue with
  | nil => rfl
  | cons job queue =>
    obtain ⟨first, rest, rfl⟩ := List.exists_cons_of_ne_nil workers
    obtain rfl := free first (.head _)
    exact absurd (.take job.1 job.2 queue [] rest delivered ledger) (stopped _)

/-! ## What is still to come -/

/-- What a worker will report, and what it will record from here on. -/
structure Promise where
  outcome : TargetOutcome
  attempts : List HealingAttempt

namespace Promise

def ofRun (run : TargetRun) : Promise := ⟨run.outcome, run.attempts⟩

def ofElement (now : Timestamp) (d : SelectorDescriptor) : Option ResolvedElement → Promise
  | some element => ⟨.ofTier element.tier, [.make (.selectors d) (.tier element.tier) now]⟩
  | none => ⟨.failed (ResolveError.elementNotFound d).message, [.make (.selectors d) .failed now]⟩

def ofEndpoint (now : Timestamp) (path : String) :
    List EndpointRequest × EndpointFinding → Promise
  | (_, .found tier _ _ _) => ⟨.ofTier tier, [.make (.endpoint path) (.tier tier) now]⟩
  | (sent, .exhausted last) =>
    let source := last.getD (.network path "no request issued")
    ⟨.failed (ResolveError.endpointUnresolved path sent.length source).message,
      [.make (.endpoint path) .failed now]⟩

end Promise

theorem resolveTarget_ui {c : SteadyCollaborators} {t : TestTarget}
    {find : ElementQuery → Except SurfaceError (List ElementHandle)} {d : SelectorDescriptor}
    (kind : t.kind = .ui) (given : c.find = some find) (selectors : t.selectors = some d)
    (timeout : Option Nat) (now : Timestamp) :
    Promise.ofRun (resolveTarget c.collaborators timeout now t) =
      .ofElement now d (seekElement (.steady find) timeout [] (elementCandidates d)).2 := by
  have surface : c.collaborators.surface = some (.steady find) := by
    rw [c.collaborators_surface, given, Option.map_some]
  simp only [resolveTarget, kind, surface, selectors, resolveElement, Promise.ofRun]
  cases (seekElement (.steady find) timeout [] (elementCandidates d)).2 with
  | some element => rfl
  | none => rfl

theorem resolveTarget_api {c : SteadyCollaborators} {t : TestTarget}
    {send : EndpointRequest → Except TransportError EndpointResponse} {path : String}
    (kind : t.kind = .api) (given : c.send = some send) (endpoint : t.endpoint = some path)
    (timeout : Option Nat) (now : Timestamp) :
    Promise.ofRun (resolveTarget c.collaborators timeout now t) =
      .ofEndpoint now (normalizePath path)
        (seekEndpoint (.steady send) (t.method.getD .get) timeout
          (normalizePath path) [] none EndpointTier.numbered) := by
  have transport : c.collaborators.transport = some (.steady send) := by
    rw [c.collaborators_transport, given, Option.map_some]
  simp only [resolveTarget, kind, transport, endpoint, resolveEndpoint, Promise.ofRun]
  generalize seekEndpoint _ _ _ _ _ _ _ = finding
  obtain ⟨sent, finding⟩ := finding
  cases finding with
  | found tier version path response => rfl
  | exhausted last => rfl

namespace Work

/-- What is to come from a worker, with all times put to one. -/
def promise (c : SteadyCollaborators) (timeout : Option Nat) (now : Timestamp) (t : TestTarget) :
    Work → Promise
  | taken => .ofRun (resolveTarget c.collaborators timeout now t)
  | element find d left => .ofElement now d (seekElement (.steady find) timeout [] left).2
  | endpoint send method path sent last left =>
    .ofEndpoint now path
      (seekEndpoint (.steady send) method timeout path sent last left)
  | settled attempt outcome => ⟨outcome, [attempt.dated now]⟩
  | finished outcome => ⟨outcome, []⟩

theorem promise_begin (c : SteadyCollaborators) (timeout : Option Nat) (now : Timestamp)
    (t : TestTarget) :
    (begin c t).promise c timeout now t = taken.promise c timeout now t := by
  rw [begin]
  split
  next kind => simp only [promise, Promise.ofRun, resolveTarget, kind]
  next kind =>
    split
    next find d given selectors => exact (resolveTarget_ui kind given selectors timeout now).symm
    next missing =>
      cases given : c.find with
      | none => simp [promise, Promise.ofRun, resolveTarget, kind, c.collaborators_surface, given]
      | some find =>
        cases selectors : t.selectors with
        | none => simp [promise, Promise.ofRun, resolveTarget, kind, selectors]
        | some d => exact absurd selectors (missing find d given)
  next kind =>
    split
    next send path given endpoint => exact (resolveTarget_api kind given endpoint timeout now).symm
    next missing =>
      cases given : c.send with
      | none => simp [promise, Promise.ofRun, resolveTarget, kind, c.collaborators_transport, given]
      | some send =>
        cases endpoint : t.endpoint with
        | none => simp [promise, Promise.ofRun, resolveTarget, kind, endpoint]
        | some path => exact absurd endpoint (missing send path given)

/-- A worker that goes on keeps what is to come from it. -/
theorem promise_next? {c : SteadyCollaborators} {timeout : Option Nat} {made : Timestamp}
    {t : TestTarget} {work next : Work} (goes : work.next? c timeout made t = some next)
    (now : Timestamp) : next.promise c timeout now t = work.promise c timeout now t := by
  revert goes
  fun_cases next? c timeout made t work with
  | case1 =>
    rintro ⟨⟩
    exact promise_begin c timeout now t
  | case2 find d =>
    rintro ⟨⟩
    rfl
  | case3 find d tier locator left handle answered =>
    rintro ⟨⟩
    rw [promise, promise, seekElement_of_settled answered]
    rfl
  | case4 find d tier locator left missed =>
    rintro ⟨⟩
    have unsettled : ¬ (Surface.steady find).Settles [] ⟨locator, timeout⟩ :=
      mt Surface.settles_steady.1 (not_exists.2 missed)
    rw [promise, promise, seekElement_of_not_settled unsettled]
    exact congrArg _ (seekElement_steady find timeout left _ _)
  | case5 send method path sent last source =>
    rintro ⟨⟩
    rfl
  | case6 send method path sent last number tier left candidate old =>
    rintro ⟨⟩
    rw [promise, promise, seekEndpoint, if_pos old]
  | case7 send method path sent last number tier left candidate new request response answered =>
    rintro ⟨⟩
    have found : seekEndpoint (.steady send) method timeout path sent last ((number, tier) :: left) =
        (sent ++ [request], .found number tier.version candidate response) := by
      rw [seekEndpoint, if_neg new]
      simp only [Transport.steady, answered, request, candidate]
    rw [promise, promise, found]
    rfl
  | case8 send method path sent last number tier left candidate new request e answered =>
    rintro ⟨⟩
    have later : seekEndpoint (.steady send) method timeout path sent last ((number, tier) :: left) =
        seekEndpoint (.steady send) method timeout path (sent ++ [request]) (some e) left := by
      rw [seekEndpoint, if_neg new]
      simp only [Transport.steady, answered, request, candidate]
    rw [promise, promise, later]
  | case9 | case10 =>
    intro stays
    cases stays

end Work

end Batch

end TestImpact
