import Mathlib.Algebra.GroupWithZero.Nat
import Mathlib.Logic.Relation
import TestImpact.Proofs.Pool

/-! Schedules of a pool. Between two steps every job is in one place: in the queue, with a worker,
or behind; and every result that is there answers a job that was given to the function. So when the
workers stop, each job was given once and its result delivered once under its number, whatever the
order of the steps. -/

namespace TestImpact.Pool

variable {α β : Type} {f : α → β}

/-! ## Schedules -/

/-- Steps of the workers one after another, with the jobs that they give to the function, in the
order in which they are given. -/
inductive Schedule (f : α → β) (s : State α β) : List (Nat × α) → State α β → Prop where
  | refl : Schedule f s [] s
  | take (before after) {given : List (Nat × α)} {job : Nat × α} {queue delivered}
      (run : Schedule f s given ⟨job :: queue, before ++ none :: after, delivered⟩) :
    Schedule f s given ⟨queue, before ++ some (job.1, .inl job.2) :: after, delivered⟩
  | compute (before after) {given : List (Nat × α)} {number : Nat} {item : α} {queue delivered}
      (run : Schedule f s given ⟨queue, before ++ some (number, .inl item) :: after, delivered⟩) :
    Schedule f s (given ++ [(number, item)])
      ⟨queue, before ++ some (number, .inr (f item)) :: after, delivered⟩
  | deliver (before after) {given : List (Nat × α)} {number : Nat} {result : β} {queue delivered}
      (run : Schedule f s given ⟨queue, before ++ some (number, .inr result) :: after, delivered⟩) :
    Schedule f s given ⟨queue, before ++ none :: after, delivered ++ [(number, result)]⟩

/-- The schedules are the runs of the workers. -/
theorem exists_schedule_iff {s last : State α β} :
    (∃ given, Schedule f s given last) ↔ Relation.ReflTransGen (Step f) s last := by
  constructor
  · rintro ⟨given, run⟩
    induction run with
    | refl => exact .refl
    | take before after _ ih => exact ih.tail (.take ..)
    | compute before after _ ih => exact ih.tail (.compute ..)
    | deliver before after _ ih => exact ih.tail (.deliver ..)
  · intro run
    induction run with
    | refl => exact ⟨[], .refl⟩
    | tail _ step ih =>
      obtain ⟨given, run⟩ := ih
      cases step with
      | take job queue before after => exact ⟨given, run.take before after⟩
      | compute number item queue before after => exact ⟨_, run.compute before after⟩
      | deliver number result queue before after => exact ⟨given, run.deliver before after⟩

/-! ## Where jobs and results are -/

/-- The jobs that were not given to the function yet. -/
def State.waiting (s : State α β) : List (Nat × α) :=
  s.held.filterMap (fun
    | some (number, .inl item) => some (number, item)
    | _ => none) ++ s.queue

/-- The results that are there, delivered or not. -/
def State.finished (s : State α β) : List (Nat × β) :=
  s.held.filterMap (fun
    | some (number, .inr result) => some (number, result)
    | _ => none) ++ s.delivered

section

variable {queue : List (Nat × α)} {before after : List (Option (Nat × (α ⊕ β)))}
  {delivered : List (Nat × β)} {number : Nat}

theorem waiting_queue {held : List (Option (Nat × (α ⊕ β)))} {job : Nat × α} :
    (State.waiting ⟨job :: queue, held, delivered⟩).Perm
      (job :: State.waiting ⟨queue, held, delivered⟩) :=
  List.perm_middle

theorem waiting_job {item : α} :
    (State.waiting ⟨queue, before ++ some (number, .inl item) :: after, delivered⟩).Perm
      ((number, item) :: State.waiting ⟨queue, before ++ none :: after, delivered⟩) := by
  simp only [State.waiting, List.filterMap_append, List.filterMap_cons, List.append_assoc]
  exact List.perm_middle

theorem waiting_result {result : β} :
    State.waiting ⟨queue, before ++ some (number, .inr result) :: after, delivered⟩ =
      State.waiting ⟨queue, before ++ none :: after, delivered⟩ := by
  simp only [State.waiting, List.filterMap_append, List.filterMap_cons]

theorem finished_job {item : α} :
    State.finished ⟨queue, before ++ some (number, .inl item) :: after, delivered⟩ =
      State.finished ⟨queue, before ++ none :: after, delivered⟩ := by
  simp only [State.finished, List.filterMap_append, List.filterMap_cons]

theorem finished_result {result : β} :
    (State.finished ⟨queue, before ++ some (number, .inr result) :: after, delivered⟩).Perm
      ((number, result) :: State.finished ⟨queue, before ++ none :: after, delivered⟩) := by
  simp only [State.finished, List.filterMap_append, List.filterMap_cons, List.append_assoc]
  exact List.perm_middle

theorem finished_delivered {held : List (Option (Nat × (α ⊕ β)))} {result : β} :
    (State.finished ⟨queue, held, delivered ++ [(number, result)]⟩).Perm
      ((number, result) :: State.finished ⟨queue, held, delivered⟩) := by
  rw [State.finished, ← List.append_assoc]
  exact List.perm_append_singleton ..

end

/-- Every job was given or waits, and the results are those of the jobs that were given. -/
structure Accounted (f : α → β) (all given : List (Nat × α)) (s : State α β) : Prop where
  jobs : (given ++ s.waiting).Perm all
  results : s.finished.Perm (answered f given)

theorem accounted_start (f : α → β) (items : List α) (workers : Nat) :
    Accounted f (jobs items) [] (start items workers) where
  jobs := by simp [State.waiting, start]
  results := by simp [State.finished, start, answered]

/-- No step loses or doubles a job or a result. -/
theorem Schedule.accounted {s last : State α β} {all given : List (Nat × α)}
    (run : Schedule f s given last) (begin : Accounted f all [] s) : Accounted f all given last := by
  induction run with
  | refl => exact begin
  | @take before after given job queue delivered _ ih =>
    constructor
    · exact ((waiting_job.trans waiting_queue.symm).append_left given).trans ih.jobs
    · rw [finished_job]
      exact ih.results
  | @compute before after given number item queue delivered _ ih =>
    constructor
    · rw [waiting_result, List.append_assoc]
      exact (waiting_job.symm.append_left _).trans ih.jobs
    · have results : (State.finished ⟨queue, before ++ none :: after, delivered⟩).Perm
          (answered f given) := finished_job ▸ ih.results
      rw [answered, List.map_append]
      exact finished_result.trans ((results.cons _).trans (List.perm_append_singleton ..).symm)
  | @deliver before after given number result queue delivered _ ih =>
    constructor
    · have jobs := ih.jobs
      rwa [waiting_result] at jobs
    · exact (finished_delivered.trans finished_result.symm).trans ih.results

/-! ## Workers that stop -/

theorem State.isDone_iff {s : State α β} :
    s.isDone = true ↔ s.queue = [] ∧ ∀ held ∈ s.held, held = none := by
  simp [State.isDone]

/-- How many steps are left until all workers stop. -/
def State.stepsLeft (s : State α β) : Nat :=
  3 * s.queue.length + (s.held.map fun
    | none => 0
    | some (_, .inl _) => 2
    | some (_, .inr _) => 1).sum

theorem Step.stepsLeft_lt {s next : State α β} (step : Step f s next) :
    next.stepsLeft < s.stepsLeft := by
  cases step with
  | take | compute | deliver =>
    simp only [State.stepsLeft, List.length_cons, List.map_append, List.map_cons, List.sum_append,
      List.sum_cons]
    omega

/-- No schedule goes on for ever. -/
theorem step_wellFounded (f : α → β) : WellFounded fun next s => Step f s next :=
  Subrelation.wf Step.stepsLeft_lt (InvImage.wf State.stepsLeft Nat.lt_wfRel.wf)

theorem not_step_of_isDone {s : State α β} (done : s.isDone = true) (next : State α β) :
    ¬ Step f s next := by
  obtain ⟨queue, held⟩ := State.isDone_iff.1 done
  intro step
  cases step with
  | take => cases queue
  | compute | deliver => cases held _ (List.mem_append_right _ (.head _))

/-- Workers stop only when nothing is left to do. -/
theorem isDone_of_stopped {s : State α β} (workers : s.held ≠ [])
    (stopped : ∀ next, ¬ Step f s next) : s.isDone = true := by
  obtain ⟨queue, held, delivered⟩ := s
  have free : ∀ work ∈ held, work = none := by
    intro work member
    obtain ⟨before, after, rfl⟩ := List.append_of_mem member
    rcases work with _ | ⟨number, item | result⟩
    · rfl
    · exact absurd (.compute ..) (stopped _)
    · exact absurd (.deliver ..) (stopped _)
  refine State.isDone_iff.2 ⟨?_, free⟩
  cases queue with
  | nil => rfl
  | cons job queue =>
    obtain ⟨first, rest, rfl⟩ := List.exists_cons_of_ne_nil workers
    obtain rfl := free first (.head _)
    exact absurd (.take job queue [] rest delivered) (stopped _)

theorem Schedule.held_ne_nil {s last : State α β} {given : List (Nat × α)}
    (run : Schedule f s given last) (workers : s.held ≠ []) : last.held ≠ [] := by
  cases run with
  | refl => exact workers
  | take | compute | deliver => simp

theorem waiting_of_isDone {s : State α β} (done : s.isDone = true) : s.waiting = [] := by
  obtain ⟨queue, held⟩ := State.isDone_iff.1 done
  rw [State.waiting, queue, List.append_nil]
  exact List.filterMap_eq_nil_iff.2 fun work member => by rw [held work member]

theorem finished_of_isDone {s : State α β} (done : s.isDone = true) : s.finished = s.delivered := by
  obtain ⟨-, held⟩ := State.isDone_iff.1 done
  rw [State.finished, List.filterMap_eq_nil_iff.2 fun work member => by rw [held work member]]
  rfl

/-- **Work on a list in parallel gives the results in order, whatever the schedule.** No schedule
goes on for ever, and on the way no job is given twice and no result is lost, doubled or under
another number. When no worker can go on there is nothing left to do: every job was given to the
function once, every result delivered once, and put into slots the results are those of the items in
their order, as a single worker gives them. -/
theorem collect_of_schedule (f : α → β) (items : List α) (workers : Nat) {given : List (Nat × α)}
    {s : State α β}
    (run : Schedule f (start items (workerCount items.length workers)) given s) :
    Acc (fun next s => Step f s next) s ∧
      (given ++ s.waiting).Perm (jobs items) ∧
      s.finished.Perm (answered f given) ∧
      ((∀ next, ¬ Step f s next) →
        s.isDone = true ∧
        given.Perm (jobs items) ∧
        s.delivered.Perm (answered f (jobs items)) ∧
        collect items.length s.delivered = items.map f ∧
        collect items.length s.delivered = runOrdered f workers items ∧
        collect items.length s.delivered = runOrdered f 1 items) := by
  obtain ⟨all, results⟩ := run.accounted (accounted_start f items _)
  refine ⟨(step_wellFounded f).apply s, all, results, fun stopped => ?_⟩
  have workers_there : (start (β := β) items (workerCount items.length workers)).held ≠ [] := by
    refine mt (List.replicate_eq_nil_iff _).1 ?_
    rw [workerCount]
    omega
  have done := isDone_of_stopped (run.held_ne_nil workers_there) stopped
  rw [waiting_of_isDone done, List.append_nil] at all
  rw [finished_of_isDone done] at results
  have delivered := results.trans (all.map _)
  have slots := collect_of_perm delivered
  exact ⟨done, all, delivered, slots, slots.trans (runOrdered_eq_map f workers items).symm,
    slots.trans (runOrdered_eq_map f 1 items).symm⟩

/-- Of three items the first is computed last, and its result comes last. -/
theorem collect_of_schedule_late :
    ∃ given s,
      Schedule (· + 10) (start [7, 8, 9] (workerCount [7, 8, 9].length 2)) given s ∧
      (∀ next, ¬ Step (· + 10) s next) ∧
      given.map Prod.snd = [8, 9, 7] ∧
      s.delivered = [(1, 18), (2, 19), (0, 17)] ∧
      given.Perm (jobs [7, 8, 9]) ∧
      collect [7, 8, 9].length s.delivered = [7, 8, 9].map (· + 10) ∧
      collect [7, 8, 9].length s.delivered = runOrdered (· + 10) 2 [7, 8, 9] := by
  have run : Schedule (· + 10) (start [7, 8, 9] (workerCount [7, 8, 9].length 2)) _ _ :=
    .deliver [] [none] <| .compute [] [none] <|
    .deliver [some (0, .inl 7)] [] <| .compute [some (0, .inl 7)] [] <|
    .take [some (0, .inl 7)] [] <|
    .deliver [some (0, .inl 7)] [] <| .compute [some (0, .inl 7)] [] <|
    .take [some (0, .inl 7)] [] <| .take [] [none] .refl
  obtain ⟨_, _, _, ended⟩ := collect_of_schedule _ _ _ run
  obtain ⟨_, given, _, results, same, _⟩ := ended (not_step_of_isDone rfl)
  exact ⟨_, _, run, not_step_of_isDone rfl, rfl, rfl, given, results, same⟩

end TestImpact.Pool
