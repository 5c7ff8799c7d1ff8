/-! Work on a list by several workers. Each item is a job with its number; workers take jobs from the
front of a queue, compute, and deliver the result with the number. What was delivered is put into
slots by number, so the order of the results is that of the items whatever the workers did. -/

namespace TestImpact.Pool

/-- What the workers share, and what each of them holds: nothing, a job, or a finished result. -/
structure State (α β : Type) where
  queue : List (Nat × α)
  held : List (Option (Nat × (α ⊕ β)))
  delivered : List (Nat × β)

/-- One step of one worker. -/
inductive Step {α β : Type} (f : α → β) : State α β → State α β → Prop where
  /-- A free worker takes the next job. -/
  | take (job : Nat × α) (queue : List (Nat × α)) (before after) (delivered) :
    Step f ⟨job :: queue, before ++ none :: after, delivered⟩
      ⟨queue, before ++ some (job.1, .inl job.2) :: after, delivered⟩
  /-- A worker computes its job. -/
  | compute (number : Nat) (item : α) (queue) (before after) (delivered) :
    Step f ⟨queue, before ++ some (number, .inl item) :: after, delivered⟩
      ⟨queue, before ++ some (number, .inr (f item)) :: after, delivered⟩
  /-- A worker delivers its result and is free again. -/
  | deliver (number : Nat) (result : β) (queue) (before after) (delivered) :
    Step f ⟨queue, before ++ some (number, .inr result) :: after, delivered⟩
      ⟨queue, before ++ none :: after, delivered ++ [(number, result)]⟩

/-- How many workers there are: at least one, and no more than jobs. -/
def workerCount (jobs workers : Nat) : Nat :=
  max 1 (min workers jobs)

def jobs {α : Type} (items : List α) : List (Nat × α) :=
  (List.range items.length).zip items

def start {α β : Type} (items : List α) (workers : Nat) : State α β :=
  ⟨jobs items, List.replicate workers none, []⟩

/-- The state in which all workers stop: no job is left and nobody holds one. -/
def State.isDone {α β : Type} (s : State α β) : Bool :=
  s.queue.isEmpty && s.held.all Option.isNone

/-- Puts each delivered result into the slot of its number; of two with one number the later stays.
Slots without a result are left out. -/
def collect {β : Type} (total : Nat) (delivered : List (Nat × β)) : List β :=
  let slots : List (Option β) := delivered.foldl
    (fun slots (number, result) => slots.set number (some result)) (List.replicate total none)
  slots.filterMap id

/-- Applies a function to every item with a number of workers. A single worker goes through the
items in order. Several deliver in the order of the jobs here, which is one of the orders they may
come to. -/
def runOrdered {α β : Type} (f : α → β) (workers : Nat) (items : List α) : List β :=
  if workerCount items.length workers = 1 then items.map f
  else collect items.length ((jobs items).map fun (number, item) => (number, f item))

end TestImpact.Pool
