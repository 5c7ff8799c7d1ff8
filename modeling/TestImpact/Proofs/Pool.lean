import TestImpact.Pool

/-! What a pool delivers, put into slots. Every job has its own number, so a result that is delivered
under a number is not overwritten, and the slots do not depend on the order of delivery. -/

namespace TestImpact.Pool

variable {α β : Type}

/-! ## Jobs -/

/-- Every job with the result that is to be delivered for it. -/
def answered (f : α → β) (jobs : List (Nat × α)) : List (Nat × β) :=
  jobs.map fun job => (job.1, f job.2)

theorem map_fst_jobs (items : List α) : (jobs items).map Prod.fst = List.range items.length :=
  List.map_fst_zip (by simp)

theorem map_fst_answered (f : α → β) (jobs : List (Nat × α)) :
    (answered f jobs).map Prod.fst = jobs.map Prod.fst := by
  simp [answered]

theorem mem_answered_jobs {f : α → β} {items : List α} {number : Nat} {item : α}
    (h : items[number]? = some item) : (number, f item) ∈ answered f (jobs items) := by
  obtain ⟨inside, rfl⟩ := List.getElem?_eq_some_iff.1 h
  have job : (jobs items)[number]? = some (number, items[number]) := by
    simp [jobs, inside]
  exact List.mem_map.2 ⟨_, List.mem_of_getElem? job, rfl⟩

/-! ## Slots -/

/-- Puts results into slots by their numbers. -/
def fill (slots : List (Option β)) (delivered : List (Nat × β)) : List (Option β) :=
  delivered.foldl (fun slots (number, result) => slots.set number (some result)) slots

theorem collect_eq_fill (total : Nat) (delivered : List (Nat × β)) :
    collect total delivered = (fill (List.replicate total none) delivered).filterMap id := rfl

theorem length_fill (slots : List (Option β)) (delivered : List (Nat × β)) :
    (fill slots delivered).length = slots.length := by
  induction delivered generalizing slots with
  | nil => rfl
  | cons result rest ih => exact (ih _).trans List.length_set

/-- A slot keeps what it holds while nothing comes under its number. -/
theorem getElem?_fill_of_not_mem {delivered : List (Nat × β)} {number : Nat}
    (absent : number ∉ delivered.map Prod.fst) (slots : List (Option β)) :
    (fill slots delivered)[number]? = slots[number]? := by
  induction delivered generalizing slots with
  | nil => rfl
  | cons result rest ih =>
    rw [List.map_cons, List.mem_cons, not_or] at absent
    exact (ih absent.2 _).trans (List.getElem?_set_ne (Ne.symm absent.1))

theorem getElem?_fill {delivered : List (Nat × β)} {number : Nat} {result : β}
    (once : (delivered.map Prod.fst).Nodup) (mem : (number, result) ∈ delivered)
    {slots : List (Option β)} (inside : number < slots.length) :
    (fill slots delivered)[number]? = some (some result) := by
  induction delivered generalizing slots with
  | nil => cases mem
  | cons first rest ih =>
    rw [List.map_cons, List.nodup_cons] at once
    rcases List.mem_cons.1 mem with rfl | mem
    · exact (getElem?_fill_of_not_mem once.1 _).trans (List.getElem?_set_self inside)
    · exact ih once.2 mem (by rwa [List.length_set])

/-- The results of all jobs, delivered in any order, come out in the order of the items. -/
theorem collect_of_perm {f : α → β} {items : List α} {delivered : List (Nat × β)}
    (all : delivered.Perm (answered f (jobs items))) :
    collect items.length delivered = items.map f := by
  have once : (delivered.map Prod.fst).Nodup := by
    rw [(all.map Prod.fst).nodup_iff, map_fst_answered, map_fst_jobs]
    exact List.nodup_range
  have filled : fill (List.replicate items.length none) delivered = (items.map f).map some := by
    refine List.ext_getElem? fun number => ?_
    cases h : items[number]? with
    | none =>
      rw [List.getElem?_eq_none_iff] at h
      rw [List.getElem?_eq_none_iff.2 (by simpa [length_fill] using h),
        List.getElem?_eq_none_iff.2 (by simpa using h)]
    | some item =>
      have inside := (List.getElem?_eq_some_iff.1 h).1
      rw [getElem?_fill once (all.mem_iff.2 (mem_answered_jobs h)) (by simpa using inside)]
      simp [h]
  rw [collect_eq_fill, filled]
  simp [List.filterMap_map]

/-- The number of workers says nothing about the results. -/
theorem runOrdered_eq_map (f : α → β) (workers : Nat) (items : List α) :
    runOrdered f workers items = items.map f := by
  rw [runOrdered]
  split
  · rfl
  · exact collect_of_perm (.refl _)

/-! ## Results that may be missing -/

section

variable {f g : α → Option β} {items : List α}

theorem mapM_congr_left (same : ∀ item ∈ items, f item = g item) : items.mapM f = items.mapM g := by
  induction items with
  | nil => rfl
  | cons item items ih =>
    obtain ⟨first, others⟩ := List.forall_mem_cons.1 same
    rw [List.mapM_cons, List.mapM_cons, first, ih others]

/-- Where every item has a result, so have all together. -/
theorem mapM_of_isSome (all : ∀ item ∈ items, (f item).isSome = true) :
    items.mapM f = some (items.filterMap f) := by
  induction items with
  | nil => rfl
  | cons item items ih =>
    obtain ⟨first, others⟩ := List.forall_mem_cons.1 all
    obtain ⟨result, found⟩ := Option.isSome_iff_exists.1 first
    rw [List.mapM_cons, ih others, List.filterMap_cons_some found, found]
    rfl

/-- One missing result is missing to all. -/
theorem mapM_eq_none {item : α} (member : item ∈ items) (missing : f item = none) :
    items.mapM f = none := by
  induction items with
  | nil => cases member
  | cons first items ih =>
    rw [List.mapM_cons]
    rcases List.mem_cons.1 member with rfl | later
    · rw [missing]
      rfl
    · rw [ih later]
      cases f first with
      | none => rfl
      | some result => rfl

end

end TestImpact.Pool
