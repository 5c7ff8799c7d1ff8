import Mathlib.Data.List.Nodup
import Mathlib.Order.Bounds.Basic
import TestImpact.Proofs.Pairing

/-! What pairing does to the lines of a diff as a whole. Every line is accounted for: only a deleted
line with the number of an added line is dropped, and only where the deleted line before it took that
added line. And no pairing is larger: since the deleted lines come in ascending order, a partner
that another pairing would choose can be exchanged for the first one in reach. -/

namespace TestImpact

namespace LineSet

theorem size_ofList {l : List LineNumber} (once : l.Nodup) : (ofList l).size = l.length := by
  have same : (ofList l).toList.Perm l := by
    rw [List.perm_ext_iff_of_nodup (ofList l).nodup once]
    exact fun _ => mem_ofList
  exact same.length_eq

end LineSet

namespace Diff

/-- A one-to-one pairing of some of the deleted lines with some of the added ones, each pair at most
one line apart. The deleted line of a pair comes first. -/
structure IsMatching (deleted added : List LineNumber) (pairs : List (LineNumber × LineNumber)) :
    Prop where
  deleted_mem : ∀ p ∈ pairs, p.1 ∈ deleted
  added_mem : ∀ p ∈ pairs, p.2 ∈ added
  near : ∀ p ∈ pairs, p.2.toNat ≤ p.1.toNat + 1 ∧ p.1.toNat ≤ p.2.toNat + 1
  deleted_once : (pairs.map Prod.fst).Nodup
  added_once : (pairs.map Prod.snd).Nodup

variable {line found : LineNumber} {deleted free rest : List LineNumber}
  {pairs : List (LineNumber × LineNumber)}

/-! ## The pairs that are made -/

theorem pairUp_isMatching (deleted_once : deleted.Nodup) (free_once : free.Nodup) :
    IsMatching deleted free (pairUp deleted free).pairs := by
  have deleted_kept := pairUp_deleted deleted free
  have free_kept := pairUp_added deleted free
  refine ⟨?_, ?_, ?_, ?_, ?_⟩
  · intro p member
    exact deleted_kept.mem_iff.1 (List.mem_append_left _ (List.mem_map_of_mem member))
  · intro p member
    exact free_kept.mem_iff.1 (List.mem_append_left _ (List.mem_map_of_mem member))
  · intro p member
    exact distance_le_reach_iff.1 (pairUp_near member)
  · exact (List.nodup_append.1 (deleted_kept.nodup_iff.2 deleted_once)).1
  · exact (List.nodup_append.1 (free_kept.nodup_iff.2 free_once)).1

/-- Among ascending lines the one that is taken is the least within reach. -/
theorem lt_of_takeNear? (ascending : free.Pairwise (· < ·))
    (taken : takeNear? line free = some (found, rest)) {a : LineNumber} (member : a ∈ rest)
    (near : distance a line ≤ reach) : found < a := by
  obtain ⟨before, after, rfl, rfl, -, none_before⟩ := takeNear?_eq_some taken
  have behind := (List.pairwise_cons.1 (List.pairwise_append.1 ascending).2.1).1
  rcases List.mem_append.1 member with member | member
  · exact absurd near (none_before a member)
  · exact behind a member

theorem pairwise_of_takeNear? (ascending : free.Pairwise (· < ·))
    (taken : takeNear? line free = some (found, rest)) : rest.Pairwise (· < ·) := by
  obtain ⟨before, after, rfl, rfl, -, -⟩ := takeNear?_eq_some taken
  exact ascending.sublist ((List.sublist_cons_self found after).append_left before)

/-- The pairs do not cross. -/
theorem pairUp_pairwise (deleted_ascending : deleted.Pairwise (· < ·))
    (free_ascending : free.Pairwise (· < ·)) :
    (pairUp deleted free).pairs.Pairwise fun p q => p.1 < q.1 ∧ p.2 < q.2 := by
  induction deleted generalizing free with
  | nil => exact .nil
  | cons line deleted ih =>
    obtain ⟨below, deleted_ascending⟩ := List.pairwise_cons.1 deleted_ascending
    rw [pairUp]
    split
    · next found rest taken =>
      have rest_ascending := pairwise_of_takeNear? free_ascending taken
      refine List.pairwise_cons.2 ⟨?_, ih deleted_ascending rest_ascending⟩
      intro q member
      have later := pairUp_isMatching (deleted_ascending.imp UInt32.ne_of_lt)
        (rest_ascending.imp UInt32.ne_of_lt)
      have above : line < q.1 := below _ (later.deleted_mem q member)
      refine ⟨above, ?_⟩
      -- A partner below `found` would be within reach of `line`, and would have been taken first.
      by_contra not_above
      obtain ⟨_, near⟩ := takeNear?_perm taken
      have near_found := distance_le_reach_iff.1 near
      have near_partner := later.near q member
      have in_reach : distance q.2 line ≤ reach := by
        rw [distance_le_reach_iff]
        simp only [UInt32.lt_iff_toNat_lt] at above not_above
        omega
      exact not_above (lt_of_takeNear? free_ascending taken (later.added_mem q member) in_reach)
    · exact ih deleted_ascending free_ascending

/-- A smaller deleted line is paired with a smaller added line. -/
theorem lt_of_mem_pairs {added deleted : LineSet} {p q : LineNumber × LineNumber}
    (hp : p ∈ (pairing added deleted).pairs) (hq : q ∈ (pairing added deleted).pairs)
    (before : p.1 < q.1) : p.2 < q.2 := by
  have apart := pairUp_pairwise deleted.ascending added.ascending
  have forward : (pairing added deleted).pairs.Pairwise fun p q => p.1 < q.1 → p.2 < q.2 :=
    apart.imp fun both _ => both.2
  have backward : (pairing added deleted).pairs.Pairwise fun p q => q.1 < p.1 → q.2 < p.2 :=
    apart.imp fun both behind => absurd behind (UInt32.lt_asymm both.1)
  have itself : ∀ p ∈ (pairing added deleted).pairs, p.1 < p.1 → p.2 < p.2 :=
    fun p _ same => absurd same (UInt32.lt_irrefl p.1)
  exact forward.forall_of_forall_of_flip itself backward hp hq before

/-- A deleted line that stays alone although a line of its number is free at first loses it to an
earlier deleted line. -/
theorem exists_taken_of_lone (ascending : deleted.Pairwise (· < ·))
    (lone : line ∈ (pairUp deleted free).loneDeleted) (member : line ∈ free) :
    ∃ d, (d, line) ∈ (pairUp deleted free).pairs ∧ d < line := by
  induction deleted generalizing free with
  | nil => cases lone
  | cons first deleted ih =>
    obtain ⟨below, ascending⟩ := List.pairwise_cons.1 ascending
    have behind (others : List LineNumber)
        (lone : line ∈ (pairUp deleted others).loneDeleted) : first < line :=
      below _ ((pairUp_deleted deleted others).mem_iff.1 (List.mem_append_right _ lone))
    rw [pairUp] at lone ⊢
    split at lone
    · next found rest taken =>
      rcases List.mem_cons.1 ((takeNear?_perm taken).1.mem_iff.1 member) with rfl | member
      · exact ⟨first, .head _, behind rest lone⟩
      · obtain ⟨d, paired, before⟩ := ih ascending lone member
        exact ⟨d, .tail _ paired, before⟩
    · next none_near =>
      rcases List.mem_cons.1 lone with rfl | lone
      · have itself : distance line line ≤ reach := distance_le_reach_iff.2 ⟨by omega, by omega⟩
        exact absurd itself (takeNear?_eq_none none_near line member)
      · exact ih ascending lone member

/-! ## No pairing is larger -/

namespace IsMatching

theorem cons_iff {p : LineNumber × LineNumber} :
    IsMatching deleted free (p :: pairs) ↔
      (p.1 ∈ deleted ∧ p.2 ∈ free ∧ p.2.toNat ≤ p.1.toNat + 1 ∧ p.1.toNat ≤ p.2.toNat + 1) ∧
        (∀ q ∈ pairs, q.1 ≠ p.1 ∧ q.2 ≠ p.2) ∧ IsMatching deleted free pairs := by
  constructor
  · rintro ⟨deleted_mem, added_mem, near, deleted_once, added_once⟩
    obtain ⟨fresh_deleted, deleted_once⟩ := List.nodup_cons.1 deleted_once
    obtain ⟨fresh_added, added_once⟩ := List.nodup_cons.1 added_once
    rw [List.forall_mem_cons] at deleted_mem added_mem near
    refine ⟨⟨deleted_mem.1, added_mem.1, near.1⟩, ?_,
      ⟨deleted_mem.2, added_mem.2, near.2, deleted_once, added_once⟩⟩
    intro q member
    exact ⟨fun same => fresh_deleted (List.mem_map.2 ⟨q, member, same⟩),
      fun same => fresh_added (List.mem_map.2 ⟨q, member, same⟩)⟩
  · rintro ⟨⟨first_deleted, first_added, first_near⟩, fresh, others⟩
    refine ⟨List.forall_mem_cons.2 ⟨first_deleted, others.deleted_mem⟩,
      List.forall_mem_cons.2 ⟨first_added, others.added_mem⟩,
      List.forall_mem_cons.2 ⟨first_near, others.near⟩, ?_, ?_⟩
    · refine List.nodup_cons.2 ⟨fun member => ?_, others.deleted_once⟩
      obtain ⟨q, member, same⟩ := List.mem_map.1 member
      exact (fresh q member).1 same
    · refine List.nodup_cons.2 ⟨fun member => ?_, others.added_once⟩
      obtain ⟨q, member, same⟩ := List.mem_map.1 member
      exact (fresh q member).2 same

theorem perm {others : List (LineNumber × LineNumber)} (h : IsMatching deleted free pairs)
    (same : pairs.Perm others) : IsMatching deleted free others where
  deleted_mem p member := h.deleted_mem p (same.mem_iff.2 member)
  added_mem p member := h.added_mem p (same.mem_iff.2 member)
  near p member := h.near p (same.mem_iff.2 member)
  deleted_once := (same.map Prod.fst).nodup_iff.1 h.deleted_once
  added_once := (same.map Prod.snd).nodup_iff.1 h.added_once

/-- Without one of its pairs a pairing uses neither line of that pair. -/
theorem exists_others {p : LineNumber × LineNumber} (h : IsMatching deleted free pairs)
    (member : p ∈ pairs) :
    ∃ others, pairs.Perm (p :: others) ∧ (∀ q ∈ others, q.1 ≠ p.1 ∧ q.2 ≠ p.2) ∧
      IsMatching deleted free others := by
  have front := List.perm_cons_erase member
  exact ⟨pairs.erase p, front, (cons_iff.1 (h.perm front)).2⟩

theorem avoid_deleted (h : IsMatching (line :: deleted) free pairs)
    (avoids : ∀ p ∈ pairs, p.1 ≠ line) : IsMatching deleted free pairs :=
  { h with
    deleted_mem p member :=
      (List.mem_cons.1 (h.deleted_mem p member)).resolve_left (avoids p member) }

theorem avoid_added (h : IsMatching deleted free pairs) (same : free.Perm (found :: rest))
    (avoids : ∀ p ∈ pairs, p.2 ≠ found) : IsMatching deleted rest pairs :=
  { h with
    added_mem p member :=
      (List.mem_cons.1 (same.mem_iff.1 (h.added_mem p member))).resolve_left (avoids p member) }

/-- A pairing gives up at most one pair when the first deleted line takes the first free line within
its reach: where both were paired, their partners are within reach of each other. -/
theorem exists_without (h : IsMatching (line :: deleted) free pairs)
    (deleted_ascending : (line :: deleted).Pairwise (· < ·))
    (free_ascending : free.Pairwise (· < ·))
    (taken : takeNear? line free = some (found, rest)) :
    ∃ others, IsMatching deleted rest others ∧ pairs.length ≤ others.length + 1 := by
  have same := (takeNear?_perm taken).1
  by_cases line_paired : ∃ a, (line, a) ∈ pairs
  · obtain ⟨a, line_a⟩ := line_paired
    obtain ⟨others, front, fresh, others_match⟩ := h.exists_others line_a
    have others_match := others_match.avoid_deleted fun p member => (fresh p member).1
    by_cases found_paired : ∃ d, (d, found) ∈ others
    · obtain ⟨d, d_found⟩ := found_paired
      obtain ⟨least, next_front, next_fresh, least_match⟩ := others_match.exists_others d_found
      have least_match := least_match.avoid_added same fun p member => (next_fresh p member).2
      have a_rest : a ∈ rest :=
        (List.mem_cons.1 (same.mem_iff.1 (h.added_mem _ line_a))).resolve_left
          (Ne.symm (fresh _ d_found).2)
      have d_deleted : d ∈ deleted := others_match.deleted_mem _ d_found
      -- `line < d` and `found < a`, so `a` and `d` lie between lines that are within reach.
      have a_near : a.toNat ≤ line.toNat + 1 ∧ line.toNat ≤ a.toNat + 1 := h.near _ line_a
      have d_near : found.toNat ≤ d.toNat + 1 ∧ d.toNat ≤ found.toNat + 1 :=
        others_match.near _ d_found
      have above : line < d := (List.pairwise_cons.1 deleted_ascending).1 d d_deleted
      have behind : found < a :=
        lt_of_takeNear? free_ascending taken a_rest (distance_le_reach_iff.2 a_near)
      rw [UInt32.lt_iff_toNat_lt] at above behind
      have exchanged : a.toNat ≤ d.toNat + 1 ∧ d.toNat ≤ a.toNat + 1 := by omega
      refine ⟨(d, a) :: least, cons_iff.2 ⟨⟨d_deleted, a_rest, exchanged⟩, ?_, least_match⟩, ?_⟩
      · intro q member
        exact ⟨(next_fresh q member).1,
          (fresh q (next_front.mem_iff.2 (.tail _ member))).2⟩
      · rw [front.length_eq, List.length_cons, next_front.length_eq]
        rfl
    · refine ⟨others, others_match.avoid_added same fun p member he => ?_, front.length_eq.le⟩
      exact found_paired ⟨p.1, he ▸ member⟩
  · have avoided := h.avoid_deleted fun p member he => line_paired ⟨p.2, he ▸ member⟩
    by_cases found_paired : ∃ d, (d, found) ∈ pairs
    · obtain ⟨d, d_found⟩ := found_paired
      obtain ⟨others, front, fresh, others_match⟩ := avoided.exists_others d_found
      exact ⟨others, others_match.avoid_added same fun p member => (fresh p member).2,
        front.length_eq.le⟩
    · refine ⟨pairs, avoided.avoid_added same fun p member he => ?_, Nat.le_succ _⟩
      exact found_paired ⟨p.1, he ▸ member⟩

theorem length_le (h : IsMatching deleted free pairs)
    (deleted_ascending : deleted.Pairwise (· < ·)) (free_ascending : free.Pairwise (· < ·)) :
    pairs.length ≤ (pairUp deleted free).pairs.length := by
  induction deleted generalizing free pairs with
  | nil =>
    have none_paired : pairs = [] :=
      List.eq_nil_iff_forall_not_mem.2 fun p member => nomatch h.deleted_mem p member
    rw [none_paired]
    exact Nat.zero_le _
  | cons line deleted ih =>
    have tail_ascending := (List.pairwise_cons.1 deleted_ascending).2
    rw [pairUp]
    split
    · next found rest taken =>
      obtain ⟨others, others_match, length⟩ := h.exists_without deleted_ascending free_ascending taken
      have bound := ih others_match tail_ascending (pairwise_of_takeNear? free_ascending taken)
      exact length.trans (Nat.succ_le_succ bound)
    · next none_near =>
      have avoids : ∀ p ∈ pairs, p.1 ≠ line := by
        rintro p member rfl
        exact takeNear?_eq_none none_near p.2 (h.added_mem p member)
          (distance_le_reach_iff.2 (h.near p member))
      exact ih (h.avoid_deleted avoids) tail_ascending free_ascending

end IsMatching

/-! ## Reconciled lines -/

variable {added deleted : LineSet}

theorem pairing_isMatching (added deleted : LineSet) :
    IsMatching deleted.toList added.toList (pairing added deleted).pairs :=
  pairUp_isMatching deleted.nodup added.nodup

theorem size_reconcile_modified (added deleted : LineSet) :
    (reconcile added deleted).modified.size = (pairing added deleted).pairs.length := by
  have once := (pairing_isMatching added deleted).added_once
  exact (LineSet.size_ofList once).trans (List.length_map Prod.snd)

/-- What the lines of a diff become: `pairs` says which deleted line takes which added one. -/
structure Accounts (added deleted : LineSet) (pairs : List (LineNumber × LineNumber))
    (lines : LineChanges) : Prop where
  matching : IsMatching deleted.toList added.toList pairs
  modified_iff : ∀ n, n ∈ lines.modified ↔ ∃ d, (d, n) ∈ pairs
  modified_size : lines.modified.size = pairs.length
  added_iff : ∀ n, n ∈ added ↔ n ∈ lines.added ∨ n ∈ lines.modified
  added_not_modified : ∀ n ∈ lines.added, n ∉ lines.modified
  deleted_untouched : ∀ n ∈ lines.deleted, n ∉ lines.added ∧ n ∉ lines.modified
  deleted_mem : ∀ n ∈ lines.deleted, n ∈ deleted
  /-- A deleted line stays one, or is paired, or is dropped because the one before it took the added
  line of its number. -/
  deleted_cases : ∀ n ∈ deleted,
    n ∈ lines.deleted ∧ (∀ a, (n, a) ∉ pairs) ∨
    n ∉ lines.deleted ∧ (∃ a ∈ lines.modified, (n, a) ∈ pairs) ∨
    n ∉ lines.deleted ∧ (∀ a, (n, a) ∉ pairs) ∧ n ∈ lines.modified ∧
      ∃ d, (d, n) ∈ pairs ∧ d.toNat + 1 = n.toNat

/-- **Reconciling loses no line but those that a neighbour stands for.** The added lines stay or become
modified; a deleted line stays, or is one of as many pairs as there are modified lines, or has the
number of a modified line that the deleted line just before it took. -/
theorem reconcile_accounts (added deleted : LineSet) :
    Accounts added deleted (pairing added deleted).pairs (reconcile added deleted) where
  matching := pairing_isMatching added deleted
  modified_iff _ := mem_reconcile_modified
  modified_size := size_reconcile_modified added deleted
  added_iff n := by
    have touched : n ∈ (reconcile added deleted).touched ↔ n ∈ added := mem_touched_reconcile
    rw [← touched, LineChanges.mem_touched]
  added_not_modified := by
    intro n lone paired
    rw [mem_reconcile_added] at lone
    obtain ⟨d, paired⟩ := mem_reconcile_modified.1 paired
    have once := (pairUp_added deleted.toList added.toList).nodup_iff.2 added.nodup
    exact (List.nodup_append.1 once).2.2 n (List.mem_map.2 ⟨_, paired, rfl⟩) n lone rfl
  deleted_untouched := by
    intro n stays
    have untouched := (mem_reconcile_deleted.1 stays).2
    rwa [LineChanges.mem_touched, not_or] at untouched
  deleted_mem n stays := mem_deleted_iff.2 (.inr (mem_reconcile_deleted.1 stays).1)
  deleted_cases := by
    intro n member
    rcases mem_deleted_iff.1 member with ⟨a, paired⟩ | lone
    · refine .inr (.inl ⟨fun stays => ?_, a, mem_reconcile_modified.2 ⟨n, paired⟩, paired⟩)
      exact not_mem_pairs_of_lone (mem_reconcile_deleted.1 stays).1 paired
    · have unpaired : ∀ a, (n, a) ∉ (pairing added deleted).pairs := fun a => not_mem_pairs_of_lone lone
      by_cases inserted : n ∈ added
      · obtain ⟨d, paired, before⟩ := exists_taken_of_lone deleted.ascending lone inserted
        have near := distance_le_reach_iff.1 (pairUp_near paired)
        rw [UInt32.lt_iff_toNat_lt] at before
        refine .inr (.inr ⟨fun stays => ?_, unpaired, mem_reconcile_modified.2 ⟨d, paired⟩, d, paired,
          by omega⟩)
        exact (mem_reconcile_deleted.1 stays).2 (mem_touched_reconcile.2 inserted)
      · exact .inl ⟨mem_reconcile_deleted.2 ⟨lone, mt mem_touched_reconcile.1 inserted⟩, unpaired⟩

/-- **As many lines are modified as any pairing could make**, and of two deleted lines the smaller one
is paired with the smaller added line. -/
theorem size_modified_isGreatest (added deleted : LineSet) :
    IsGreatest {k | ∃ pairs, IsMatching deleted.toList added.toList pairs ∧ pairs.length = k}
        (reconcile added deleted).modified.size ∧
      ∀ p ∈ (pairing added deleted).pairs, ∀ q ∈ (pairing added deleted).pairs,
        p.1 < q.1 → p.2 < q.2 := by
  refine ⟨⟨⟨_, pairing_isMatching added deleted, (size_reconcile_modified added deleted).symm⟩, ?_⟩, ?_⟩
  · rintro k ⟨pairs, matching, rfl⟩
    rw [size_reconcile_modified]
    exact matching.length_le deleted.ascending added.ascending
  · exact fun p hp q hq => lt_of_mem_pairs hp hq

end Diff

end TestImpact
