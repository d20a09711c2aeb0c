import FilterQuery.Validation
import Mathlib.Data.List.Basic
import Mathlib.Data.List.Pairwise

/-!
# The order of rules

A pass takes the rules of higher rank first, and those of one rank in the order they were declared
in. These two demands leave no choice (`Ranked.eq`), and sorting meets them (`ranked_sortRules`).
Rules that are left out therefore do not change the order of the others (`sortRules_filter`).
-/

namespace FilterQuery.Validation

variable {τ : Type}

/-- Rules in the order in which a pass takes them. -/
structure Ranked (declared ordered : List (Rule τ)) : Prop where
  perm : ordered.Perm declared
  descending : ordered.Pairwise fun r s => s.rank ≤ r.rank
  /-- Rules of one rank are in the order they were declared in. -/
  stable : ∀ n, (ordered.filter fun r => r.rank = n) = declared.filter fun r => r.rank = n

theorem rank_le_of_mem_cons {r s : Rule τ} {rules : List (Rule τ)}
    (h : (r :: rules).Pairwise fun r s => s.rank ≤ r.rank) (hs : s ∈ r :: rules) :
    s.rank ≤ r.rank := by
  rcases List.mem_cons.mp hs with rfl | hs
  · exact Int.le_refl _
  · exact (List.pairwise_cons.mp h).1 s hs

theorem mem_iff_of_filter_eq {xs ys : List (Rule τ)}
    (h : ∀ n, (xs.filter fun r => r.rank = n) = ys.filter fun r => r.rank = n) (r : Rule τ) :
    r ∈ xs ↔ r ∈ ys := by
  have hclass : r ∈ (xs.filter fun s => s.rank = r.rank) ↔
      r ∈ ys.filter fun s => s.rank = r.rank := by rw [h]
  simpa using hclass

/-- Two descending lists that agree rank by rank are the same. -/
theorem eq_of_descending {xs ys : List (Rule τ)} (hxs : xs.Pairwise fun r s => s.rank ≤ r.rank)
    (hys : ys.Pairwise fun r s => s.rank ≤ r.rank)
    (h : ∀ n, (xs.filter fun r => r.rank = n) = ys.filter fun r => r.rank = n) : xs = ys := by
  have hmem := mem_iff_of_filter_eq h
  induction xs generalizing ys with
  | nil =>
    cases ys with
    | nil => rfl
    | cons y ys => exact absurd ((hmem y).mpr List.mem_cons_self) List.not_mem_nil
  | cons x xs ih =>
    cases ys with
    | nil => exact absurd ((hmem x).mp List.mem_cons_self) List.not_mem_nil
    | cons y ys =>
      have hrank : x.rank = y.rank := Int.le_antisymm
        (rank_le_of_mem_cons hys ((hmem x).mp List.mem_cons_self))
        (rank_le_of_mem_cons hxs ((hmem y).mpr List.mem_cons_self))
      -- both heads come first among the rules of the highest rank
      have hheads := h y.rank
      rw [List.filter_cons_of_pos (by simpa using hrank), List.filter_cons_of_pos (by simp)]
        at hheads
      obtain ⟨rfl, -⟩ := List.cons.inj hheads
      have htails : ∀ n, (xs.filter fun r => r.rank = n) = ys.filter fun r => r.rank = n := by
        intro n
        have hn := h n
        by_cases hx : x.rank = n
        · simpa [hx] using hn
        · simpa [hx] using hn
      rw [ih (List.pairwise_cons.mp hxs).2 (List.pairwise_cons.mp hys).2 htails
        (mem_iff_of_filter_eq htails)]

/-- There is only one order in which a pass can take the rules. -/
theorem Ranked.eq {declared xs ys : List (Rule τ)} (hxs : Ranked declared xs)
    (hys : Ranked declared ys) : xs = ys :=
  eq_of_descending hxs.descending hys.descending fun n => (hxs.stable n).trans (hys.stable n).symm

theorem Ranked.filter {declared ordered : List (Rule τ)} (h : Ranked declared ordered)
    (p : Rule τ → Bool) : Ranked (declared.filter p) (ordered.filter p) where
  perm := h.perm.filter p
  descending := h.descending.sublist List.filter_sublist
  stable n := by rw [List.filter_comm, h.stable, List.filter_comm]

/-- Sorting takes the rules in this order. -/
theorem ranked_sortRules (rules : List (Rule τ)) : Ranked rules (sortRules rules) := by
  have htrans : ∀ r s t : Rule τ, decide (s.rank ≤ r.rank) = true →
      decide (t.rank ≤ s.rank) = true → decide (t.rank ≤ r.rank) = true := by
    intro r s t hrs hst
    exact decide_eq_true (Int.le_trans (of_decide_eq_true hst) (of_decide_eq_true hrs))
  have htotal : ∀ r s : Rule τ, (decide (s.rank ≤ r.rank) || decide (r.rank ≤ s.rank)) = true := by
    intro r s
    simpa using Int.le_total s.rank r.rank
  have hperm : (sortRules rules).Perm rules := List.mergeSort_perm _ _
  constructor
  · exact hperm
  · exact (List.pairwise_mergeSort htrans htotal rules).imp fun h => of_decide_eq_true h
  · intro n
    -- the rules of a rank are sorted as they are, so sorting keeps them in their order
    have hclass : (rules.filter fun r => r.rank = n).Pairwise
        fun r s => decide (s.rank ≤ r.rank) = true := by
      apply List.pairwise_of_forall_mem_list
      intro r hr s hs
      have hr : r.rank = n := by simpa using List.of_mem_filter hr
      have hs : s.rank = n := by simpa using List.of_mem_filter hs
      simp [hr, hs]
    have hsub := (List.sublist_mergeSort htrans htotal hclass List.filter_sublist).filter
      fun r => decide (r.rank = n)
    rw [List.filter_filter] at hsub
    simp only [Bool.and_self] at hsub
    exact (hsub.eq_of_length (hperm.filter _).length_eq.symm).symm

theorem sortRules_filter (rules : List (Rule τ)) (p : Rule τ → Bool) :
    sortRules (rules.filter p) = (sortRules rules).filter p :=
  (ranked_sortRules _).eq ((ranked_sortRules rules).filter p)

end FilterQuery.Validation
