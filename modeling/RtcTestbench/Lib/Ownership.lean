import Mathlib

namespace Ownership
set_option autoImplicit true

variable {ι α : Type} [Fintype ι] {held held' : ι → Multiset α}
  {all m : Multiset α} {i j : ι} {x : α}

/-- The places hold all the resources together, and nothing else. -/
def Conserves (held : ι → Multiset α) (all : Multiset α) : Prop := ∑ i, held i = all

theorem Conserves.mem (h : Conserves held all) (hx : x ∈ held i) : x ∈ all := by
  rw [← h, Multiset.mem_sum]
  exact ⟨i, Finset.mem_univ i, hx⟩

theorem Conserves.nodup (h : Conserves held all) (hall : all.Nodup) (i : ι) : (held i).Nodup := by
  apply Multiset.nodup_of_le _ hall
  rw [← h]
  exact Finset.single_le_sum (fun _ _ => Multiset.zero_le _) (Finset.mem_univ i)

theorem Conserves.sum_card (h : Conserves held all) : ∑ i, (held i).card = all.card := by
  rw [← h, Multiset.card_sum]

variable [DecidableEq ι]

/-- Moving resources from one place to another loses none and duplicates none. -/
theorem Conserves.move (h : Conserves held all) (m : Multiset α) (hij : i ≠ j)
    (hi : held i = held' i + m) (hj : held' j = held j + m)
    (hother : ∀ k, k ≠ i → k ≠ j → held' k = held k) : Conserves held' all := by
  have hpoint (k : ι) : held' k + (if k = i then m else 0) = held k + (if k = j then m else 0) := by
    by_cases hki : k = i
    · subst hki
      rw [if_pos rfl, if_neg hij, add_zero, hi]
    · by_cases hkj : k = j
      · subst hkj
        rw [if_neg hki, if_pos rfl, add_zero, hj]
      · rw [if_neg hki, if_neg hkj, hother k hki hkj]
  have hsum := Finset.sum_congr (rfl : Finset.univ = Finset.univ) fun k _ => hpoint k
  rw [Finset.sum_add_distrib, Finset.sum_add_distrib, Finset.sum_ite_eq' Finset.univ i,
    Finset.sum_ite_eq' Finset.univ j, if_pos (Finset.mem_univ i), if_pos (Finset.mem_univ j)]
      at hsum
  rw [Conserves, add_right_cancel hsum]
  exact h

theorem Conserves.add_le (h : Conserves held all) (hij : i ≠ j) : held i + held j ≤ all := by
  rw [← h, ← Finset.sum_pair hij]
  exact Finset.sum_le_sum_of_subset (Finset.subset_univ _)

/-- A resource without a duplicate is at exactly one place. -/
theorem Conserves.existsUnique (h : Conserves held all) (hall : all.Nodup) (hx : x ∈ all) :
    ∃! i, x ∈ held i := by
  have hsome := hx
  rw [← h, Multiset.mem_sum] at hsome
  obtain ⟨i, -, hi⟩ := hsome
  refine ⟨i, hi, fun j hj => ?_⟩
  by_contra hji
  have hboth : (held j + held i).Nodup := Multiset.nodup_of_le (h.add_le hji) hall
  exact Multiset.disjoint_left.mp (Multiset.nodup_add.mp hboth).2.2 hj hi

end Ownership
