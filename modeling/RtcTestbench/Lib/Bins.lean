import Mathlib

namespace Bins
set_option autoImplicit true

variable (lo hi : Nat) (xs : List Nat)

/-- One count for each value from `lo` on and below `hi`. -/
def bins : List Nat := (List.range (hi - lo)).map fun i => xs.count (lo + i)

def below : Nat := xs.countP (· < lo)

def above : Nat := xs.countP (hi ≤ ·)

variable {lo hi xs}

@[simp] theorem length_bins : (bins lo hi xs).length = hi - lo := by
  rw [bins, List.length_map, List.length_range]

theorem getElem?_bins (hi' : i < hi - lo) : (bins lo hi xs)[i]? = some (xs.count (lo + i)) := by
  rw [bins, List.getElem?_map, List.getElem?_range hi', Option.map_some]

theorem bins_nil : bins lo hi [] = List.replicate (hi - lo) 0 := by
  rw [bins, List.eq_replicate_iff]
  refine ⟨by rw [List.length_map, List.length_range], ?_⟩
  intro b hb
  obtain ⟨i, -, rfl⟩ := List.mem_map.mp hb
  rfl

/-- A value outside of the range changes no bin. -/
theorem bins_outside (hx : x < lo ∨ hi ≤ x) : bins lo hi (xs ++ [x]) = bins lo hi xs := by
  rw [bins, bins]
  apply List.map_congr_left
  intro i hmem
  have hlt := List.mem_range.mp hmem
  have hne : x ≠ lo + i := by omega
  rw [List.count_append, List.count_singleton, if_neg (by simpa using hne), Nat.add_zero]

/-- A value in the range is added to its own bin. -/
theorem bins_inside (hlo : lo ≤ x) :
    bins lo hi (xs ++ [x]) = (bins lo hi xs).set (x - lo) (xs.count x + 1) := by
  apply List.ext_getElem?
  intro i
  by_cases hlt : i < hi - lo
  · rw [getElem?_bins hlt, List.count_append, List.count_singleton]
    by_cases hix : x - lo = i
    · have hx : lo + i = x := by omega
      have hlen : x - lo < (bins lo hi xs).length := by
        rw [length_bins]
        omega
      rw [hx, if_pos (beq_self_eq_true x), List.getElem?_set, if_pos hix, if_pos hlen]
    · have hne : x ≠ lo + i := by omega
      rw [List.getElem?_set_ne hix, getElem?_bins hlt, if_neg (by simpa using hne), Nat.add_zero]
  · rw [List.getElem?_eq_none (by rw [length_bins]; omega),
      List.getElem?_eq_none (by rw [List.length_set, length_bins]; omega)]

theorem below_inside (hx : x < lo) : below lo (xs ++ [x]) = below lo xs + 1 := by
  rw [below, List.countP_append, List.countP_singleton, if_pos (decide_eq_true hx), below]

theorem below_outside (hx : lo ≤ x) : below lo (xs ++ [x]) = below lo xs := by
  rw [below, List.countP_append, List.countP_singleton, if_neg (by simpa using hx), Nat.add_zero,
    below]

theorem above_inside (hx : hi ≤ x) : above hi (xs ++ [x]) = above hi xs + 1 := by
  rw [above, List.countP_append, List.countP_singleton, if_pos (decide_eq_true hx), above]

theorem above_outside (hx : x < hi) : above hi (xs ++ [x]) = above hi xs := by
  rw [above, List.countP_append, List.countP_singleton, if_neg (by simpa using hx), Nat.add_zero,
    above]

theorem sum_counts (w : Nat) :
    ((List.range w).map fun i => xs.count (lo + i)).sum =
      xs.countP fun x => lo ≤ x ∧ x < lo + w := by
  induction w with
  | zero =>
    symm
    apply List.countP_eq_zero.mpr
    intro x _ h
    rw [decide_eq_true_eq] at h
    omega
  | succ w ih =>
    rw [List.range_succ, List.map_append, List.sum_append, ih, List.map_singleton,
      List.sum_singleton]
    clear ih
    induction xs with
    | nil => rfl
    | cons x xs ih =>
      simp only [List.countP_cons, List.count_cons, beq_iff_eq, decide_eq_true_eq]
      split <;> split <;> split <;> omega

/-- Every value is in a bin, below the range or above it. -/
theorem total (h : lo ≤ hi) : (bins lo hi xs).sum + below lo xs + above hi xs = xs.length := by
  rw [bins, sum_counts, below, above, Nat.add_sub_cancel' h]
  induction xs with
  | nil => rfl
  | cons x xs ih =>
    simp only [List.countP_cons, decide_eq_true_eq, List.length_cons]
    split <;> split <;> split <;> omega

end Bins
