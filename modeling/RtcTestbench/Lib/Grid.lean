import Mathlib

namespace Grid
set_option autoImplicit true

/-- The first point of `start, start + c, start + 2 * c, …` after `now`. -/
def next (start c now : Nat) : Nat := start + ((now - start) / c + 1) * c

variable {start c now now' k : Nat}

theorem lt_next (hc : 0 < c) (h : start ≤ now) : now < next start c now := by
  have hlt := Nat.lt_mul_div_succ (now - start) hc
  rw [Nat.mul_comm] at hlt
  rw [next]
  omega

theorem next_le (h : start ≤ now) : next start c now ≤ now + c := by
  have hle := Nat.div_mul_le_self (now - start) c
  rw [next, Nat.succ_mul]
  omega

theorem next_mono (h : now ≤ now') : next start c now ≤ next start c now' := by
  have hdiv : (now - start) / c ≤ (now' - start) / c := Nat.div_le_div_right (by omega)
  exact Nat.add_le_add_left (Nat.mul_le_mul_right c (Nat.succ_le_succ hdiv)) start

/-- All times of one period have the same next point. -/
theorem next_of_period (h : start + k * c ≤ now) (h' : now < start + (k + 1) * c) :
    next start c now = start + (k + 1) * c := by
  have hdiv : (now - start) / c = k := by
    apply Nat.div_eq_of_lt_le
    · omega
    · omega
  rw [next, hdiv]

/-- No other point is as near. -/
theorem eq_next (h : start ≤ now) (hlt : now < start + k * c) (hle : start + k * c ≤ now + c) :
    start + k * c = next start c now := by
  cases k with
  | zero => omega
  | succ k =>
    symm
    apply next_of_period
    · rw [Nat.succ_mul] at hle
      omega
    · exact hlt

theorem next_lt_next (h : k < k') (hk : start + k * c ≤ now) (hk' : now < start + (k + 1) * c)
    (hl : start + k' * c ≤ now') (hl' : now' < start + (k' + 1) * c) :
    next start c now + c ≤ next start c now' := by
  rw [next_of_period hk hk', next_of_period hl hl', Nat.add_assoc, ← Nat.succ_mul]
  exact Nat.add_le_add_left (Nat.mul_le_mul_right c (by omega)) start

end Grid
