import Mathlib

namespace Rotation
set_option autoImplicit true

variable {N n m a t x y : Nat}

/-- Items that get the slots of a ring of `N` in turn: item `x` has slot `x % N`. -/
theorem distance_of_same_slot (hxy : x < y) (h : y % N = x % N) : x + N ≤ y := by
  have hdvd : N ∣ y - x := (Nat.modEq_iff_dvd' hxy.le).mp h.symm
  have hle := Nat.le_of_dvd (Nat.sub_pos_of_lt hxy) hdvd
  omega

/-- The next `n` items meet one of the items `a` to `t` exactly if they do not all fit in the ring
together. -/
theorem meets_iff (hn : n ≤ N) :
    (∃ x y, a ≤ x ∧ x < t ∧ t ≤ y ∧ y < t + n ∧ y % N = x % N) ↔ 0 < n ∧ a + N < t + n := by
  constructor
  · rintro ⟨x, y, hax, hxt, hty, hy, hslot⟩
    have hle := distance_of_same_slot (Nat.lt_of_lt_of_le hxt hty) hslot
    omega
  · rintro ⟨hpos, hlt⟩
    by_cases hat : t ≤ a + N
    · exact ⟨a, a + N, Nat.le_refl a, by omega, hat, hlt, Nat.add_mod_right a N⟩
    · refine ⟨t - N, t, by omega, by omega, Nat.le_refl t, by omega, ?_⟩
      have hsplit : t = t - N + N := by omega
      conv_lhs => rw [hsplit]
      exact Nat.add_mod_right _ N

/-- In batches of `n`, batch `m` has no slot behind its first one that a batch before began with. -/
def Fresh (N n m : Nat) : Prop :=
  ∀ i, 0 < i → i < n → ∀ j < m, (m * n + i) % N ≠ (j * n) % N

theorem fresh_of_dvd (h : n ∣ N) (m : Nat) : Fresh N n m := by
  intro i hi hin j _ hslot
  have hmod := congrArg (· % n) hslot
  simp only [Nat.mod_mod_of_dvd _ h, Nat.mul_add_mod_self_right, Nat.mul_mod_left,
    Nat.mod_eq_of_lt hin] at hmod
  omega

theorem fresh_of_le (h : (m + 1) * n ≤ N) : Fresh N n m := by
  intro i hi hin j hj hslot
  have hjm : j * n ≤ m * n := Nat.mul_le_mul_right n hj.le
  have hle := distance_of_same_slot (by omega) hslot
  rw [Nat.succ_mul] at h
  omega

/-- The batch that goes over the end of the ring meets the first slot of the first batch. -/
theorem not_fresh_at_end (hn : n ≤ N) (hpos : 0 < n) (h : ¬ n ∣ N) : ¬ Fresh N n (N / n) := by
  intro hfresh
  have hdiv := Nat.div_add_mod N n
  have hmod : 0 < N % n := Nat.pos_of_ne_zero fun h0 => h (Nat.dvd_of_mod_eq_zero h0)
  apply hfresh (N % n) hmod (Nat.mod_lt N hpos) 0 (Nat.div_pos hn hpos)
  rw [Nat.mul_comm, hdiv, Nat.mod_self, Nat.zero_mul, Nat.zero_mod]

theorem all_fresh_iff (hn : n ≤ N) (hpos : 0 < n) (k : Nat) :
    (∀ m < k, Fresh N n m) ↔ n ∣ N ∨ k * n ≤ N := by
  constructor
  · intro h
    by_contra hne
    obtain ⟨hdvd, hlt⟩ := not_or.mp hne
    exact not_fresh_at_end hn hpos hdvd (h _ ((Nat.div_lt_iff_lt_mul hpos).mpr
      (Nat.lt_of_not_le hlt)))
  · rintro (hdvd | hle) m hm
    · exact fresh_of_dvd hdvd m
    · exact fresh_of_le (Nat.le_trans (Nat.mul_le_mul_right n hm) hle)

end Rotation
