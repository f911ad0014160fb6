import Mathlib

namespace Window
set_option autoImplicit true

/-- A table of fixed length that keeps values by their index modulo the length. -/
def record (tab : List α) (w : Nat × α) : List α := tab.set (w.1 % tab.length) w.2

@[simp] theorem length_record (tab : List α) (w : Nat × α) :
    (record tab w).length = tab.length := List.length_set

@[simp] theorem length_foldl_record (tab : List α) (ws : List (Nat × α)) :
    (ws.foldl record tab).length = tab.length := by
  induction ws generalizing tab with
  | nil => rfl
  | cons w ws ih => rw [List.foldl_cons, ih, length_record]

theorem mod_ne_of_window {i j n : Nat} (hlt : i < j) (hj : j < i + n) : j % n ≠ i % n := by
  intro h
  have hdvd : n ∣ j - i := Nat.dvd_of_mod_eq_zero (Nat.sub_mod_eq_zero_of_mod_eq h)
  have hle := Nat.le_of_dvd (by omega) hdvd
  omega

theorem getElem?_foldl_record_other (tab : List α) (ws : List (Nat × α))
    (h : ∀ w ∈ ws, w.1 % tab.length ≠ i) : (ws.foldl record tab)[i]? = tab[i]? := by
  induction ws generalizing tab with
  | nil => rfl
  | cons w ws ih =>
    obtain ⟨hw, hws⟩ := List.forall_mem_cons.mp h
    rw [List.foldl_cons, ih _ (by rw [length_record]; exact hws), record, List.getElem?_set_ne hw]

/-- The last of the writes that share a slot with index `i`. -/
def lastIn (len : Nat) (ws : List (Nat × α)) (i : Nat) : Option (Nat × α) :=
  (ws.filter fun w => w.1 % len = i % len).getLast?

theorem lastIn_eq_some {ws : List (Nat × α)} {w : Nat × α} (h : lastIn len ws i = some w) :
    w ∈ ws ∧ w.1 % len = i % len := by
  have hmem := List.mem_filter.mp (List.mem_of_getLast? h)
  exact ⟨hmem.1, of_decide_eq_true hmem.2⟩

theorem lastIn_congr (ws : List (Nat × α)) (h : i % len = j % len) :
    lastIn len ws i = lastIn len ws j := by
  rw [lastIn, lastIn, h]

/-- A slot holds the value of the last write that went into it. -/
theorem getElem?_foldl_record_lastIn (tab : List α) (ws : List (Nat × α)) (i : Nat)
    (hpos : 0 < tab.length) :
    (ws.foldl record tab)[i % tab.length]? =
      ((lastIn tab.length ws i).map Prod.snd).or tab[i % tab.length]? := by
  induction ws using List.reverseRecOn with
  | nil => rfl
  | append_singleton ws w ih =>
    rw [List.foldl_append, List.foldl_cons, List.foldl_nil, record, length_foldl_record, lastIn,
      List.filter_append]
    by_cases hw : w.1 % tab.length = i % tab.length
    · rw [List.filter_cons_of_pos (by simpa using hw), List.filter_nil, List.getLast?_concat, hw]
      exact List.getElem?_set_self (by rw [length_foldl_record]; exact Nat.mod_lt i hpos)
    · rw [List.filter_cons_of_neg (by simpa using hw), List.filter_nil, List.append_nil,
        List.getElem?_set_ne hw, ih]
      rfl

/-- A write is the last one in its slot until an index a whole table length later is recorded. -/
theorem lastIn_of_window {ws : List (Nat × α)} {c : Nat} (hinc : ws.Pairwise fun a b => a.1 < b.1)
    (hw : (c, v) ∈ ws) (hwin : ∀ w ∈ ws, w.1 < c + len) : lastIn len ws c = some (c, v) := by
  obtain ⟨before, after, rfl⟩ := List.append_of_mem hw
  have hlater : ∀ w ∈ after, c < w.1 :=
    (List.pairwise_cons.mp (List.pairwise_append.mp hinc).2.1).1
  have hafter : after.filter (fun w => w.1 % len = c % len) = [] := by
    apply List.filter_eq_nil_iff.mpr
    intro w hmem
    rw [decide_eq_true_eq]
    exact mod_ne_of_window (hlater w hmem) (hwin w (by simp [hmem]))
  rw [lastIn, List.filter_append, List.filter_cons_of_pos (by simp), hafter,
    List.getLast?_concat]

/-- A value is found in its slot until an index a whole table length later is recorded. -/
theorem getElem?_foldl_record (tab : List α) {ws : List (Nat × α)} {c : Nat} (hpos : 0 < tab.length)
    (hinc : ws.Pairwise fun a b => a.1 < b.1) (hw : (c, v) ∈ ws)
    (hwin : ∀ w ∈ ws, w.1 < c + tab.length) :
    (ws.foldl record tab)[c % tab.length]? = some v := by
  rw [getElem?_foldl_record_lastIn tab ws c hpos, lastIn_of_window hinc hw hwin]
  rfl

end Window
