import Mathlib
import RtcTestbench.Lib.Machine

namespace Cells
open Machine
set_option autoImplicit true

/-- A table of cells: every event goes to the cell it names, and nothing happens to the others. -/
def table (addr : ε → Nat) (cell : System α ε (List ο)) : System (List α) ε (List ο) where
  step tab e :=
    match tab[addr e]? with
    | some a => (tab.set (addr e) (cell.step a e).1, (cell.step a e).2)
    | none => (tab, [])

variable {addr : ε → Nat} {cell : System α ε (List ο)} {tab : List α} {a : α} {e : ε} {i : Nat}

theorem table_step (ha : tab[addr e]? = some a) : (table addr cell).step tab e =
    (tab.set (addr e) (cell.step a e).1, (cell.step a e).2) := by
  simp only [table, ha]

theorem length_step (tab : List α) (e : ε) :
    ((table addr cell).step tab e).1.length = tab.length := by
  rw [table]
  dsimp only
  split
  · exact List.length_set
  · rfl

theorem length_run (tab : List α) (es : List ε) :
    ((table addr cell).run tab es).1.length = tab.length := by
  induction es generalizing tab with
  | nil => rfl
  | cons e es ih => rw [System.run_cons, ih, length_step]

theorem step_self (ha : tab[addr e]? = some a) :
    ((table addr cell).step tab e).1[addr e]? = some (cell.step a e).1 := by
  rw [table_step ha]
  exact List.getElem?_set_self (List.getElem?_eq_some_iff.mp ha).1

theorem step_other (h : addr e ≠ i) (tab : List α) :
    ((table addr cell).step tab e).1[i]? = tab[i]? := by
  rw [table]
  dsimp only
  split
  · exact List.getElem?_set_ne h
  · rfl

/-- What the events of one cell made known, in a run of the whole table. -/
def observedAt (addr : ε → Nat) (i : Nat) (es : List ε) (obs : List (List ο)) : List (List ο) :=
  ((es.zip obs).filter fun p => addr p.1 = i).map Prod.snd

theorem observedAt_cons (e : ε) (es : List ε) (o : List ο) (obs : List (List ο)) :
    observedAt addr i (e :: es) (o :: obs) =
      if addr e = i then o :: observedAt addr i es obs else observedAt addr i es obs := by
  rw [observedAt, List.zip_cons_cons, List.filter_cons]
  by_cases h : addr e = i
  · rw [if_pos h, if_pos (decide_eq_true h)]
    rfl
  · rw [if_neg h, if_neg (by simpa using h)]
    rfl

/-- A cell sees its own events and no others. -/
theorem run_cell (ha : tab[i]? = some a) (es : List ε) :
    ((table addr cell).run tab es).1[i]? =
        some (cell.run a (es.filter fun e => addr e = i)).1 ∧
      observedAt addr i es ((table addr cell).run tab es).2 =
        (cell.run a (es.filter fun e => addr e = i)).2 := by
  induction es generalizing tab a with
  | nil => exact ⟨ha, rfl⟩
  | cons e es ih =>
    rw [System.run_cons, observedAt_cons, List.filter_cons]
    by_cases h : addr e = i
    · subst h
      obtain ⟨hcell, hobs⟩ := ih (step_self ha)
      rw [if_pos (decide_eq_true rfl), if_pos rfl, System.run_cons]
      refine ⟨hcell, ?_⟩
      rw [hobs, table_step ha]
    · rw [if_neg (by simpa using h), if_neg h]
      exact ih ((step_other h tab).trans ha)

theorem flatMap_insert {x : γ} {f g : γ → List ο} {o : List ο} {addrs : List γ}
    (hnd : addrs.Nodup) (hx : x ∈ addrs) (hself : g x = o ++ f x)
    (hother : ∀ i ∈ addrs, i ≠ x → g i = f i) :
    (addrs.flatMap g).Perm (o ++ addrs.flatMap f) := by
  induction addrs with
  | nil => cases hx
  | cons y ys ih =>
    obtain ⟨hy, hnd⟩ := List.nodup_cons.mp hnd
    obtain ⟨hother, hothers⟩ := List.forall_mem_cons.mp hother
    rw [List.flatMap_cons, List.flatMap_cons]
    rcases List.mem_cons.mp hx with rfl | hx
    · have hys : ys.flatMap g = ys.flatMap f := by
        apply List.flatMap_congr
        intro i hi
        apply hothers i hi
        rintro rfl
        exact hy hi
      rw [hself, hys, List.append_assoc]
    · rw [hother (fun h => hy (h ▸ hx)), ← List.append_assoc]
      apply ((ih hnd hx hothers).append_left (f y)).trans
      rw [← List.append_assoc]
      exact List.perm_append_comm.append_right _

/-- Up to their order, the observations of a run are those of the cells. -/
theorem observed_perm {addrs : List Nat} (hnd : addrs.Nodup) (es : List ε) (obs : List (List ο))
    (hall : ∀ e ∈ es, addr e ∈ addrs) (hlen : obs.length = es.length) :
    obs.flatten.Perm (addrs.flatMap fun i => (observedAt addr i es obs).flatten) := by
  induction es generalizing obs with
  | nil =>
    rw [List.length_nil, List.length_eq_zero_iff] at hlen
    subst hlen
    have hnil : ∀ i, (observedAt addr i [] ([] : List (List ο))).flatten = [] := fun i => rfl
    rw [List.flatMap_congr fun i _ => hnil i]
    simp
  | cons e es ih =>
    cases obs with
    | nil => cases hlen
    | cons o obs =>
      obtain ⟨he, hall⟩ := List.forall_mem_cons.mp hall
      have hrest := ih obs hall (Nat.succ.inj hlen)
      rw [List.flatten_cons]
      apply (hrest.append_left o).trans
      apply List.Perm.symm
      apply flatMap_insert hnd he
      · rw [observedAt_cons, if_pos rfl, List.flatten_cons]
      · intro i _ hi
        rw [observedAt_cons, if_neg hi.symm]

theorem length_observed (tab : List α) (es : List ε) :
    ((table addr cell).run tab es).2.length = es.length := by
  induction es generalizing tab with
  | nil => rfl
  | cons e es ih => rw [System.run_cons, List.length_cons, List.length_cons, ih]

end Cells
