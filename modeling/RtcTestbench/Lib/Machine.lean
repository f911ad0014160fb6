import Mathlib

namespace Machine
set_option autoImplicit true

/-- A reactive system: every event changes the state and produces one observation. -/
structure System (σ ε ο : Type) where
  step : σ → ε → σ × ο

/-- The state after a sequence of events, with the observations made on the way. -/
def System.run (m : System σ ε ο) : σ → List ε → σ × List ο
  | s, [] => (s, [])
  | s, e :: es =>
    let r := m.run (m.step s e).1 es
    (r.1, (m.step s e).2 :: r.2)

@[simp] theorem System.run_nil (m : System σ ε ο) (s : σ) : m.run s [] = (s, []) := rfl

theorem System.run_cons (m : System σ ε ο) (s : σ) (e : ε) (es : List ε) :
    m.run s (e :: es) =
      ((m.run (m.step s e).1 es).1, (m.step s e).2 :: (m.run (m.step s e).1 es).2) := rfl

theorem System.run_append (m : System σ ε ο) (s : σ) (es fs : List ε) :
    m.run s (es ++ fs) =
      ((m.run (m.run s es).1 fs).1, (m.run s es).2 ++ (m.run (m.run s es).1 fs).2) := by
  induction es generalizing s with
  | nil => rfl
  | cons e es ih => simp only [List.cons_append, run_cons, ih]

theorem System.length_run (m : System σ ε ο) (s : σ) (es : List ε) :
    (m.run s es).2.length = es.length := by
  induction es generalizing s with
  | nil => rfl
  | cons e es ih => rw [run_cons, List.length_cons, List.length_cons, ih]

/-- Every output is that of an event of the run. -/
theorem System.exists_mem_zip (m : System σ ε ο) (h : o ∈ (m.run s es).2) :
    ∃ e, (e, o) ∈ es.zip (m.run s es).2 := by
  obtain ⟨i, hi⟩ := List.mem_iff_getElem?.mp h
  obtain ⟨hlt, -⟩ := List.getElem?_eq_some_iff.mp hi
  rw [m.length_run] at hlt
  have hzip : (es.zip (m.run s es).2)[i]? = some (es[i], o) :=
    List.getElem?_zip_eq_some.mpr ⟨List.getElem?_eq_getElem hlt, hi⟩
  exact ⟨es[i], List.mem_of_getElem? hzip⟩

theorem System.run_invariant (m : System σ ε ο) (I : σ → Prop)
    (hstep : ∀ s e, I s → I (m.step s e).1) (hs : I s) (es : List ε) :
    I (m.run s es).1 := by
  induction es generalizing s with
  | nil => exact hs
  | cons e es ih => exact ih (hstep s e hs)

/-- A system seen through maps of its states, events and observations. -/
theorem System.run_map {m : System σ ε ο} {n : System τ φ π} {f : σ → τ} {g : ε → φ} {o : ο → π}
    (hstep : ∀ s e, n.step (f s) (g e) = (f (m.step s e).1, o (m.step s e).2)) (s : σ)
    (es : List ε) : n.run (f s) (es.map g) = (f (m.run s es).1, (m.run s es).2.map o) := by
  induction es generalizing s with
  | nil => rfl
  | cons e es ih => rw [List.map_cons, run_cons, run_cons, hstep, ih, List.map_cons]

/-- Every step of the run is taken in a state that admits its event. -/
def System.Along (m : System σ ε ο) (P : σ → ε → Prop) : σ → List ε → Prop
  | _, [] => True
  | s, e :: es => P s e ∧ m.Along P (m.step s e).1 es

theorem System.along_map {m : System σ ε ο} {n : System τ φ π} {f : σ → τ} {g : ε → φ} {o : ο → π}
    (hstep : ∀ s e, n.step (f s) (g e) = (f (m.step s e).1, o (m.step s e).2)) (s : σ)
    (es : List ε) : n.Along P (f s) (es.map g) ↔ m.Along (fun s e => P (f s) (g e)) s es := by
  induction es generalizing s with
  | nil => exact Iff.rfl
  | cons e es ih => rw [List.map_cons, System.Along, System.Along, hstep, ih]

/-- Related states stay related and answer alike every event that `P` admits. -/
structure Simulates (m : System σ ε ο) (n : System τ ε ο) (P : σ → ε → Prop)
    (R : σ → τ → Prop) : Prop where
  related : R s t → P s e → R (m.step s e).1 (n.step t e).1
  observed : R s t → P s e → (m.step s e).2 = (n.step t e).2

theorem Simulates.run {m : System σ ε ο} {n : System τ ε ο} (h : Simulates m n P R)
    (hr : R s t) (ha : m.Along P s es) :
    R (m.run s es).1 (n.run t es).1 ∧ (m.run s es).2 = (n.run t es).2 := by
  induction es generalizing s t with
  | nil => exact ⟨hr, rfl⟩
  | cons e es ih =>
    obtain ⟨hr', ho⟩ := ih (h.related hr ha.1) ha.2
    refine ⟨hr', ?_⟩
    rw [System.run_cons, System.run_cons, h.observed hr ha.1, ho]

/-- Two conditions that agree in the states of an invariant agree along a run. -/
theorem System.along_congr {m : System σ ε ο} {I : σ → Prop} {P P' Q : σ → ε → Prop}
    (hstep : ∀ s e, I s → Q s e → I (m.step s e).1)
    (hP : ∀ s e, I s → Q s e → (P s e ↔ P' s e)) (hs : I s) (hQ : m.Along Q s es) :
    m.Along P s es ↔ m.Along P' s es := by
  induction es generalizing s with
  | nil => exact Iff.rfl
  | cons e es ih =>
    exact and_congr (hP s e hs hQ.1) (ih (hstep s e hs hQ.1) hQ.2)

/-- A property that every step keeps exactly under a condition holds after a run exactly if it held
before and the condition is met along the way. -/
theorem System.run_iff_along {m : System σ ε ο} {I G : σ → Prop} {P Q : σ → ε → Prop}
    (hstep : ∀ s e, I s → Q s e → I (m.step s e).1)
    (hG : ∀ s e, I s → Q s e → (G (m.step s e).1 ↔ G s ∧ P s e)) (hs : I s)
    (hQ : m.Along Q s es) : G (m.run s es).1 ↔ G s ∧ m.Along P s es := by
  induction es generalizing s with
  | nil => exact (and_iff_left trivial).symm
  | cons e es ih =>
    rw [System.run_cons, System.Along, ih (hstep s e hs hQ.1) hQ.2, hG s e hs hQ.1, and_assoc]

theorem System.along_append (m : System σ ε ο) (s : σ) (es es' : List ε) :
    m.Along P s (es ++ es') ↔ m.Along P s es ∧ m.Along P (m.run s es).1 es' := by
  induction es generalizing s with
  | nil => exact (and_iff_right trivial).symm
  | cons e es ih =>
    rw [List.cons_append, System.Along, System.Along, ih, and_assoc]
    rfl

theorem System.along_iff_split (m : System σ ε ο) (s : σ) (es : List ε) :
    m.Along P s es ↔ ∀ before e after, es = before ++ e :: after → P (m.run s before).1 e := by
  induction es generalizing s with
  | nil =>
    apply iff_of_true trivial
    intro before e after h
    exact absurd h.symm (List.append_ne_nil_of_right_ne_nil _ (List.cons_ne_nil _ _))
  | cons e es ih =>
    rw [System.Along, ih]
    constructor
    · rintro ⟨he, hes⟩ before e' after h
      cases before with
      | nil =>
        cases h
        exact he
      | cons b before =>
        cases h
        exact hes before e' after rfl
    · intro h
      exact ⟨h [] e es rfl, fun before e' after heq => h (e :: before) e' after (by rw [heq]; rfl)⟩

theorem System.along_of_forall (m : System σ ε ο) (h : ∀ s, ∀ e ∈ es, P s e) (s : σ) :
    m.Along P s es := by
  induction es generalizing s with
  | nil => trivial
  | cons e es ih =>
    exact ⟨h s e List.mem_cons_self, ih (fun s e he => h s e (List.mem_cons_of_mem _ he)) _⟩

theorem System.Along.and {m : System σ ε ο} (h : m.Along P s es) (h' : m.Along Q s es) :
    m.Along (fun s e => P s e ∧ Q s e) s es := by
  induction es generalizing s with
  | nil => trivial
  | cons e es ih => exact ⟨⟨h.1, h'.1⟩, ih h.2 h'.2⟩

theorem System.Along.and_forall {m : System σ ε ο} {Q : ε → Prop} (h : m.Along P s es)
    (hQ : ∀ e ∈ es, Q e) :
    m.Along (fun s e => Q e ∧ P s e) s es := by
  induction es generalizing s with
  | nil => trivial
  | cons e es ih =>
    exact ⟨⟨hQ e List.mem_cons_self, h.1⟩,
      ih h.2 fun e he => hQ e (List.mem_cons_of_mem _ he)⟩

end Machine
