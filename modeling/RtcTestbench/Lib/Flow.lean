import RtcTestbench.Lib.Machine

namespace Flow
open Machine
set_option autoImplicit true

/-- How what comes out of a queue may be related to what went in: an order on lists that appending
keeps. -/
structure Order (r : List α → List α → Prop) : Prop where
  refl : ∀ xs, r xs xs
  trans : ∀ xs ys zs, r xs ys → r ys zs → r xs zs
  append : ∀ xs ys xs' ys', r xs ys → r xs' ys' → r (xs ++ xs') (ys ++ ys')

/-- Nothing is lost. -/
theorem order_eq : Order (α := α) (· = ·) where
  refl xs := rfl
  trans xs ys zs h h' := h.trans h'
  append xs ys xs' ys' h h' := by rw [h, h']

/-- Anything may be lost, but nothing changes places and nothing comes twice. -/
theorem order_sublist : Order (α := α) List.Sublist where
  refl := List.Sublist.refl
  trans _ _ _ h h' := h.trans h'
  append _ _ _ _ h h' := h.append h'

/-- A queue held `waiting`, let `entered` in and `left` out, and holds `waiting'`. -/
def Passes (r : List α → List α → Prop) (waiting entered left waiting' : List α) : Prop :=
  r (left ++ waiting') (waiting ++ entered)

variable {r : List α → List α → Prop} {w w' w'' v v' i i' m o o' : List α}

theorem passes_enter (h : Order r) (w i : List α) : Passes r w i [] (w ++ i) := h.refl _

theorem passes_leave (h : Order r) (o w : List α) : Passes r (o ++ w) [] o w := by
  rw [Passes, List.append_nil]
  exact h.refl _

theorem passes_keep (hr : r w' w) : Passes r w [] [] w' := by
  rw [Passes, List.append_nil]
  exact hr

/-- One step after the other. -/
theorem Passes.trans (h : Order r) (h₁ : Passes r w i o w') (h₂ : Passes r w' i' o' w'') :
    Passes r w (i ++ i') (o ++ o') w'' := by
  rw [Passes, List.append_assoc, ← List.append_assoc w]
  apply h.trans _ (o ++ (w' ++ i'))
  · exact h.append _ _ _ _ (h.refl o) h₂
  · rw [← List.append_assoc]
    exact h.append _ _ _ _ h₁ (h.refl i')

/-- One queue behind the other: what leaves the first enters the second. -/
theorem Passes.series (h : Order r) (h₁ : Passes r w i m w') (h₂ : Passes r v m o v') :
    Passes r (v ++ w) i o (v' ++ w') := by
  rw [Passes, ← List.append_assoc, List.append_assoc v]
  apply h.trans _ (v ++ (m ++ w'))
  · rw [← List.append_assoc]
    exact h.append _ _ _ _ h₂ (h.refl w')
  · exact h.append _ _ _ _ (h.refl v) h₁

/-- Two queues in a row: if every step of a system passes elements on through both, so does a run.
What is observed in a step shows what entered, what changed over and what left. -/
theorem run_passes (h : Order r) {sys : System σ ε ο} {I : σ → List α → List α → Prop}
    {P : σ → ε → Prop} {Shows : ο → List α → List α → List α → Prop}
    (hstep : ∀ s v w e, I s v w → P s e → ∃ i m o v' w', I (sys.step s e).1 v' w' ∧
      Shows (sys.step s e).2 i m o ∧ Passes r w i m w' ∧ Passes r v m o v')
    (hs : I s v w) (ha : sys.Along P s es) :
    ∃ (shown : List (List α × List α × List α)) (v' w' : List α), I (sys.run s es).1 v' w' ∧
      List.Forall₂ (fun obs imo => Shows obs imo.1 imo.2.1 imo.2.2) (sys.run s es).2 shown ∧
      Passes r w (shown.flatMap (·.1)) (shown.flatMap (·.2.1)) w' ∧
      Passes r v (shown.flatMap (·.2.1)) (shown.flatMap (·.2.2)) v' := by
  induction es generalizing s v w with
  | nil => exact ⟨[], v, w, hs, .nil, passes_keep (h.refl w), passes_keep (h.refl v)⟩
  | cons e es ih =>
    obtain ⟨i, m, o, v₁, w₁, hi₁, hshow, hw, hv⟩ := hstep s v w e hs ha.1
    obtain ⟨shown, v₂, w₂, hi₂, hshows, hw', hv'⟩ := ih hi₁ ha.2
    exact ⟨(i, m, o) :: shown, v₂, w₂, hi₂, .cons hshow hshows, hw.trans h hw', hv.trans h hv'⟩

/-- What is left of a list leaves its part of a list beside it. -/
theorem forall₂_sublist {R : α → β → Prop} (h : List.Forall₂ R xs ys) (hs : xs'.Sublist xs) :
    ∃ ys', ys'.Sublist ys ∧ List.Forall₂ R xs' ys' := by
  induction h generalizing xs' with
  | nil =>
    cases hs
    exact ⟨[], .refl _, .nil⟩
  | cons hxy _ ih =>
    cases hs with
    | cons _ hs =>
      obtain ⟨ys', hys, hall⟩ := ih hs
      exact ⟨ys', hys.cons _, hall⟩
    | cons_cons _ hs =>
      obtain ⟨ys', hys, hall⟩ := ih hs
      exact ⟨_ :: ys', hys.cons_cons _, .cons hxy hall⟩

theorem forall₂_trans {R : α → β → Prop} {S : β → γ → Prop} {T : α → γ → Prop}
    (hT : ∀ x y z, R x y → S y z → T x z) (h : List.Forall₂ R xs ys)
    (h' : List.Forall₂ S ys zs) : List.Forall₂ T xs zs := by
  induction h generalizing zs with
  | nil =>
    cases h'
    exact .nil
  | cons hr _ ih =>
    cases h' with
    | cons hs hrest => exact .cons (hT _ _ _ hr hs) (ih hrest)

/-- Elements give way to others that are as good. -/
theorem forall₂_replace {R : α → β → Prop} (h : List.Forall₂ R (xs ++ ys) ws)
    (hy : List.Forall₂ (fun y y' => ∀ w, R y w → R y' w) ys ys') :
    List.Forall₂ R (xs ++ ys') ws := by
  induction xs generalizing ws with
  | nil =>
    rw [List.nil_append] at h ⊢
    induction hy generalizing ws with
    | nil => exact h
    | cons hyy _ ih =>
      cases h with
      | cons hw h => exact .cons (hyy _ hw) (ih h)
  | cons x xs ih =>
    cases h with
    | cons hw h => exact .cons hw (ih h)

end Flow
