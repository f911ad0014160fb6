import Mathlib

namespace Tally
set_option autoImplicit true

section Fold
variable (op : α → α → α) (unit : α) [Std.Associative op] [Std.LawfulIdentity op unit]

theorem foldl_op (a : α) (xs : List α) : xs.foldl op a = op a (xs.foldl op unit) := by
  have hid : op a unit = a := Std.LawfulRightIdentity.right_id a
  have h : xs.foldl op (op a unit) = op a (xs.foldl op unit) := List.foldl_assoc
  rw [hid] at h
  exact h

theorem foldl_append (xs ys : List α) :
    (xs ++ ys).foldl op unit = op (xs.foldl op unit) (ys.foldl op unit) := by
  rw [List.foldl_append, foldl_op op unit]

/-- A summary of everything is the summary of the summaries of its parts. -/
theorem foldl_flatten (xss : List (List α)) :
    xss.flatten.foldl op unit = (xss.map fun xs => xs.foldl op unit).foldl op unit := by
  induction xss with
  | nil => rfl
  | cons xs xss ih =>
    have hid : op unit (xs.foldl op unit) = xs.foldl op unit := Std.LawfulLeftIdentity.left_id _
    rw [List.flatten_cons, foldl_append, ih, List.map_cons, List.foldl_cons, hid,
      foldl_op op unit (xs.foldl op unit)]

end Fold

section Extreme

theorem not_lt_trans {lt : α → α → Prop} [IsStrictTotalOrder α lt] {a b c : α} (h₁ : ¬ lt b a)
    (h₂ : ¬ lt c b) : ¬ lt c a := by
  intro h
  rcases trichotomous_of lt b c with hbc | rfl | hcb
  · exact h₁ (trans_of lt hbc h)
  · exact h₁ h
  · exact h₂ hcb

variable (lt : α → α → Prop) [DecidableRel lt]

/-- Keep the old value unless the new one beats it. -/
def pick (old new : α) : α := if lt new old then new else old

/-- `v` is the best of `xs`, or the value to start from if there are none. -/
def Extreme (start v : α) (xs : List α) : Prop :=
  (xs = [] ∧ v = start) ∨ (v ∈ xs ∧ ∀ x ∈ xs, ¬ lt x v)

variable [IsStrictTotalOrder α lt]

instance : Std.Associative (pick lt) where
  assoc a b c := by
    unfold pick
    by_cases hab : lt b a <;> by_cases hbc : lt c b <;> simp only [hab, hbc, ↓reduceIte]
    · rw [if_pos (trans_of lt hbc hab)]
    · rw [if_neg (not_lt_trans hab hbc)]

instance : Std.Commutative (pick lt) where
  comm a b := by
    unfold pick
    rcases trichotomous_of lt a b with h | rfl | h
    · rw [if_neg (asymm_of lt h), if_pos h]
    · rfl
    · rw [if_pos h, if_neg (asymm_of lt h)]

theorem foldl_pick (start : α) (xs : List α) :
    (xs.foldl (pick lt) start = start ∨ xs.foldl (pick lt) start ∈ xs) ∧
      ¬ lt start (xs.foldl (pick lt) start) ∧ ∀ x ∈ xs, ¬ lt x (xs.foldl (pick lt) start) := by
  induction xs generalizing start with
  | nil => exact ⟨.inl rfl, irrefl_of lt start, nofun⟩
  | cons y ys ih =>
    obtain ⟨hmem, hstart, hall⟩ := ih (pick lt start y)
    rw [List.foldl_cons]
    generalize ys.foldl (pick lt) (pick lt start y) = v at hmem hstart hall ⊢
    have hy : ¬ lt y v ∧ ¬ lt start v := by
      unfold pick at hstart
      split at hstart
      · rename_i hlt
        exact ⟨hstart, fun h => hstart (trans_of lt hlt h)⟩
      · rename_i hge
        exact ⟨not_lt_trans hstart hge, hstart⟩
    refine ⟨?_, hy.2, ?_⟩
    · rcases hmem with h | h
      · rw [h, pick]
        split
        · exact .inr List.mem_cons_self
        · exact .inl rfl
      · exact .inr (List.mem_cons_of_mem _ h)
    · intro x hx
      rcases List.mem_cons.mp hx with rfl | hx
      · exact hy.1
      · exact hall x hx

/-- Started from a value nothing loses to, the fold is exactly the best value. -/
theorem foldl_pick_extreme {worst : α} (hworst : ∀ x, ¬ lt worst x) (xs : List α) :
    Extreme lt worst (xs.foldl (pick lt) worst) xs := by
  obtain ⟨hmem, -, hall⟩ := foldl_pick lt worst xs
  cases xs with
  | nil => exact .inl ⟨rfl, rfl⟩
  | cons x xs =>
    refine .inr ⟨?_, hall⟩
    rcases hmem with h | h
    · have hx := hall x List.mem_cons_self
      rw [h] at hx ⊢
      rcases trichotomous_of lt x worst with hlt | rfl | hlt
      · exact absurd hlt hx
      · exact List.mem_cons_self
      · exact absurd hlt (hworst x)
    · exact h

theorem extreme_iff {worst v : α} (hworst : ∀ x, ¬ lt worst x) (xs : List α) :
    Extreme lt worst v xs ↔ v = xs.foldl (pick lt) worst := by
  have hfold := foldl_pick_extreme lt hworst xs
  constructor
  · rintro (⟨rfl, rfl⟩ | ⟨hv, hall⟩)
    · rfl
    · rcases hfold with ⟨rfl, -⟩ | ⟨hmem, hbest⟩
      · cases hv
      · rcases trichotomous_of lt v (xs.foldl (pick lt) worst) with h | h | h
        · exact absurd h (hbest v hv)
        · exact h
        · exact absurd h (hall _ hmem)
  · rintro rfl
    exact hfold

/-- For each value of one list the other has one that is at least as good. -/
def SameExtreme (xs ys : List α) : Prop :=
  (∀ x ∈ xs, ∃ y ∈ ys, ¬ lt x y) ∧ ∀ y ∈ ys, ∃ x ∈ xs, ¬ lt y x

omit [DecidableRel lt] [IsStrictTotalOrder α lt] in
theorem SameExtreme.nil_iff {xs ys : List α} (h : SameExtreme lt xs ys) : xs = [] ↔ ys = [] := by
  constructor
  · rintro rfl
    apply List.eq_nil_iff_forall_not_mem.mpr
    intro y hy
    obtain ⟨x, hx, -⟩ := h.2 y hy
    cases hx
  · rintro rfl
    apply List.eq_nil_iff_forall_not_mem.mpr
    intro x hx
    obtain ⟨y, hy, -⟩ := h.1 x hx
    cases hy

theorem foldl_pick_eq_iff {worst : α} (hworst : ∀ x, ¬ lt worst x) {xs ys : List α}
    (hnil : xs = [] ↔ ys = []) :
    xs.foldl (pick lt) worst = ys.foldl (pick lt) worst ↔ SameExtreme lt xs ys := by
  by_cases hxs : xs = []
  · rw [hxs, hnil.mp hxs]
    exact iff_of_true rfl ⟨nofun, nofun⟩
  · obtain ⟨hx, hxbest⟩ := (foldl_pick_extreme lt hworst xs).resolve_left fun h => hxs h.1
    obtain ⟨hy, hybest⟩ :=
      (foldl_pick_extreme lt hworst ys).resolve_left fun h => hxs (hnil.mpr h.1)
    generalize xs.foldl (pick lt) worst = v at hx hxbest ⊢
    generalize ys.foldl (pick lt) worst = w at hy hybest ⊢
    constructor
    · rintro rfl
      exact ⟨fun x hx' => ⟨v, hy, hxbest x hx'⟩, fun y hy' => ⟨v, hx, hybest y hy'⟩⟩
    · rintro ⟨hxy, hyx⟩
      obtain ⟨y, hy', hvy⟩ := hxy v hx
      obtain ⟨x, hx', hwx⟩ := hyx w hy
      rcases trichotomous_of lt v w with h | h | h
      · exact absurd h (not_lt_trans (hybest y hy') hvy)
      · exact h
      · exact absurd h (not_lt_trans (hxbest x hx') hwx)

theorem pick_lawfulIdentity {worst : α} (hworst : ∀ x, ¬ lt worst x) :
    Std.LawfulIdentity (pick lt) worst where
  left_id a := by
    unfold pick
    split
    · rfl
    · rename_i h
      rcases trichotomous_of lt a worst with hlt | rfl | hlt
      · exact absurd hlt h
      · rfl
      · exact absurd hlt (hworst a)
  right_id a := if_neg (hworst a)

end Extreme

/-- What has been recorded since a total was last cleared, period by period. -/
structure Books (ρ : Type) where
  closed : List (List ρ)
  current : List ρ

def Books.empty : Books ρ := ⟨[], []⟩

def Books.record (b : Books ρ) (rs : List ρ) : Books ρ := ⟨b.closed, b.current ++ rs⟩

def Books.close (b : Books ρ) : Books ρ := ⟨b.closed ++ [b.current], []⟩

def Books.total (b : Books ρ) : List ρ := b.closed.flatten ++ b.current

theorem Books.total_eq_flatten (b : Books ρ) : b.total = (b.closed ++ [b.current]).flatten := by
  rw [total, List.flatten_append, List.flatten_singleton]

@[simp] theorem Books.total_record (b : Books ρ) (rs : List ρ) :
    (b.record rs).total = b.total ++ rs := by
  simp only [total, record, List.append_assoc]

@[simp] theorem Books.total_close (b : Books ρ) : b.close.total = b.total := by
  simp only [total, close, List.flatten_append, List.flatten_singleton, List.append_nil]

end Tally
