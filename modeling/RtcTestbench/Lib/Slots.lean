import RtcTestbench.Lib.Buffer

namespace Slots
open Buffer
set_option autoImplicit true

/-- A region is an array of slots of one size. -/
def slot (size : Nat) (mem : List α) (i : Nat) : List α := slice mem (i * size) size

/-- A loop over slots, one item for each of them. -/
def sweep (body : List α → Nat → β → List α) : List α → Nat → List β → List α
  | mem, _, [] => mem
  | mem, i, b :: bs => sweep body (body mem i b) (i + 1) bs

/-- The body of a loop that changes the slot it is at, by `effect`, and no other. -/
structure Confined (size : Nat) (body : List α → Nat → β → List α)
    (effect : β → List α → List α) : Prop where
  length_eq : ∀ mem i b, (body mem i b).length = mem.length
  self : ∀ mem i b, slot size (body mem i b) i = effect b (slot size mem i)
  other : ∀ mem i b j, j ≠ i → slot size (body mem i b) j = slot size mem j

variable {size off i j n : Nat} {mem src : List α} {body : List α → Nat → β → List α}
  {effect : β → List α → List α} {bs : List β}

theorem length_slot (h : mem.length = n * size) (hi : i < n) : (slot size mem i).length = size := by
  have hend := Nat.mul_le_mul_right size (Nat.succ_le_of_lt hi)
  rw [Nat.succ_mul] at hend
  exact length_slice (by omega)

theorem slot_write_self (mem src : List α) (i off : Nat) :
    slot size (write mem (i * size + off) src) i = write (slot size mem i) off src :=
  slice_write_shift _ _ _ _ _

theorem slot_write_other (h : off + src.length ≤ size) (hne : j ≠ i) (mem : List α) :
    slot size (write mem (i * size + off) src) j = slot size mem j := by
  rcases Nat.lt_or_gt_of_ne hne with hlt | hlt
  · have hend := Nat.mul_le_mul_right size (Nat.succ_le_of_lt hlt)
    rw [Nat.succ_mul] at hend
    exact slice_write_left _ _ (by omega)
  · have hend := Nat.mul_le_mul_right size (Nat.succ_le_of_lt hlt)
    rw [Nat.succ_mul] at hend
    exact slice_write_right _ _ (by omega)

theorem confined_write (f : β → List α) (h : ∀ b, off + (f b).length ≤ size) :
    Confined size (fun mem i b => write mem (i * size + off) (f b))
      (fun b mem => write mem off (f b)) where
  length_eq _ _ _ := length_write _ _ _
  self _ _ _ := slot_write_self _ _ _ _
  other mem _ b _ hne := slot_write_other (h b) hne mem

theorem length_sweep (h : Confined size body effect) (mem : List α) (i : Nat) (bs : List β) :
    (sweep body mem i bs).length = mem.length := by
  induction bs generalizing mem i with
  | nil => rfl
  | cons b bs ih => rw [sweep, ih, h.length_eq]

theorem slot_sweep_before (h : Confined size body effect) (hj : j < i) (mem : List α)
    (bs : List β) : slot size (sweep body mem i bs) j = slot size mem j := by
  induction bs generalizing mem i with
  | nil => rfl
  | cons b bs ih => rw [sweep, ih (Nat.lt_succ_of_lt hj), h.other _ _ _ _ (Nat.ne_of_lt hj)]

/-- After the loop every slot it passed is its own item's. -/
theorem slot_sweep (h : Confined size body effect) (hb : bs[j]? = some b) (mem : List α)
    (i : Nat) : slot size (sweep body mem i bs) (i + j) = effect b (slot size mem (i + j)) := by
  induction bs generalizing mem i j with
  | nil => cases hb
  | cons b' bs ih =>
    cases j with
    | zero =>
      cases hb
      change slot size (sweep body (body mem i b) (i + 1) bs) i = effect b (slot size mem i)
      rw [slot_sweep_before h (Nat.lt_succ_self i), h.self]
    | succ j =>
      have hnext := ih hb (body mem i b') (i + 1)
      rw [Nat.add_assoc, Nat.add_comm 1 j] at hnext
      rw [sweep, hnext, h.other _ _ _ _ (by omega)]

end Slots
