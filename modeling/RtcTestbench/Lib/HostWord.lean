import RtcTestbench.Lib.Buffer

namespace Buffer
set_option autoImplicit true

/-- The value of bytes, least significant first. -/
def ofLe (bytes : List UInt8) : Nat := ofBe bytes.reverse

/-- A word of `w` bytes in the memory of a little-endian machine. -/
def loadLe (mem : List UInt8) (off w : Nat) : Nat := ofLe (slice mem off w)

def storeLe (mem : List UInt8) (off w x : Nat) : List UInt8 := write mem off (leBytes w x)

variable {mem : List UInt8} {off off' w w' : Nat}

theorem ofLe_cons (b : UInt8) (bytes : List UInt8) :
    ofLe (b :: bytes) = ofLe bytes * 256 + b.toNat := by
  rw [ofLe, List.reverse_cons, ofBe_append_singleton, ofLe]

theorem ofLe_leBytes (w x : Nat) : ofLe (leBytes w x) = x % 256 ^ w := by
  induction w generalizing x with
  | zero => rw [Nat.pow_zero, Nat.mod_one]; rfl
  | succ w ih => rw [leBytes, ofLe_cons, ih, UInt8.toNat_ofNat', ← div_mod_pow_succ]

@[simp] theorem length_storeLe (mem : List UInt8) (off w x : Nat) :
    (storeLe mem off w x).length = mem.length := length_write _ _ _

theorem loadLe_storeLe (h : off + w ≤ mem.length) (x : Nat) :
    loadLe (storeLe mem off w x) off w = x % 256 ^ w := by
  have hlen := length_leBytes w x
  rw [loadLe, storeLe, slice_write_self _ _ (by omega) hlen.symm, ofLe_leBytes]

theorem loadLe_storeLe_word (h : off + 8 ≤ mem.length) (x : UInt64) :
    UInt64.ofNat (loadLe (storeLe mem off 8 x.toNat) off 8) = x := by
  have hx : x.toNat % 256 ^ 8 = x.toNat := Nat.mod_eq_of_lt x.toNat_lt
  rw [loadLe_storeLe h, hx, UInt64.ofNat_toNat]

theorem slice_storeLe_other (h : off + len ≤ off' ∨ off' + w ≤ off) (mem : List UInt8)
    (x : Nat) : slice (storeLe mem off' w x) off len = slice mem off len := by
  rcases h with h | h
  · exact slice_write_left _ _ h
  · exact slice_write_right _ _ (by rw [length_leBytes]; exact h)

theorem loadLe_storeLe_other (h : off + w ≤ off' ∨ off' + w' ≤ off) (mem : List UInt8)
    (x : Nat) : loadLe (storeLe mem off' w' x) off w = loadLe mem off w := by
  rw [loadLe, slice_storeLe_other h, loadLe]

end Buffer
