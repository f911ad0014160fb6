import Mathlib

namespace Buffer
set_option autoImplicit true

/-- The `len` cells of a memory region that start at offset `off`. -/
def slice (mem : List α) (off len : Nat) : List α := (mem.drop off).take len

/-- Copy `src` over the cells from `off` on; cells outside the region are not touched. -/
def write : List α → Nat → List α → List α
  | [], _, _ => []
  | b :: mem, 0, [] => b :: mem
  | _ :: mem, 0, x :: src => x :: write mem 0 src
  | b :: mem, off + 1, src => b :: write mem off src

@[simp] theorem length_write (mem : List α) (off : Nat) (src : List α) :
    (write mem off src).length = mem.length := by
  induction mem generalizing off src with
  | nil => rfl
  | cons b mem ih =>
    cases off with
    | zero =>
      cases src with
      | nil => rfl
      | cons x src => simp only [write, List.length_cons, ih]
    | succ off => simp only [write, List.length_cons, ih]

theorem getElem?_write (mem : List α) (off : Nat) (src : List α) (i : Nat) :
    (write mem off src)[i]? =
      if off ≤ i ∧ i < off + src.length ∧ i < mem.length then src[i - off]? else mem[i]? := by
  induction mem generalizing off src i with
  | nil => simp [write]
  | cons b mem ih =>
    cases off with
    | zero =>
      cases src with
      | nil => simp [write]
      | cons x src =>
        cases i with
        | zero => simp [write]
        | succ i =>
          simp only [write, List.getElem?_cons_succ, ih, List.length_cons]
          by_cases h : i < src.length ∧ i < mem.length
          · rw [if_pos (by omega), if_pos (by omega), Nat.sub_zero, Nat.sub_zero,
              List.getElem?_cons_succ]
          · rw [if_neg (by omega), if_neg (by omega)]
    | succ off =>
      cases i with
      | zero => simp [write]
      | succ i =>
        simp only [write, List.getElem?_cons_succ, ih, List.length_cons]
        by_cases h : off ≤ i ∧ i < off + src.length ∧ i < mem.length
        · rw [if_pos h, if_pos (by omega), Nat.add_sub_add_right]
        · rw [if_neg h, if_neg (by omega)]

theorem getElem?_slice (mem : List α) (off len i : Nat) :
    (slice mem off len)[i]? = if i < len then mem[off + i]? else none := by
  simp only [slice, List.getElem?_take, List.getElem?_drop]

theorem length_slice (h : off + len ≤ mem.length) : (slice mem off len).length = len := by
  simp only [slice, List.length_take, List.length_drop]
  omega

theorem length_slice_le (mem : List α) (off len : Nat) : (slice mem off len).length ≤ len :=
  List.length_take_le _ _

theorem slice_full (mem : List α) : slice mem 0 mem.length = mem := by
  simp only [slice, List.drop_zero, List.take_length]

theorem slice_write_left (mem src : List α) (h : i + len ≤ off) :
    slice (write mem off src) i len = slice mem i len := by
  apply List.ext_getElem?
  intro j
  simp only [getElem?_slice, getElem?_write]
  split
  · rw [if_neg (by omega)]
  · rfl

theorem slice_write_right (mem src : List α) (h : off + src.length ≤ i) :
    slice (write mem off src) i len = slice mem i len := by
  apply List.ext_getElem?
  intro j
  simp only [getElem?_slice, getElem?_write]
  split
  · rw [if_neg (by omega)]
  · rfl

theorem slice_write_within (mem src : List α) (hm : off + src.length ≤ mem.length)
    (hi : off ≤ i) (hl : i + len ≤ off + src.length) :
    slice (write mem off src) i len = slice src (i - off) len := by
  apply List.ext_getElem?
  intro j
  simp only [getElem?_slice, getElem?_write]
  split
  · rw [if_pos (by omega)]
    congr 1
    omega
  · rfl

theorem slice_write_self (mem src : List α) (hm : off + src.length ≤ mem.length)
    (hl : len = src.length) : slice (write mem off src) off len = src := by
  subst hl
  rw [slice_write_within mem src hm (Nat.le_refl _) (Nat.le_refl _), Nat.sub_self, slice_full]

theorem write_whole (mem src : List α) (h : mem.length = src.length) : write mem 0 src = src := by
  have hself : slice (write mem 0 src) 0 (write mem 0 src).length = src :=
    slice_write_self mem src (by omega) (by rw [length_write, h])
  rw [slice_full] at hself
  exact hself

/-- A part of a region is replaced by one of the same length, also where the region ends early. -/
theorem slice_write_slice (mem src : List α) (h : src.length = (slice mem off len).length) :
    slice (write mem off src) off len = src := by
  simp only [slice, List.length_take, List.length_drop] at h
  apply List.ext_getElem?
  intro j
  simp only [getElem?_slice, getElem?_write]
  by_cases hj : j < src.length
  · rw [if_pos (by omega), if_pos (by omega), Nat.add_sub_cancel_left]
  · rw [List.getElem?_eq_none (by omega : src.length ≤ j)]
    split
    · rw [if_neg (by omega), List.getElem?_eq_none (by omega)]
    · rfl

theorem slice_slice (mem : List α) (h : i + m ≤ len) :
    slice (slice mem off len) i m = slice mem (off + i) m := by
  apply List.ext_getElem?
  intro j
  simp only [getElem?_slice]
  split
  · rw [if_pos (by omega), Nat.add_assoc]
  · rfl

theorem slice_write_shift (mem src : List α) (off i len : Nat) :
    slice (write mem (off + i) src) off len = write (slice mem off len) i src := by
  apply List.ext_getElem?
  intro j
  have hlen : (slice mem off len).length = min len (mem.length - off) := by
    simp only [slice, List.length_take, List.length_drop]
  simp only [getElem?_write, getElem?_slice, hlen]
  by_cases hj : j < len
  · rw [if_pos hj, if_pos hj, show off + j - (off + i) = j - i by omega]
    refine if_congr ?_ rfl rfl
    omega
  · rw [if_neg hj, if_neg (by omega), if_neg hj]

theorem write_slice (mem : List α) (off len : Nat) : write mem off (slice mem off len) = mem := by
  apply List.ext_getElem?
  intro j
  simp only [getElem?_write, getElem?_slice]
  have hshort : (slice mem off len).length ≤ len := List.length_take_le _ _
  split
  · rw [if_pos (by omega), Nat.add_sub_cancel' (by omega)]
  · rfl

theorem slice_append_left (xs ys : List α) (h : off + len ≤ xs.length) :
    slice (xs ++ ys) off len = slice xs off len := by
  apply List.ext_getElem?
  intro j
  simp only [getElem?_slice]
  split
  · rw [List.getElem?_append_left (by omega)]
  · rfl

theorem slice_append_right (xs ys : List α) (h : xs.length ≤ off) :
    slice (xs ++ ys) off len = slice ys (off - xs.length) len := by
  apply List.ext_getElem?
  intro j
  simp only [getElem?_slice]
  split
  · rw [List.getElem?_append_right (by omega)]
    congr 1
    omega
  · rfl

theorem slice_add (mem : List α) (off a b : Nat) :
    slice mem off (a + b) = slice mem off a ++ slice mem (off + a) b := by
  rw [slice, slice, slice, List.take_add, List.drop_drop]

theorem drop_slice (mem : List α) (off i len : Nat) :
    slice (mem.drop off) i len = slice mem (off + i) len := by
  rw [slice, slice, List.drop_drop]

theorem take_slice (mem : List α) (h : i + len ≤ n) :
    slice (mem.take n) i len = slice mem i len := by
  apply List.ext_getElem?
  intro j
  simp only [getElem?_slice, List.getElem?_take]
  split
  · rw [if_pos (by omega)]
  · rfl

theorem slice_take (mem : List α) (off : Nat) (h : k ≤ len) :
    (slice mem off len).take k = slice mem off k := by
  rw [slice, slice, List.take_take, Nat.min_eq_left h]

/-- A sequence of copies into one region, each at its own offset. -/
def writeAll (mem : List α) (ws : List (Nat × List α)) : List α :=
  ws.foldl (fun mem w => write mem w.1 w.2) mem

@[simp] theorem length_writeAll (mem : List α) (ws : List (Nat × List α)) :
    (writeAll mem ws).length = mem.length := by
  induction ws generalizing mem with
  | nil => rfl
  | cons w ws ih => rw [writeAll, List.foldl_cons, ← writeAll, ih, length_write]

theorem slice_writeAll_disjoint (mem : List α)
    (h : ∀ w ∈ ws, i + len ≤ w.1 ∨ w.1 + w.2.length ≤ i) :
    slice (writeAll mem ws) i len = slice mem i len := by
  induction ws generalizing mem with
  | nil => rfl
  | cons w ws ih =>
    rw [writeAll, List.foldl_cons, ← writeAll, ih _ fun v hv => h v (List.mem_cons_of_mem _ hv)]
    rcases h w List.mem_cons_self with h | h
    · exact slice_write_left _ _ h
    · exact slice_write_right _ _ h

theorem slice_writeAll_within (mem : List α) (k : Nat) (hk : ws[k]? = some (off, src))
    (hm : off + src.length ≤ mem.length) (hi : off ≤ i) (hl : i + len ≤ off + src.length)
    (hpost : ∀ w ∈ ws.drop (k + 1), i + len ≤ w.1 ∨ w.1 + w.2.length ≤ i) :
    slice (writeAll mem ws) i len = slice src (i - off) len := by
  induction k generalizing mem ws with
  | zero =>
    cases ws with
    | nil => cases hk
    | cons w ws =>
      cases hk
      rw [writeAll, List.foldl_cons, ← writeAll]
      exact (slice_writeAll_disjoint _ hpost).trans (slice_write_within mem src hm hi hl)
  | succ k ih =>
    cases ws with
    | nil => cases hk
    | cons w ws =>
      rw [writeAll, List.foldl_cons, ← writeAll]
      exact ih _ hk (by rw [length_write]; exact hm) hpost

theorem slice_writeAll_at (mem : List α) (k : Nat) (hk : ws[k]? = some (off, src))
    (hm : off + src.length ≤ mem.length)
    (hpost : ∀ w ∈ ws.drop (k + 1), off + src.length ≤ w.1 ∨ w.1 + w.2.length ≤ off) :
    slice (writeAll mem ws) off src.length = src := by
  rw [slice_writeAll_within mem k hk hm (Nat.le_refl _) (Nat.le_refl _) hpost, Nat.sub_self,
    slice_full]

/-- One of the copies reaches the cell `i`. -/
def Covers (ws : List (Nat × List α)) (i : Nat) : Prop :=
  ∃ w ∈ ws, w.1 ≤ i ∧ i < w.1 + w.2.length

theorem writeAll_cons (mem : List α) (w : Nat × List α) (ws : List (Nat × List α)) :
    writeAll mem (w :: ws) = writeAll (write mem w.1 w.2) ws := rfl

theorem not_covers_cons : ¬ Covers (w :: ws) i ↔
    ¬ (w.1 ≤ i ∧ i < w.1 + w.2.length) ∧ ¬ Covers ws i := by
  simp only [Covers, List.exists_mem_cons_iff, not_or]

theorem getElem?_writeAll_of_not_covers (mem : List α) (h : ¬ Covers ws i) :
    (writeAll mem ws)[i]? = mem[i]? := by
  induction ws generalizing mem with
  | nil => rfl
  | cons w ws ih =>
    obtain ⟨hw, hws⟩ := not_covers_cons.mp h
    rw [writeAll_cons, ih _ hws, getElem?_write]
    exact if_neg fun h => hw ⟨h.1, h.2.1⟩

/-- There is a memory of which the function changes the cell `k`. -/
def Touches (f : List α → List α) (k : Nat) : Prop := ∃ mem, (f mem)[k]? ≠ mem[k]?

/-- Copies that end before `n` touch nothing behind it. -/
theorem Touches.lt (h : Touches f k)
    (hf : ∀ mem, ∃ ws, f mem = writeAll mem ws ∧ ∀ w ∈ ws, w.1 + w.2.length ≤ n) : k < n := by
  obtain ⟨mem, hmem⟩ := h
  obtain ⟨ws, hws, hend⟩ := hf mem
  by_contra hk
  apply hmem
  rw [hws]
  apply getElem?_writeAll_of_not_covers
  rintro ⟨w, hw, -, hlt⟩
  have := hend w hw
  omega

/-- The copies leave nothing of the cells they cover. -/
theorem writeAll_congr {mem mem' : List α} (hlen : mem.length = mem'.length)
    (h : ∀ i, ¬ Covers ws i → mem[i]? = mem'[i]?) : writeAll mem ws = writeAll mem' ws := by
  induction ws generalizing mem mem' with
  | nil => exact List.ext_getElem? fun i => h i nofun
  | cons w ws ih =>
    rw [writeAll_cons, writeAll_cons]
    apply ih
    · rw [length_write, length_write, hlen]
    · intro i hi
      rw [getElem?_write, getElem?_write, hlen]
      split
      · rfl
      · rename_i hw
        by_cases hin : w.1 ≤ i ∧ i < w.1 + w.2.length
        · have hout : mem'.length ≤ i := Nat.le_of_not_lt fun hlt => hw ⟨hin.1, hin.2, hlt⟩
          rw [List.getElem?_eq_none hout, List.getElem?_eq_none (hlen ▸ hout)]
        · exact h i (not_covers_cons.mpr ⟨hin, hi⟩)

theorem writeAll_writeAll (mem : List α) (h : ∀ i, Covers ws i → Covers ws' i) :
    writeAll (writeAll mem ws) ws' = writeAll mem ws' :=
  writeAll_congr (length_writeAll _ _) fun _ hi =>
    getElem?_writeAll_of_not_covers mem fun hws => hi (h _ hws)

theorem take_write (mem : List α) (off : Nat) (src : List α) (n : Nat) :
    (write mem off src).take n = write (mem.take n) off src := by
  apply List.ext_getElem?
  intro i
  simp only [List.getElem?_take, getElem?_write, List.length_take]
  by_cases hi : i < n
  · simp only [Nat.lt_min, hi, true_and, if_true]
  · rw [if_neg hi, if_neg hi, if_neg (by omega)]

theorem take_writeAll (mem : List α) (ws : List (Nat × List α)) (n : Nat) :
    (writeAll mem ws).take n = writeAll (mem.take n) ws := by
  induction ws generalizing mem with
  | nil => rfl
  | cons w ws ih => rw [writeAll_cons, ih, take_write, writeAll_cons]

theorem write_replicate (mem : List α) (h : mem.length ≤ n) (x : α) :
    write mem 0 (List.replicate n x) = List.replicate mem.length x := by
  apply List.ext_getElem?
  intro i
  rw [getElem?_write, List.getElem?_replicate, List.getElem?_replicate, List.length_replicate]
  by_cases hi : i < mem.length
  · rw [if_pos (by omega), if_pos (by omega), if_pos hi]
  · rw [if_neg (by omega), if_neg hi, List.getElem?_eq_none (Nat.le_of_not_lt hi)]

/-- Work on the memory behind a pointer into a region. -/
def atOffset (mem : List α) (off : Nat) (f : List α → List α) : List α :=
  mem.take off ++ f (mem.drop off)

theorem slice_atOffset_left (mem : List α) (f : List α → List α) (h : i + len ≤ off)
    (hm : i + len ≤ mem.length) : slice (atOffset mem off f) i len = slice mem i len := by
  rw [atOffset, slice_append_left _ _ (by rw [List.length_take]; omega), take_slice mem h]

theorem slice_atOffset_right (mem : List α) (f : List α → List α) (i len : Nat)
    (hm : off ≤ mem.length) :
    slice (atOffset mem off f) (off + i) len = slice (f (mem.drop off)) i len := by
  have ht : (mem.take off).length = off := by rw [List.length_take]; omega
  rw [atOffset, slice_append_right _ _ (by omega), ht, Nat.add_sub_cancel_left]

theorem length_atOffset (mem : List α) {f : List α → List α}
    (hf : ∀ xs, (f xs).length = xs.length) : (atOffset mem off f).length = mem.length := by
  rw [atOffset, List.length_append, hf, List.length_take, List.length_drop]
  omega

/-- The `w` low-order bytes of `x`, most significant first. -/
def beBytes : Nat → Nat → List UInt8
  | 0, _ => []
  | w + 1, x => beBytes w (x / 256) ++ [UInt8.ofNat x]

def ofBe (bytes : List UInt8) : Nat := bytes.foldl (fun acc b => acc * 256 + b.toNat) 0

/-- The `w` low-order bytes of `x`, least significant first. -/
def leBytes : Nat → Nat → List UInt8
  | 0, _ => []
  | w + 1, x => UInt8.ofNat x :: leBytes w (x / 256)

@[simp] theorem length_beBytes (w x : Nat) : (beBytes w x).length = w := by
  induction w generalizing x with
  | zero => rfl
  | succ w ih => simp only [beBytes, List.length_append, ih, List.length_singleton]

@[simp] theorem length_leBytes (w x : Nat) : (leBytes w x).length = w := by
  induction w generalizing x with
  | zero => rfl
  | succ w ih => simp only [leBytes, List.length_cons, ih]

theorem ofBe_append_singleton (bytes : List UInt8) (b : UInt8) :
    ofBe (bytes ++ [b]) = ofBe bytes * 256 + b.toNat := by
  simp only [ofBe, List.foldl_append, List.foldl_cons, List.foldl_nil]

theorem div_mod_pow_succ (x w : Nat) :
    x / 256 % 256 ^ w * 256 + x % 256 = x % 256 ^ (w + 1) := by
  rw [Nat.pow_succ, Nat.mul_comm (256 ^ w) 256, Nat.mod_mul, Nat.mul_comm 256, Nat.add_comm]

theorem ofBe_beBytes (w x : Nat) : ofBe (beBytes w x) = x % 256 ^ w := by
  induction w generalizing x with
  | zero => simp [beBytes, ofBe, Nat.mod_one]
  | succ w ih =>
    rw [beBytes, ofBe_append_singleton, ih, UInt8.toNat_ofNat', ← div_mod_pow_succ]

theorem beBytes_ofBe (bytes : List UInt8) : beBytes bytes.length (ofBe bytes) = bytes := by
  induction bytes using List.reverseRecOn with
  | nil => rfl
  | append_singleton bytes b ih =>
    have hb : b.toNat < 256 := b.toNat_lt
    have hhigh : (ofBe bytes * 256 + b.toNat) / 256 = ofBe bytes := by omega
    have hlow : UInt8.ofNat (ofBe bytes * 256 + b.toNat) = b := by
      rw [← UInt8.toNat_inj, UInt8.toNat_ofNat']
      omega
    rw [List.length_append, List.length_singleton, beBytes, ofBe_append_singleton, hhigh, hlow, ih]

theorem ofBe_lt (bytes : List UInt8) : ofBe bytes < 256 ^ bytes.length := by
  have h := ofBe_beBytes bytes.length (ofBe bytes)
  rw [beBytes_ofBe] at h
  rw [h]
  exact Nat.mod_lt _ (Nat.pow_pos (by decide))

theorem leBytes_eq_iff (w x y : Nat) :
    leBytes w x = leBytes w y ↔ x % 256 ^ w = y % 256 ^ w := by
  induction w generalizing x y with
  | zero => simp [leBytes, Nat.mod_one]
  | succ w ih =>
    rw [leBytes, leBytes, List.cons.injEq, ih, ← div_mod_pow_succ x, ← div_mod_pow_succ y,
      ← UInt8.toNat_inj, UInt8.toNat_ofNat', UInt8.toNat_ofNat']
    have hx := Nat.mod_lt x (show 256 > 0 by decide)
    have hy := Nat.mod_lt y (show 256 > 0 by decide)
    constructor
    · rintro ⟨h₀, h₁⟩
      omega
    · intro h
      omega

theorem leBytes_take (h : k ≤ w) (x : Nat) : (leBytes w x).take k = leBytes k x := by
  induction k generalizing w x with
  | zero => rfl
  | succ k ih =>
    cases w with
    | zero => omega
    | succ w => rw [leBytes, leBytes, List.take_succ_cons, ih (by omega)]

end Buffer
