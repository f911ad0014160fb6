import RtcTestbench.Lib.Buffer
import RtcTestbench.Lib.DropOldest

namespace RtcTestbench
open Buffer DropOldest
set_option autoImplicit true

def ptrdiffMax : Nat := 2 ^ 63 - 1

/-- Zeroed memory for `nmemb` objects of `size` bytes, unless the product is too large. -/
def calloc (nmemb size : Nat) : Option (List UInt8) :=
  if nmemb * size ≤ ptrdiffMax then some (List.replicate (nmemb * size) 0) else none

/-- `struct ring_buffer`: the read and write pointers are offsets from `data`. -/
structure RingBuffer where
  size : Nat
  count : Nat
  wp : Nat
  rp : Nat
  data : List UInt8
  deriving DecidableEq, Repr

def ringBufferAllocate (size : Nat) : Option RingBuffer :=
  match calloc size 1 with
  | none => none
  | some data => some { size, count := 0, wp := 0, rp := 0, data }

/-- The body of `ring_buffer_add` once the pointer is known not to be null. -/
def RingBuffer.add (rb : RingBuffer) (data : List UInt8) : RingBuffer :=
  let len := data.length
  if rb.size < len then rb
  else
    let available := rb.size - rb.wp
    let mem := if len ≤ available then write rb.data rb.wp data
      else write (write rb.data rb.wp (data.take available)) 0 (data.drop available)
    let wp := if len ≤ available then rb.wp + len else len - available
    let wp := if rb.size = wp then 0 else wp
    -- `count + len` is a `size_t` sum
    if rb.size < (rb.count + len) % 2 ^ 64 then
      { rb with data := mem, wp := wp, rp := wp, count := rb.size }
    else { rb with data := mem, wp := wp, count := rb.count + len }

/-- The body of `ring_buffer_fetch`: the new buffer and the `*out_len` bytes copied out. -/
def RingBuffer.fetch (rb : RingBuffer) (len : Nat) : RingBuffer × List UInt8 :=
  if rb.size < len then (rb, [])
  else if rb.count = 0 then (rb, [])
  else
    let realLen := if len < rb.count then len else rb.count
    let available := rb.size - rb.rp
    let out := if realLen ≤ available then slice rb.data rb.rp realLen
      else slice rb.data rb.rp available ++ slice rb.data 0 (realLen - available)
    let rp := if realLen ≤ available then rb.rp + realLen else realLen - available
    let rp := if rp = rb.size then 0 else rp
    ({ rb with rp := rp, count := rb.count - realLen }, out)

def ringBufferAdd : Option RingBuffer → List UInt8 → Option RingBuffer
  | none, _ => none
  | some rb, data => some (rb.add data)

def ringBufferFetch : Option RingBuffer → Nat → Option RingBuffer × List UInt8
  | none, _ => (none, [])
  | some rb, len => (some (rb.fetch len).1, (rb.fetch len).2)

def ringBufferSystem :
    Machine.System (Option RingBuffer) (Op UInt8) (Option (List UInt8)) where
  step rb
    | .add data => (ringBufferAdd rb data, none)
    | .fetch len => ((ringBufferFetch rb len).1, some (ringBufferFetch rb len).2)

/-- The pointer invariant; a full and an empty buffer differ in `count` only. -/
structure RingBuffer.Inv (rb : RingBuffer) : Prop where
  size_pos : 0 < rb.size
  size_le : rb.size ≤ ptrdiffMax
  data_length : rb.data.length = rb.size
  rp_lt : rb.rp < rb.size
  wp_lt : rb.wp < rb.size
  count_le : rb.count ≤ rb.size
  wp_eq : rb.wp = (rb.rp + rb.count) % rb.size

def RingBuffer.byteAt (rb : RingBuffer) (i : Nat) : Option UInt8 :=
  rb.data[(rb.rp + i) % rb.size]?

def RingBuffer.contents (rb : RingBuffer) : List UInt8 :=
  (List.range rb.count).map fun i => (rb.byteAt i).getD 0

variable {rb : RingBuffer} {data : List UInt8} {size len a i k : Nat}

@[simp] theorem RingBuffer.length_contents (rb : RingBuffer) :
    rb.contents.length = rb.count := by
  simp only [contents, List.length_map, List.length_range]

theorem add_mod_of_le (ha : a < size) (hi : i ≤ size) :
    (a + i) % size = if a + i < size then a + i else a + i - size := by
  split
  · rename_i h
    exact Nat.mod_eq_of_lt h
  · rw [Nat.mod_eq_sub_mod (by omega), Nat.mod_eq_of_lt (by omega)]

theorem RingBuffer.Inv.byteAt_eq (h : rb.Inv) (i : Nat) :
    ∃ b, rb.byteAt i = some b := by
  have hlt := Nat.mod_lt (rb.rp + i) h.size_pos
  exact ⟨_, List.getElem?_eq_getElem (by rw [h.data_length]; exact hlt)⟩

theorem RingBuffer.Inv.getElem?_contents (h : rb.Inv) (i : Nat) :
    rb.contents[i]? = if i < rb.count then rb.byteAt i else none := by
  rw [contents, List.getElem?_map]
  split
  · rename_i hi
    obtain ⟨b, hb⟩ := h.byteAt_eq i
    rw [List.getElem?_range hi, Option.map_some, hb, Option.getD_some]
  · rename_i hi
    rw [List.getElem?_eq_none (by rw [List.length_range]; omega), Option.map_none]

theorem ringBufferAllocate_inv (hs : 0 < size) (h : ringBufferAllocate size = some rb) :
    rb.Inv ∧ rb.size = size ∧ rb.count = 0 := by
  simp only [ringBufferAllocate, calloc, Nat.mul_one] at h
  split at h
  · cases h
  · rename_i data hd
    split at hd
    · rename_i hle
      cases hd
      cases h
      refine ⟨⟨hs, hle, List.length_replicate, hs, hs, Nat.zero_le _, ?_⟩, rfl, rfl⟩
      exact (Nat.zero_mod _).symm
    · cases hd

/-- The memory after an addition: the new bytes follow the old write pointer around the end. -/
def RingBuffer.addMem (rb : RingBuffer) (data : List UInt8) : List UInt8 :=
  if data.length ≤ rb.size - rb.wp then write rb.data rb.wp data
  else write (write rb.data rb.wp (data.take (rb.size - rb.wp))) 0
    (data.drop (rb.size - rb.wp))

theorem RingBuffer.Inv.getElem?_addMem (h : rb.Inv) (hd : data.length ≤ rb.size)
    (hk : k < rb.size) :
    (rb.addMem data)[(rb.wp + k) % rb.size]? =
      if k < data.length then data[k]? else rb.data[(rb.wp + k) % rb.size]? := by
  have hw := h.wp_lt
  have hl := h.data_length
  rw [add_mod_of_le hw (Nat.le_of_lt hk), addMem]
  -- one copy, or one up to the end and one from the start
  by_cases hfit : data.length ≤ rb.size - rb.wp
  · rw [if_pos hfit, getElem?_write, hl]
    by_cases hend : rb.wp + k < rb.size
    · rw [if_pos hend]
      by_cases hkd : k < data.length
      · rw [if_pos (by omega), if_pos hkd, Nat.add_sub_cancel_left]
      · rw [if_neg (by omega), if_neg hkd]
    · rw [if_neg hend, if_neg (by omega), if_neg (by omega)]
  · rw [if_neg hfit, getElem?_write, getElem?_write, length_write, hl, List.length_drop,
      List.length_take]
    by_cases hend : rb.wp + k < rb.size
    · rw [if_pos hend, if_neg (by omega), if_pos (by omega), if_pos (by omega),
        Nat.add_sub_cancel_left, List.getElem?_take, if_pos (by omega)]
    · rw [if_neg hend]
      by_cases hkd : k < data.length
      · rw [if_pos (by omega), if_pos hkd, List.getElem?_drop]
        congr 1
        omega
      · rw [if_neg (by omega), if_neg (by omega), if_neg hkd]

theorem RingBuffer.Inv.addWp (h : rb.Inv) (hd : len ≤ rb.size) :
    (if rb.size = (if len ≤ rb.size - rb.wp then rb.wp + len else len - (rb.size - rb.wp)) then 0
      else if len ≤ rb.size - rb.wp then rb.wp + len else len - (rb.size - rb.wp)) =
      (rb.wp + len) % rb.size := by
  have hw := h.wp_lt
  have hp := h.size_pos
  rw [add_mod_of_le hw hd]
  split <;> split <;> split <;> omega

theorem RingBuffer.Inv.count_add (h : rb.Inv) (hd : data.length ≤ rb.size) :
    (rb.count + data.length) % 2 ^ 64 = rb.count + data.length := by
  have hs := h.size_le
  have hc := h.count_le
  apply Nat.mod_eq_of_lt
  simp only [ptrdiffMax] at hs
  omega

theorem RingBuffer.Inv.add_overflow (h : rb.Inv) (hd : data.length ≤ rb.size)
    (hc : rb.size < rb.count + data.length) :
    rb.add data =
      { rb with data := rb.addMem data, wp := (rb.wp + data.length) % rb.size,
                rp := (rb.wp + data.length) % rb.size, count := rb.size } := by
  simp only [add, if_neg (Nat.not_lt_of_le hd), h.count_add hd, h.addWp hd, addMem, if_pos hc]

theorem RingBuffer.Inv.add_fits (h : rb.Inv) (hc : rb.count + data.length ≤ rb.size) :
    rb.add data =
      { rb with data := rb.addMem data, wp := (rb.wp + data.length) % rb.size,
                count := rb.count + data.length } := by
  have hd : data.length ≤ rb.size := by omega
  simp only [add, if_neg (Nat.not_lt_of_le hd), h.count_add hd, h.addWp hd, addMem,
    if_neg (Nat.not_lt_of_le hc)]

theorem RingBuffer.length_addMem (rb : RingBuffer) (data : List UInt8) :
    (rb.addMem data).length = rb.data.length := by
  unfold addMem
  split <;> simp only [length_write]

theorem RingBuffer.add_of_gt (h : rb.size < data.length) : rb.add data = rb := by
  simp only [RingBuffer.add, h, ↓reduceIte]

theorem RingBuffer.Inv.add (h : rb.Inv) (data : List UInt8) : (rb.add data).Inv := by
  by_cases hd : data.length ≤ rb.size
  · have hlen : (rb.addMem data).length = rb.size := by
      rw [length_addMem, h.data_length]
    have hlt := Nat.mod_lt (rb.wp + data.length) h.size_pos
    by_cases hc : rb.size < rb.count + data.length
    · rw [h.add_overflow hd hc]
      refine ⟨h.size_pos, h.size_le, hlen, hlt, hlt, Nat.le_refl _, ?_⟩
      change (rb.wp + data.length) % rb.size =
        ((rb.wp + data.length) % rb.size + rb.size) % rb.size
      rw [Nat.add_mod_right, Nat.mod_mod]
    · rw [h.add_fits (Nat.le_of_not_lt hc)]
      refine ⟨h.size_pos, h.size_le, hlen, h.rp_lt, hlt, Nat.le_of_not_lt hc, ?_⟩
      change (rb.wp + data.length) % rb.size = (rb.rp + (rb.count + data.length)) % rb.size
      rw [h.wp_eq, Nat.mod_add_mod, Nat.add_assoc]
  · rw [RingBuffer.add_of_gt (by omega)]
    exact h

theorem RingBuffer.Inv.add_contents_fits (h : rb.Inv)
    (hc : rb.count + data.length ≤ rb.size) :
    (rb.add data).contents = rb.contents ++ data := by
  have hi := h.add data
  apply List.ext_getElem?
  intro i
  rw [hi.getElem?_contents, h.add_fits hc]
  simp only [byteAt]
  -- an old byte sits further from the write pointer than the new bytes reach
  by_cases hlt : i < rb.count
  · have he : (rb.rp + i) % rb.size = (rb.wp + (rb.size - rb.count + i)) % rb.size := by
      rw [h.wp_eq, Nat.mod_add_mod, show rb.rp + rb.count + (rb.size - rb.count + i) =
        rb.rp + i + rb.size by omega, Nat.add_mod_right]
    rw [if_pos (by omega), List.getElem?_append_left (by simpa using hlt),
      h.getElem?_contents, if_pos hlt, byteAt, he,
      h.getElem?_addMem (by omega) (by omega), if_neg (by omega)]
  · rw [List.getElem?_append_right (by simpa using Nat.le_of_not_lt hlt), length_contents]
    by_cases hin : i < rb.count + data.length
    · have he : (rb.rp + i) % rb.size = (rb.wp + (i - rb.count)) % rb.size := by
        rw [h.wp_eq, Nat.mod_add_mod, show rb.rp + rb.count + (i - rb.count) = rb.rp + i by omega]
      rw [if_pos hin, he, h.getElem?_addMem (by omega) (by omega), if_pos (by omega)]
    · rw [if_neg hin, List.getElem?_eq_none (by omega)]

theorem RingBuffer.Inv.add_contents_overflow (h : rb.Inv) (hd : data.length ≤ rb.size)
    (hc : rb.size < rb.count + data.length) :
    (rb.add data).contents = lastN rb.size (rb.contents ++ data) := by
  have hi := h.add data
  have hcl := h.count_le
  apply List.ext_getElem?
  intro i
  rw [hi.getElem?_contents, h.add_overflow hd hc, getElem?_lastN, List.length_append,
    length_contents]
  simp only [byteAt]
  by_cases hin : i < rb.size
  · rw [if_pos hin, Nat.mod_add_mod]
    -- the read pointer has moved on to the oldest byte that was not overwritten
    by_cases hold : data.length + i < rb.size
    · have he : (rb.wp + data.length + i) % rb.size =
          (rb.rp + (rb.count + data.length - rb.size + i)) % rb.size := by
        rw [h.wp_eq, Nat.add_assoc, Nat.mod_add_mod, show rb.rp + rb.count + (data.length + i) =
          rb.rp + (rb.count + data.length - rb.size + i) + rb.size by omega, Nat.add_mod_right]
      rw [List.getElem?_append_left (by rw [length_contents]; omega), h.getElem?_contents,
        if_pos (by omega), byteAt, ← he, Nat.add_assoc,
        h.getElem?_addMem hd hold, if_neg (by omega)]
    · have he : (rb.wp + data.length + i) % rb.size =
          (rb.wp + (data.length + i - rb.size)) % rb.size := by
        rw [show rb.wp + data.length + i = rb.wp + (data.length + i - rb.size) + rb.size by omega,
          Nat.add_mod_right]
      rw [he, h.getElem?_addMem hd (by omega), if_pos (by omega),
        List.getElem?_append_right (by rw [length_contents]; omega), length_contents]
      congr 1
      omega
  · rw [if_neg hin, List.getElem?_eq_none (by rw [List.length_append, length_contents]; omega)]

theorem RingBuffer.getElem?_slice_data (hlen : rb.rp + len ≤ rb.size)
    (hi : i < len) : (slice rb.data rb.rp len)[i]? = rb.byteAt i := by
  rw [getElem?_slice, if_pos hi, byteAt, Nat.mod_eq_of_lt (by omega)]

theorem RingBuffer.Inv.fetch_out (h : rb.Inv) (hk : k ≤ rb.count) :
    (if k ≤ rb.size - rb.rp then slice rb.data rb.rp k
      else slice rb.data rb.rp (rb.size - rb.rp) ++ slice rb.data 0 (k - (rb.size - rb.rp))) =
      rb.contents.take k := by
  have hr := h.rp_lt
  have hc := h.count_le
  have hl := h.data_length
  apply List.ext_getElem?
  intro i
  rw [List.getElem?_take]
  by_cases hi : i < k
  · have hct : rb.contents[i]? = rb.byteAt i := by
      rw [h.getElem?_contents, if_pos (Nat.lt_of_lt_of_le hi hk)]
    rw [if_pos hi, hct]
    by_cases hfit : k ≤ rb.size - rb.rp
    · rw [if_pos hfit, getElem?_slice_data (by omega) hi]
    · rw [if_neg hfit]
      by_cases hend : i < rb.size - rb.rp
      · rw [List.getElem?_append_left (by rw [length_slice (by omega)]; exact hend),
          getElem?_slice_data (by omega) hend]
      · rw [List.getElem?_append_right (by rw [length_slice (by omega)]; omega),
          length_slice (by omega), getElem?_slice, if_pos (by omega), byteAt,
          add_mod_of_le hr (by omega), if_neg (by omega)]
        congr 1
        omega
  · rw [if_neg hi, List.getElem?_eq_none]
    split
    · rw [length_slice (by omega)]; omega
    · rw [List.length_append, length_slice (by omega), length_slice (by omega)]; omega

theorem RingBuffer.Inv.fetchRp (h : rb.Inv) (hk : k ≤ rb.count) :
    (if (if k ≤ rb.size - rb.rp then rb.rp + k else k - (rb.size - rb.rp)) = rb.size then 0
      else if k ≤ rb.size - rb.rp then rb.rp + k else k - (rb.size - rb.rp)) =
      (rb.rp + k) % rb.size := by
  have hr := h.rp_lt
  have hc := h.count_le
  rw [add_mod_of_le hr (by omega)]
  split <;> split <;> split <;> omega

theorem RingBuffer.Inv.fetch_eq (h : rb.Inv) (hl : len ≤ rb.size) :
    rb.fetch len =
      ({ rb with rp := (rb.rp + min len rb.count) % rb.size,
                 count := rb.count - min len rb.count },
        rb.contents.take (min len rb.count)) := by
  by_cases hc : rb.count = 0
  · rw [fetch, if_neg (by omega), if_pos hc, hc, Nat.min_zero, Nat.add_zero,
      Nat.mod_eq_of_lt h.rp_lt]
    cases rb
    simp only at hc
    subst hc
    rfl
  · have hm : (if len < rb.count then len else rb.count) = min len rb.count := by
      split <;> omega
    rw [fetch, if_neg (by omega), if_neg hc]
    simp only [hm, h.fetchRp (Nat.min_le_right _ _), h.fetch_out (Nat.min_le_right _ _)]

theorem RingBuffer.fetch_of_gt (h : rb.size < len) : rb.fetch len = (rb, []) := by
  simp only [RingBuffer.fetch, h, ↓reduceIte]

theorem RingBuffer.Inv.fetch (h : rb.Inv) (len : Nat) : (rb.fetch len).1.Inv := by
  by_cases hl : len ≤ rb.size
  · have hc := h.count_le
    rw [h.fetch_eq hl]
    refine ⟨h.size_pos, h.size_le, h.data_length, Nat.mod_lt _ h.size_pos, h.wp_lt,
      by simp only; omega, ?_⟩
    change rb.wp = ((rb.rp + min len rb.count) % rb.size + (rb.count - min len rb.count)) % rb.size
    rw [Nat.mod_add_mod, h.wp_eq]
    congr 1
    omega
  · rw [RingBuffer.fetch_of_gt (by omega)]
    exact h

theorem RingBuffer.Inv.fetch_contents (h : rb.Inv) (hl : len ≤ rb.size) :
    (rb.fetch len).1.contents = rb.contents.drop (min len rb.count) := by
  have hi := h.fetch len
  apply List.ext_getElem?
  intro i
  rw [hi.getElem?_contents, h.fetch_eq hl, List.getElem?_drop, h.getElem?_contents]
  simp only [byteAt]
  by_cases hin : i < rb.count - min len rb.count
  · rw [if_pos hin, if_pos (by omega), Nat.mod_add_mod, Nat.add_assoc]
  · rw [if_neg hin, if_neg (by omega)]

theorem RingBuffer.add_size (rb : RingBuffer) (data : List UInt8) :
    (rb.add data).size = rb.size := by
  unfold add
  dsimp only
  split
  · rfl
  · split <;> rfl

theorem RingBuffer.fetch_size (rb : RingBuffer) (len : Nat) :
    (rb.fetch len).1.size = rb.size := by
  unfold fetch
  dsimp only
  split
  · rfl
  · split <;> rfl

/-- The buffer behind a pointer represents a queue of the same capacity. -/
def Represents (s : Option RingBuffer) (q : Queue UInt8 cap) : Prop :=
  ∃ rb, s = some rb ∧ rb.Inv ∧ rb.size = cap ∧ rb.contents = q.contents

theorem Represents.add {q : Queue UInt8 cap} (h : Represents s q) (data : List UInt8) :
    Represents (ringBufferAdd s data) (q.add data) := by
  obtain ⟨rb, rfl, hi, hsz, hc⟩ := h
  refine ⟨rb.add data, rfl, hi.add data, by rw [rb.add_size, hsz], ?_⟩
  have hlen : q.contents.length = rb.count := by rw [← hc, rb.length_contents]
  by_cases hd : data.length ≤ rb.size
  · rw [q.add_contents (by omega), hlen, ← hc, ← hsz]
    by_cases hf : rb.count + data.length ≤ rb.size
    · rw [hi.add_contents_fits hf, Nat.min_eq_left hf, lastN, List.length_append,
        rb.length_contents, Nat.sub_self, List.drop_zero]
    · rw [hi.add_contents_overflow hd (by omega), Nat.min_eq_right (by omega)]
  · rw [RingBuffer.add_of_gt (by omega), q.add_of_gt (by omega), hc]

theorem Represents.fetch {q : Queue UInt8 cap} (h : Represents s q) (len : Nat) :
    Represents (ringBufferFetch s len).1 (q.fetch len).1 ∧
      (ringBufferFetch s len).2 = (q.fetch len).2 := by
  obtain ⟨rb, rfl, hi, hsz, hc⟩ := h
  have hlen : q.contents.length = rb.count := by rw [← hc, rb.length_contents]
  simp only [ringBufferFetch]
  by_cases hl : len ≤ rb.size
  · constructor
    · refine ⟨_, rfl, hi.fetch len, by rw [rb.fetch_size, hsz], ?_⟩
      rw [hi.fetch_contents hl, q.fetch_fst_contents (by omega), hlen, hc]
    · rw [hi.fetch_eq hl, q.fetch_snd (by omega), hlen, hc]
  · rw [RingBuffer.fetch_of_gt (by omega), q.fetch_of_gt (by omega)]
    exact ⟨⟨rb, rfl, hi, hsz, hc⟩, rfl⟩

theorem ringBuffer_simulates (cap : Nat) :
    Machine.Simulates ringBufferSystem (system UInt8 cap) (fun _ _ => True) Represents where
  related {s q e} h _ := by
    cases e with
    | add data => exact h.add data
    | fetch len => exact (h.fetch len).1
  observed {s q e} h _ := by
    cases e with
    | add data => rfl
    | fetch len => exact congrArg some (h.fetch len).2

theorem ringBufferAllocate_represents (hs : 0 < size) (h : ringBufferAllocate size = some rb) :
    Represents (some rb) (Queue.empty : Queue UInt8 size) := by
  obtain ⟨hi, hsz, hc⟩ := ringBufferAllocate_inv hs h
  refine ⟨rb, rfl, hi, hsz, ?_⟩
  rw [RingBuffer.contents, hc]
  rfl

/-- Over every sequence of calls the pointers stay consistent and the bytes handed out are
those of the drop-oldest queue. -/
theorem ringBuffer_refines_dropOldest (hs : 0 < size) (hrb : ringBufferAllocate size = some rb)
    (ops : List (Op UInt8)) :
    ∃ rb', (ringBufferSystem.run (some rb) ops).1 = some rb' ∧
      rb'.size = size ∧ rb'.data.length = size ∧
      rb'.rp < size ∧ rb'.wp < size ∧ rb'.count ≤ size ∧
      rb'.wp = (rb'.rp + rb'.count) % size ∧
      rb'.contents = ((system UInt8 size).run .empty ops).1.contents ∧
      (ringBufferSystem.run (some rb) ops).2 = ((system UInt8 size).run .empty ops).2 := by
  obtain ⟨hr, ho⟩ := (ringBuffer_simulates size).run (ringBufferAllocate_represents hs hrb)
    (ringBufferSystem.along_of_forall (fun _ _ _ => trivial) _ : ringBufferSystem.Along _ _ ops)
  obtain ⟨rb', he, hi, hsz, hc⟩ := hr
  have hw := hi.wp_eq
  rw [hsz] at hw
  exact ⟨rb', he, hsz, hi.data_length.trans hsz, hsz ▸ hi.rp_lt, hsz ▸ hi.wp_lt,
    hsz ▸ hi.count_le, hw, hc, ho⟩

theorem ringBuffer_refines_dropOldest_drops :
    (ringBufferSystem.run (ringBufferAllocate 8)
      [.add [1, 2, 3, 4], .add [5, 6, 7, 8], .add [9, 10, 11, 12], .fetch 8]).2 =
      [none, none, none, some [5, 6, 7, 8, 9, 10, 11, 12]] := by
  obtain ⟨_, _, _, _, _, _, _, _, _, ho⟩ := ringBuffer_refines_dropOldest
    (by decide : 0 < 8) rfl [.add [1, 2, 3, 4], .add [5, 6, 7, 8], .add [9, 10, 11, 12], .fetch 8]
  exact ho

end RtcTestbench
