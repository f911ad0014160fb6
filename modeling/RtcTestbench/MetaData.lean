import Mathlib
import RtcTestbench.Lib.Aead
import RtcTestbench.Lib.Buffer

namespace RtcTestbench
open Buffer
set_option autoImplicit true

def be16 (x : UInt16) : List UInt8 := beBytes 2 x.toNat

def be32 (x : UInt32) : List UInt8 := beBytes 4 x.toNat

def be64 (x : UInt64) : List UInt8 := beBytes 8 x.toNat

def be16toh (bytes : List UInt8) : UInt16 := UInt16.ofNat (ofBe bytes)

def be32toh (bytes : List UInt8) : UInt32 := UInt32.ofNat (ofBe bytes)

def be64toh (bytes : List UInt8) : UInt64 := UInt64.ofNat (ofBe bytes)

@[simp] theorem length_be16 (x : UInt16) : (be16 x).length = 2 := length_beBytes _ _

@[simp] theorem length_be32 (x : UInt32) : (be32 x).length = 4 := length_beBytes _ _

@[simp] theorem length_be64 (x : UInt64) : (be64 x).length = 8 := length_beBytes _ _

@[simp] theorem be16toh_be16 (x : UInt16) : be16toh (be16 x) = x := by
  have hx : x.toNat < 256 ^ 2 := x.toNat_lt
  rw [be16toh, be16, ofBe_beBytes, Nat.mod_eq_of_lt hx, UInt16.ofNat_toNat]

@[simp] theorem be32toh_be32 (x : UInt32) : be32toh (be32 x) = x := by
  have hx : x.toNat < 256 ^ 4 := x.toNat_lt
  rw [be32toh, be32, ofBe_beBytes, Nat.mod_eq_of_lt hx, UInt32.ofNat_toNat]

@[simp] theorem be64toh_be64 (x : UInt64) : be64toh (be64 x) = x := by
  have hx : x.toNat < 256 ^ 8 := x.toNat_lt
  rw [be64toh, be64, ofBe_beBytes, Nat.mod_eq_of_lt hx, UInt64.ofNat_toNat]

theorem be64_be64toh {bytes : List UInt8} (h : bytes.length = 8) :
    be64 (be64toh bytes) = bytes := by
  have hbytes := beBytes_ofBe bytes
  have hlt : ofBe bytes < 2 ^ 64 := by
    have hlt := ofBe_lt bytes
    rwa [h] at hlt
  rw [h] at hbytes
  rw [be64, be64toh, UInt64.toNat_ofNat', Nat.mod_eq_of_lt hlt, hbytes]

/-- `struct reference_meta_data` at `off`: frame counter, cycle counter and Tx time stamp. -/
def sequenceCounterToMetaData (mem : List UInt8) (off : Nat)
    (sequenceCounter numFramesPerCycle : UInt64) : List UInt8 :=
  write (write mem off (be32 (sequenceCounter % numFramesPerCycle).toUInt32)) (off + 4)
    (be32 (sequenceCounter / numFramesPerCycle).toUInt32)

def txTimestampToMetaData (mem : List UInt8) (off : Nat) (timestamp : UInt64) : List UInt8 :=
  write mem (off + 8) (be64 timestamp)

def setMetaData (mem : List UInt8) (off : Nat)
    (sequenceCounter numFramesPerCycle txTimestamp : UInt64) : List UInt8 :=
  txTimestampToMetaData (sequenceCounterToMetaData mem off sequenceCounter numFramesPerCycle) off
    txTimestamp

def metaDataToSequenceCounter (mem : List UInt8) (off : Nat) (numFramesPerCycle : UInt64) :
    UInt64 :=
  (be32toh (slice mem (off + 4) 4)).toUInt64 * numFramesPerCycle +
    (be32toh (slice mem off 4)).toUInt64

def metaDataToTxTimestamp (mem : List UInt8) (off : Nat) : UInt64 :=
  be64toh (slice mem (off + 8) 8)

def getSequenceCounter (frameData : List UInt8) (metaDataOffset : Nat)
    (numFramesPerCycle : UInt64) : UInt64 :=
  metaDataToSequenceCounter frameData metaDataOffset numFramesPerCycle

/-- The first `SECURITY_IV_LEN` bytes of `struct security_iv`: the prefix and the six low-order
bytes of the counter. -/
def prepareIv (ivPrefix : List UInt8) (sequenceCounter : UInt64) : List UInt8 :=
  (ivPrefix.take 6 ++ leBytes 8 sequenceCounter.toNat).take 12

/-- What a receiver makes of the two 32 bit counters on the wire. -/
def wireSequenceCounter (n s : UInt64) : UInt64 :=
  (s / n).toUInt32.toUInt64 * n + (s % n).toUInt32.toUInt64

variable {n s s' t : UInt64} {mem : List UInt8} {off i len : Nat}

@[simp] theorem length_sequenceCounterToMetaData :
    (sequenceCounterToMetaData mem off s n).length = mem.length := by
  simp only [sequenceCounterToMetaData, length_write]

@[simp] theorem length_txTimestampToMetaData :
    (txTimestampToMetaData mem off t).length = mem.length := by
  simp only [txTimestampToMetaData, length_write]

theorem slice_sequenceCounterToMetaData (h : i + len ≤ off ∨ off + 8 ≤ i) :
    slice (sequenceCounterToMetaData mem off s n) i len = slice mem i len := by
  unfold sequenceCounterToMetaData
  rcases h with h | h
  · rw [slice_write_left _ _ (by omega), slice_write_left _ _ (by omega)]
  · rw [slice_write_right _ _ (by rw [length_be32]; omega),
      slice_write_right _ _ (by rw [length_be32]; omega)]

theorem slice_txTimestampToMetaData (h : i + len ≤ off + 8 ∨ off + 16 ≤ i) :
    slice (txTimestampToMetaData mem off t) i len = slice mem i len := by
  unfold txTimestampToMetaData
  rcases h with h | h
  · rw [slice_write_left _ _ (by omega)]
  · rw [slice_write_right _ _ (by rw [length_be64]; omega)]

theorem metaDataToTxTimestamp_set (h : off + 16 ≤ mem.length) :
    metaDataToTxTimestamp (txTimestampToMetaData mem off t) off = t := by
  rw [metaDataToTxTimestamp, txTimestampToMetaData,
    slice_write_self _ _ (by rw [length_be64]; omega) (length_be64 t).symm, be64toh_be64]

theorem txTimestampToMetaData_eq_self_iff (h : off + 16 ≤ mem.length) :
    txTimestampToMetaData mem off t = mem ↔ metaDataToTxTimestamp mem off = t := by
  constructor
  · intro heq
    have hset := metaDataToTxTimestamp_set (t := t) h
    rwa [heq] at hset
  · rintro rfl
    rw [txTimestampToMetaData, metaDataToTxTimestamp,
      be64_be64toh (length_slice (by omega)), write_slice]

theorem metaDataToSequenceCounter_set (h : off + 8 ≤ mem.length) :
    metaDataToSequenceCounter (sequenceCounterToMetaData mem off s n) off n =
      wireSequenceCounter n s := by
  rw [metaDataToSequenceCounter, sequenceCounterToMetaData,
    slice_write_self _ _ (by rw [length_write, length_be32]; omega) (length_be32 _).symm,
    slice_write_left _ _ (by omega),
    slice_write_self _ _ (by rw [length_be32]; omega) (length_be32 _).symm,
    be32toh_be32, be32toh_be32, wireSequenceCounter]

theorem metaDataToSequenceCounter_txTimestamp :
    metaDataToSequenceCounter (txTimestampToMetaData mem off t) off n =
      metaDataToSequenceCounter mem off n := by
  simp only [metaDataToSequenceCounter]
  rw [slice_txTimestampToMetaData (by omega), slice_txTimestampToMetaData (by omega)]

@[simp] theorem length_setMetaData : (setMetaData mem off s n t).length = mem.length := by
  rw [setMetaData, length_txTimestampToMetaData, length_sequenceCounterToMetaData]

theorem slice_setMetaData (h : i + len ≤ off ∨ off + 16 ≤ i) :
    slice (setMetaData mem off s n t) i len = slice mem i len := by
  rw [setMetaData, slice_txTimestampToMetaData (by omega),
    slice_sequenceCounterToMetaData (by omega)]

theorem setMetaData_decode (h : off + 16 ≤ mem.length) :
    metaDataToSequenceCounter (setMetaData mem off s n t) off n = wireSequenceCounter n s ∧
      metaDataToTxTimestamp (setMetaData mem off s n t) off = t := by
  constructor
  · rw [setMetaData, metaDataToSequenceCounter_txTimestamp,
      metaDataToSequenceCounter_set (by omega)]
  · exact metaDataToTxTimestamp_set (by rw [length_sequenceCounterToMetaData]; exact h)

theorem metaDataToSequenceCounter_congr {mem' : List UInt8} {off' : Nat}
    (h : slice mem off 16 = slice mem' off' 16) :
    metaDataToSequenceCounter mem off n = metaDataToSequenceCounter mem' off' n := by
  simp only [metaDataToSequenceCounter]
  rw [← slice_slice mem (show 4 + 4 ≤ 16 by decide), ← slice_slice mem' (show 4 + 4 ≤ 16 by decide),
    h]
  have h₀ : slice (slice mem off 16) 0 4 = slice mem off 4 := slice_slice mem (by decide)
  have h₁ : slice (slice mem' off' 16) 0 4 = slice mem' off' 4 := slice_slice mem' (by decide)
  rw [← h₀, ← h₁, h]

theorem metaDataToTxTimestamp_congr {mem' : List UInt8} {off' : Nat}
    (h : slice mem off 16 = slice mem' off' 16) :
    metaDataToTxTimestamp mem off = metaDataToTxTimestamp mem' off' := by
  simp only [metaDataToTxTimestamp]
  rw [← slice_slice mem (show 8 + 8 ≤ 16 by decide), ← slice_slice mem' (show 8 + 8 ≤ 16 by decide),
    h]

theorem ne_zero_of_toNat_pos {n : UInt64} (hn : 0 < n.toNat) : n ≠ 0 := by
  rintro rfl
  exact Nat.lt_irrefl 0 hn

theorem wireSequenceCounter_toNat :
    (wireSequenceCounter n s).toNat =
      s.toNat / n.toNat % 2 ^ 32 * n.toNat + s.toNat % n.toNat % 2 ^ 32 := by
  simp only [wireSequenceCounter, UInt64.toNat_add, UInt64.toNat_mul, UInt32.toNat_toUInt64,
    UInt64.toNat_toUInt32, UInt64.toNat_div, UInt64.toNat_mod]
  have hs := s.toNat_lt
  have hq := Nat.mod_le (s.toNat / n.toNat) (2 ^ 32)
  have hr := Nat.mod_le (s.toNat % n.toNat) (2 ^ 32)
  have hqn := Nat.mul_le_mul_right n.toNat hq
  have hdm := Nat.div_add_mod' s.toNat n.toNat
  rw [Nat.mod_add_mod, Nat.mod_eq_of_lt (by omega)]

/-- The wire carries a counter exactly if neither half exceeds its 32 bits. -/
theorem wireSequenceCounter_eq_iff (hn : 0 < n.toNat) :
    wireSequenceCounter n s = s ↔
      s.toNat / n.toNat < 2 ^ 32 ∧ s.toNat % n.toNat < 2 ^ 32 := by
  rw [← UInt64.toNat_inj, wireSequenceCounter_toNat]
  have hdm := Nat.div_add_mod' s.toNat n.toNat
  constructor
  · intro h
    have hq := Nat.mod_le (s.toNat / n.toNat) (2 ^ 32)
    have hr := Nat.mod_le (s.toNat % n.toNat) (2 ^ 32)
    have hqn := Nat.mul_le_mul_right n.toNat hq
    have heq : s.toNat / n.toNat % 2 ^ 32 * n.toNat = s.toNat / n.toNat * n.toNat := by omega
    have hqe := Nat.eq_of_mul_eq_mul_right hn heq
    have hre : s.toNat % n.toNat % 2 ^ 32 = s.toNat % n.toNat := by omega
    refine ⟨?_, ?_⟩
    · rw [← hqe]
      exact Nat.mod_lt _ (by decide)
    · rw [← hre]
      exact Nat.mod_lt _ (by decide)
  · rintro ⟨hq, hr⟩
    rw [Nat.mod_eq_of_lt hq, Nat.mod_eq_of_lt hr, hdm]

theorem wireSequenceCounter_of_lt (hn : 1 ≤ n.toNat) (hn' : n.toNat ≤ 2 ^ 32)
    (hs : s.toNat < n.toNat * 2 ^ 32) : wireSequenceCounter n s = s := by
  refine (wireSequenceCounter_eq_iff hn).mpr ⟨?_, ?_⟩
  · exact (Nat.div_lt_iff_lt_mul hn).mpr (by rwa [Nat.mul_comm])
  · exact Nat.lt_of_lt_of_le (Nat.mod_lt _ hn) hn'

theorem prepareIv_eq (hp : ivPrefix.length = 6) (s : UInt64) :
    prepareIv ivPrefix s = ivPrefix ++ leBytes 6 s.toNat := by
  rw [prepareIv, List.take_of_length_le (Nat.le_of_eq hp), List.take_append, hp,
    List.take_of_length_le (by omega), leBytes_take (by decide)]

/-- Two counters share an initial vector exactly if they agree in their low 48 bits. -/
theorem prepareIv_eq_iff (hp : ivPrefix.length = 6) :
    prepareIv ivPrefix s = prepareIv ivPrefix s' ↔ s.toNat % 2 ^ 48 = s'.toNat % 2 ^ 48 := by
  rw [prepareIv_eq hp, prepareIv_eq hp, List.append_cancel_left_eq, leBytes_eq_iff,
    show 256 ^ 6 = 2 ^ 48 by decide]

end RtcTestbench
