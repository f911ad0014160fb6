import Mathlib
import RtcTestbench.SecureRoundTrip
import RtcTestbench.Sequence

namespace RtcTestbench
open Buffer Machine
set_option autoImplicit true

/-- What one pass of a Tx thread finds: whether the generation thread marked frames as available,
the clock and the room in the Tx ring. -/
structure TxPass where
  framesAvailable : Bool
  now : UInt64
  freeDescriptors : Nat
  freeDescriptors_le : freeDescriptors ≤ xskRingProdDefaultNumDescs

/-- The locals of a Tx thread without mirror, with the memory its frames are in: `tx_frame_data`
or the Tx half of the UMEM area. -/
structure Generator where
  sequenceCounter : UInt64
  frameNumber : Nat
  frames : List UInt8

structure SentFrame where
  sequenceCounter : UInt64
  bytes : List UInt8

/-- `*num_frames` after `tc_wait_for_tx_cycle`. -/
def tcWaitForTxCycle (ctx : ThreadContext) (p : TxPass) : UInt64 :=
  if tcTxModel ctx.frameType = .burst then
    if p.framesAvailable then ctx.conf.numFramesPerCycle else 0
  else ctx.conf.numFramesPerCycle

/-- In debug monitor mode the first frame of a burst gets a destination of its own. -/
def monitorFrame (monitor : Option MacAddress) (frame : List UInt8) : List UInt8 :=
  match monitor with
  | none => frame
  | some destination => write frame 0 destination.bytes

/-- The loop that prepares the frames of a cycle, in the given chunks. -/
def prepareFrames (ctx : ThreadContext) (room : Nat) (now : UInt64) :
    Option MacAddress → List UInt8 → List Nat → UInt64 → List UInt8
  | _, mem, [], _ => mem
  | monitor, mem, slot :: slots, s =>
    let frame := slice mem (slotOffset room slot) ctx.conf.frameLength
    let prepared := (prepareFrameForTx (ctx.prepareFrameConfig frame s now)).1
    prepareFrames ctx room now none
      (write mem (slotOffset room slot) (monitorFrame monitor prepared)) slots (s + 1)

def sentFrames (frameLength room : Nat) (mem : List UInt8) : List Nat → UInt64 → List SentFrame
  | [], _ => []
  | slot :: slots, s =>
    ⟨s, slice mem (slotOffset room slot) frameLength⟩ :: sentFrames frameLength room mem slots
      (s + 1)

def tcGenAndSendFrames (ctx : ThreadContext) (g : Generator) (p : TxPass) :
    Generator × List SentFrame :=
  let slots := List.range ctx.conf.numFramesPerCycle.toNat
  let frames := prepareFrames ctx 0 p.now none g.frames slots g.sequenceCounter
  ({ g with frames, sequenceCounter := g.sequenceCounter + ctx.conf.numFramesPerCycle },
    sentFrames ctx.conf.frameLength 0 frames slots g.sequenceCounter)

def nextFrameNumber (frameNumber : Nat) : Nat :=
  (frameNumber + 1) % xskRingConsDefaultNumDescs + xskRingProdDefaultNumDescs

def frameNumbers : Nat → Nat → List Nat
  | _, 0 => []
  | frameNumber, k + 1 => frameNumber :: frameNumbers (nextFrameNumber frameNumber) k

/-- The counter moves on even if there are no descriptors to send the frames with. -/
def tcGenAndSendXdpFrames (build : BuildConfig) (monitor : Option MacAddress) (ctx : ThreadContext)
    (g : Generator) (p : TxPass) : Generator × List SentFrame :=
  let n := ctx.conf.numFramesPerCycle
  let sequenceCounter := g.sequenceCounter + tcWaitForTxCycle ctx p
  if p.freeDescriptors < n.toNat then ({ g with sequenceCounter }, [])
  else
    let room := txMetadataRoom build ctx.conf
    let slots := (frameNumbers g.frameNumber n.toNat).map (· - xskRingProdDefaultNumDescs)
    let frames := prepareFrames ctx room p.now monitor g.frames slots g.sequenceCounter
    ({ sequenceCounter, frames, frameNumber := nextFrameNumber^[n.toNat] g.frameNumber },
      sentFrames ctx.conf.frameLength room frames slots g.sequenceCounter)

/-- The loop of `tc_tx_thread` and `tc_xdp_tx_thread` without mirror. -/
def generator (build : BuildConfig) (monitor : Option MacAddress) (ctx : ThreadContext) :
    System Generator TxPass (List SentFrame) where
  step g p :=
    if tcWaitForTxCycle ctx p = 0 then (g, [])
    else if ctx.conf.xdpEnabled then tcGenAndSendXdpFrames build monitor ctx g p
    else tcGenAndSendFrames ctx g p

/-- The thread before its loop. With XDP the frames are set up in the UMEM area, which always has
the room for them. -/
def Generator.start (build : BuildConfig) (ctx : ThreadContext) (umem : List UInt8) :
    Generator where
  sequenceCounter := 0
  frameNumber := xskRingProdDefaultNumDescs
  frames :=
    if ctx.conf.xdpEnabled then
      (tcInitializeFrames build ctx umem xskRingConsDefaultNumDescs ctx.source
        ctx.conf.l2Destination).getD umem
    else ctx.txFrameData

def TxPass.sends (ctx : ThreadContext) (p : TxPass) : Bool := tcWaitForTxCycle ctx p != 0

def TxPass.HasRoom (ctx : ThreadContext) (p : TxPass) : Prop :=
  p.sends ctx = true → ctx.conf.xdpEnabled = true →
    ctx.conf.numFramesPerCycle.toNat ≤ p.freeDescriptors

def wireEtherType (conf : TrafficClassConfig) : StatFrameType → Option UInt16
  | .tsnHigh | .tsnLow | .rtc | .rta | .dcp => some ethPProfinetRt
  | .genericL2 => some conf.etherType.toUInt16
  | .lldp | .udpHigh | .udpLow => none

def HasHeader (conf : TrafficClassConfig) (frameType : StatFrameType) (frame : List UInt8) : Prop :=
  ∀ etherType, wireEtherType conf frameType = some etherType →
    be16At frame 12 = ethP8021Q ∧ be16At frame 16 = etherType

/-- What a receiver needs to find in a frame to accept it and to read its counter. -/
structure OnWire (conf : TrafficClassConfig) (frameType : StatFrameType) (frame : List UInt8)
    (s : UInt64) : Prop where
  length_eq : frame.length = conf.frameLength
  header : HasHeader conf frameType frame
  decode : metaDataToSequenceCounter frame (getMetaDataOffset frameType conf.securityMode)
    conf.numFramesPerCycle = wireSequenceCounter conf.numFramesPerCycle s

/-- A class whose threads are those of `tc.c` and whose frames carry a counter. -/
structure CountedClass (conf : TrafficClassConfig) (frameType : StatFrameType) : Prop where
  not_udp : frameType ≠ .udpHigh ∧ frameType ≠ .udpLow
  secured : conf.securityMode ≠ .none → frameType ∈ [.tsnHigh, .tsnLow, .rtc, .rta]
  not_ethercat : frameType = .genericL2 → conf.protocolType = .genericL2
  fits : minFrameSize conf frameType ≤ conf.frameLength
  fits_chunk : conf.frameLength ≤ maxFrameSize

variable {conf : TrafficClassConfig} {frameType : StatFrameType} {ctx : ThreadContext}
  {frame mem : List UInt8} {s t : UInt64} {room L : Nat} {monitor : Option MacAddress}

theorem CountedClass.metaData_fits (hc : CountedClass conf frameType) :
    getMetaDataOffset frameType conf.securityMode + 16 ≤ conf.frameLength := by
  refine Nat.le_trans ?_ hc.fits
  by_cases hm : conf.securityMode = .none
  · rw [hm]
    exact getMetaDataOffset_fits hm frameType
  · rw [minFrameSize_secure (hc.secured hm) hm]
    cases frameType <;> cases h : conf.securityMode <;> simp [getMetaDataOffset]

theorem metaData_behind_header (h : wireEtherType conf frameType = some etherType)
    (mode : SecurityMode) : 18 ≤ getMetaDataOffset frameType mode := by
  cases frameType <;> cases mode <;> simp_all [getMetaDataOffset, wireEtherType]

theorem CountedClass.secure_layout (hc : CountedClass conf frameType)
    (hm : conf.securityMode ≠ .none) :
    getMetaDataOffset frameType conf.securityMode = 28 ∧ 60 ≤ conf.frameLength := by
  have ht := hc.secured hm
  have hfits := hc.fits
  rw [minFrameSize_secure ht hm] at hfits
  refine ⟨?_, hfits⟩
  cases frameType <;> cases h : conf.securityMode <;> simp_all [getMetaDataOffset]

@[simp] theorem length_prepareFrameForTx (c : PrepareFrameConfig) :
    (prepareFrameForTx c).1.length = c.frameData.length := by
  rw [prepareFrameForTx]
  split
  · exact length_writeAll _ _
  · cases c.mode with
    | none => exact length_setMetaData
    | ao => exact (length_write _ _ _).trans length_setMetaData
    | ae => exact (length_writeAll _ _).trans length_setMetaData

@[simp] theorem length_monitorFrame (monitor : Option MacAddress) (frame : List UInt8) :
    (monitorFrame monitor frame).length = frame.length := by
  cases monitor with
  | none => rfl
  | some destination => exact length_write _ _ _

/-- The monitor is told by the destination alone. -/
theorem slice_monitorFrame (monitor : Option MacAddress) (frame : List UInt8) (h : 6 ≤ i) :
    slice (monitorFrame monitor frame) i k = slice frame i k := by
  cases monitor with
  | none => rfl
  | some destination =>
    apply slice_write_right
    rw [destination.length_eq]
    exact h

theorem CountedClass.metaData_behind (hc : CountedClass conf frameType) :
    6 ≤ getMetaDataOffset frameType conf.securityMode := by
  obtain ⟨hhigh, hlow⟩ := hc.not_udp
  cases frameType <;> cases conf.securityMode <;> simp_all [getMetaDataOffset]

/-- Up to the meta data a prepared frame is the old one with the counters and the time stamp set;
a checksum and a ciphertext come later. -/
theorem prepareFrameForTx_view (hctx : ctx.ForClass conf frameType)
    (hc : CountedClass conf frameType) (frame : List UInt8) (s t : UInt64) :
    let off := getMetaDataOffset frameType conf.securityMode
    ∀ i k, i + k ≤ off + 16 →
      slice (prepareFrameForTx (ctx.prepareFrameConfig frame s t)).1 i k =
        slice (setMetaData frame off s conf.numFramesPerCycle t) i k := by
  intro off
  obtain ⟨rfl, rfl, -, hoff⟩ := hctx
  have hne : ¬ (ctx.frameType = .genericL2 ∧ ctx.conf.protocolType = .etherCat) := by
    rintro ⟨h, he⟩
    cases (hc.not_ethercat h).symm.trans he
  generalize hp : (prepareFrameForTx (ctx.prepareFrameConfig frame s t)).1 = prepared
  cases hm : ctx.conf.securityMode with
  | none =>
    have hp : prepared = setMetaData frame off s ctx.conf.numFramesPerCycle t := by
      simp only [← hp, prepareFrameForTx, ThreadContext.prepareFrameConfig, if_neg hne, hm,
        PrepareFrameConfig.adjustMetaData, hoff, off]
    rw [hp]
    exact fun i k _ => rfl
  | ao =>
    obtain ⟨h28, hfits⟩ := hc.secure_layout (by rw [hm]; decide)
    have hp : ∃ tag, prepared = write (setMetaData frame off s ctx.conf.numFramesPerCycle t)
        (ctx.conf.frameLength - 16) tag := by
      simp only [← hp, prepareFrameForTx, ThreadContext.prepareFrameConfig, if_neg hne, hm,
        PrepareFrameConfig.adjustMetaData, off, h28]
      exact ⟨_, rfl⟩
    obtain ⟨tag, hp⟩ := hp
    rw [hp]
    intro i k hk
    exact slice_write_left _ _ (by omega)
  | ae =>
    obtain ⟨h28, hfits⟩ := hc.secure_layout (by rw [hm]; decide)
    have hp : ∃ msg tag, prepared = writeAll (setMetaData frame off s ctx.conf.numFramesPerCycle t)
        [(44, msg), (ctx.conf.frameLength - 16, tag)] := by
      simp only [← hp, prepareFrameForTx, ThreadContext.prepareFrameConfig, if_neg hne, hm,
        PrepareFrameConfig.adjustMetaData, off, h28]
      exact ⟨_, _, rfl⟩
    obtain ⟨msg, tag, hp⟩ := hp
    rw [hp]
    intro i k hk
    exact slice_writeAll_disjoint _ (by simp; omega)

theorem prepareFrameForTx_onWire (hctx : ctx.ForClass conf frameType)
    (hc : CountedClass conf frameType) (hlen : frame.length = conf.frameLength)
    (hh : HasHeader conf frameType frame) (s t : UInt64) :
    OnWire conf frameType (prepareFrameForTx (ctx.prepareFrameConfig frame s t)).1 s := by
  have hview := prepareFrameForTx_view hctx hc frame s t
  refine ⟨(length_prepareFrameForTx _).trans hlen, fun etherType he => ?_, ?_⟩
  · have hoff := metaData_behind_header he conf.securityMode
    obtain ⟨htag, hproto⟩ := hh etherType he
    constructor
    · rw [be16At, hview 12 2 (by omega), slice_setMetaData (.inl (by omega)), ← be16At, htag]
    · rw [be16At, hview 16 2 (by omega), slice_setMetaData (.inl (by omega)), ← be16At, hproto]
  · rw [metaDataToSequenceCounter_congr (hview _ 16 (Nat.le_refl _))]
    exact (setMetaData_decode (by rw [hlen]; exact hc.metaData_fits)).1

theorem OnWire.monitored (hf : OnWire conf frameType frame s) (hc : CountedClass conf frameType)
    (monitor : Option MacAddress) : OnWire conf frameType (monitorFrame monitor frame) s := by
  refine ⟨(length_monitorFrame _ _).trans hf.length_eq, fun etherType he => ?_, ?_⟩
  · obtain ⟨htag, hproto⟩ := hf.header etherType he
    rw [be16At, be16At, slice_monitorFrame _ _ (by decide), slice_monitorFrame _ _ (by decide)]
    exact ⟨htag, hproto⟩
  · rw [metaDataToSequenceCounter_congr (slice_monitorFrame _ _ hc.metaData_behind)]
    exact hf.decode

/-- The slots lie in the memory, and each holds a frame with its header. -/
structure SlotsReady (conf : TrafficClassConfig) (frameType : StatFrameType) (room numSlots : Nat)
    (mem : List UInt8) : Prop where
  bound : numSlots ≤ 2 ^ 19
  slot : ∀ slot < numSlots, slotOffset room slot + conf.frameLength ≤ mem.length ∧
    HasHeader conf frameType (slice mem (slotOffset room slot) conf.frameLength)

theorem slotOffset_apart (hL : L ≤ maxFrameSize) (ha : a < 2 ^ 19) (hb : b < 2 ^ 19) (h : a ≠ b) :
    slotOffset room a + L ≤ slotOffset room b ∨ slotOffset room b + L ≤ slotOffset room a := by
  rw [slotOffset_eq ha, slotOffset_eq hb]
  simp only [maxFrameSize] at *
  omega

theorem slice_write_slot (hsrc : src.length ≤ L) (hL : L ≤ maxFrameSize) (ha : a < 2 ^ 19)
    (hb : b < 2 ^ 19) (h : a ≠ b) (mem : List UInt8) :
    slice (write mem (slotOffset room a) src) (slotOffset room b) L =
      slice mem (slotOffset room b) L := by
  rcases slotOffset_apart hL ha hb h with h | h
  · exact slice_write_right _ _ (Nat.le_trans (Nat.add_le_add_left hsrc _) h)
  · exact slice_write_left _ _ h

section Passes
variable {numSlots slot : Nat} {slots : List Nat}

theorem SlotsReady.write (hr : SlotsReady conf frameType room numSlots mem)
    (hc : CountedClass conf frameType) (hf : OnWire conf frameType frame s)
    (hslot : slot < numSlots) :
    SlotsReady conf frameType room numSlots (write mem (slotOffset room slot) frame) := by
  refine ⟨hr.bound, fun b hb => ?_⟩
  obtain ⟨hfit, hh⟩ := hr.slot b hb
  refine ⟨by rw [length_write]; exact hfit, ?_⟩
  by_cases h : slot = b
  · subst h
    rw [slice_write_self _ _ (by rw [hf.length_eq]; exact hfit) hf.length_eq.symm]
    exact hf.header
  · have hbound := hr.bound
    rw [slice_write_slot hf.length_eq.le hc.fits_chunk (by omega) (by omega) h]
    exact hh

theorem slice_prepareFrames (hL : ctx.conf.frameLength ≤ maxFrameSize)
    (hslots : ∀ slot ∈ slots, slot < 2 ^ 19) (hlt : b < 2 ^ 19) (hb : b ∉ slots)
    (monitor : Option MacAddress) (mem : List UInt8) (s t : UInt64) :
    slice (prepareFrames ctx room t monitor mem slots s) (slotOffset room b) ctx.conf.frameLength =
      slice mem (slotOffset room b) ctx.conf.frameLength := by
  induction slots generalizing mem monitor s with
  | nil => rfl
  | cons slot slots ih =>
    obtain ⟨hne, hb⟩ := List.ne_and_not_mem_of_not_mem_cons hb
    obtain ⟨hslot, hslots⟩ := List.forall_mem_cons.mp hslots
    rw [prepareFrames, ih hslots hb, slice_write_slot _ hL hslot hlt (Ne.symm hne)]
    rw [length_monitorFrame, length_prepareFrameForTx]
    exact List.length_take_le _ _

theorem prepareFrames_sent (hctx : ctx.ForClass conf frameType) (hc : CountedClass conf frameType)
    (hr : SlotsReady conf frameType room numSlots mem) (hslots : ∀ slot ∈ slots, slot < numSlots)
    (hnodup : slots.Nodup) (monitor : Option MacAddress) (s t : UInt64) :
    SlotsReady conf frameType room numSlots (prepareFrames ctx room t monitor mem slots s) ∧
      ∀ f ∈ sentFrames conf.frameLength room (prepareFrames ctx room t monitor mem slots s) slots s,
        OnWire conf frameType f.bytes f.sequenceCounter := by
  induction slots generalizing mem monitor s with
  | nil => exact ⟨hr, nofun⟩
  | cons slot slots ih =>
    obtain ⟨hslot, hrest⟩ := List.forall_mem_cons.mp hslots
    obtain ⟨hnot, hnodup⟩ := List.nodup_cons.mp hnodup
    obtain ⟨hfit, hh⟩ := hr.slot slot hslot
    have hf := (prepareFrameForTx_onWire hctx hc (length_slice hfit) hh s t).monitored hc monitor
    have hr' := hr.write hc hf hslot
    have hbound := hr.bound
    rw [prepareFrames, hctx.conf_eq, sentFrames]
    obtain ⟨hready, hsent⟩ := ih hr' hrest hnodup none (s + 1)
    refine ⟨hready, List.forall_mem_cons.mpr ⟨?_, hsent⟩⟩
    dsimp only
    have hlater := @slice_prepareFrames ctx room slots slot (hctx.conf_eq ▸ hc.fits_chunk)
      (fun b hb => Nat.lt_of_lt_of_le (hrest b hb) hbound) (by omega) hnot
    rw [hctx.conf_eq] at hlater
    rw [hlater,
      slice_write_self _ _ (by rw [hf.length_eq]; exact hfit) hf.length_eq.symm]
    exact hf

theorem sentFrames_counters (L room : Nat) (mem : List UInt8) (slots : List Nat) (s : UInt64) :
    (sentFrames L room mem slots s).map SentFrame.sequenceCounter =
      consecutive s slots.length := by
  induction slots generalizing s with
  | nil => rfl
  | cons slot slots ih =>
    rw [sentFrames, List.map_cons, ih, List.length_cons, consecutive]

end Passes

theorem initializeFrame_header (hctx : ctx.ForClass conf frameType)
    (hc : CountedClass conf frameType) (hm : 18 ≤ mem.length) (bufferLength : Nat)
    (source destination : MacAddress) :
    HasHeader conf frameType (initializeFrame ctx mem bufferLength source destination) := by
  intro etherType he
  by_cases hl2 : frameType = .genericL2
  · subst hl2
    cases he
    have hinit : initializeFrame ctx mem bufferLength source destination =
        genericL2InitializeFrame conf mem bufferLength source destination := by
      simp only [initializeFrame, hctx.frameType_eq, hctx.conf_eq, hc.not_ethercat rfl]
    rw [hinit]
    exact ⟨be16At_writeAll (k := 3) rfl (by omega) (by simp),
      be16At_writeAll (k := 5) rfl (by omega) (by simp)⟩
  · have hrt : frameType ∈ [.tsnHigh, .tsnLow, .rtc, .rta, .dcp] ∧ etherType = ethPProfinetRt := by
      cases frameType <;> simp_all [wireEtherType]
    obtain ⟨ht, rfl⟩ := hrt
    by_cases hmode : conf.securityMode = .none
    · rw [initializeFrame_rt hctx hmode ht]
      exact ⟨be16At_writeAll (k := 3) rfl (by omega) (by simp),
        be16At_writeAll (k := 5) rfl (by omega) (by simp)⟩
    · rw [initializeFrame_secure hctx (hc.secured hmode) hmode]
      exact ⟨be16At_writeAll (k := 3) rfl (by omega) (by simp),
        be16At_writeAll (k := 5) rfl (by omega) (by simp)⟩

theorem slot_end_le (hm : numFrames * maxFrameSize ≤ mem.length) (hslot : slot < numFrames) :
    slot * maxFrameSize + maxFrameSize ≤ mem.length := by
  have hnext := Nat.mul_le_mul_right maxFrameSize (Nat.succ_le_of_lt hslot)
  rw [Nat.succ_mul] at hnext
  exact Nat.le_trans hnext hm

/-- What the initialisation leaves in a chunk, as far as the chunk goes. -/
theorem tcInitializeFrames_chunk {build : BuildConfig} {source destination : MacAddress}
    (h : tcInitializeFrames build ctx mem numFrames source destination = some frames)
    (hm : numFrames * maxFrameSize ≤ mem.length) (hslot : slot < numFrames) :
    let room := txMetadataRoom build ctx.conf
    ∃ chunk : List UInt8, maxFrameSize ≤ room + chunk.length ∧
      ∀ i k, room + (i + k) ≤ maxFrameSize →
        slice frames (slotOffset room slot + i) k =
          slice (initializeFrame ctx chunk (maxFrameSize - room) source destination) i k := by
  intro room
  have hend := slot_end_le hm hslot
  obtain ⟨old, hold, hview⟩ := slice_tcInitializeFrames h hslot
  rw [slotOffset_eq (Nat.lt_of_lt_of_le hslot (tcInitializeFrames_isSome.mp ⟨frames, h⟩))]
  refine ⟨old.drop (slot * maxFrameSize + room), ?_, fun i k hi => ?_⟩
  · rw [List.length_drop, hold]
    omega
  · exact hview i k (by omega) (by omega)

theorem tcInitializeFrames_ready {build : BuildConfig} {source destination : MacAddress}
    (hctx : ctx.ForClass conf frameType) (hc : CountedClass conf frameType)
    (hroom : txMetadataRoom build conf + conf.frameLength ≤ maxFrameSize)
    (hm : numFrames * maxFrameSize ≤ mem.length)
    (h : tcInitializeFrames build ctx mem numFrames source destination = some frames) :
    SlotsReady conf frameType (txMetadataRoom build conf) numFrames frames := by
  have hbound := tcInitializeFrames_isSome.mp ⟨frames, h⟩
  refine ⟨hbound, fun slot hslot => ?_⟩
  have hend := slot_end_le hm hslot
  have hfit : slotOffset (txMetadataRoom build conf) slot + conf.frameLength ≤ mem.length := by
    rw [slotOffset_eq (by omega)]
    omega
  refine ⟨by rw [length_tcInitializeFrames h]; exact hfit, fun etherType he => ?_⟩
  have hL : 18 ≤ conf.frameLength :=
    Nat.le_trans (metaData_behind_header he conf.securityMode)
      (Nat.le_trans (Nat.le_add_right _ 16) hc.metaData_fits)
  obtain ⟨chunk, hchunk, hview⟩ := tcInitializeFrames_chunk h hm hslot
  rw [hctx.conf_eq] at hchunk hview
  have hheader (i : Nat) (hi : i + 2 ≤ 18) :
      be16At (slice frames (slotOffset (txMetadataRoom build conf) slot) conf.frameLength) i =
        be16At (initializeFrame ctx chunk (maxFrameSize - txMetadataRoom build conf) source
          destination) i := by
    rw [be16At, slice_slice _ (by omega), hview i 2 (by omega), be16At]
  rw [hheader 12 (by decide), hheader 16 (by decide)]
  exact initializeFrame_header hctx hc (by omega) _ _ _ _ he

theorem frameNumbers_eq (h : 4096 ≤ fn) (h' : fn < 8192) (k : Nat) :
    frameNumbers fn k = (List.range k).map fun i => (fn + i) % 4096 + 4096 := by
  induction k generalizing fn with
  | zero => rfl
  | succ k ih =>
    have hnext : nextFrameNumber fn = (fn + 1) % 4096 + 4096 := rfl
    rw [frameNumbers, hnext, ih (by omega) (by omega), List.range_succ_eq_map, List.map_cons,
      List.map_map]
    congr 1
    · omega
    · refine List.map_congr_left fun i _ => ?_
      simp only [Function.comp_apply]
      omega

theorem frameNumbers_slots (h : 4096 ≤ fn) (h' : fn < 8192) (hk : k ≤ 4096) :
    let slots := (frameNumbers fn k).map (· - xskRingProdDefaultNumDescs)
    (∀ slot ∈ slots, slot < 4096) ∧ slots.Nodup ∧ slots.length = k := by
  intro slots
  have hslots : slots = (List.range k).map fun i => (fn + i) % 4096 := by
    simp only [slots, frameNumbers_eq h h', List.map_map, xskRingProdDefaultNumDescs]
    refine List.map_congr_left fun i _ => ?_
    rw [Function.comp_apply, Nat.add_sub_cancel]
  rw [hslots]
  refine ⟨?_, ?_, by simp⟩
  · intro slot hslot
    obtain ⟨i, _, rfl⟩ := List.mem_map.mp hslot
    exact Nat.mod_lt _ (by decide)
  · refine List.Nodup.map_on ?_ List.nodup_range
    intro i hi j hj hij
    rw [List.mem_range] at hi hj
    omega

structure Generator.Ready (build : BuildConfig) (conf : TrafficClassConfig)
    (frameType : StatFrameType) (g : Generator) : Prop where
  slots : SlotsReady conf frameType (txMetadataRoom build conf) (txSlots conf) g.frames
  frameNumber : 4096 ≤ g.frameNumber ∧ g.frameNumber < 8192

section Runs
variable {build : BuildConfig} {g : Generator} {p : TxPass}

/-- What a pass does that numbers its frames from `s` on. -/
structure PassSpec (build : BuildConfig) (conf : TrafficClassConfig) (frameType : StatFrameType)
    (s : UInt64) (k : Nat) (r : Generator × List SentFrame) : Prop where
  ready : r.1.Ready build conf frameType
  onWire : ∀ f ∈ r.2, OnWire conf frameType f.bytes f.sequenceCounter
  counters : r.2.map SentFrame.sequenceCounter = consecutive s k
  next : r.1.sequenceCounter = s + UInt64.ofNat k

theorem tcWaitForTxCycle_eq (h : p.sends ctx = true) :
    tcWaitForTxCycle ctx p = ctx.conf.numFramesPerCycle := by
  simp only [TxPass.sends, bne_iff_ne, tcWaitForTxCycle] at h ⊢
  split at h
  · split at h
    · rename_i hb ha
      rw [if_pos hb, if_pos ha]
    · exact absurd rfl h
  · rename_i hb
    rw [if_neg hb]

theorem txMetadataRoom_packet (h : conf.xdpEnabled = false) : txMetadataRoom build conf = 0 := by
  simp [txMetadataRoom, h]

theorem tcGenAndSendFrames_spec (hctx : ctx.ForClass conf frameType)
    (hc : CountedClass conf frameType) (hx : conf.xdpEnabled = false)
    (hg : g.Ready build conf frameType) :
    PassSpec build conf frameType g.sequenceCounter conf.numFramesPerCycle.toNat
      (tcGenAndSendFrames ctx g p) := by
  have hready := hg.slots
  have hslots : txSlots conf = conf.numFramesPerCycle.toNat := by
    rw [txSlots, hx, if_neg Bool.false_ne_true]
  rw [txMetadataRoom_packet hx, hslots] at hready
  obtain ⟨hready', hsent⟩ := prepareFrames_sent hctx hc hready
    (fun slot h => List.mem_range.mp h) List.nodup_range none g.sequenceCounter p.now
  rw [tcGenAndSendFrames, hctx.conf_eq]
  refine ⟨⟨?_, hg.frameNumber⟩, hsent, ?_, ?_⟩
  · rw [txMetadataRoom_packet hx, hslots]
    exact hready'
  · rw [sentFrames_counters, List.length_range]
  · rw [UInt64.ofNat_toNat]

theorem tcGenAndSendXdpFrames_spec (hctx : ctx.ForClass conf frameType)
    (hc : CountedClass conf frameType) (hx : conf.xdpEnabled = true)
    (hg : g.Ready build conf frameType) (hsends : p.sends ctx = true)
    (hroom : conf.numFramesPerCycle.toNat ≤ p.freeDescriptors) (monitor : Option MacAddress) :
    PassSpec build conf frameType g.sequenceCounter conf.numFramesPerCycle.toNat
      (tcGenAndSendXdpFrames build monitor ctx g p) := by
  have hready := hg.slots
  have hslots : txSlots conf = 4096 := by
    rw [txSlots, hx, if_pos rfl]
    rfl
  have hle : conf.numFramesPerCycle.toNat ≤ 4096 := Nat.le_trans hroom p.freeDescriptors_le
  obtain ⟨hlt, hnodup, hlen⟩ := frameNumbers_slots hg.frameNumber.1 hg.frameNumber.2 hle
  rw [hslots] at hready
  obtain ⟨hready', hsent⟩ := prepareFrames_sent hctx hc hready hlt hnodup monitor
    g.sequenceCounter p.now
  have hwait := tcWaitForTxCycle_eq hsends
  rw [hctx.conf_eq] at hwait
  have hnumber : 4096 ≤ nextFrameNumber^[conf.numFramesPerCycle.toNat] g.frameNumber ∧
      nextFrameNumber^[conf.numFramesPerCycle.toNat] g.frameNumber < 8192 := by
    cases conf.numFramesPerCycle.toNat with
    | zero => exact hg.frameNumber
    | succ k =>
      rw [Function.iterate_succ_apply']
      simp only [nextFrameNumber, xskRingConsDefaultNumDescs, xskRingProdDefaultNumDescs]
      omega
  rw [tcGenAndSendXdpFrames, hctx.conf_eq, if_neg (Nat.not_lt.mpr hroom), hwait]
  refine ⟨⟨?_, hnumber⟩, hsent, ?_, ?_⟩
  · rw [hslots]
    exact hready'
  · rw [sentFrames_counters, hlen]
  · rw [UInt64.ofNat_toNat]

/-- A pass either sends nothing or the frames of one cycle. -/
theorem generator_step (hctx : ctx.ForClass conf frameType) (hc : CountedClass conf frameType)
    (hg : g.Ready build conf frameType) (hp : p.HasRoom ctx) (monitor : Option MacAddress) :
    PassSpec build conf frameType g.sequenceCounter
      (if p.sends ctx then conf.numFramesPerCycle.toNat else 0)
      ((generator build monitor ctx).step g p) := by
  rw [generator]
  dsimp only
  by_cases hs : p.sends ctx = true
  · have hroom := hp hs
    rw [hctx.conf_eq] at hroom
    rw [if_pos hs, if_neg (bne_iff_ne.mp hs), hctx.conf_eq]
    cases hx : conf.xdpEnabled with
    | true => exact tcGenAndSendXdpFrames_spec hctx hc hx hg hs (hroom hx) monitor
    | false => exact tcGenAndSendFrames_spec hctx hc hx hg
  · have hwait : tcWaitForTxCycle ctx p = 0 := by simpa [TxPass.sends] using hs
    rw [if_neg hs, if_pos hwait]
    exact ⟨hg, nofun, rfl, (UInt64.add_zero _).symm⟩

theorem add_one_add_ofNat (x : UInt64) (k : Nat) :
    x + 1 + UInt64.ofNat k = x + UInt64.ofNat (k + 1) := by
  rw [UInt64.ofNat_add, UInt64.add_assoc, UInt64.add_comm 1]
  rfl

theorem toNat_add_ofNat {c : UInt64} (h : c.toNat + i < 2 ^ 64) :
    (c + UInt64.ofNat i).toNat = c.toNat + i := by
  rw [UInt64.toNat_add, UInt64.toNat_ofNat', Nat.add_mod_mod, Nat.mod_eq_of_lt h]

theorem getElem?_consecutive (c : UInt64) (h : i < N) :
    (consecutive c N)[i]? = some (c + UInt64.ofNat i) := by
  induction N generalizing c i with
  | zero => cases h
  | succ N ih =>
    rw [consecutive]
    cases i with
    | zero => exact congrArg some (UInt64.add_zero c).symm
    | succ i => rw [List.getElem?_cons_succ, ih _ (by omega), add_one_add_ofNat]

theorem consecutive_append (x : UInt64) (a b : Nat) :
    consecutive x (a + b) = consecutive x a ++ consecutive (x + UInt64.ofNat a) b := by
  induction a generalizing x with
  | zero => simp [consecutive]
  | succ a ih =>
    rw [Nat.succ_add, consecutive, consecutive, ih, List.cons_append, add_one_add_ofNat]

/-- The frames of a run are numbered without a gap. -/
theorem generator_run (hctx : ctx.ForClass conf frameType) (hc : CountedClass conf frameType)
    (hg : g.Ready build conf frameType) {passes : List TxPass}
    (hp : ∀ p ∈ passes, p.HasRoom ctx) (monitor : Option MacAddress) :
    let sent := ((generator build monitor ctx).run g passes).2.flatten
    (∀ f ∈ sent, OnWire conf frameType f.bytes f.sequenceCounter) ∧
      sent.map SentFrame.sequenceCounter = consecutive g.sequenceCounter
        (passes.countP (·.sends ctx) * conf.numFramesPerCycle.toNat) := by
  induction passes generalizing g with
  | nil =>
    rw [List.countP_nil, Nat.zero_mul]
    exact ⟨nofun, rfl⟩
  | cons p passes ih =>
    obtain ⟨hp, hrest⟩ := List.forall_mem_cons.mp hp
    have hstep := generator_step hctx hc hg hp monitor
    obtain ⟨hwire, hcounters⟩ := ih hstep.ready hrest
    have hcount : (p :: passes).countP (·.sends ctx) * conf.numFramesPerCycle.toNat =
        (if p.sends ctx then conf.numFramesPerCycle.toNat else 0) +
          passes.countP (·.sends ctx) * conf.numFramesPerCycle.toNat := by
      rw [List.countP_cons, Nat.add_mul, Nat.add_comm]
      split <;> simp
    rw [System.run_cons, List.flatten_cons, hcount, consecutive_append]
    dsimp only
    rw [List.map_append, hstep.counters, ← hstep.next, hcounters]
    refine ⟨fun f hf => ?_, rfl⟩
    rcases List.mem_append.mp hf with hf | hf
    · exact hstep.onWire f hf
    · exact hwire f hf

variable {securityInit : SecurityAlgorithm → List UInt8 → Aead.Cipher} {source : MacAddress}
  {tx sender : ThreadContext} {umem : List UInt8}

theorem tcThreadsCreate_txFrameData
    (htx : tcThreadsCreate securityInit conf frameType source = some tx)
    (hx : conf.xdpEnabled = false) :
    tx.txFrameData.length = conf.numFramesPerCycle.toNat * maxFrameSize := by
  simp only [tcThreadsCreate, Option.bind_eq_bind, Option.bind_eq_some_iff, Option.pure_def,
    Option.some.injEq] at htx
  obtain ⟨txFrameData, hdata, rxFrameData, -, frameCopy, -, mirrorBuffer, -, rfl⟩ := htx
  rw [frameDataAllocate, hx, if_neg Bool.false_ne_true] at hdata
  change txFrameData.length = _
  rw [(calloc_eq_some hdata).2, List.length_replicate]

theorem tcTxThreadInit_sender (hclass : tx.ForClass conf frameType)
    (hinit : tcTxThreadInit build tx = some sender) :
    sender.ForClass conf frameType ∧ sender.source = tx.source ∧ txSlots conf ≤ 2 ^ 19 ∧
      (conf.xdpEnabled = false → tcInitializeFrames build tx tx.txFrameData
        conf.numFramesPerCycle.toNat tx.source conf.l2Destination = some sender.txFrameData) := by
  have hslots := (tcTxThreadInit_isSome.mp ⟨sender, hinit⟩).2
  obtain ⟨-, txFrameData, frameCopy, hdata, -, rfl⟩ := tcTxThreadInit_eq_some.mp hinit
  rw [hclass.conf_eq] at hslots hdata
  refine ⟨⟨hclass.conf_eq, hclass.frameType_eq, hclass.frameId_eq, hclass.metaDataOffset_eq⟩, rfl,
    (txSlots_le conf).mpr hslots, fun hx => ?_⟩
  rw [hx, if_neg Bool.false_ne_true] at hdata
  exact hdata

/-- The frames a run starts with, and the memory they were set up in. -/
theorem Generator.start_frames
    (htx : tcThreadsCreate securityInit conf frameType source = some tx)
    (hinit : tcTxThreadInit build tx = some sender)
    (humem : umem.length = xskRingConsDefaultNumDescs * maxFrameSize) :
    ∃ ctx mem, ctx.ForClass conf frameType ∧ mem.length = txSlots conf * maxFrameSize ∧
      tcInitializeFrames build ctx mem (txSlots conf) tx.source conf.l2Destination =
        some (Generator.start build sender umem).frames := by
  have hclass := (tcThreadsCreate_created htx).toForClass
  obtain ⟨hsender, hsource, -, hdata⟩ := tcTxThreadInit_sender hclass hinit
  rw [Generator.start, txSlots, hsender.conf_eq, hsource]
  cases hx : conf.xdpEnabled with
  | true =>
    rw [if_pos rfl, if_pos rfl]
    obtain ⟨frames, hframes⟩ := (@tcInitializeFrames_isSome build sender umem tx.source
      conf.l2Destination xskRingConsDefaultNumDescs).mpr (by decide)
    refine ⟨sender, umem, hsender, humem, ?_⟩
    rw [hframes]
    rfl
  | false =>
    rw [if_neg Bool.false_ne_true, if_neg Bool.false_ne_true]
    exact ⟨tx, tx.txFrameData, hclass, tcThreadsCreate_txFrameData htx hx, hdata hx⟩

theorem Generator.start_ready
    (htx : tcThreadsCreate securityInit conf frameType source = some tx)
    (hinit : tcTxThreadInit build tx = some sender) (hc : CountedClass conf frameType)
    (hroom : txMetadataRoom build conf + conf.frameLength ≤ maxFrameSize)
    (humem : umem.length = xskRingConsDefaultNumDescs * maxFrameSize) :
    (Generator.start build sender umem).Ready build conf frameType := by
  obtain ⟨ctx, mem, hctx, hlen, hframes⟩ := Generator.start_frames htx hinit humem
  exact ⟨tcInitializeFrames_ready hctx hc hroom (Nat.le_of_eq hlen.symm) hframes,
    Nat.le_refl 4096, (by decide : 4096 < 8192)⟩

end Runs

end RtcTestbench
