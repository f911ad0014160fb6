import RtcTestbench.Thread

namespace RtcTestbench
open Buffer
set_option autoImplicit true

def ethP8021Q : UInt16 := 0x8100
def ethPProfinetRt : UInt16 := 0x8892
def ethPLldp : UInt16 := 0x88cc
def ethPEthercat : UInt16 := 0x88a4

/-- The fields are written at their offsets in `vlan_ethernet_header` and `profinet_rt_header`. -/
def initializeRtProfinetFrame (frameData : List UInt8) (frameLength : Nat)
    (source destination : MacAddress) (payloadPattern : List UInt8) (vlanTci frameId : UInt16) :
    List UInt8 :=
  writeAll frameData
    [(0, List.replicate frameLength 0), (0, destination.bytes), (6, source.bytes),
      (12, be16 ethP8021Q), (14, be16 vlanTci), (16, be16 ethPProfinetRt),
      (18, be16 frameId), (20, be32 0), (24, be32 0),
      (sizeofVlanEthernetHeader + sizeofProfinetRtHeader, payloadPattern)]

/-- The secure header has eight bytes of security data between the frame id and the meta data. -/
def initializeSecureProfinetFrame (mode : SecurityMode) (frameData : List UInt8)
    (frameLength : Nat) (source destination : MacAddress) (payloadPattern : List UInt8)
    (vlanTci frameId : UInt16) : List UInt8 :=
  let securityLength : UInt16 :=
    UInt16.ofNat (frameLength - sizeofVlanEthernetHeader - sizeofSecurityChecksum)
  writeAll frameData
    [(0, List.replicate frameLength 0), (0, destination.bytes), (6, source.bytes),
      (12, be16 ethP8021Q), (14, be16 vlanTci), (16, be16 ethPProfinetRt),
      (18, be16 frameId), (20, [if mode = .ao then 0x00 else 0x01]),
      (26, be16 securityLength), (28, be32 0), (32, be32 0),
      (sizeofVlanEthernetHeader + sizeofProfinetSecureHeader, payloadPattern)]

def initializeProfinetFrame (mode : SecurityMode) (frameData : List UInt8) (frameLength : Nat)
    (source destination : MacAddress) (payloadPattern : List UInt8) (vlanTci frameId : UInt16) :
    List UInt8 :=
  match mode with
  | .none => initializeRtProfinetFrame frameData frameLength source destination payloadPattern
      vlanTci frameId
  | .ae | .ao => initializeSecureProfinetFrame mode frameData frameLength source destination
      payloadPattern vlanTci frameId

def genericL2InitializeFrame (conf : TrafficClassConfig) (frameData : List UInt8)
    (frameLength : Nat) (source destination : MacAddress) : List UInt8 :=
  writeAll frameData
    [(0, List.replicate frameLength 0), (0, destination.bytes), (6, source.bytes),
      (12, be16 ethP8021Q), (14, be16 conf.vlanTci), (16, be16 conf.etherType.toUInt16),
      (18, be32 0), (22, be32 0),
      (sizeofVlanEthernetHeader + sizeofGenericL2Header, conf.payloadPattern.bytes)]

def lldpInitializeFrame (conf : TrafficClassConfig) (frameData : List UInt8)
    (frameLength : Nat) (source destination : MacAddress) : List UInt8 :=
  writeAll frameData
    [(0, List.replicate frameLength 0), (0, destination.bytes), (6, source.bytes),
      (12, be16 ethPLldp), (sizeofEthhdr, List.replicate sizeofReferenceMetaData 0),
      (sizeofEthhdr + sizeofReferenceMetaData, conf.payloadPattern.bytes)]

def initializeEthercatFrame (frameData : List UInt8) (frameLength : Nat)
    (source destination : MacAddress) : List UInt8 :=
  writeAll frameData
    [(0, List.replicate frameLength 0), (0, destination.bytes), (6, source.bytes),
      (12, be16 ethPEthercat), (sizeofEthhdr, [0x16, 0x10]),
      (sizeofEthhdr + sizeofEthercatHeader,
        [0, 0, 0, 0, 0, 0, 0x08, 0, 0, 0, 0, 0, 0, 0, 0, 0, 0, 0, 0, 0])]

/-- There is no header and no padding is written: the buffer comes zeroed. -/
def udpInitializeFrame (conf : TrafficClassConfig) (frameData : List UInt8) : List UInt8 :=
  writeAll frameData
    [(0, List.replicate sizeofReferenceMetaData 0),
      (sizeofReferenceMetaData, conf.payloadPattern.bytes)]

/-- `desc->ops.initialize_frame`, and the UDP function that is not part of the table. -/
def initializeFrame (ctx : ThreadContext) (frameData : List UInt8) (frameLength : Nat)
    (source destination : MacAddress) : List UInt8 :=
  let conf := ctx.conf
  match ctx.frameType with
  | .tsnHigh | .tsnLow | .rtc | .rta =>
    initializeProfinetFrame conf.securityMode frameData frameLength source destination
      conf.payloadPattern.bytes conf.vlanTci ctx.frameId
  | .dcp =>
    initializeProfinetFrame .none frameData frameLength source destination
      conf.payloadPattern.bytes conf.vlanTci 0xfefe
  | .lldp => lldpInitializeFrame conf frameData frameLength source destination
  | .udpHigh | .udpLow => udpInitializeFrame conf frameData
  | .genericL2 =>
    match conf.protocolType with
    | .etherCat => initializeEthercatFrame frameData frameLength source destination
    | .genericL2 => genericL2InitializeFrame conf frameData frameLength source destination

/-- How far AF_XDP Tx meta data pushes a frame into its chunk. -/
def txMetadataRoom (build : BuildConfig) (conf : TrafficClassConfig) : Nat :=
  if (build.haveXdpTxTime || build.txTimestamp) && conf.xdpEnabled &&
      (conf.txTimeEnabled || conf.txHwtstampEnabled) then build.sizeofXskTxMetadata
  else 0

/-- The conversion of a size to `int`. -/
def cInt (x : Int) : Int := x.bmod (2 ^ 32)

/-- `frame_idx` as the distance from the first frame; the product is one of two `int`s. -/
def frameIdx (idx : Int) : Int := cInt (idx * maxFrameSize)

/-- Where a frame lies in its memory, behind the room for Tx meta data. -/
def slotOffset (room slot : Nat) : Nat := (frameIdx (cInt slot)).toNat + room

/-- `none` when a frame would be set up in front of its memory. -/
def tcInitializeFrames (build : BuildConfig) (ctx : ThreadContext) (frameData : List UInt8)
    (numFrames : Nat) (source destination : MacAddress) : Option (List UInt8) :=
  (List.range numFrames).foldlM (fun mem (i : Nat) =>
    if frameIdx (cInt i) < 0 then none
    else some (atOffset mem (slotOffset (txMetadataRoom build ctx.conf) i) fun frame =>
      initializeFrame ctx frame (maxFrameSize - txMetadataRoom build ctx.conf) source
        destination)) frameData

/-- `XSK_RING_PROD__DEFAULT_NUM_DESCS`, the first chunk of the Tx half of the UMEM area. -/
def xskRingProdDefaultNumDescs : Nat := 4096

/-- `XSK_RING_CONS__DEFAULT_NUM_DESCS`, the number of chunks in that half. -/
def xskRingConsDefaultNumDescs : Nat := 4096

structure PrepareFrameConfig where
  mode : SecurityMode
  securityContext : Aead.Cipher
  ivPrefix : List UInt8
  payloadPattern : List UInt8
  frameData : List UInt8
  frameLength : Nat
  numFramesPerCycle : UInt64
  sequenceCounter : UInt64
  txTimestamp : UInt64
  metaDataOffset : Nat
  frameType : StatFrameType
  protocolType : ProtocolType

/-- What both Tx paths put into the request for a generated frame. -/
def ThreadContext.prepareFrameConfig (ctx : ThreadContext) (frameData : List UInt8)
    (sequenceCounter txTimestamp : UInt64) : PrepareFrameConfig where
  mode := ctx.conf.securityMode
  securityContext := ctx.txSecurityContext
  ivPrefix := ctx.conf.securityIvPrefix.bytes
  payloadPattern := ctx.payloadPattern
  frameData := frameData
  frameLength := ctx.conf.frameLength
  numFramesPerCycle := ctx.conf.numFramesPerCycle
  sequenceCounter := sequenceCounter
  txTimestamp := txTimestamp
  metaDataOffset := ctx.metaDataOffset
  frameType := ctx.frameType
  protocolType := ctx.conf.protocolType

def PrepareFrameConfig.adjustMetaData (c : PrepareFrameConfig) (off : Nat) : List UInt8 :=
  setMetaData c.frameData off c.sequenceCounter c.numFramesPerCycle c.txTimestamp

/-- The frame after the call and the return value. -/
def prepareFrameForTx (c : PrepareFrameConfig) : List UInt8 × Int :=
  if c.frameType = .genericL2 ∧ c.protocolType = .etherCat then
    let ecatLength := ((UInt64.ofNat c.frameLength - 14) &&& 0x7ff) ||| 0x1000
    let cmdLength := (UInt64.ofNat c.frameLength - 28) &&& 0x7ff
    (writeAll c.frameData
      [(26, leBytes 8 c.txTimestamp.toNat), (14, leBytes 2 ecatLength.toNat),
        (22, leBytes 2 cmdLength.toNat)], 0)
  else
    let beginOfAadData := sizeofVlanEthernetHeader
    let beginOfSecurityChecksum := c.frameLength - sizeofSecurityChecksum
    let iv := prepareIv c.ivPrefix c.sequenceCounter
    match c.mode with
    | .none => (c.adjustMetaData c.metaDataOffset, 0)
    | .ao =>
      let frame := c.adjustMetaData (sizeofVlanEthernetHeader + 10)
      let sizeOfAadData := c.frameLength - sizeofVlanEthernetHeader - sizeofSecurityChecksum
      let e := c.securityContext.encrypt none (slice frame beginOfAadData sizeOfAadData) iv
      (write frame beginOfSecurityChecksum e.tag, e.ret)
    | .ae =>
      let frame := c.adjustMetaData (sizeofVlanEthernetHeader + 10)
      let sizeOfAadData := sizeofProfinetSecureHeader
      let beginOfCiphertext := sizeofVlanEthernetHeader + sizeofProfinetSecureHeader
      let e := c.securityContext.encrypt (some c.payloadPattern)
        (slice frame beginOfAadData sizeOfAadData) iv
      (writeAll frame [(beginOfCiphertext, e.ciphertext), (beginOfSecurityChecksum, e.tag)],
        e.ret)

/-- `udp_gen_and_send_frame` up to the send call. -/
def udpPrepareFrame (frameData : List UInt8)
    (numFramesPerCycle sequenceCounter txTimestamp : UInt64) : List UInt8 :=
  setMetaData frameData 0 sequenceCounter numFramesPerCycle txTimestamp

def prepareFrame (ctx : ThreadContext) (frameData : List UInt8)
    (sequenceCounter txTimestamp : UInt64) : List UInt8 × Int :=
  match ctx.frameType with
  | .udpHigh | .udpLow =>
    (udpPrepareFrame frameData ctx.conf.numFramesPerCycle sequenceCounter txTimestamp, 0)
  | _ => prepareFrameForTx (ctx.prepareFrameConfig frameData sequenceCounter txTimestamp)

theorem length_initializeFrame (ctx : ThreadContext) (frameData : List UInt8) (frameLength : Nat)
    (source destination : MacAddress) :
    (initializeFrame ctx frameData frameLength source destination).length = frameData.length := by
  unfold initializeFrame initializeProfinetFrame
  dsimp only
  split <;> first | split | skip
  all_goals exact length_writeAll _ _

/-- How far into a frame its initialisation writes, apart from clearing it first. -/
def initializedLength (ctx : ThreadContext) : Nat :=
  let patternLength := ctx.conf.payloadPattern.bytes.length
  match ctx.frameType with
  | .tsnHigh | .tsnLow | .rtc | .rta =>
    match ctx.conf.securityMode with
    | .none => sizeofVlanEthernetHeader + sizeofProfinetRtHeader + patternLength
    | _ => sizeofVlanEthernetHeader + sizeofProfinetSecureHeader + patternLength
  | .dcp => sizeofVlanEthernetHeader + sizeofProfinetRtHeader + patternLength
  | .lldp => sizeofEthhdr + sizeofReferenceMetaData + patternLength
  | .udpHigh | .udpLow => sizeofReferenceMetaData + patternLength
  | .genericL2 =>
    match ctx.conf.protocolType with
    | .etherCat => sizeofEthhdr + sizeofEthercatHeader + 20
    | .genericL2 => sizeofVlanEthernetHeader + sizeofGenericL2Header + patternLength

/-- The number of frames a Tx thread sets up to send. -/
def txSlots (conf : TrafficClassConfig) : Nat :=
  if conf.xdpEnabled then xskRingConsDefaultNumDescs else conf.numFramesPerCycle.toNat

/-- What the Tx threads do before their loop: set up the frames, those of AF_XDP in the UMEM area
(`Generator.start`), and the copy for AE. The copy is one chunk; `none` when the payload pattern is
written past its end, or a frame in front of its memory. -/
def tcTxThreadInit (build : BuildConfig) (ctx : ThreadContext) : Option ThreadContext :=
  if maxFrameSize < txMetadataRoom build ctx.conf + initializedLength ctx then none
  else do
    let txFrameData ← (if ctx.conf.xdpEnabled then some ctx.txFrameData
      else tcInitializeFrames build ctx ctx.txFrameData ctx.conf.numFramesPerCycle.toNat
        ctx.source ctx.conf.l2Destination)
    let frameCopy ←
      tcInitializeFrames build ctx ctx.frameCopy 1 ctx.source ctx.conf.l2Destination
    return { ctx with txFrameData, frameCopy }

theorem cInt_of_lt (h : x < 2 ^ 31) : cInt (x : Nat) = x := by
  rw [cInt]
  apply Int.bmod_eq_of_le
  · omega
  · omega

/-- The offset of a frame is an `int`. -/
theorem frameIdx_slot {slot : Nat} (h : slot < 2 ^ 19) :
    frameIdx (cInt slot) = slot * maxFrameSize := by
  rw [cInt_of_lt (by omega), frameIdx]
  have := cInt_of_lt (show slot * maxFrameSize < 2 ^ 31 by rw [maxFrameSize]; omega)
  rw [Nat.cast_mul] at this
  exact this

theorem frameIdx_overflow : frameIdx (cInt ((2 ^ 19 : Nat) : Int)) = -2 ^ 31 := by
  decide +kernel

theorem slotOffset_eq {slot : Nat} (h : slot < 2 ^ 19) (room : Nat) :
    slotOffset room slot = slot * maxFrameSize + room := by
  rw [slotOffset, frameIdx_slot h]
  rfl

theorem txSlots_le (conf : TrafficClassConfig) :
    txSlots conf ≤ 2 ^ 19 ↔ conf.xdpEnabled = true ∨ conf.numFramesPerCycle.toNat ≤ 2 ^ 19 := by
  rw [txSlots]
  cases conf.xdpEnabled with
  | true => exact iff_of_true (show xskRingConsDefaultNumDescs ≤ 2 ^ 19 by decide) (.inl rfl)
  | false => simp only [Bool.false_eq_true, if_false, false_or]

variable {build : BuildConfig} {ctx : ThreadContext} {mem frames : List UInt8}
  {source destination : MacAddress} {numFrames : Nat}

theorem tcInitializeFrames_succ (build : BuildConfig) (ctx : ThreadContext) (mem : List UInt8)
    (numFrames : Nat) (source destination : MacAddress) :
    tcInitializeFrames build ctx mem (numFrames + 1) source destination =
      (tcInitializeFrames build ctx mem numFrames source destination).bind fun frames =>
        if frameIdx (cInt numFrames) < 0 then none
        else some (atOffset frames (slotOffset (txMetadataRoom build ctx.conf) numFrames)
          fun frame => initializeFrame ctx frame (maxFrameSize - txMetadataRoom build ctx.conf)
            source destination) := by
  rw [tcInitializeFrames, List.range_succ, List.foldlM_append]
  simp only [List.foldlM_cons, List.foldlM_nil, bind_pure]
  rfl

/-- Frame 2 ^ 19 is the first whose offset is no `int`. -/
theorem tcInitializeFrames_isSome :
    (∃ frames, tcInitializeFrames build ctx mem numFrames source destination = some frames) ↔
      numFrames ≤ 2 ^ 19 := by
  constructor
  · intro h
    by_contra hlt
    obtain ⟨k, rfl⟩ : ∃ k, numFrames = 2 ^ 19 + 1 + k := ⟨numFrames - 2 ^ 19 - 1, by omega⟩
    clear hlt
    induction k with
    | zero =>
      obtain ⟨frames, h⟩ := h
      rw [tcInitializeFrames_succ, frameIdx_overflow] at h
      obtain ⟨before, -, h⟩ := Option.bind_eq_some_iff.mp h
      cases h
    | succ k ih =>
      obtain ⟨frames, h⟩ := h
      rw [← Nat.add_assoc, tcInitializeFrames_succ] at h
      obtain ⟨before, hbefore, -⟩ := Option.bind_eq_some_iff.mp h
      exact ih ⟨before, hbefore⟩
  · intro hle
    induction numFrames with
    | zero => exact ⟨mem, rfl⟩
    | succ numFrames ih =>
      obtain ⟨frames, h⟩ := ih (by omega)
      have hpos : ¬ frameIdx (cInt numFrames) < 0 := by
        rw [frameIdx_slot (by omega), maxFrameSize]
        omega
      rw [tcInitializeFrames_succ, h, Option.bind_some]
      exact ⟨_, if_neg hpos⟩

theorem length_tcInitializeFrames
    (h : tcInitializeFrames build ctx mem numFrames source destination = some frames) :
    frames.length = mem.length := by
  induction numFrames generalizing frames with
  | zero =>
    cases h
    rfl
  | succ numFrames ih =>
    rw [tcInitializeFrames_succ] at h
    obtain ⟨before, hbefore, h⟩ := Option.bind_eq_some_iff.mp h
    split at h
    · cases h
    · cases h
      rw [length_atOffset _ fun xs => length_initializeFrame ctx xs _ source destination,
        ih hbefore]

theorem slice_tcInitializeFrames
    (h : tcInitializeFrames build ctx mem numFrames source destination = some frames)
    (hi : i < numFrames) :
    let off := i * maxFrameSize + txMetadataRoom build ctx.conf
    ∃ old : List UInt8, old.length = mem.length ∧ ∀ k len, k + len ≤ maxFrameSize →
      off + k + len ≤ mem.length →
      slice frames (off + k) len =
        slice (initializeFrame ctx (old.drop off) (maxFrameSize - txMetadataRoom build ctx.conf)
          source destination) k len := by
  intro off
  have hle := tcInitializeFrames_isSome.mp ⟨frames, h⟩
  induction numFrames generalizing frames with
  | zero => cases hi
  | succ numFrames ih =>
    rw [tcInitializeFrames_succ, slotOffset_eq (by omega)] at h
    obtain ⟨before, hbefore, h⟩ := Option.bind_eq_some_iff.mp h
    have hlen := length_tcInitializeFrames hbefore
    split at h
    · cases h
    · cases h
      by_cases hlast : i = numFrames
      · subst hlast
        refine ⟨_, hlen, fun k len _ hm => ?_⟩
        rw [slice_atOffset_right _ _ _ _ (by omega)]
      · obtain ⟨old, hold, hview⟩ := ih hbefore (by omega) (by omega)
        refine ⟨old, hold, fun k len hk hm => ?_⟩
        have hslot : (i + 1) * maxFrameSize ≤ numFrames * maxFrameSize :=
          Nat.mul_le_mul_right _ (by omega)
        rw [slice_atOffset_left _ _ (by rw [Nat.succ_mul] at hslot; omega) (by omega),
          hview k len hk hm]

/-- What the Tx threads have before their loop. -/
theorem tcTxThreadInit_eq_some {sender : ThreadContext} :
    tcTxThreadInit build ctx = some sender ↔
      txMetadataRoom build ctx.conf + initializedLength ctx ≤ maxFrameSize ∧
        ∃ txFrameData frameCopy,
          (if ctx.conf.xdpEnabled then some ctx.txFrameData
            else tcInitializeFrames build ctx ctx.txFrameData ctx.conf.numFramesPerCycle.toNat
              ctx.source ctx.conf.l2Destination) = some txFrameData ∧
          tcInitializeFrames build ctx ctx.frameCopy 1 ctx.source ctx.conf.l2Destination =
            some frameCopy ∧
          sender = { ctx with txFrameData, frameCopy } := by
  rw [tcTxThreadInit]
  split
  · simp only [reduceCtorEq, false_iff]
    omega
  · simp only [Option.bind_eq_bind, Option.bind_eq_some_iff, Option.pure_def, Option.some.injEq]
    constructor
    · rintro ⟨txFrameData, hdata, frameCopy, hcopy, rfl⟩
      exact ⟨by omega, txFrameData, frameCopy, hdata, hcopy, rfl⟩
    · rintro ⟨-, txFrameData, frameCopy, hdata, hcopy, rfl⟩
      exact ⟨txFrameData, hdata, frameCopy, hcopy, rfl⟩

/-- The threads get to their loop unless a frame or the pattern leaves its memory. -/
theorem tcTxThreadInit_isSome :
    (∃ sender, tcTxThreadInit build ctx = some sender) ↔
      txMetadataRoom build ctx.conf + initializedLength ctx ≤ maxFrameSize ∧
        (ctx.conf.xdpEnabled = true ∨ ctx.conf.numFramesPerCycle.toNat ≤ 2 ^ 19) := by
  obtain ⟨copy, hcopy⟩ := (@tcInitializeFrames_isSome build ctx ctx.frameCopy ctx.source
    ctx.conf.l2Destination 1).mpr (by decide)
  simp only [tcTxThreadInit_eq_some]
  cases hx : ctx.conf.xdpEnabled with
  | true =>
    simp only [if_true, true_or, and_true]
    constructor
    · rintro ⟨sender, hfit, -⟩
      exact hfit
    · intro hfit
      exact ⟨_, hfit, _, copy, rfl, hcopy, rfl⟩
  | false =>
    simp only [Bool.false_eq_true, if_false, false_or]
    constructor
    · rintro ⟨sender, hfit, data, -, hdata, -⟩
      exact ⟨hfit, tcInitializeFrames_isSome.mp ⟨data, hdata⟩⟩
    · rintro ⟨hfit, hn⟩
      obtain ⟨data, hdata⟩ := tcInitializeFrames_isSome.mpr hn
      exact ⟨_, hfit, data, copy, hdata, hcopy, rfl⟩

end RtcTestbench
