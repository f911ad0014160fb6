import RtcTestbench.Config
import RtcTestbench.Lib.ChaCha20Poly1305
import RtcTestbench.MetaData
import RtcTestbench.RingBuffer

namespace RtcTestbench
open Buffer
set_option autoImplicit true

inductive TcTxModel where
  | cyclic | burst | standalone
  deriving DecidableEq, Repr

/-- What the create function of a class stores as its Tx model; UDP has threads of its own. -/
def tcTxModel : StatFrameType → TcTxModel
  | .tsnHigh | .tsnLow | .rtc => .cyclic
  | .rta | .dcp | .lldp | .udpHigh | .udpLow => .burst
  | .genericL2 => .standalone

/-- `struct thread_context`. The AE payload pattern is a window into `frameCopy`. -/
structure ThreadContext where
  conf : TrafficClassConfig
  frameType : StatFrameType
  trafficClass : String
  frameId : UInt16
  metaDataOffset : Nat
  source : MacAddress
  txFrameData : List UInt8
  rxFrameData : List UInt8
  frameCopy : List UInt8
  payloadPatternLength : Nat
  mirrorBuffer : Option RingBuffer
  txSecurityContext : Aead.Cipher
  rxSecurityContext : Aead.Cipher
  rxSequenceCounter : UInt64

/-- `ctx->payload_pattern`: fixed at `frame_copy` plus both headers. -/
def ThreadContext.payloadPattern (ctx : ThreadContext) : List UInt8 :=
  slice ctx.frameCopy (sizeofVlanEthernetHeader + sizeofProfinetSecureHeader)
    ctx.payloadPatternLength

def getMetaDataOffset (frameType : StatFrameType) (securityMode : SecurityMode) : Nat :=
  match frameType with
  | .tsnHigh | .tsnLow | .rtc | .rta | .dcp =>
    match securityMode with
    | .none => sizeofVlanEthernetHeader + 2
    | _ => sizeofVlanEthernetHeader + 10
  | .lldp => sizeofEthhdr
  | .udpHigh | .udpLow => 0
  | .genericL2 => sizeofVlanEthernetHeader

def classFrameId (frameType : StatFrameType) (securityMode : SecurityMode) : UInt16 :=
  match frameType with
  | .tsnHigh => if securityMode = .none then 0x0100 else 0x0101
  | .tsnLow => if securityMode = .none then 0x0200 else 0x0201
  | .rtc => if securityMode = .none then 0x8000 else 0x8001
  | .rta => if securityMode = .none then 0xfc01 else 0xfc02
  | .dcp => 0xfefe
  | .lldp | .udpHigh | .udpLow | .genericL2 => 0

def statFrameTypeToString (conf : TrafficClassConfig) (frameType : StatFrameType) : String :=
  if frameType = .genericL2 then conf.name else statFrameTypeName frameType

/-- `vid | pcp << VLAN_PCP_SHIFT`, cut to the 16 bits of the tag. -/
def TrafficClassConfig.vlanTci (conf : TrafficClassConfig) : UInt16 :=
  (conf.vid.toUInt32 ||| (conf.pcp.toUInt32 <<< 13)).toUInt16

/-- `ring_buffer_allocate(MAX_FRAME_SIZE * num_frames_per_cycle)`; the product is a `size_t`. -/
def mirrorBufferAllocate (conf : TrafficClassConfig) : Option RingBuffer :=
  ringBufferAllocate (maxFrameSize * conf.numFramesPerCycle.toNat % 2 ^ 64)

def frameDataAllocate (conf : TrafficClassConfig) : Option (List UInt8) :=
  if conf.xdpEnabled then some [] else calloc conf.numFramesPerCycle.toNat maxFrameSize

def mirrorBufferCreate (conf : TrafficClassConfig) (needed : Bool) :
    Option (Option RingBuffer) :=
  if needed then (mirrorBufferAllocate conf).map some else some none

/-- `tc_threads_create`; `none` when an allocation fails. -/
def tcThreadsCreate (securityInit : SecurityAlgorithm → List UInt8 → Aead.Cipher)
    (conf : TrafficClassConfig) (frameType : StatFrameType) (source : MacAddress) :
    Option ThreadContext := do
  let txFrameData ← frameDataAllocate conf
  let rxFrameData ← frameDataAllocate conf
  let frameCopy ← calloc 1 maxFrameSize
  let mirrorBuffer ← mirrorBufferCreate conf (conf.rxMirrorEnabled && !conf.xdpEnabled)
  let securityContext := securityInit conf.securityAlgorithm conf.securityKey.bytes
  return {
    conf, frameType, source, txFrameData, rxFrameData, frameCopy, mirrorBuffer
    trafficClass := statFrameTypeToString conf frameType
    frameId := classFrameId frameType conf.securityMode
    metaDataOffset := getMetaDataOffset frameType conf.securityMode
    payloadPatternLength := conf.frameLength - sizeofVlanEthernetHeader -
      sizeofProfinetSecureHeader - sizeofSecurityChecksum
    txSecurityContext := securityContext
    rxSecurityContext := securityContext
    rxSequenceCounter := 0 }

/-- `udp_threads_create`: one Tx frame, and what it does not set stays zero. -/
def udpThreadsCreate (securityInit : SecurityAlgorithm → List UInt8 → Aead.Cipher)
    (conf : TrafficClassConfig) (frameType : StatFrameType) : Option ThreadContext := do
  let txFrameData ← calloc 1 maxFrameSize
  let rxFrameData ← calloc conf.numFramesPerCycle.toNat maxFrameSize
  let mirrorBuffer ← mirrorBufferCreate conf conf.rxMirrorEnabled
  let securityContext := securityInit conf.securityAlgorithm conf.securityKey.bytes
  return {
    conf, frameType, txFrameData, rxFrameData, mirrorBuffer
    source := ⟨[0, 0, 0, 0, 0, 0], length_zeroAddress⟩
    frameCopy := []
    trafficClass := statFrameTypeToString conf frameType
    frameId := 0
    metaDataOffset := 0
    payloadPatternLength := 0
    txSecurityContext := securityContext
    rxSecurityContext := securityContext
    rxSequenceCounter := 0 }

/-- The create function of a class; an inactive class has no threads. -/
def threadsCreate (securityInit : SecurityAlgorithm → List UInt8 → Aead.Cipher)
    (app : AppConfig) (frameType : StatFrameType) (source : MacAddress) :
    Option ThreadContext :=
  if configIsTcActive app frameType then
    match frameType with
    | .udpHigh | .udpLow => udpThreadsCreate securityInit (app.classes frameType) frameType
    | _ => tcThreadsCreate securityInit (app.classes frameType) frameType source
  else none

variable {securityInit : SecurityAlgorithm → List UInt8 → Aead.Cipher} {app : AppConfig}
  {conf : TrafficClassConfig} {source : MacAddress} {ctx : ThreadContext} {rb : RingBuffer}

theorem calloc_eq_some (h : calloc nmemb size = some mem) :
    nmemb * size ≤ ptrdiffMax ∧ mem = List.replicate (nmemb * size) 0 := by
  rw [calloc] at h
  split at h
  · rename_i hle
    cases h
    exact ⟨hle, rfl⟩
  · cases h

/-- Next to frame buffers of the same size the product cannot have wrapped. -/
theorem mirrorBufferCreate_some (hc : calloc conf.numFramesPerCycle.toNat maxFrameSize = some mem)
    (h : mirrorBufferCreate conf needed = some (some rb)) :
    ringBufferAllocate (maxFrameSize * conf.numFramesPerCycle.toNat) = some rb := by
  have hle := (calloc_eq_some hc).1
  rw [Nat.mul_comm] at hle
  rw [mirrorBufferCreate, mirrorBufferAllocate,
    Nat.mod_eq_of_lt (Nat.lt_of_le_of_lt hle (by decide))] at h
  split at h
  · simpa using h
  · cases h

/-- The context works for a class: what the create functions set and nobody changes later. -/
structure ThreadContext.ForClass (ctx : ThreadContext) (conf : TrafficClassConfig)
    (frameType : StatFrameType) : Prop where
  conf_eq : ctx.conf = conf
  frameType_eq : ctx.frameType = frameType
  frameId_eq : ctx.frameId = classFrameId frameType conf.securityMode
  metaDataOffset_eq : ctx.metaDataOffset = getMetaDataOffset frameType conf.securityMode

structure ThreadContext.Created (ctx : ThreadContext) (conf : TrafficClassConfig)
    (frameType : StatFrameType) : Prop extends ctx.ForClass conf frameType where
  rxSequenceCounter_eq : ctx.rxSequenceCounter = 0
  mirrorBuffer_eq : ∀ rb, ctx.mirrorBuffer = some rb →
    ringBufferAllocate (maxFrameSize * conf.numFramesPerCycle.toNat) = some rb

theorem tcThreadsCreate_created
    (h : tcThreadsCreate securityInit conf frameType source = some ctx) :
    ctx.Created conf frameType := by
  simp only [tcThreadsCreate, Option.bind_eq_bind, Option.bind_eq_some_iff, Option.pure_def,
    Option.some.injEq] at h
  obtain ⟨txFrameData, htx, rxFrameData, hrx, frameCopy, hcopy, mirrorBuffer, hmb, rfl⟩ := h
  refine ⟨⟨rfl, rfl, rfl, rfl⟩, rfl, ?_⟩
  rintro rb rfl
  cases hx : conf.xdpEnabled with
  | true => simp [mirrorBufferCreate, hx] at hmb
  | false =>
    rw [frameDataAllocate, hx, if_neg Bool.false_ne_true] at hrx
    exact mirrorBufferCreate_some hrx hmb

/-- What the AE preparation relies on: a cleared copy and the room between header and checksum. -/
theorem tcThreadsCreate_secure (h : tcThreadsCreate securityInit conf frameType source = some ctx) :
    ctx.frameCopy = List.replicate maxFrameSize 0 ∧
      ctx.payloadPatternLength = conf.frameLength - 60 ∧
      ctx.txSecurityContext = securityInit conf.securityAlgorithm conf.securityKey.bytes ∧
      ctx.rxSecurityContext = ctx.txSecurityContext := by
  simp only [tcThreadsCreate, Option.bind_eq_bind, Option.bind_eq_some_iff, Option.pure_def,
    Option.some.injEq] at h
  obtain ⟨txFrameData, -, rxFrameData, -, frameCopy, hcopy, mirrorBuffer, -, rfl⟩ := h
  refine ⟨?_, ?_, rfl, rfl⟩
  · rw [(calloc_eq_some hcopy).2, Nat.one_mul]
  · simp only [sizeofVlanEthernetHeader, sizeofProfinetSecureHeader, sizeofSecurityChecksum,
      Nat.sub_sub]

theorem udpThreadsCreate_created (ht : frameType = .udpHigh ∨ frameType = .udpLow)
    (h : udpThreadsCreate securityInit conf frameType = some ctx) :
    ctx.Created conf frameType := by
  simp only [udpThreadsCreate, Option.bind_eq_bind, Option.bind_eq_some_iff, Option.pure_def,
    Option.some.injEq] at h
  obtain ⟨txFrameData, htx, rxFrameData, hrx, mirrorBuffer, hmb, rfl⟩ := h
  refine ⟨⟨rfl, rfl, ?_, ?_⟩, rfl, ?_⟩
  · rcases ht with rfl | rfl <;> rfl
  · rcases ht with rfl | rfl <;> rfl
  · rintro rb rfl
    exact mirrorBufferCreate_some hrx hmb

theorem threadsCreate_active (h : threadsCreate securityInit app frameType source = some ctx) :
    configIsTcActive app frameType = true := by
  by_contra hn
  simp [threadsCreate, hn] at h

theorem threadsCreate_created (h : threadsCreate securityInit app frameType source = some ctx) :
    ctx.Created (app.classes frameType) frameType := by
  have ha := threadsCreate_active h
  simp only [threadsCreate, ha, ↓reduceIte] at h
  split at h
  · exact udpThreadsCreate_created (.inl rfl) h
  · exact udpThreadsCreate_created (.inr rfl) h
  · exact tcThreadsCreate_created h

/-- Nothing but memory stands between an active AF_PACKET class and its mirror buffer. -/
theorem tcThreadsCreate_mirror (securityInit : SecurityAlgorithm → List UInt8 → Aead.Cipher)
    (frameType : StatFrameType) (source : MacAddress) (hx : conf.xdpEnabled = false)
    (hm : conf.rxMirrorEnabled = true)
    (hn : conf.numFramesPerCycle.toNat * maxFrameSize ≤ ptrdiffMax) :
    ∃ ctx rb, tcThreadsCreate securityInit conf frameType source = some ctx ∧
      ctx.mirrorBuffer = some rb := by
  have hcopy : 1 * maxFrameSize ≤ ptrdiffMax := by decide
  have hmod : maxFrameSize * conf.numFramesPerCycle.toNat % 2 ^ 64 * 1 ≤ ptrdiffMax := by
    rw [Nat.mul_one, Nat.mul_comm]
    exact Nat.le_trans (Nat.mod_le _ _) hn
  simp only [tcThreadsCreate, frameDataAllocate, mirrorBufferCreate, mirrorBufferAllocate,
    ringBufferAllocate, calloc, hx, hm, if_pos hn, if_pos hcopy, if_pos hmod, Bool.not_false,
    Bool.and_self, Bool.false_eq_true, ↓reduceIte, Option.map_some, Option.bind_eq_bind,
    Option.bind_some, Option.pure_def, Option.some.injEq]
  exact ⟨_, _, rfl, rfl⟩

theorem tcThreadsCreate_xdp (securityInit : SecurityAlgorithm → List UInt8 → Aead.Cipher)
    (frameType : StatFrameType) (source : MacAddress) (hx : conf.xdpEnabled = true) :
    ∃ ctx, tcThreadsCreate securityInit conf frameType source = some ctx := by
  have hcopy : 1 * maxFrameSize ≤ ptrdiffMax := by decide
  simp only [tcThreadsCreate, frameDataAllocate, mirrorBufferCreate, calloc, hx, if_pos hcopy,
    Bool.not_true, Bool.and_false, Bool.false_eq_true, ↓reduceIte, Option.bind_eq_bind,
    Option.bind_some, Option.pure_def]
  exact ⟨_, rfl⟩

theorem tcThreadsCreate_packet (securityInit : SecurityAlgorithm → List UInt8 → Aead.Cipher)
    (frameType : StatFrameType) (source : MacAddress) (hx : conf.xdpEnabled = false)
    (hn : conf.numFramesPerCycle.toNat * maxFrameSize ≤ ptrdiffMax) :
    ∃ ctx, tcThreadsCreate securityInit conf frameType source = some ctx := by
  cases hm : conf.rxMirrorEnabled with
  | true =>
    obtain ⟨ctx, -, hctx, -⟩ := tcThreadsCreate_mirror securityInit frameType source hx hm hn
    exact ⟨ctx, hctx⟩
  | false =>
    have hcopy : 1 * maxFrameSize ≤ ptrdiffMax := by decide
    simp only [tcThreadsCreate, frameDataAllocate, mirrorBufferCreate, calloc, hx, hm, if_pos hn,
      if_pos hcopy, Bool.false_and, Bool.false_eq_true, ↓reduceIte, Option.bind_eq_bind,
      Option.bind_some, Option.pure_def]
    exact ⟨_, rfl⟩

def chachaInit (_ : SecurityAlgorithm) (key : List UInt8) : Aead.Cipher :=
  ChaCha20Poly1305.cipher key

theorem configIsTcActive_pos (h : configIsTcActive app frameType = true) :
    0 < (app.classes frameType).numFramesPerCycle.toNat := by
  simp only [configIsTcActive, Bool.and_eq_true, decide_eq_true_eq, UInt64.lt_iff_toNat_lt] at h
  exact h.2

end RtcTestbench
