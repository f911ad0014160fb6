import RtcTestbench.TxFrame

namespace RtcTestbench
open Buffer
set_option autoImplicit true

inductive LogLevel where
  | error | warning | info | debug
  deriving DecidableEq, Repr

structure LogMessage where
  level : LogLevel
  text : String
  deriving DecidableEq, Repr

/-- What a receive function finds around it: the clock, the offsets that estimate the mirror's
send time, the time stamps stored in front of the frame and its uninitialised stack buffer. -/
structure RxEnv where
  build : BuildConfig
  applicationTxBaseOffsetNs : UInt64
  applicationRxBaseOffsetNs : UInt64
  now : UInt64
  rxHwTimestamp : UInt64
  rxSwTimestamp : UInt64
  newFrame : List UInt8

/-- The arguments of `stat_frame_received`. -/
structure RxReport where
  sequenceCounter : UInt64
  outOfOrder : Bool
  payloadMismatch : Bool
  frameIdMismatch : Bool
  txTimestamp : UInt64
  rxHwTimestamp : UInt64
  rxSwTimestamp : UInt64
  deriving DecidableEq, Repr

/-- The outcome of an accepted frame: the new context, the receive buffer afterwards, the
statistics call and the log lines. -/
structure RxAccepted where
  ctx : ThreadContext
  frameData : List UInt8
  report : RxReport
  logs : List LogMessage

/-- What a receive function takes out of a frame; `payload` is the memory that is compared with
the pattern. -/
structure RxDecoded where
  frameData : List UInt8
  frameId : UInt16
  sequenceCounter : UInt64
  txTimestamp : UInt64
  payload : List UInt8
  logs : List LogMessage

def setMirrorTxTimestampEst (env : RxEnv) (mem : List UInt8) (off : Nat) : List UInt8 :=
  txTimestampToMetaData mem off
    (env.now + (env.applicationTxBaseOffsetNs - env.applicationRxBaseOffsetNs))

def be16At (mem : List UInt8) (off : Nat) : UInt16 := be16toh (slice mem off 2)

def hexWidth4 (x : UInt16) : String :=
  let digits := String.ofList (Nat.toDigits 16 x.toNat)
  String.ofList (List.replicate (4 - digits.length) ' ') ++ digits

def warning (text : String) : LogMessage := ⟨.warning, text⟩

def frameText (rx : String) (sequenceCounter : UInt64) : String :=
  rx ++ ": frame[" ++ toString sequenceCounter.toNat ++ "] "

def vlanTagMissing (frameData : List UInt8) : Bool := be16At frameData 12 != ethP8021Q

def sizeOfEthHeader (frameData : List UInt8) : Nat :=
  if vlanTagMissing frameData then sizeofEthhdr else sizeofVlanEthernetHeader

def frameProto (frameData : List UInt8) : UInt16 :=
  if vlanTagMissing frameData then be16At frameData 12 else be16At frameData 16

def expectedFrameLength (conf : TrafficClassConfig) (frameData : List UInt8) : Nat :=
  if vlanTagMissing frameData then conf.frameLength - sizeofVlanHeader else conf.frameLength

/-- The checks shared by the receivers that see frames with and without VLAN tag; `none` lets the
frame pass. -/
def checkVlanFrame (conf : TrafficClassConfig) (rx wrongType : String) (etherType : UInt16)
    (frameData : List UInt8) (len : Nat) : Option LogMessage :=
  if len < sizeofVlanEthernetHeader then
    some (warning (rx ++ ": Too small frame received!\n"))
  else if frameProto frameData ≠ etherType then some (warning (rx ++ wrongType))
  else if len ≠ expectedFrameLength conf frameData then
    some (warning (rx ++ ": Frame with wrong length received!\n"))
  else none

/-- A mismatch moves the expectation by one more than a match does. -/
def nextSequenceCounter (expected received : UInt64) : UInt64 :=
  if received ≠ expected then expected + 1 + 1 else expected + 1

/-- The tail all receivers share: compare, report, log and advance the expectation. -/
def reportFrame (rx : String) (ctx : ThreadContext) (d : RxDecoded) (frameIdMismatch : Bool)
    (rxHwTimestamp rxSwTimestamp : UInt64) : RxAccepted :=
  let outOfOrder := d.sequenceCounter != ctx.rxSequenceCounter
  let payloadMismatch := d.payload != ctx.conf.payloadPattern.bytes
  let text := frameText rx d.sequenceCounter
  { ctx := { ctx with
      rxSequenceCounter := nextSequenceCounter ctx.rxSequenceCounter d.sequenceCounter }
    frameData := d.frameData
    report := ⟨d.sequenceCounter, outOfOrder, payloadMismatch, frameIdMismatch, d.txTimestamp,
      rxHwTimestamp, rxSwTimestamp⟩
    logs := d.logs ++
      (if frameIdMismatch then
        [warning (text ++ "FrameId mismatch: 0x" ++ hexWidth4 ctx.frameId ++ "!\n")] else []) ++
      (if outOfOrder && !ctx.conf.ignoreRxErrors then
        [warning (text ++ "SequenceCounter mismatch: " ++
          toString ctx.rxSequenceCounter.toNat ++ "!\n")] else []) ++
      (if payloadMismatch then [warning (text ++ "Payload Pattern mismatch!\n")] else []) }

def rxTimestamps (env : RxEnv) : UInt64 × UInt64 :=
  if env.build.rxTimestamp then (env.rxHwTimestamp, env.rxSwTimestamp) else (0, 0)

def swapMacAddresses (buffer : List UInt8) (len : Nat) : List UInt8 :=
  if len < sizeofEthhdr then buffer
  else writeAll buffer [(6, slice buffer 0 6), (0, slice buffer 6 6)]

def insertVlanTag (buffer : List UInt8) (len : Nat) (etherType vlanTci : UInt16) : List UInt8 :=
  if maxFrameSize < len + sizeofVlanHeader then buffer
  else writeAll buffer
    [(16, slice buffer 12 (len - 12)), (16, be16 etherType), (12, be16 ethP8021Q),
      (14, be16 vlanTci)]

def buildVlanFrameFromRx (oldFrame : List UInt8) (oldFrameLen : Nat) (newFrame : List UInt8)
    (newFrameLen : Nat) (etherType vlanTci : UInt16) : List UInt8 :=
  if newFrameLen < oldFrameLen + sizeofVlanHeader then newFrame
  else writeAll newFrame
    [(16, slice oldFrame 12 (oldFrameLen - 12)), (0, slice oldFrame 6 6), (6, slice oldFrame 0 6),
      (12, be16 ethP8021Q), (14, be16 vlanTci), (16, be16 etherType)]

/-- Keep the frame for the Tx thread: in place with XDP, otherwise in the mirror buffer. -/
def storeVlanFrame (env : RxEnv) (etherType : UInt16) (len : Nat) (tagMissing : Bool)
    (r : RxAccepted) : RxAccepted :=
  let conf := r.ctx.conf
  if !conf.rxMirrorEnabled then r
  else if conf.xdpEnabled then
    let frame := if tagMissing then insertVlanTag r.frameData len etherType conf.vlanTci
      else r.frameData
    { r with frameData := swapMacAddresses frame len }
  else
    let newFrame := buildVlanFrameFromRx r.frameData len env.newFrame maxFrameSize etherType
      conf.vlanTci
    { r with ctx := { r.ctx with
        mirrorBuffer := ringBufferAdd r.ctx.mirrorBuffer
          (slice newFrame 0 (len + sizeofVlanHeader)) } }

section Receivers
variable (env : RxEnv) (ctx : ThreadContext) (frameData : List UInt8) (len : Nat)

def decodeRtFrame : RxDecoded :=
  let rt := sizeOfEthHeader frameData
  let metaData := rt + 2
  let frame := setMirrorTxTimestampEst env frameData metaData
  { frameData := frame
    frameId := be16At frameData rt
    sequenceCounter := metaDataToSequenceCounter frameData metaData ctx.conf.numFramesPerCycle
    txTimestamp := metaDataToTxTimestamp frameData metaData
    payload := slice frame (rt + sizeofProfinetRtHeader) ctx.conf.payloadPattern.bytes.length
    logs := [] }

def secureSequenceCounter : UInt64 :=
  metaDataToSequenceCounter frameData (sizeOfEthHeader frameData + 10) ctx.conf.numFramesPerCycle

def secureIv : List UInt8 :=
  prepareIv ctx.conf.securityIvPrefix.bytes (secureSequenceCounter ctx frameData)

/-- The checksum covers everything from the frame id on. -/
def openAoFrame : Aead.Opened :=
  let sizeOfEth := sizeOfEthHeader frameData
  let sizeOfAadData := len - sizeOfEth - sizeofSecurityChecksum
  let beginOfSecurityChecksum := len - sizeofSecurityChecksum
  ctx.rxSecurityContext.decrypt none (slice frameData sizeOfEth sizeOfAadData)
    (slice frameData beginOfSecurityChecksum sizeofSecurityChecksum) (secureIv ctx frameData)

/-- A frame that does not authenticate is logged and processed all the same. -/
def decodeAoFrame : RxDecoded :=
  let srt := sizeOfEthHeader frameData
  let metaData := srt + 10
  let sizeOfAadData := len - srt - sizeofSecurityChecksum
  let beginOfSecurityChecksum := len - sizeofSecurityChecksum
  let frame := setMirrorTxTimestampEst env frameData metaData
  let resealed := ctx.rxSecurityContext.encrypt none (slice frame srt sizeOfAadData)
    (secureIv ctx frameData)
  let frame := write frame beginOfSecurityChecksum resealed.tag
  { frameData := frame
    frameId := be16At frameData srt
    sequenceCounter := secureSequenceCounter ctx frameData
    txTimestamp := metaDataToTxTimestamp frameData metaData
    payload := slice frame (srt + sizeofProfinetSecureHeader)
      ctx.conf.payloadPattern.bytes.length
    logs := if (openAoFrame ctx frameData len).ret ≠ 0 then
      [warning (frameText (ctx.trafficClass ++ "Rx") (secureSequenceCounter ctx frameData) ++
        "Not authentificated\n")]
      else [] }

/-- The header is authenticated, the rest is authenticated and encrypted. -/
def openAeFrame : Aead.Opened :=
  let sizeOfEth := sizeOfEthHeader frameData
  let beginOfCiphertext := sizeOfEth + sizeofProfinetSecureHeader
  let sizeOfCiphertext := len - sizeOfEth - sizeofProfinetSecureHeader - sizeofSecurityChecksum
  let beginOfSecurityChecksum := len - sizeofSecurityChecksum
  ctx.rxSecurityContext.decrypt (some (slice frameData beginOfCiphertext sizeOfCiphertext))
    (slice frameData sizeOfEth sizeofProfinetSecureHeader)
    (slice frameData beginOfSecurityChecksum sizeofSecurityChecksum) (secureIv ctx frameData)

/-- The payload is compared after decryption and the frame is encrypted again for the mirror. -/
def decodeAeFrame : RxDecoded :=
  let srt := sizeOfEthHeader frameData
  let metaData := srt + 10
  let beginOfCiphertext := srt + sizeofProfinetSecureHeader
  let beginOfSecurityChecksum := len - sizeofSecurityChecksum
  let opened := openAeFrame ctx frameData len
  let frame := setMirrorTxTimestampEst env frameData metaData
  let resealed := ctx.rxSecurityContext.encrypt (some ctx.payloadPattern)
    (slice frame srt sizeofProfinetSecureHeader) (secureIv ctx frameData)
  { frameData := writeAll frame
      [(beginOfCiphertext, resealed.ciphertext), (beginOfSecurityChecksum, resealed.tag)]
    frameId := be16At frameData srt
    sequenceCounter := secureSequenceCounter ctx frameData
    txTimestamp := metaDataToTxTimestamp frameData metaData
    payload := opened.plaintext.take ctx.conf.payloadPattern.bytes.length
    logs := if opened.ret ≠ 0 then
      [warning (frameText (ctx.trafficClass ++ "Rx") (secureSequenceCounter ctx frameData) ++
        "Not authentificated and decrypted\n")]
      else [] }

def decodeProfinetFrame : RxDecoded :=
  match ctx.conf.securityMode with
  | .none => decodeRtFrame env ctx frameData
  | .ao => decodeAoFrame env ctx frameData len
  | .ae => decodeAeFrame env ctx frameData len

def receiveProfinetFrame : Except LogMessage RxAccepted :=
  let rx := ctx.trafficClass ++ "Rx"
  match checkVlanFrame ctx.conf rx ": Not a Profinet frame received!\n" ethPProfinetRt frameData
    len with
  | some message => .error message
  | none =>
    let d := decodeProfinetFrame env ctx frameData len
    let timestamps := rxTimestamps env
    .ok (storeVlanFrame env ethPProfinetRt len (vlanTagMissing frameData)
      (reportFrame rx ctx d (d.frameId != ctx.frameId) timestamps.1 timestamps.2))

def decodeGenericL2Frame : RxDecoded :=
  let l2 := sizeOfEthHeader frameData
  let frame := setMirrorTxTimestampEst env frameData l2
  { frameData := frame
    frameId := ctx.frameId
    sequenceCounter := metaDataToSequenceCounter frameData l2 ctx.conf.numFramesPerCycle
    txTimestamp := metaDataToTxTimestamp frameData l2
    payload := slice frame (l2 + sizeofGenericL2Header) ctx.conf.payloadPattern.bytes.length
    logs := [] }

def genericL2RxFrame : Except LogMessage RxAccepted :=
  let etherType := ctx.conf.etherType.toUInt16
  match checkVlanFrame ctx.conf "GenericL2Rx" ": Frame with wrong Ether Type received!\n" etherType
    frameData len with
  | some message => .error message
  | none =>
    let timestamps := rxTimestamps env
    .ok (storeVlanFrame env etherType len (vlanTagMissing frameData)
      (reportFrame "GenericL2Rx" ctx (decodeGenericL2Frame env ctx frameData) false timestamps.1
        timestamps.2))

/-- The destination, a multicast address, is kept. -/
def dcpBuildFrameFromRx (oldFrame : List UInt8) (oldFrameLen : Nat) (newFrame : List UInt8)
    (newFrameLen : Nat) : List UInt8 :=
  if newFrameLen < oldFrameLen + sizeofVlanHeader then newFrame
  else setMirrorTxTimestampEst env
    (writeAll newFrame
      [(16, slice oldFrame 12 (oldFrameLen - 12)), (0, slice oldFrame 0 6), (6, ctx.source.bytes),
        (12, be16 ethP8021Q), (14, be16 ctx.conf.vlanTci), (16, be16 ethPProfinetRt)])
    (sizeofVlanEthernetHeader + 2)

/-- A receiver without VLAN handling: meta data and payload sit at fixed places. -/
def decodePlainFrame (metaData payload : Nat) : RxDecoded where
  frameData := frameData
  frameId := ctx.frameId
  sequenceCounter := metaDataToSequenceCounter frameData metaData ctx.conf.numFramesPerCycle
  txTimestamp := metaDataToTxTimestamp frameData metaData
  payload := slice frameData payload ctx.conf.payloadPattern.bytes.length
  logs := []

def dcpRxFrame : Except LogMessage RxAccepted :=
  if len ≠ ctx.conf.frameLength - 4 then
    .error ⟨.error, "DcpRx: Frame with wrong length received!\n"⟩
  else
    let d := decodePlainFrame ctx frameData (sizeofEthhdr + 2)
      (sizeofEthhdr + sizeofProfinetRtHeader)
    let r := reportFrame "DcpRx" ctx d false 0 0
    if !ctx.conf.rxMirrorEnabled then .ok r
    else
      let newFrame := dcpBuildFrameFromRx env ctx frameData len env.newFrame maxFrameSize
      .ok { r with ctx := { r.ctx with
        mirrorBuffer := ringBufferAdd r.ctx.mirrorBuffer
          (slice newFrame 0 (len + sizeofVlanHeader)) } }

def lldpBuildFrameFromRx : List UInt8 :=
  setMirrorTxTimestampEst env (write frameData 6 ctx.source.bytes) sizeofEthhdr

def lldpRxFrame : Except LogMessage RxAccepted :=
  if len ≠ ctx.conf.frameLength then
    .error (warning "LldpRx: Frame with wrong length received!\n")
  else
    let d := decodePlainFrame ctx frameData sizeofEthhdr (sizeofEthhdr + sizeofReferenceMetaData)
    let r := reportFrame "LldpRx" ctx d false 0 0
    if !ctx.conf.rxMirrorEnabled then .ok r
    else
      let frame := lldpBuildFrameFromRx env ctx frameData
      .ok { r with
        frameData := frame
        ctx := { r.ctx with
          mirrorBuffer := ringBufferAdd r.ctx.mirrorBuffer (slice frame 0 len) } }

/-- The payload is compared after the estimated send time has been put into the frame. -/
def decodeUdpFrame : RxDecoded :=
  let frame := setMirrorTxTimestampEst env frameData 0
  { decodePlainFrame ctx frameData 0 sizeofReferenceMetaData with
    frameData := frame
    payload := slice frame sizeofReferenceMetaData ctx.conf.payloadPattern.bytes.length }

/-- The body of the receive loop of `udp_rx_thread_routine` for one datagram. The expectation is a
local variable there; it stands in for the one of the context. -/
def udpRxFrame : Except LogMessage RxAccepted :=
  let rx := ctx.trafficClass ++ "Rx"
  if len ≠ ctx.conf.frameLength then
    .error (warning (rx ++ ": Frame with wrong length received!\n"))
  else
    let d := decodeUdpFrame env ctx frameData
    let r := reportFrame rx ctx d false 0 0
    if !ctx.conf.rxMirrorEnabled then .ok r
    else .ok { r with ctx := { r.ctx with
      mirrorBuffer := ringBufferAdd r.ctx.mirrorBuffer (slice d.frameData 0 len) } }

/-- EtherCAT frames carry no counter: every one of them counts as the next in order. -/
def receiveEthercatFrame : Except LogMessage RxAccepted :=
  let rx := ctx.trafficClass ++ "Rx"
  if len < sizeofEthhdr + sizeofEthercatHeader + 20 then
    .error (warning (rx ++ ": Too small frame received!\n"))
  else if be16At frameData 12 ≠ ethPEthercat then
    .error (warning (rx ++ ": Not an EtherCAT frame received!\n"))
  else if slice frameData 6 1 = slice ctx.source.bytes 0 1 then
    .error (warning (rx ++ ": the slave did not process the frame!\n"))
  else .ok {
    ctx := { ctx with rxSequenceCounter := ctx.rxSequenceCounter + 1 }
    frameData := frameData
    report := ⟨ctx.rxSequenceCounter, false, false, false,
      UInt64.ofNat (ofBe (slice frameData 26 8).reverse), 0, env.now⟩
    logs := [] }

/-- `desc->ops.receive_frame`, and the UDP loop body. -/
def receiveFrame : Except LogMessage RxAccepted :=
  match ctx.frameType with
  | .tsnHigh | .tsnLow | .rtc | .rta => receiveProfinetFrame env ctx frameData len
  | .dcp => dcpRxFrame env ctx frameData len
  | .lldp => lldpRxFrame env ctx frameData len
  | .udpHigh | .udpLow => udpRxFrame env ctx frameData len
  | .genericL2 =>
    match ctx.conf.protocolType with
    | .etherCat => receiveEthercatFrame env ctx frameData len
    | .genericL2 => genericL2RxFrame env ctx frameData len

end Receivers

structure RxAccepted.Extends (acc r : RxAccepted) : Prop where
  report_eq : acc.report = r.report
  logs_eq : acc.logs = r.logs
  ctx_eq : acc.ctx = { r.ctx with mirrorBuffer := acc.ctx.mirrorBuffer }

theorem RxAccepted.extends_refl (r : RxAccepted) : r.Extends r := ⟨rfl, rfl, rfl⟩

variable (env : RxEnv) {ctx : ThreadContext} {frameData : List UInt8} {len : Nat}
  {acc : RxAccepted}

theorem storeVlanFrame_extends (etherType : UInt16) (len : Nat) (missing : Bool)
    (r : RxAccepted) : (storeVlanFrame env etherType len missing r).Extends r := by
  unfold storeVlanFrame
  dsimp only
  split
  · exact r.extends_refl
  · split
    · exact ⟨rfl, rfl, rfl⟩
    · exact ⟨rfl, rfl, rfl⟩

theorem receiveProfinetFrame_ok
    (h : checkVlanFrame ctx.conf (ctx.trafficClass ++ "Rx") ": Not a Profinet frame received!\n"
      ethPProfinetRt frameData len = none) :
    ∃ acc, receiveProfinetFrame env ctx frameData len = .ok acc ∧
      acc.Extends (reportFrame (ctx.trafficClass ++ "Rx") ctx
        (decodeProfinetFrame env ctx frameData len)
        ((decodeProfinetFrame env ctx frameData len).frameId != ctx.frameId)
        (rxTimestamps env).1 (rxTimestamps env).2) := by
  simp only [receiveProfinetFrame, h]
  exact ⟨_, rfl, storeVlanFrame_extends _ _ _ _ _⟩

theorem genericL2RxFrame_ok
    (h : checkVlanFrame ctx.conf "GenericL2Rx" ": Frame with wrong Ether Type received!\n"
      ctx.conf.etherType.toUInt16 frameData len = none) :
    ∃ acc, genericL2RxFrame env ctx frameData len = .ok acc ∧
      acc.Extends (reportFrame "GenericL2Rx" ctx (decodeGenericL2Frame env ctx frameData) false
        (rxTimestamps env).1 (rxTimestamps env).2) := by
  simp only [genericL2RxFrame, h]
  exact ⟨_, rfl, storeVlanFrame_extends _ _ _ _ _⟩

theorem genericL2RxFrame_error
    (h : checkVlanFrame ctx.conf "GenericL2Rx" ": Frame with wrong Ether Type received!\n"
      ctx.conf.etherType.toUInt16 frameData len = some message) :
    genericL2RxFrame env ctx frameData len = .error message := by
  simp only [genericL2RxFrame, h]

theorem dcpRxFrame_ok (h : len = ctx.conf.frameLength - 4) :
    ∃ acc, dcpRxFrame env ctx frameData len = .ok acc ∧
      acc.Extends (reportFrame "DcpRx" ctx (decodePlainFrame ctx frameData 16 32) false 0 0) := by
  rw [dcpRxFrame, if_neg (not_not_intro h)]
  dsimp only
  split
  · exact ⟨_, rfl, RxAccepted.extends_refl _⟩
  · exact ⟨_, rfl, rfl, rfl, rfl⟩

theorem lldpRxFrame_ok (h : len = ctx.conf.frameLength) :
    ∃ acc, lldpRxFrame env ctx frameData len = .ok acc ∧
      acc.Extends (reportFrame "LldpRx" ctx (decodePlainFrame ctx frameData 14 30) false 0 0) := by
  rw [lldpRxFrame, if_neg (not_not_intro h)]
  dsimp only
  split
  · exact ⟨_, rfl, RxAccepted.extends_refl _⟩
  · exact ⟨_, rfl, rfl, rfl, rfl⟩

theorem udpRxFrame_ok (h : len = ctx.conf.frameLength) :
    ∃ acc, udpRxFrame env ctx frameData len = .ok acc ∧
      acc.Extends (reportFrame (ctx.trafficClass ++ "Rx") ctx (decodeUdpFrame env ctx frameData)
        false 0 0) := by
  simp only [udpRxFrame, if_neg (not_not_intro h)]
  split
  · exact ⟨_, rfl, RxAccepted.extends_refl _⟩
  · exact ⟨_, rfl, rfl, rfl, rfl⟩

end RtcTestbench
