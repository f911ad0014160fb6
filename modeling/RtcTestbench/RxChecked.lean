import RtcTestbench.ChunkFit
import RtcTestbench.Lib.Bounds

namespace RtcTestbench
open Bounds Buffer
set_option autoImplicit true

/-- What a receive function may change: the frame, the context with the counter and the mirror
buffer, the statistics and the log. -/
structure RxState where
  frame : List UInt8
  ctx : ThreadContext
  reports : List RxReport
  logs : List LogMessage

def RxState.reject (s : RxState) (message : LogMessage) : RxState × Option Errno :=
  ({ s with logs := s.logs ++ [message] }, some .einval)

def RxState.accept (s : RxState) (r : RxAccepted) : RxState :=
  ⟨r.frameData, r.ctx, s.reports ++ [r.report], s.logs ++ r.logs⟩

def RxState.storeMirror (s : RxState) (frame : List UInt8) : RxState :=
  { s with ctx := { s.ctx with mirrorBuffer := ringBufferAdd s.ctx.mirrorBuffer frame } }

def RxState.after (s : RxState) : Except LogMessage RxAccepted → RxState × Option Errno
  | .error message => s.reject message
  | .ok r => (s.accept r, none)

structure EthHeader where
  proto : UInt16
  size : Nat
  expectedFrameLength : Nat
  vlanTagMissing : Bool

-- The receive functions once more, with every access and every difference checked: `none` is an
-- access outside of a buffer or a size that wraps around. Of the frame, `limit` bytes may be used.
section Checked
variable (limit : Nat) (env : RxEnv)

def loadBe16 (mem : List UInt8) (off : Nat) : Option UInt16 := (load limit mem off 2).map be16toh

def loadSequenceCounter (mem : List UInt8) (off : Nat) (numFramesPerCycle : UInt64) :
    Option UInt64 := do
  let frameCounter ← load limit mem off 4
  let cycleCounter ← load limit mem (off + 4) 4
  some ((be32toh cycleCounter).toUInt64 * numFramesPerCycle + (be32toh frameCounter).toUInt64)

def loadTxTimestamp (mem : List UInt8) (off : Nat) : Option UInt64 :=
  (load limit mem (off + 8) 8).map be64toh

def storeMirrorTxTimestampEst (mem : List UInt8) (off : Nat) : Option (List UInt8) :=
  store limit mem (off + 8)
    (be64 (env.now + (env.applicationTxBaseOffsetNs - env.applicationRxBaseOffsetNs)))

/-- `memcmp` with the pattern reads both sides. -/
def loadPayload (mem : List UInt8) (off : Nat) (pattern : List UInt8) : Option (List UInt8) := do
  let _ ← load pattern.length pattern 0 pattern.length
  load limit mem off pattern.length

def loadIv (ctx : ThreadContext) (sequenceCounter : UInt64) : Option (List UInt8) := do
  let ivPrefix ← load ctx.conf.securityIvPrefix.bytes.length ctx.conf.securityIvPrefix.bytes 0
    securityIvPrefixLen
  some (prepareIv ivPrefix sequenceCounter)

def loadEthHeader (conf : TrafficClassConfig) (frame : List UInt8) : Option EthHeader := do
  let hProto ← loadBe16 limit frame 12
  if hProto = ethP8021Q then
    let proto ← loadBe16 limit frame 16
    some ⟨proto, sizeofVlanEthernetHeader, conf.frameLength, false⟩
  else
    let expectedFrameLength ← sub conf.frameLength sizeofVlanHeader
    some ⟨hProto, sizeofEthhdr, expectedFrameLength, true⟩

def decodeRtFrameChecked (ctx : ThreadContext) (frame : List UInt8) (rt : Nat) :
    Option RxDecoded := do
  let frameId ← loadBe16 limit frame rt
  let sequenceCounter ← loadSequenceCounter limit frame (rt + 2) ctx.conf.numFramesPerCycle
  let txTimestamp ← loadTxTimestamp limit frame (rt + 2)
  let frame ← storeMirrorTxTimestampEst limit env frame (rt + 2)
  let payload ← loadPayload limit frame (rt + sizeofProfinetRtHeader) ctx.conf.payloadPattern.bytes
  some ⟨frame, frameId, sequenceCounter, txTimestamp, payload, []⟩

def decodeAoFrameChecked (ctx : ThreadContext) (frame : List UInt8) (srt len : Nat) :
    Option RxDecoded := do
  let frameId ← loadBe16 limit frame srt
  let sequenceCounter ← loadSequenceCounter limit frame (srt + 10) ctx.conf.numFramesPerCycle
  let txTimestamp ← loadTxTimestamp limit frame (srt + 10)
  let behindEth ← sub len srt
  let sizeOfAadData ← sub behindEth sizeofSecurityChecksum
  let beginOfSecurityChecksum ← sub len sizeofSecurityChecksum
  let iv ← loadIv ctx sequenceCounter
  let aad ← load limit frame srt sizeOfAadData
  let checksum ← load limit frame beginOfSecurityChecksum sizeofSecurityChecksum
  let opened := ctx.rxSecurityContext.decrypt none aad checksum iv
  let frame ← storeMirrorTxTimestampEst limit env frame (srt + 10)
  let aad ← load limit frame srt sizeOfAadData
  let resealed := ctx.rxSecurityContext.encrypt none aad iv
  let frame ← store limit frame beginOfSecurityChecksum resealed.tag
  let payload ← loadPayload limit frame (srt + sizeofProfinetSecureHeader)
    ctx.conf.payloadPattern.bytes
  some ⟨frame, frameId, sequenceCounter, txTimestamp, payload,
    if opened.ret ≠ 0 then
      [warning (frameText (ctx.trafficClass ++ "Rx") sequenceCounter ++ "Not authentificated\n")]
    else []⟩

def decodeAeFrameChecked (ctx : ThreadContext) (frame : List UInt8) (srt len : Nat) :
    Option RxDecoded := do
  let frameId ← loadBe16 limit frame srt
  let sequenceCounter ← loadSequenceCounter limit frame (srt + 10) ctx.conf.numFramesPerCycle
  let txTimestamp ← loadTxTimestamp limit frame (srt + 10)
  let beginOfSecurityChecksum ← sub len sizeofSecurityChecksum
  let beginOfCiphertext := srt + sizeofProfinetSecureHeader
  let behindEth ← sub len srt
  let behindHeader ← sub behindEth sizeofProfinetSecureHeader
  let sizeOfCiphertext ← sub behindHeader sizeofSecurityChecksum
  let iv ← loadIv ctx sequenceCounter
  let ciphertext ← load limit frame beginOfCiphertext sizeOfCiphertext
  let aad ← load limit frame srt sizeofProfinetSecureHeader
  let checksum ← load limit frame beginOfSecurityChecksum sizeofSecurityChecksum
  let opened := ctx.rxSecurityContext.decrypt (some ciphertext) aad checksum iv
  let plaintext ← fill maxFrameSize opened.plaintext
  let frame ← storeMirrorTxTimestampEst limit env frame (srt + 10)
  let pattern ← load maxFrameSize ctx.frameCopy
    (sizeofVlanEthernetHeader + sizeofProfinetSecureHeader) ctx.payloadPatternLength
  let aad ← load limit frame srt sizeofProfinetSecureHeader
  let resealed := ctx.rxSecurityContext.encrypt (some pattern) aad iv
  let frame ← storeAll limit frame
    [(beginOfCiphertext, resealed.ciphertext), (beginOfSecurityChecksum, resealed.tag)]
  let payload ← loadPayload maxFrameSize plaintext 0 ctx.conf.payloadPattern.bytes
  some ⟨frame, frameId, sequenceCounter, txTimestamp, payload,
    if opened.ret ≠ 0 then
      [warning (frameText (ctx.trafficClass ++ "Rx") sequenceCounter ++
        "Not authentificated and decrypted\n")]
    else []⟩

def decodeProfinetFrameChecked (ctx : ThreadContext) (frame : List UInt8) (p len : Nat) :
    Option RxDecoded :=
  match ctx.conf.securityMode with
  | .none => decodeRtFrameChecked limit env ctx frame p
  | .ao => decodeAoFrameChecked limit env ctx frame p len
  | .ae => decodeAeFrameChecked limit env ctx frame p len

def decodeGenericL2FrameChecked (ctx : ThreadContext) (frame : List UInt8) (l2 : Nat) :
    Option RxDecoded := do
  let sequenceCounter ← loadSequenceCounter limit frame l2 ctx.conf.numFramesPerCycle
  let txTimestamp ← loadTxTimestamp limit frame l2
  let frame ← storeMirrorTxTimestampEst limit env frame l2
  let payload ← loadPayload limit frame (l2 + sizeofGenericL2Header) ctx.conf.payloadPattern.bytes
  some ⟨frame, ctx.frameId, sequenceCounter, txTimestamp, payload, []⟩

def decodePlainFrameChecked (ctx : ThreadContext) (frame : List UInt8) (metaData payload : Nat) :
    Option RxDecoded := do
  let sequenceCounter ← loadSequenceCounter limit frame metaData ctx.conf.numFramesPerCycle
  let txTimestamp ← loadTxTimestamp limit frame metaData
  let payload ← loadPayload limit frame payload ctx.conf.payloadPattern.bytes
  some ⟨frame, ctx.frameId, sequenceCounter, txTimestamp, payload, []⟩

def insertVlanTagChecked (buffer : List UInt8) (len : Nat) (etherType vlanTci : UInt16) :
    Option (List UInt8) :=
  if maxFrameSize < len + sizeofVlanHeader then some buffer
  else do
    let size ← sub len 12
    let payload ← load limit buffer 12 size
    storeAll limit buffer
      [(16, payload), (16, be16 etherType), (12, be16 ethP8021Q), (14, be16 vlanTci)]

def swapMacAddressesChecked (buffer : List UInt8) (len : Nat) : Option (List UInt8) :=
  if len < sizeofEthhdr then some buffer
  else do
    let tmp ← load limit buffer 6 6
    let hDest ← load limit buffer 0 6
    storeAll limit buffer [(6, hDest), (0, tmp)]

def buildVlanFrameFromRxChecked (oldFrame : List UInt8) (oldFrameLen : Nat)
    (newFrame : List UInt8) (newFrameLen : Nat) (etherType vlanTci : UInt16) :
    Option (List UInt8) :=
  if newFrameLen < oldFrameLen + sizeofVlanHeader then some newFrame
  else do
    let size ← sub oldFrameLen 12
    let payload ← load limit oldFrame 12 size
    let source ← load limit oldFrame 6 6
    let destination ← load limit oldFrame 0 6
    storeAll newFrameLen newFrame
      [(16, payload), (0, source), (6, destination), (12, be16 ethP8021Q), (14, be16 vlanTci),
        (16, be16 etherType)]

def dcpBuildFrameFromRxChecked (ctx : ThreadContext) (oldFrame : List UInt8) (oldFrameLen : Nat)
    (newFrame : List UInt8) (newFrameLen : Nat) : Option (List UInt8) :=
  if newFrameLen < oldFrameLen + sizeofVlanHeader then some newFrame
  else do
    let size ← sub oldFrameLen 12
    let payload ← load limit oldFrame 12 size
    let destination ← load limit oldFrame 0 6
    let newFrame ← storeAll newFrameLen newFrame
      [(16, payload), (0, destination), (6, ctx.source.bytes), (12, be16 ethP8021Q),
        (14, be16 ctx.conf.vlanTci), (16, be16 ethPProfinetRt)]
    storeMirrorTxTimestampEst newFrameLen env newFrame (sizeofVlanEthernetHeader + 2)

def lldpBuildFrameFromRxChecked (ctx : ThreadContext) (frame : List UInt8) :
    Option (List UInt8) := do
  let frame ← store limit frame 6 ctx.source.bytes
  storeMirrorTxTimestampEst limit env frame sizeofEthhdr

def storeVlanFrameChecked (etherType : UInt16) (len : Nat) (tagMissing : Bool) (s : RxState) :
    Option RxState :=
  let conf := s.ctx.conf
  if !conf.rxMirrorEnabled then some s
  else if conf.xdpEnabled then do
    let frame ← (if tagMissing then insertVlanTagChecked limit s.frame len etherType conf.vlanTci
      else some s.frame)
    let frame ← swapMacAddressesChecked limit frame len
    some { s with frame }
  else do
    let newFrame ← buildVlanFrameFromRxChecked limit s.frame len env.newFrame maxFrameSize etherType
      conf.vlanTci
    let frame ← load maxFrameSize newFrame 0 (len + sizeofVlanHeader)
    some (s.storeMirror frame)

variable (s : RxState) (len : Nat)

def receiveVlanFrameChecked (rx wrongType : String) (etherType : UInt16)
    (decode : EthHeader → Option RxDecoded) (frameIdMismatch : RxDecoded → Bool) :
    Option (RxState × Option Errno) :=
  if len < sizeofVlanEthernetHeader then
    some (s.reject (warning (rx ++ ": Too small frame received!\n")))
  else do
    let eth ← loadEthHeader limit s.ctx.conf s.frame
    if eth.proto ≠ etherType then some (s.reject (warning (rx ++ wrongType)))
    else if len ≠ eth.expectedFrameLength then
      some (s.reject (warning (rx ++ ": Frame with wrong length received!\n")))
    else
      let d ← decode eth
      let timestamps := rxTimestamps env
      let s ← storeVlanFrameChecked limit env etherType len eth.vlanTagMissing
        (s.accept (reportFrame rx s.ctx d (frameIdMismatch d) timestamps.1 timestamps.2))
      some (s, none)

def receiveProfinetFrameChecked : Option (RxState × Option Errno) :=
  receiveVlanFrameChecked limit env s len (s.ctx.trafficClass ++ "Rx")
    ": Not a Profinet frame received!\n" ethPProfinetRt
    (fun eth => decodeProfinetFrameChecked limit env s.ctx s.frame eth.size len)
    (fun d => d.frameId != s.ctx.frameId)

def genericL2RxFrameChecked : Option (RxState × Option Errno) :=
  receiveVlanFrameChecked limit env s len "GenericL2Rx" ": Frame with wrong Ether Type received!\n"
    s.ctx.conf.etherType.toUInt16
    (fun eth => decodeGenericL2FrameChecked limit env s.ctx s.frame eth.size) (fun _ => false)

def dcpRxFrameChecked : Option (RxState × Option Errno) := do
  let expectedFrameLength ← sub s.ctx.conf.frameLength 4
  if len ≠ expectedFrameLength then
    some (s.reject ⟨.error, "DcpRx: Frame with wrong length received!\n"⟩)
  else
    let d ← decodePlainFrameChecked limit s.ctx s.frame (sizeofEthhdr + 2)
      (sizeofEthhdr + sizeofProfinetRtHeader)
    let s := s.accept (reportFrame "DcpRx" s.ctx d false 0 0)
    if !s.ctx.conf.rxMirrorEnabled then some (s, none)
    else
      let newFrame ← dcpBuildFrameFromRxChecked limit env s.ctx s.frame len env.newFrame
        maxFrameSize
      let frame ← load maxFrameSize newFrame 0 (len + sizeofVlanHeader)
      some (s.storeMirror frame, none)

def lldpRxFrameChecked : Option (RxState × Option Errno) :=
  if len ≠ s.ctx.conf.frameLength then
    some (s.reject (warning "LldpRx: Frame with wrong length received!\n"))
  else do
    let d ← decodePlainFrameChecked limit s.ctx s.frame sizeofEthhdr
      (sizeofEthhdr + sizeofReferenceMetaData)
    let s := s.accept (reportFrame "LldpRx" s.ctx d false 0 0)
    if !s.ctx.conf.rxMirrorEnabled then some (s, none)
    else
      let frame ← lldpBuildFrameFromRxChecked limit env s.ctx s.frame
      let stored ← load limit frame 0 len
      some ({ s with frame }.storeMirror stored, none)

def udpRxFrameChecked : Option (RxState × Option Errno) :=
  let rx := s.ctx.trafficClass ++ "Rx"
  if len ≠ s.ctx.conf.frameLength then
    some (s.reject (warning (rx ++ ": Frame with wrong length received!\n")))
  else do
    let sequenceCounter ← loadSequenceCounter limit s.frame 0 s.ctx.conf.numFramesPerCycle
    let txTimestamp ← loadTxTimestamp limit s.frame 0
    let frame ← storeMirrorTxTimestampEst limit env s.frame 0
    let payload ← loadPayload limit frame sizeofReferenceMetaData s.ctx.conf.payloadPattern.bytes
    let s := s.accept (reportFrame rx s.ctx
      ⟨frame, s.ctx.frameId, sequenceCounter, txTimestamp, payload, []⟩ false 0 0)
    if !s.ctx.conf.rxMirrorEnabled then some (s, none)
    else
      let stored ← load limit frame 0 len
      some (s.storeMirror stored, none)

def receiveEthercatFrameChecked : Option (RxState × Option Errno) :=
  let rx := s.ctx.trafficClass ++ "Rx"
  if len < sizeofEthhdr + sizeofEthercatHeader + 20 then
    some (s.reject (warning (rx ++ ": Too small frame received!\n")))
  else do
    let proto ← loadBe16 limit s.frame 12
    if proto ≠ ethPEthercat then
      some (s.reject (warning (rx ++ ": Not an EtherCAT frame received!\n")))
    else
      let hSource ← load limit s.frame 6 1
      let source ← load 6 s.ctx.source.bytes 0 1
      if hSource = source then
        some (s.reject (warning (rx ++ ": the slave did not process the frame!\n")))
      else
        let txSwTimestamp ← load limit s.frame 26 8
        some (s.accept {
          ctx := { s.ctx with rxSequenceCounter := s.ctx.rxSequenceCounter + 1 }
          frameData := s.frame
          report := ⟨s.ctx.rxSequenceCounter, false, false, false,
            UInt64.ofNat (ofBe txSwTimestamp.reverse), 0, env.now⟩
          logs := [] }, none)

def receiveFrameChecked : Option (RxState × Option Errno) :=
  match s.ctx.frameType with
  | .tsnHigh | .tsnLow | .rtc | .rta => receiveProfinetFrameChecked limit env s len
  | .dcp => dcpRxFrameChecked limit env s len
  | .lldp => lldpRxFrameChecked limit env s len
  | .udpHigh | .udpLow => udpRxFrameChecked limit env s len
  | .genericL2 =>
    match s.ctx.conf.protocolType with
    | .etherCat => receiveEthercatFrameChecked limit env s len
    | .genericL2 => genericL2RxFrameChecked limit env s len

end Checked

end RtcTestbench
