import RtcTestbench.RxFrame

namespace RtcTestbench
open Buffer
set_option autoImplicit true

/-- What the kernel does to the outer VLAN tag on receive. -/
def stripVlanTag (frame : List UInt8) : List UInt8 := frame.take 12 ++ frame.drop 16

def deliver (frameType : StatFrameType) (stripped : Bool) (frame : List UInt8) : List UInt8 :=
  match frameType with
  | .tsnHigh | .tsnLow | .rtc | .rta | .genericL2 =>
    if stripped then stripVlanTag frame else frame
  | .dcp => stripVlanTag frame
  | .lldp | .udpHigh | .udpLow => frame

/-- The bytes a class puts on the wire for a counter and a time stamp: initialise a buffer,
prepare it, send `FrameLength` bytes. -/
def generateFrame (ctx : ThreadContext) (buffer : List UInt8) (bufferLength : Nat)
    (destination : MacAddress) (sequenceCounter txTimestamp : UInt64) : List UInt8 :=
  (prepareFrame ctx (initializeFrame ctx buffer bufferLength ctx.source destination)
    sequenceCounter txTimestamp).1.take ctx.conf.frameLength

/-- A receive buffer that starts with a frame whose tag, if `stripped`, is missing. -/
structure Delivered (frame : List UInt8) (stripped : Bool) (buf : List UInt8) (len : Nat) :
    Prop where
  len_eq : len = frame.length - if stripped then 4 else 0
  view : ∀ i k, 16 ≤ i → i + k ≤ frame.length →
    slice buf (i - if stripped then 4 else 0) k = slice frame i k
  tag : stripped = false → slice buf 12 2 = slice frame 12 2

variable {frame tail buf mem : List UInt8} {stripped : Bool} {len off : Nat} {n s t : UInt64}
  {ws : List (Nat × List UInt8)} {conf : TrafficClassConfig} {ctx rx : ThreadContext} {env : RxEnv}

theorem slice_stripVlanTag (hi : 16 ≤ i) (hl : i + k ≤ frame.length) :
    slice (stripVlanTag frame) (i - 4) k = slice frame i k := by
  have ht : (frame.take 12).length = 12 := by rw [List.length_take]; omega
  rw [stripVlanTag, slice_append_right _ _ (by omega), ht, drop_slice]
  congr 1
  omega

theorem length_stripVlanTag (hl : 16 ≤ frame.length) :
    (stripVlanTag frame).length = frame.length - 4 := by
  rw [stripVlanTag, List.length_append, List.length_take, List.length_drop]
  omega

theorem delivered_stripped (hl : 18 ≤ frame.length) (tail : List UInt8) :
    Delivered frame true (stripVlanTag frame ++ tail) (stripVlanTag frame).length := by
  have hlen := length_stripVlanTag (show 16 ≤ frame.length by omega)
  refine ⟨hlen, fun i k hi hk => ?_, nofun⟩
  simp only [↓reduceIte]
  rw [slice_append_left _ _ (by omega), slice_stripVlanTag hi hk]

theorem delivered_tagged (hl : 18 ≤ frame.length) (tail : List UInt8) :
    Delivered frame false (frame ++ tail) frame.length := by
  refine ⟨rfl, fun i k hi hk => ?_, fun _ => slice_append_left _ _ (by omega)⟩
  exact slice_append_left _ _ (by simpa using hk)

theorem delivered_either (hl : 18 ≤ frame.length) (stripped : Bool) (tail : List UInt8) :
    Delivered frame stripped ((if stripped then stripVlanTag frame else frame) ++ tail)
      (if stripped then stripVlanTag frame else frame).length := by
  cases stripped with
  | true => exact delivered_stripped hl tail
  | false => exact delivered_tagged hl tail

/-- A VLAN frame as the Tx side leaves it: the tag, the protocol behind it, the meta data and the
payload pattern at their places. -/
structure VlanFrame (frame : List UInt8) (etherType : UInt16) (metaData payload : Nat)
    (n s t : UInt64) (pattern : List UInt8) : Prop where
  tag : be16At frame 12 = ethP8021Q
  proto : be16At frame 16 = etherType
  decode : metaDataToSequenceCounter frame metaData n = wireSequenceCounter n s ∧
    metaDataToTxTimestamp frame metaData = t
  payload_eq : slice frame payload pattern.length = pattern

theorem Delivered.header (h : Delivered frame stripped buf len) (hl : 18 ≤ frame.length)
    (htag : be16At frame 12 = ethP8021Q) (hproto : be16At frame 16 = etherType)
    (hne : etherType ≠ ethP8021Q) :
    vlanTagMissing buf = stripped ∧ sizeOfEthHeader buf = 18 - (if stripped then 4 else 0) ∧
      frameProto buf = etherType := by
  cases stripped with
  | true =>
    have hv : be16At buf 12 = etherType := by
      rw [← hproto, be16At, be16At, ← h.view 16 2 (Nat.le_refl _) hl]
      rfl
    have hm : vlanTagMissing buf = true := by
      rw [vlanTagMissing, hv]
      exact bne_iff_ne.mpr hne
    simp only [sizeOfEthHeader, frameProto, hm, hv, sizeofEthhdr, ↓reduceIte, and_self]
  | false =>
    have hv : be16At buf 12 = ethP8021Q := by rw [← htag, be16At, be16At, h.tag rfl]
    have hp : be16At buf 16 = etherType := by
      rw [← hproto, be16At, be16At, ← h.view 16 2 (Nat.le_refl _) hl]
      rfl
    have hm : vlanTagMissing buf = false := by rw [vlanTagMissing, hv]; rfl
    simp only [sizeOfEthHeader, frameProto, hm, hp, sizeofVlanEthernetHeader, Bool.false_eq_true,
      ↓reduceIte, Nat.sub_zero, and_self]

theorem Delivered.check (h : Delivered frame stripped buf len)
    (hlen : frame.length = conf.frameLength) (hl : 22 ≤ frame.length)
    (htag : be16At frame 12 = ethP8021Q) (hproto : be16At frame 16 = etherType)
    (hne : etherType ≠ ethP8021Q) (name wrongType : String) :
    checkVlanFrame conf name wrongType etherType buf len = none := by
  obtain ⟨hm, _, hp⟩ := h.header (by omega) htag hproto hne
  have hle : len = expectedFrameLength conf buf := by
    rw [h.len_eq, expectedFrameLength, hm, hlen]
    cases stripped <;> rfl
  have hge : ¬ len < sizeofVlanEthernetHeader := by
    rw [h.len_eq, sizeofVlanEthernetHeader]
    split <;> omega
  rw [checkVlanFrame, if_neg hge, if_neg (fun hx => hx hp), if_neg (fun hx => hx hle)]

theorem Delivered.decode (h : Delivered frame stripped buf len) (hoff : 18 ≤ off)
    (hl : off + 16 ≤ frame.length) :
    metaDataToSequenceCounter buf (off - if stripped then 4 else 0) n =
        metaDataToSequenceCounter frame off n ∧
      metaDataToTxTimestamp buf (off - if stripped then 4 else 0) =
        metaDataToTxTimestamp frame off := by
  have hv := h.view off 16 (by omega) hl
  exact ⟨metaDataToSequenceCounter_congr hv, metaDataToTxTimestamp_congr hv⟩

theorem slice_wire {src : List UInt8} {i k L : Nat} (hk : ws[k]? = some (i, src))
    (hfit : i + src.length ≤ L) (hL : L ≤ mem.length)
    (hmeta : i + src.length ≤ off ∨ off + 16 ≤ i)
    (hpost : ∀ w ∈ ws.drop (k + 1), i + src.length ≤ w.1 ∨ w.1 + w.2.length ≤ i) :
    slice ((setMetaData (writeAll mem ws) off s n t).take L) i src.length = src := by
  rw [take_slice _ hfit, slice_setMetaData hmeta,
    slice_writeAll_at mem k hk (Nat.le_trans hfit hL) hpost]

theorem be16At_wire {x : UInt16} {i k L : Nat} (hk : ws[k]? = some (i, be16 x))
    (hfit : i + 2 ≤ L) (hL : L ≤ mem.length) (hmeta : i + 2 ≤ off ∨ off + 16 ≤ i)
    (hpost : ∀ w ∈ ws.drop (k + 1), i + 2 ≤ w.1 ∨ w.1 + w.2.length ≤ i) :
    be16At ((setMetaData (writeAll mem ws) off s n t).take L) i = x := by
  have h := slice_wire (s := s) (n := n) (t := t) hk hfit hL hmeta hpost
  rw [length_be16] at h
  rw [be16At, h, be16toh_be16]

theorem decode_wire {L : Nat} (hfit : off + 16 ≤ L) (hL : L ≤ mem.length) :
    metaDataToSequenceCounter ((setMetaData mem off s n t).take L) off n =
        wireSequenceCounter n s ∧
      metaDataToTxTimestamp ((setMetaData mem off s n t).take L) off = t := by
  have hv : slice ((setMetaData mem off s n t).take L) off 16 =
      slice (setMetaData mem off s n t) off 16 := take_slice _ hfit
  rw [metaDataToSequenceCounter_congr hv, metaDataToTxTimestamp_congr hv]
  exact setMetaData_decode (Nat.le_trans hfit hL)

section Layouts
variable {source destination : MacAddress} {pattern : List UInt8} {tci frameId : UInt16}
  {L bufferLength : Nat}

theorem rtFrame_onWire (hL : L ≤ mem.length) (hp : 36 + pattern.length ≤ L) :
    let frame := (setMetaData (initializeRtProfinetFrame mem bufferLength source destination
      pattern tci frameId) 20 s n t).take L
    VlanFrame frame ethPProfinetRt 20 36 n s t pattern ∧ be16At frame 18 = frameId := by
  refine ⟨⟨?_, ?_, ?_, ?_⟩, ?_⟩
  · exact be16At_wire (k := 3) rfl (by omega) hL (by decide) (by simp)
  · exact be16At_wire (k := 5) rfl (by omega) hL (by decide) (by simp)
  · exact decode_wire (by omega) (by rw [initializeRtProfinetFrame, length_writeAll]; exact hL)
  · exact slice_wire (k := 9) rfl hp hL (.inr (by decide)) (by simp)
  · exact be16At_wire (k := 6) rfl (by omega) hL (by decide) (by simp)

theorem genericL2Frame_onWire (hL : L ≤ mem.length)
    (hp : 34 + conf.payloadPattern.bytes.length ≤ L) :
    VlanFrame ((setMetaData (genericL2InitializeFrame conf mem bufferLength source destination)
      18 s n t).take L) conf.etherType.toUInt16 18 34 n s t conf.payloadPattern.bytes := by
  refine ⟨?_, ?_, ?_, ?_⟩
  · exact be16At_wire (k := 3) rfl (by omega) hL (by decide) (by simp)
  · exact be16At_wire (k := 5) rfl (by omega) hL (by decide) (by simp)
  · exact decode_wire (by omega) (by rw [genericL2InitializeFrame, length_writeAll]; exact hL)
  · exact slice_wire (k := 8) rfl hp hL (.inr (by decide)) (by simp)

theorem lldpFrame_onWire (hL : L ≤ mem.length)
    (hp : 30 + conf.payloadPattern.bytes.length ≤ L) :
    slice ((setMetaData (lldpInitializeFrame conf mem bufferLength source destination)
      14 s n t).take L) 30 conf.payloadPattern.bytes.length = conf.payloadPattern.bytes :=
  slice_wire (k := 5) rfl hp hL (.inr (by decide)) (by simp)

theorem udpFrame_onWire (hL : L ≤ mem.length)
    (hp : 16 + conf.payloadPattern.bytes.length ≤ L) :
    slice ((setMetaData (udpInitializeFrame conf mem) 0 s n t).take L) 16
      conf.payloadPattern.bytes.length = conf.payloadPattern.bytes :=
  slice_wire (k := 1) rfl hp hL (.inr (by decide)) (by simp)

end Layouts

/-- The frame is accepted and decoded without a complaint about payload or frame id. -/
def ReceivedAs (r : Except LogMessage RxAccepted) (s t : UInt64) : Prop :=
  ∃ acc, r = .ok acc ∧ acc.report.sequenceCounter = s ∧ acc.report.txTimestamp = t ∧
    acc.report.payloadMismatch = false ∧ acc.report.frameIdMismatch = false

theorem receivedAs_report {d : RxDecoded} (hs : d.sequenceCounter = s) (ht : d.txTimestamp = t)
    (hp : d.payload = rx.conf.payloadPattern.bytes)
    (hr : ∃ acc, r = .ok acc ∧ acc.Extends (reportFrame name rx d false hw sw)) :
    ReceivedAs r s t := by
  obtain ⟨acc, hr, hacc⟩ := hr
  refine ⟨acc, hr, ?_⟩
  rw [hacc.report_eq]
  exact ⟨hs, ht, bne_eq_false_iff_eq.mpr hp, rfl⟩

theorem slice_setMirrorTxTimestampEst (h : off + 16 ≤ i) :
    slice (setMirrorTxTimestampEst env mem off) i len = slice mem i len :=
  slice_txTimestampToMetaData (.inr h)

theorem Delivered.offset (hhdr : sizeOfEthHeader buf = 18 - if stripped then 4 else 0) (k : Nat) :
    sizeOfEthHeader buf + k = 18 + k - if stripped then 4 else 0 := by
  rw [hhdr]
  split <;> omega

theorem receive_rtFrame (hd : Delivered frame stripped buf len)
    (hv : VlanFrame frame ethPProfinetRt 20 36 rx.conf.numFramesPerCycle s t
      rx.conf.payloadPattern.bytes)
    (hid : be16At frame 18 = rx.frameId) (hlen : frame.length = rx.conf.frameLength)
    (hfit : 36 + rx.conf.payloadPattern.bytes.length ≤ frame.length)
    (hm : rx.conf.securityMode = .none) :
    ReceivedAs (receiveProfinetFrame env rx buf len)
      (wireSequenceCounter rx.conf.numFramesPerCycle s) t := by
  obtain ⟨_, hhdr, _⟩ := hd.header (by omega) hv.tag hv.proto (by decide)
  obtain ⟨hseq, hts⟩ := hd.decode (n := rx.conf.numFramesPerCycle) (show 18 ≤ 20 by decide)
    (by omega)
  have hfid : (decodeRtFrame env rx buf).frameId = rx.frameId := by
    rw [← hid, be16At, ← hd.view 18 2 (by decide) (by omega), ← hhdr]
    rfl
  have hok := receiveProfinetFrame_ok env
    (hd.check hlen (by omega) hv.tag hv.proto (by decide) _ _)
  simp only [decodeProfinetFrame, hm, hfid, bne_self_eq_false] at hok
  refine receivedAs_report ?_ ?_ ?_ hok
  · rw [← hv.decode.1, ← hseq, ← Delivered.offset hhdr 2]
    rfl
  · rw [← hv.decode.2, ← hts, ← Delivered.offset hhdr 2]
    rfl
  · have hpay := hd.view 36 rx.conf.payloadPattern.bytes.length (by decide) hfit
    rw [hv.payload_eq, ← Delivered.offset hhdr 18] at hpay
    exact (slice_setMirrorTxTimestampEst (by simp)).trans hpay

theorem receive_genericL2Frame (hd : Delivered frame stripped buf len)
    (hv : VlanFrame frame rx.conf.etherType.toUInt16 18 34 rx.conf.numFramesPerCycle s t
      rx.conf.payloadPattern.bytes)
    (hne : rx.conf.etherType.toUInt16 ≠ ethP8021Q) (hlen : frame.length = rx.conf.frameLength)
    (hfit : 34 + rx.conf.payloadPattern.bytes.length ≤ frame.length) :
    ReceivedAs (genericL2RxFrame env rx buf len)
      (wireSequenceCounter rx.conf.numFramesPerCycle s) t := by
  obtain ⟨_, hhdr, _⟩ := hd.header (by omega) hv.tag hv.proto hne
  obtain ⟨hseq, hts⟩ := hd.decode (n := rx.conf.numFramesPerCycle) (show 18 ≤ 18 by decide)
    (by omega)
  refine receivedAs_report ?_ ?_ ?_
    (genericL2RxFrame_ok env (hd.check hlen (by omega) hv.tag hv.proto hne _ _))
  · rw [← hv.decode.1, ← hseq, ← hhdr]
    rfl
  · rw [← hv.decode.2, ← hts, ← hhdr]
    rfl
  · have hpay := hd.view 34 rx.conf.payloadPattern.bytes.length (by decide) hfit
    rw [hv.payload_eq, ← Delivered.offset hhdr 16] at hpay
    exact (slice_setMirrorTxTimestampEst (by simp)).trans hpay

theorem receive_dcpFrame (hd : Delivered frame true buf len)
    (hv : VlanFrame frame ethPProfinetRt 20 36 rx.conf.numFramesPerCycle s t
      rx.conf.payloadPattern.bytes)
    (hlen : frame.length = rx.conf.frameLength)
    (hfit : 36 + rx.conf.payloadPattern.bytes.length ≤ frame.length) :
    ReceivedAs (dcpRxFrame env rx buf len)
      (wireSequenceCounter rx.conf.numFramesPerCycle s) t := by
  obtain ⟨hseq, hts⟩ := hd.decode (n := rx.conf.numFramesPerCycle) (show 18 ≤ 20 by decide)
    (by omega)
  have hpay := hd.view 36 rx.conf.payloadPattern.bytes.length (by decide) hfit
  have hle : len = rx.conf.frameLength - 4 := by rw [← hlen]; exact hd.len_eq
  exact receivedAs_report (hseq.trans hv.decode.1) (hts.trans hv.decode.2)
    (hpay.trans hv.payload_eq) (dcpRxFrame_ok env hle)

theorem receive_lldpFrame (hlen : frame.length = rx.conf.frameLength)
    (hfit : 30 + rx.conf.payloadPattern.bytes.length ≤ frame.length)
    (hseq : metaDataToSequenceCounter frame 14 rx.conf.numFramesPerCycle = s)
    (hts : metaDataToTxTimestamp frame 14 = t)
    (hpay : slice frame 30 rx.conf.payloadPattern.bytes.length = rx.conf.payloadPattern.bytes)
    (tail : List UInt8) :
    ReceivedAs (lldpRxFrame env rx (frame ++ tail) frame.length) s t := by
  have hv : slice (frame ++ tail) 14 16 = slice frame 14 16 := slice_append_left _ _ (by omega)
  refine receivedAs_report ?_ ?_ ?_ (lldpRxFrame_ok env hlen)
  · exact (metaDataToSequenceCounter_congr hv).trans hseq
  · exact (metaDataToTxTimestamp_congr hv).trans hts
  · exact (slice_append_left _ _ hfit).trans hpay

theorem receive_udpFrame (hlen : frame.length = rx.conf.frameLength)
    (hfit : 16 + rx.conf.payloadPattern.bytes.length ≤ frame.length)
    (hseq : metaDataToSequenceCounter frame 0 rx.conf.numFramesPerCycle = s)
    (hts : metaDataToTxTimestamp frame 0 = t)
    (hpay : slice frame 16 rx.conf.payloadPattern.bytes.length = rx.conf.payloadPattern.bytes)
    (tail : List UInt8) :
    ReceivedAs (udpRxFrame env rx (frame ++ tail) frame.length) s t := by
  have hv : slice (frame ++ tail) 0 16 = slice frame 0 16 := slice_append_left _ _ (by omega)
  refine receivedAs_report ?_ ?_ ?_ (udpRxFrame_ok env hlen)
  · exact (metaDataToSequenceCounter_congr hv).trans hseq
  · exact (metaDataToTxTimestamp_congr hv).trans hts
  · exact (slice_setMirrorTxTimestampEst (by simp)).trans
      ((slice_append_left _ _ hfit).trans hpay)

variable {build : BuildConfig} {app : AppConfig} {tx : ThreadContext} {frameType : StatFrameType}

theorem generateFrame_eq (htx : tx.ForClass conf frameType) (hmode : conf.securityMode = .none)
    (hl2 : frameType = .genericL2 → conf.protocolType = .genericL2) (buffer : List UInt8)
    (bufferLength : Nat) (destination : MacAddress) :
    generateFrame tx buffer bufferLength destination s t =
      (setMetaData (initializeFrame tx buffer bufferLength tx.source destination)
        (getMetaDataOffset frameType .none) s conf.numFramesPerCycle t).take conf.frameLength := by
  obtain ⟨rfl, rfl, _, hoff⟩ := htx
  rw [hmode] at hoff
  rw [generateFrame]
  generalize initializeFrame tx buffer bufferLength tx.source destination = mem
  congr 1
  cases hft : tx.frameType <;>
    simp_all [prepareFrame, prepareFrameForTx, ThreadContext.prepareFrameConfig,
      PrepareFrameConfig.adjustMetaData, udpPrepareFrame, getMetaDataOffset]

theorem initializeFrame_rt (htx : tx.ForClass conf frameType) (hmode : conf.securityMode = .none)
    (ht : frameType ∈ [.tsnHigh, .tsnLow, .rtc, .rta, .dcp]) (buffer : List UInt8)
    (bufferLength : Nat) (source destination : MacAddress) :
    initializeFrame tx buffer bufferLength source destination =
      initializeRtProfinetFrame buffer bufferLength source destination conf.payloadPattern.bytes
        conf.vlanTci (classFrameId frameType conf.securityMode) := by
  obtain ⟨rfl, rfl, hid, _⟩ := htx
  rw [← hid]
  cases hft : tx.frameType <;>
    simp_all [initializeFrame, initializeProfinetFrame, classFrameId]

theorem getMetaDataOffset_fits (hmode : conf.securityMode = .none) (frameType : StatFrameType) :
    getMetaDataOffset frameType .none + 16 ≤ minFrameSize conf frameType := by
  cases frameType <;> simp [getMetaDataOffset, minFrameSize, profinetMinFrameSize,
    minProfinetFrameSize, hmode]

theorem length_generateFrame (htx : tx.ForClass conf frameType)
    (hmode : conf.securityMode = .none)
    (hl2 : frameType = .genericL2 → conf.protocolType = .genericL2)
    (hbuf : conf.frameLength ≤ buffer.length) (bufferLength : Nat) (destination : MacAddress) :
    (generateFrame tx buffer bufferLength destination s t).length = conf.frameLength := by
  rw [generateFrame_eq htx hmode hl2, List.length_take, length_setMetaData,
    length_initializeFrame, Nat.min_eq_left hbuf]

theorem etherType_ne (h : conf.etherType.toNat % 2 ^ 16 ≠ 0x8100) :
    conf.etherType.toUInt16 ≠ ethP8021Q := by
  intro he
  apply h
  rw [← UInt32.toNat_toUInt16, he]
  rfl

theorem generated_decode (htx : tx.ForClass conf frameType) (hmode : conf.securityMode = .none)
    (hl2 : frameType = .genericL2 → conf.protocolType = .genericL2)
    (hfit : minFrameSize conf frameType + conf.payloadPattern.bytes.length ≤ conf.frameLength)
    (s t : UInt64) (hbuf : conf.frameLength ≤ buffer.length) (bufferLength : Nat)
    (destination : MacAddress) :
    let frame := generateFrame tx buffer bufferLength destination s t
    metaDataToSequenceCounter frame (getMetaDataOffset frameType .none) conf.numFramesPerCycle =
        wireSequenceCounter conf.numFramesPerCycle s ∧
      metaDataToTxTimestamp frame (getMetaDataOffset frameType .none) = t := by
  have hoff := getMetaDataOffset_fits hmode frameType
  dsimp only
  rw [generateFrame_eq htx hmode hl2]
  exact decode_wire (by omega) (by rw [length_initializeFrame]; exact hbuf)

theorem generated_rtFrame (htx : tx.ForClass conf frameType) (hmode : conf.securityMode = .none)
    (ht : frameType ∈ [.tsnHigh, .tsnLow, .rtc, .rta, .dcp])
    (hfit : 36 + conf.payloadPattern.bytes.length ≤ conf.frameLength)
    (hbuf : conf.frameLength ≤ buffer.length) (bufferLength : Nat) (destination : MacAddress) :
    let frame := generateFrame tx buffer bufferLength destination s t
    VlanFrame frame ethPProfinetRt 20 36 conf.numFramesPerCycle s t conf.payloadPattern.bytes ∧
      be16At frame 18 = classFrameId frameType conf.securityMode := by
  have hne : frameType ≠ .genericL2 := by rintro rfl; simp at ht
  have hoff : getMetaDataOffset frameType .none = 20 := by
    cases frameType <;> first | rfl | simp at ht
  dsimp only
  rw [generateFrame_eq htx hmode (fun h => absurd h hne), initializeFrame_rt htx hmode ht, hoff]
  exact rtFrame_onWire hbuf hfit

/-- Whatever the counter, the receiver decodes what the wire can carry of it. -/
theorem receive_generated (htx : tx.ForClass conf frameType) (hrx : rx.ForClass conf frameType)
    (hmode : conf.securityMode = .none)
    (hl2 : frameType = .genericL2 → conf.protocolType = .genericL2 ∧
      conf.etherType.toNat % 2 ^ 16 ≠ 0x8100)
    (hfit : minFrameSize conf frameType + conf.payloadPattern.bytes.length ≤ conf.frameLength)
    (s t : UInt64) (hbuf : conf.frameLength ≤ buffer.length) (bufferLength : Nat)
    (destination : MacAddress) (stripped : Bool) (env : RxEnv) (tail : List UInt8) :
    let frame := generateFrame tx buffer bufferLength destination s t
    ReceivedAs (receiveFrame env rx (deliver frameType stripped frame ++ tail)
      (deliver frameType stripped frame).length)
      (wireSequenceCounter conf.numFramesPerCycle s) t := by
  intro frame
  have hl2' : frameType = .genericL2 → conf.protocolType = .genericL2 := fun h => (hl2 h).1
  have hlen : frame.length = conf.frameLength :=
    length_generateFrame htx hmode hl2' hbuf bufferLength destination
  have heq : frame = _ := generateFrame_eq htx hmode hl2' buffer bufferLength destination
  have hdec := generated_decode htx hmode hl2' hfit s t hbuf bufferLength destination
  obtain ⟨hconf, hft, hid, -⟩ := hrx
  subst hconf
  -- the four classes that share `receive_profinet_frame`
  have hprofinet (ht : frameType ∈ [.tsnHigh, .tsnLow, .rtc, .rta])
      (hsz : 36 + rx.conf.payloadPattern.bytes.length ≤ rx.conf.frameLength) :
      ReceivedAs (receiveProfinetFrame env rx
        ((if stripped then stripVlanTag frame else frame) ++ tail)
        (if stripped then stripVlanTag frame else frame).length)
        (wireSequenceCounter rx.conf.numFramesPerCycle s) t := by
    obtain ⟨hv, hf⟩ := generated_rtFrame htx hmode (List.mem_append_left [StatFrameType.dcp] ht)
      hsz hbuf bufferLength destination
    exact receive_rtFrame (delivered_either (by omega) stripped tail) hv (hf.trans hid.symm) hlen
      (by omega) hmode
  have hudp (ht : frameType = .udpHigh ∨ frameType = .udpLow)
      (hsz : 16 + rx.conf.payloadPattern.bytes.length ≤ rx.conf.frameLength) :
      ReceivedAs (udpRxFrame env rx (frame ++ tail) frame.length)
        (wireSequenceCounter rx.conf.numFramesPerCycle s) t := by
    have hinit : initializeFrame tx buffer bufferLength tx.source destination =
        udpInitializeFrame rx.conf buffer := by
      rcases ht with rfl | rfl <;> rw [initializeFrame, htx.frameType_eq, htx.conf_eq]
    have hoff : getMetaDataOffset frameType .none = 0 := by rcases ht with rfl | rfl <;> rfl
    rw [hoff] at hdec
    refine receive_udpFrame hlen (by omega) hdec.1 hdec.2 ?_ tail
    rw [heq, hinit, hoff]
    exact udpFrame_onWire hbuf hsz
  have hsz : profinetMinFrameSize rx.conf = 36 := by rw [profinetMinFrameSize, if_pos hmode]; rfl
  rw [receiveFrame, hft]
  cases frameType with
  | tsnHigh => exact hprofinet (by simp) (hsz ▸ hfit)
  | tsnLow => exact hprofinet (by simp) (hsz ▸ hfit)
  | rtc => exact hprofinet (by simp) (hsz ▸ hfit)
  | rta => exact hprofinet (by simp) (hsz ▸ hfit)
  | dcp =>
    obtain ⟨hv, -⟩ := generated_rtFrame htx hmode (by simp) hfit hbuf bufferLength destination
    have hfit' : 36 + rx.conf.payloadPattern.bytes.length ≤ frame.length := hlen ▸ hfit
    exact receive_dcpFrame (delivered_stripped (by omega) tail) hv hlen hfit'
  | lldp =>
    have hfit' : 30 + rx.conf.payloadPattern.bytes.length ≤ rx.conf.frameLength := hfit
    have hinit : initializeFrame tx buffer bufferLength tx.source destination =
        lldpInitializeFrame rx.conf buffer bufferLength tx.source destination := by
      rw [initializeFrame, htx.frameType_eq, htx.conf_eq]
    refine receive_lldpFrame hlen (by omega) hdec.1 hdec.2 ?_ tail
    rw [heq, hinit]
    exact lldpFrame_onWire hbuf hfit'
  | udpHigh => exact hudp (.inl rfl) hfit
  | udpLow => exact hudp (.inr rfl) hfit
  | genericL2 =>
    have hfit' : 34 + rx.conf.payloadPattern.bytes.length ≤ rx.conf.frameLength := hfit
    obtain ⟨hpt, hne⟩ := hl2 rfl
    have hinit : initializeFrame tx buffer bufferLength tx.source destination =
        genericL2InitializeFrame rx.conf buffer bufferLength tx.source destination := by
      simp only [initializeFrame, htx.frameType_eq, htx.conf_eq, hpt]
    have hv : VlanFrame frame rx.conf.etherType.toUInt16 18 34 rx.conf.numFramesPerCycle s t
        rx.conf.payloadPattern.bytes := by
      rw [heq, hinit]
      exact genericL2Frame_onWire hbuf hfit'
    have hge : 34 + rx.conf.payloadPattern.bytes.length ≤ frame.length := hlen ▸ hfit'
    have hhdr : 18 ≤ frame.length := Nat.le_trans (by omega) hge
    rw [hpt]
    exact receive_genericL2Frame (delivered_either hhdr stripped tail) hv (etherType_ne hne) hlen
      hge

/-- Every class of an accepted configuration gets back the counter and the time stamp it sent. -/
theorem unsecured_round_trip (hs : configSanityCheck build app = true)
    (htx : tx.ForClass (app.classes frameType) frameType)
    (hrx : rx.ForClass (app.classes frameType) frameType)
    (hmode : (app.classes frameType).securityMode = .none)
    (hl2 : frameType = .genericL2 → (app.classes frameType).protocolType = .genericL2 ∧
      (app.classes frameType).etherType.toNat % 2 ^ 16 ≠ 0x8100)
    (hn : 1 ≤ (app.classes frameType).numFramesPerCycle.toNat)
    (hn' : (app.classes frameType).numFramesPerCycle.toNat ≤ 2 ^ 32)
    (hseq : s.toNat < (app.classes frameType).numFramesPerCycle.toNat * 2 ^ 32) (t : UInt64)
    (buffer : List UInt8) (hbuf : (app.classes frameType).frameLength ≤ buffer.length)
    (bufferLength : Nat) (destination : MacAddress) (stripped : Bool) (env : RxEnv)
    (tail : List UInt8) :
    let frame := generateFrame tx buffer bufferLength destination s t
    ReceivedAs (receiveFrame env rx (deliver frameType stripped frame ++ tail)
        (deliver frameType stripped frame).length) s t ∧
      getSequenceCounter frame (getMetaDataOffset frameType .none)
        (app.classes frameType).numFramesPerCycle = s := by
  obtain ⟨-, hfit⟩ := configSanityCheck_frameLength hs frameType
  have hwire := wireSequenceCounter_of_lt hn hn' hseq
  constructor
  · have h := receive_generated htx hrx hmode hl2 hfit s t hbuf bufferLength destination stripped
      env tail
    rw [hwire] at h
    exact h
  · rw [getSequenceCounter, (generated_decode htx hmode (fun h => (hl2 h).1) hfit s t hbuf
      bufferLength destination).1, hwire]

def l2Config (etherType : UInt32) : AppConfig :=
  (configSetDefaults false).setClass .genericL2 fun c => { c with enabled := true, etherType }

def l2Context (etherType : UInt32) : ThreadContext where
  conf := (l2Config etherType).classes .genericL2
  frameType := .genericL2
  trafficClass := "GenericL2"
  frameId := 0
  metaDataOffset := 18
  source := defaultDestination
  txFrameData := []
  rxFrameData := []
  frameCopy := []
  payloadPatternLength := 68
  mirrorBuffer := none
  txSecurityContext := ChaCha20Poly1305.cipher []
  rxSecurityContext := ChaCha20Poly1305.cipher []
  rxSequenceCounter := 0

def quietEnv : RxEnv where
  build := fullBuild
  applicationTxBaseOffsetNs := 800000
  applicationRxBaseOffsetNs := 300000
  now := 1000000000
  rxHwTimestamp := 0
  rxSwTimestamp := 0
  newFrame := []

theorem l2Context_forClass (etherType : UInt32) :
    (l2Context etherType).ForClass ((l2Config etherType).classes .genericL2) .genericL2 :=
  ⟨rfl, rfl, rfl, rfl⟩

/-- Frame 7 of an OPC UA PubSub stream, delivered without its tag. -/
theorem unsecured_round_trip_pubsub :
    let frame := generateFrame (l2Context 0xb62c) (List.replicate 4096 0) 4096 defaultDestination
      7 1700000000000000000
    ReceivedAs (receiveFrame quietEnv (l2Context 0xb62c) (deliver .genericL2 true frame ++ [])
        (deliver .genericL2 true frame).length) 7 1700000000000000000 ∧
      getSequenceCounter frame (getMetaDataOffset .genericL2 .none) 1 = 7 := by
  have hs : configSanityCheck fullBuild (l2Config 0xb62c) = true := by decide
  exact unsecured_round_trip hs (l2Context_forClass _) (l2Context_forClass _) rfl
    (fun _ => ⟨rfl, by decide⟩) (by decide) (by decide) (by decide) _ _
    (by rw [List.length_replicate]; decide) _ _ true quietEnv []

/-- The option is wider than the field: `0x18100` is not `0x8100`, but on the wire it is, and
without the real tag the receiver takes it for one. -/
theorem unsecured_round_trip_wide_ether_type :
    configSanityCheck fullBuild (l2Config 0x18100) = true ∧
    ((l2Config 0x18100).classes .genericL2).etherType ≠ 0x8100 ∧
    (l2Context 0x18100).ForClass ((l2Config 0x18100).classes .genericL2) .genericL2 ∧
    let frame := generateFrame (l2Context 0x18100) (List.replicate 128 0) 128 defaultDestination 0 0
    receiveFrame quietEnv (l2Context 0x18100) (deliver .genericL2 true frame)
        (deliver .genericL2 true frame).length =
      .error (warning ("GenericL2Rx" ++ ": Frame with wrong Ether Type received!\n")) := by
  refine ⟨by decide, by decide, l2Context_forClass _, ?_⟩
  intro frame
  have hlen : ¬ (deliver .genericL2 true frame).length < sizeofVlanEthernetHeader := by
    decide +kernel
  have hproto : frameProto (deliver .genericL2 true frame) = 0 := by decide +kernel
  change genericL2RxFrame quietEnv (l2Context 0x18100) (deliver .genericL2 true frame)
    (deliver .genericL2 true frame).length = _
  refine genericL2RxFrame_error quietEnv ?_
  rw [checkVlanFrame, if_neg hlen, if_pos (by rw [hproto]; decide)]

end RtcTestbench
