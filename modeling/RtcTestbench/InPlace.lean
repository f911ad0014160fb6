import RtcTestbench.Lossless
import RtcTestbench.Reflect

namespace RtcTestbench
open Buffer
set_option autoImplicit true

/-- The protocol a class expects behind the VLAN tag. -/
def ThreadContext.etherType (ctx : ThreadContext) : UInt16 :=
  if ctx.frameType = .genericL2 then ctx.conf.etherType.toUInt16 else ethPProfinetRt

/-- The frames `checkVlanFrame` lets pass. -/
def ThreadContext.Accepts (ctx : ThreadContext) (frameData : List UInt8) (len : Nat) : Prop :=
  18 ≤ len ∧ frameProto frameData = ctx.etherType ∧ len = expectedFrameLength ctx.conf frameData

instance (ctx : ThreadContext) (frameData : List UInt8) (len : Nat) :
    Decidable (ctx.Accepts frameData len) := inferInstanceAs (Decidable (_ ∧ _ ∧ _))

/-- Where the meta data of a received frame starts; the tag may be missing. -/
def ThreadContext.rxMetaData (ctx : ThreadContext) (frameData : List UInt8) : Nat :=
  sizeOfEthHeader frameData + (ctx.metaDataOffset - sizeofVlanEthernetHeader)

def ThreadContext.rxCounter (ctx : ThreadContext) (frameData : List UInt8) : UInt64 :=
  metaDataToSequenceCounter frameData (ctx.rxMetaData frameData) ctx.conf.numFramesPerCycle

/-- A class whose receiver handles frames with and without tag, and what its threads set up. -/
structure ThreadContext.VlanReceiver (ctx : ThreadContext) : Prop where
  vlan : ctx.frameType ∈ [.tsnHigh, .tsnLow, .rtc, .rta, .genericL2]
  counted : CountedClass ctx.conf ctx.frameType
  offset : ctx.metaDataOffset = getMetaDataOffset ctx.frameType ctx.conf.securityMode
  pattern : ctx.payloadPattern.length ≤ ctx.conf.frameLength - 60
  ciphertext : ∀ p ad iv,
    (ctx.rxSecurityContext.encrypt p ad iv).ciphertext.length = (p.getD []).length
  tag : ∀ p ad iv, (ctx.rxSecurityContext.encrypt p ad iv).tag.length = 16

/-- Decoding leaves the frame up to the time stamp, and what is behind it, as they were. -/
structure DecodeKeeps (ctx : ThreadContext) (frameData : List UInt8) (len : Nat) (d : RxDecoded) :
    Prop where
  length_eq : d.frameData.length = frameData.length
  keeps : ∀ i k, i + k ≤ ctx.rxMetaData frameData + 8 ∨ len ≤ i →
    slice d.frameData i k = slice frameData i k
  counter : d.sequenceCounter = ctx.rxCounter frameData

/-- What an accepted frame is afterwards, where the mirror works in place. -/
structure InPlace (ctx : ThreadContext) (frameData : List UInt8) (acc : RxAccepted) : Prop where
  length_eq : acc.frameData.length = frameData.length
  behind : ∀ i k, ctx.conf.frameLength ≤ i → slice acc.frameData i k = slice frameData i k
  destination : slice acc.frameData 0 6 = slice frameData 6 6
  source : slice acc.frameData 6 6 = slice frameData 0 6
  counter : getSequenceCounter acc.frameData ctx.metaDataOffset ctx.conf.numFramesPerCycle =
    ctx.rxCounter frameData

variable {ctx : ThreadContext} {frameData mem : List UInt8} {len : Nat} {env : RxEnv}
  {acc : RxAccepted} {d : RxDecoded}

theorem checkVlanFrame_iff (conf : TrafficClassConfig) (rx wrongType : String) (etherType : UInt16)
    (frameData : List UInt8) (len : Nat) :
    checkVlanFrame conf rx wrongType etherType frameData len = none ↔
      18 ≤ len ∧ frameProto frameData = etherType ∧ len = expectedFrameLength conf frameData := by
  rw [checkVlanFrame, sizeofVlanEthernetHeader]
  by_cases hshort : len < 18
  · rw [if_pos hshort]
    exact iff_of_false (Option.some_ne_none _) fun h => absurd h.1 (Nat.not_le.mpr hshort)
  rw [if_neg hshort, and_iff_right (Nat.not_lt.mp hshort)]
  by_cases hproto : frameProto frameData = etherType
  · rw [if_neg (not_not_intro hproto), and_iff_right hproto]
    by_cases hlen : len = expectedFrameLength conf frameData
    · rw [if_neg (not_not_intro hlen)]
      exact iff_of_true rfl hlen
    · rw [if_pos hlen]
      exact iff_of_false (Option.some_ne_none _) hlen
  · rw [if_pos hproto]
    exact iff_of_false (Option.some_ne_none _) fun h => hproto h.1

/-- The tag, if it is there, is part of the expected length. -/
theorem ThreadContext.Accepts.length (h : ctx.Accepts frameData len) :
    len + (if vlanTagMissing frameData then 4 else 0) = ctx.conf.frameLength := by
  obtain ⟨hshort, -, hlen⟩ := h
  rw [expectedFrameLength, sizeofVlanHeader] at hlen
  split
  · rename_i hmissing
    rw [if_pos hmissing] at hlen
    omega
  · rename_i htagged
    rw [if_neg htagged] at hlen
    omega

theorem ThreadContext.Accepts.proto (h : ctx.Accepts frameData len)
    (hmissing : vlanTagMissing frameData = true) : be16At frameData 12 = ctx.etherType := by
  have hproto := h.2.1
  rw [frameProto, if_pos hmissing] at hproto
  exact hproto

theorem ThreadContext.VlanReceiver.metaData_fits (h : ctx.VlanReceiver) (frameData : List UInt8) :
    ctx.metaDataOffset + 16 ≤ ctx.conf.frameLength ∧ 18 ≤ ctx.metaDataOffset ∧
      ctx.rxMetaData frameData + (if vlanTagMissing frameData then 4 else 0) =
        ctx.metaDataOffset := by
  have hfits := h.counted.metaData_fits
  rw [← h.offset] at hfits
  have hbehind : 18 ≤ ctx.metaDataOffset := by
    rw [h.offset]
    have hvlan := h.vlan
    generalize ctx.frameType = frameType at hvlan
    cases frameType <;> cases ctx.conf.securityMode <;> simp_all [getMetaDataOffset]
  refine ⟨hfits, hbehind, ?_⟩
  rw [ThreadContext.rxMetaData, sizeOfEthHeader, sizeofVlanEthernetHeader, sizeofEthhdr]
  split <;> omega

theorem slice_setMirrorTxTimestampEst_keeps (h : i + k ≤ off + 8 ∨ off + 16 ≤ i) :
    slice (setMirrorTxTimestampEst env mem off) i k = slice mem i k :=
  slice_txTimestampToMetaData h

theorem length_setMirrorTxTimestampEst (env : RxEnv) (mem : List UInt8) (off : Nat) :
    (setMirrorTxTimestampEst env mem off).length = mem.length := length_txTimestampToMetaData

section Decode
variable (h : ctx.VlanReceiver) (hacc : ctx.Accepts frameData len)
include h hacc

theorem ThreadContext.VlanReceiver.metaData_within : ctx.rxMetaData frameData + 16 ≤ len := by
  obtain ⟨hfits, -, hoff⟩ := h.metaData_fits frameData
  have hlen := hacc.length
  omega

theorem decodeGenericL2Frame_keeps (env : RxEnv) (ht : ctx.frameType = .genericL2) :
    DecodeKeeps ctx frameData len (decodeGenericL2Frame env ctx frameData) := by
  have hwithin := h.metaData_within hacc
  have hoff : ctx.rxMetaData frameData = sizeOfEthHeader frameData := by
    rw [ThreadContext.rxMetaData, h.offset, ht]
    rfl
  refine ⟨length_setMirrorTxTimestampEst _ _ _, ?_, ?_⟩
  · intro i k hi
    rw [hoff] at hwithin hi
    exact slice_setMirrorTxTimestampEst_keeps (by omega)
  · rw [ThreadContext.rxCounter, hoff]
    rfl

theorem decodeProfinetFrame_keeps (env : RxEnv)
    (ht : ctx.frameType ∈ [.tsnHigh, .tsnLow, .rtc, .rta]) :
    DecodeKeeps ctx frameData len (decodeProfinetFrame env ctx frameData len) := by
  have hwithin := h.metaData_within hacc
  have hlen := hacc.length
  have hoff : ctx.rxMetaData frameData =
      sizeOfEthHeader frameData + if ctx.conf.securityMode = .none then 2 else 10 := by
    rw [ThreadContext.rxMetaData, h.offset, getMetaDataOffset_profinet ht, sizeofVlanEthernetHeader,
      Nat.add_sub_cancel_left]
  have hcounter : (decodeProfinetFrame env ctx frameData len).sequenceCounter =
      ctx.rxCounter frameData := by
    rw [decodeProfinetFrame_counter, ThreadContext.rxCounter, hoff]
  have hsecure (hmode : ctx.conf.securityMode ≠ .none) : 60 ≤ ctx.conf.frameLength ∧
      ctx.rxMetaData frameData + (if vlanTagMissing frameData then 4 else 0) = 28 ∧
      ctx.rxMetaData frameData = sizeOfEthHeader frameData + 10 := by
    obtain ⟨hoffset, hlong⟩ := h.counted.secure_layout hmode
    obtain ⟨-, -, hshift⟩ := h.metaData_fits frameData
    rw [h.offset, hoffset] at hshift
    rw [if_neg hmode] at hoff
    exact ⟨hlong, hshift, hoff⟩
  cases hmode : ctx.conf.securityMode with
  | none =>
    rw [hmode, if_pos rfl] at hoff
    rw [hoff] at hwithin
    rw [decodeProfinetFrame, hmode] at hcounter ⊢
    refine ⟨length_setMirrorTxTimestampEst _ _ _, ?_, hcounter⟩
    intro i k hi
    rw [hoff] at hi
    exact slice_setMirrorTxTimestampEst_keeps (by omega)
  | ao =>
    obtain ⟨hlong, hshift, hoff⟩ := hsecure (by rw [hmode]; decide)
    rw [decodeProfinetFrame, hmode] at hcounter ⊢
    refine ⟨?_, ?_, hcounter⟩
    · simp only [decodeAoFrame, length_write, length_setMirrorTxTimestampEst]
    · intro i k hi
      simp only [decodeAoFrame, sizeofSecurityChecksum]
      rw [← hoff]
      -- the checksum is behind the time stamp and ends with the frame
      rcases hi with hi | hi
      · rw [slice_write_left _ _ (by omega), slice_setMirrorTxTimestampEst_keeps (.inl hi)]
      · rw [slice_write_right _ _ (by rw [h.tag]; omega),
          slice_setMirrorTxTimestampEst_keeps (.inr (by omega))]
  | ae =>
    obtain ⟨hlong, hshift, hoff⟩ := hsecure (by rw [hmode]; decide)
    rw [decodeProfinetFrame, hmode] at hcounter ⊢
    refine ⟨?_, ?_, hcounter⟩
    · simp only [decodeAeFrame, length_writeAll, length_setMirrorTxTimestampEst]
    · intro i k hi
      simp only [decodeAeFrame, sizeofSecurityChecksum, sizeofProfinetSecureHeader]
      rw [← hoff]
      have hpattern := h.pattern
      rw [slice_writeAll_disjoint _ ?_, slice_setMirrorTxTimestampEst_keeps (by omega)]
      simp only [List.mem_cons, List.not_mem_nil, or_false, forall_eq_or_imp, forall_eq,
        h.ciphertext, h.tag, Option.getD_some]
      omega

end Decode

theorem ThreadContext.VlanReceiver.cases (h : ctx.VlanReceiver) :
    ctx.frameType ∈ [.tsnHigh, .tsnLow, .rtc, .rta] ∧ ctx.etherType = ethPProfinetRt ∧
      (∀ env frameData len, receiveFrame env ctx frameData len =
        receiveProfinetFrame env ctx frameData len) ∨
    ctx.frameType = .genericL2 ∧ ctx.etherType = ctx.conf.etherType.toUInt16 ∧
      ∀ env frameData len, receiveFrame env ctx frameData len =
        genericL2RxFrame env ctx frameData len := by
  have hvlan := h.vlan
  have hcounted := h.counted.not_ethercat
  simp only [receiveFrame, ThreadContext.etherType]
  generalize ctx.frameType = frameType at hvlan hcounted
  cases frameType with
  | genericL2 => exact .inr ⟨rfl, rfl, by simp only [hcounted rfl, implies_true]⟩
  | dcp | lldp | udpHigh | udpLow => simp at hvlan
  | _ => exact .inl ⟨by decide, rfl, fun _ _ _ => rfl⟩

/-- Both receivers check a frame, decode it, report it and store it for the mirror. -/
theorem receiveFrame_vlan (h : ctx.VlanReceiver) (env : RxEnv)
    (hacc : ctx.Accepts frameData len) :
    ∃ name d idMismatch, DecodeKeeps ctx frameData len d ∧
      receiveFrame env ctx frameData len = .ok (storeVlanFrame env ctx.etherType len
        (vlanTagMissing frameData) (reportFrame name ctx d idMismatch (rxTimestamps env).1
          (rxTimestamps env).2)) := by
  obtain ⟨ht, hether, hreceive⟩ | ⟨ht, hether, hreceive⟩ := h.cases
  · have hcheck := (checkVlanFrame_iff ctx.conf (ctx.trafficClass ++ "Rx")
      ": Not a Profinet frame received!\n" ctx.etherType frameData len).mpr hacc
    rw [hether] at hcheck
    rw [hreceive, receiveProfinetFrame, hcheck, hether]
    exact ⟨_, _, _, decodeProfinetFrame_keeps h hacc env ht, rfl⟩
  · have hcheck := (checkVlanFrame_iff ctx.conf "GenericL2Rx"
      ": Frame with wrong Ether Type received!\n" ctx.etherType frameData len).mpr hacc
    rw [hether] at hcheck
    simp only [hreceive, genericL2RxFrame, hcheck, hether]
    exact ⟨_, _, _, decodeGenericL2Frame_keeps h hacc env ht, rfl⟩

theorem receiveFrame_accepts_iff (h : ctx.VlanReceiver) (env : RxEnv) (frameData : List UInt8)
    (len : Nat) : (∃ acc, receiveFrame env ctx frameData len = .ok acc) ↔
      ctx.Accepts frameData len := by
  constructor
  · rintro ⟨acc, hok⟩
    rw [ThreadContext.Accepts]
    obtain ⟨-, hether, hreceive⟩ | ⟨-, hether, hreceive⟩ := h.cases
    · rw [hether, ← checkVlanFrame_iff _ (ctx.trafficClass ++ "Rx")
        ": Not a Profinet frame received!\n"]
      rw [hreceive, receiveProfinetFrame] at hok
      split at hok
      · cases hok
      · assumption
    · rw [hether, ← checkVlanFrame_iff _ "GenericL2Rx" ": Frame with wrong Ether Type received!\n"]
      simp only [hreceive, genericL2RxFrame] at hok
      split at hok
      · cases hok
      · assumption
  · intro hacc
    obtain ⟨name, d, idMismatch, -, hok⟩ := receiveFrame_vlan h env hacc
    exact ⟨_, hok⟩

section Store
variable (env : RxEnv) (etherType : UInt16) (len : Nat) (missing : Bool) {r : RxAccepted}
  (hm : r.ctx.conf.rxMirrorEnabled = true)
include hm

theorem storeVlanFrame_xdp (hx : r.ctx.conf.xdpEnabled = true) :
    storeVlanFrame env etherType len missing r = { r with
      frameData := swapMacAddresses
        (if missing then insertVlanTag r.frameData len etherType r.ctx.conf.vlanTci
          else r.frameData) len } := by
  simp only [storeVlanFrame, hm, hx, Bool.not_true, Bool.false_eq_true, ↓reduceIte]

theorem storeVlanFrame_packet (hx : r.ctx.conf.xdpEnabled = false) :
    storeVlanFrame env etherType len missing r = { r with ctx := { r.ctx with
      mirrorBuffer := ringBufferAdd r.ctx.mirrorBuffer
        (slice (buildVlanFrameFromRx r.frameData len env.newFrame maxFrameSize etherType
          r.ctx.conf.vlanTci) 0 (len + 4)) } } := by
  simp only [storeVlanFrame, hm, hx, Bool.not_true, Bool.false_eq_true, ↓reduceIte,
    sizeofVlanHeader]

end Store

/-- What an accepted frame is afterwards in its chunk. -/
theorem receiveFrame_chunk (h : ctx.VlanReceiver) (hm : ctx.conf.rxMirrorEnabled = true)
    (hx : ctx.conf.xdpEnabled = true) (hok : receiveFrame env ctx frameData len = .ok acc) :
    ctx.Accepts frameData len ∧ ∃ d, DecodeKeeps ctx frameData len d ∧
      acc.frameData = swapMacAddresses (if vlanTagMissing frameData then
        insertVlanTag d.frameData len ctx.etherType ctx.conf.vlanTci else d.frameData) len := by
  have hacc := (receiveFrame_accepts_iff h env frameData len).mp ⟨acc, hok⟩
  obtain ⟨name, d, idMismatch, hd, hok'⟩ := receiveFrame_vlan h env hacc
  cases hok.symm.trans hok'
  refine ⟨hacc, d, hd, ?_⟩
  rw [storeVlanFrame_xdp env _ _ _ hm hx]
  rfl

/-- Once the tag is in place the addresses are all that is left to exchange. -/
theorem inPlace_of_swap {buf : List UInt8} (h : ctx.VlanReceiver)
    (hroom : ctx.conf.frameLength ≤ frameData.length) (h14 : 14 ≤ len)
    (hlength : buf.length = frameData.length)
    (hkeeps : ∀ i k, i + k ≤ 12 ∨ ctx.conf.frameLength ≤ i → slice buf i k = slice frameData i k)
    (hmeta : ∀ i, i + 4 ≤ 8 →
      slice buf (ctx.metaDataOffset + i) 4 = slice frameData (ctx.rxMetaData frameData + i) 4)
    (hframe : acc.frameData = swapMacAddresses buf len) : InPlace ctx frameData acc := by
  obtain ⟨hfits, hbehind, -⟩ := h.metaData_fits frameData
  have hrest {i k : Nat} (hi : 12 ≤ i) : slice acc.frameData i k = slice buf i k := by
    rw [hframe]
    exact slice_swapMacAddresses_rest h14 buf hi
  obtain ⟨hdst, hsrc⟩ := slice_swapMacAddresses h14 (show 12 ≤ buf.length by omega)
  rw [← hframe] at hdst hsrc
  refine ⟨?_, ?_, hdst.trans (hkeeps 6 6 (by omega)), hsrc.trans (hkeeps 0 6 (by omega)), ?_⟩
  · rw [hframe, swapMacAddresses_eq h14, length_writeAll, hlength]
  · intro i k hi
    rw [hrest (by omega), hkeeps i k (.inr hi)]
  · have hframes := hmeta 0 (by decide)
    have hcycles := hmeta 4 (by decide)
    rw [Nat.add_zero, Nat.add_zero] at hframes
    rw [getSequenceCounter, ThreadContext.rxCounter, metaDataToSequenceCounter,
      metaDataToSequenceCounter, hrest (by omega), hrest (by omega), hframes, hcycles]

/-- The in-place mirror exchanges the addresses, keeps the counter where it belongs and does not
write behind the frame. -/
theorem receiveFrame_inPlace (h : ctx.VlanReceiver) (hm : ctx.conf.rxMirrorEnabled = true)
    (hx : ctx.conf.xdpEnabled = true) (hroom : ctx.conf.frameLength ≤ frameData.length)
    (hok : receiveFrame env ctx frameData len = .ok acc) : InPlace ctx frameData acc := by
  obtain ⟨hacc, d, hd, hframe⟩ := receiveFrame_chunk h hm hx hok
  obtain ⟨hfits, hbehind, hshift⟩ := h.metaData_fits frameData
  have hlen := hacc.length
  have hmax := h.counted.fits_chunk
  have hlong := hacc.1
  have hbuf := hd.length_eq
  have h14 : 14 ≤ len := by omega
  cases hmissing : vlanTagMissing frameData with
  | true =>
    rw [hmissing, if_pos rfl] at hlen hshift hframe
    have hfit : len + 4 ≤ maxFrameSize := by omega
    have hlast : len + 4 ≤ d.frameData.length := by omega
    refine inPlace_of_swap h hroom h14 ?_ ?_ ?_ hframe
    · rw [insertVlanTag_eq _ _ hfit, length_writeAll]
      exact hbuf
    · intro i k hi
      exact (slice_insertVlanTag_outside _ _ h14 hfit hlast (by omega)).trans
        (hd.keeps i k (by omega))
    · intro i hi
      apply (slice_insertVlanTag_moved _ _ h14 hfit hlast (by omega) (by omega)).trans
      rw [show ctx.metaDataOffset + i - 4 = ctx.rxMetaData frameData + i by omega]
      exact hd.keeps _ 4 (.inl (by omega))
  | false =>
    rw [hmissing, if_neg Bool.false_ne_true] at hlen hshift hframe
    refine inPlace_of_swap h hroom h14 hbuf ?_ ?_ hframe
    · intro i k hi
      exact hd.keeps i k (by omega)
    · intro i hi
      rw [← hshift, Nat.add_zero]
      exact hd.keeps _ 4 (.inl (by omega))

theorem receiveFrame_counter (h : ctx.VlanReceiver)
    (hok : receiveFrame env ctx frameData len = .ok acc) :
    acc.report.sequenceCounter = ctx.rxCounter frameData := by
  have hacc := (receiveFrame_accepts_iff h env frameData len).mp ⟨acc, hok⟩
  obtain ⟨name, d, idMismatch, hd, hok'⟩ := receiveFrame_vlan h env hacc
  cases hok.symm.trans hok'
  rw [(storeVlanFrame_extends _ _ _ _ _).report_eq]
  exact hd.counter

/-- What an accepted frame leaves of the context. -/
structure ThreadContext.SameClass (ctx ctx' : ThreadContext) : Prop where
  conf_eq : ctx'.conf = ctx.conf
  frameType_eq : ctx'.frameType = ctx.frameType
  metaDataOffset_eq : ctx'.metaDataOffset = ctx.metaDataOffset
  payloadPattern_eq : ctx'.payloadPattern = ctx.payloadPattern
  rxSecurityContext_eq : ctx'.rxSecurityContext = ctx.rxSecurityContext

theorem ThreadContext.SameClass.refl (ctx : ThreadContext) : ctx.SameClass ctx :=
  ⟨rfl, rfl, rfl, rfl, rfl⟩

theorem ThreadContext.SameClass.trans {ctx ctx' ctx'' : ThreadContext} (h : ctx.SameClass ctx')
    (h' : ctx'.SameClass ctx'') : ctx.SameClass ctx'' :=
  ⟨h'.conf_eq.trans h.conf_eq, h'.frameType_eq.trans h.frameType_eq,
    h'.metaDataOffset_eq.trans h.metaDataOffset_eq,
    h'.payloadPattern_eq.trans h.payloadPattern_eq,
    h'.rxSecurityContext_eq.trans h.rxSecurityContext_eq⟩

theorem SequenceChecked.sameClass (h : SequenceChecked ctx acc) : ctx.SameClass acc.ctx := by
  rw [h.ctx_eq]
  exact ⟨rfl, rfl, rfl, rfl, rfl⟩

section Same
variable {ctx' : ThreadContext} (hs : ctx.SameClass ctx')
include hs

theorem ThreadContext.SameClass.vlanReceiver (h : ctx.VlanReceiver) : ctx'.VlanReceiver := by
  obtain ⟨hconf, htype, hoffset, hpattern, hcipher⟩ := hs
  refine ⟨?_, ?_, ?_, ?_, ?_, ?_⟩
  · rw [htype]
    exact h.vlan
  · rw [hconf, htype]
    exact h.counted
  · rw [hoffset, htype, hconf]
    exact h.offset
  · rw [hpattern, hconf]
    exact h.pattern
  · rw [hcipher]
    exact h.ciphertext
  · rw [hcipher]
    exact h.tag

theorem ThreadContext.SameClass.accepts (frameData : List UInt8) (len : Nat) :
    ctx'.Accepts frameData len ↔ ctx.Accepts frameData len := by
  rw [ThreadContext.Accepts, ThreadContext.Accepts, ThreadContext.etherType,
    ThreadContext.etherType, hs.frameType_eq, hs.conf_eq]

theorem ThreadContext.SameClass.rxCounter (frameData : List UInt8) :
    ctx'.rxCounter frameData = ctx.rxCounter frameData := by
  rw [ThreadContext.rxCounter, ThreadContext.rxCounter, ThreadContext.rxMetaData,
    ThreadContext.rxMetaData, hs.metaDataOffset_eq, hs.conf_eq]

end Same

section Prefix
variable (ctx frameData)

theorem be16At_take (h : i + 2 ≤ L) : be16At (frameData.take L) i = be16At frameData i :=
  congrArg be16toh (take_slice frameData h)

variable {L : Nat} (hL : 18 ≤ L)
include hL

theorem vlanTagMissing_take : vlanTagMissing (frameData.take L) = vlanTagMissing frameData := by
  rw [vlanTagMissing, vlanTagMissing, be16At_take _ (by omega)]

theorem accepts_take (len : Nat) :
    ctx.Accepts (frameData.take L) len ↔ ctx.Accepts frameData len := by
  rw [ThreadContext.Accepts, ThreadContext.Accepts, frameProto, frameProto, expectedFrameLength,
    expectedFrameLength, vlanTagMissing_take _ hL, be16At_take _ (by omega), be16At_take _ hL]

theorem rxCounter_take (hmeta : ctx.rxMetaData frameData + 8 ≤ L) :
    ctx.rxCounter (frameData.take L) = ctx.rxCounter frameData := by
  have hoff : ctx.rxMetaData (frameData.take L) = ctx.rxMetaData frameData := by
    rw [ThreadContext.rxMetaData, ThreadContext.rxMetaData, sizeOfEthHeader, sizeOfEthHeader,
      vlanTagMissing_take _ hL]
  rw [ThreadContext.rxCounter, ThreadContext.rxCounter, hoff, metaDataToSequenceCounter,
    metaDataToSequenceCounter, take_slice _ (by omega), take_slice _ (by omega)]

end Prefix

end RtcTestbench
