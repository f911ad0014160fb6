import RtcTestbench.RxChecked

namespace RtcTestbench
open Bounds Buffer
set_option autoImplicit true

variable {limit off n len : Nat} {env : RxEnv} {ctx : ThreadContext} {conf : TrafficClassConfig}
  {frame pattern : List UInt8} {s : RxState}

theorem loadBe16_of_le (mem : List UInt8) (h : off + 2 ≤ limit) :
    loadBe16 limit mem off = some (be16At mem off) := by
  rw [loadBe16, load_of_le mem h]
  rfl

theorem loadSequenceCounter_of_le (mem : List UInt8) (numFramesPerCycle : UInt64)
    (h : off + 16 ≤ limit) :
    loadSequenceCounter limit mem off numFramesPerCycle =
      some (metaDataToSequenceCounter mem off numFramesPerCycle) := by
  rw [loadSequenceCounter, bind_of_some (load_of_le mem (by omega)),
    bind_of_some (load_of_le mem (by omega))]
  rfl

theorem loadTxTimestamp_of_le (mem : List UInt8) (h : off + 16 ≤ limit) :
    loadTxTimestamp limit mem off = some (metaDataToTxTimestamp mem off) := by
  rw [loadTxTimestamp, load_of_le mem (by omega)]
  rfl

theorem storeMirrorTxTimestampEst_of_le (env : RxEnv) (mem : List UInt8) (h : off + 16 ≤ limit) :
    storeMirrorTxTimestampEst limit env mem off = some (setMirrorTxTimestampEst env mem off) := by
  rw [storeMirrorTxTimestampEst, store_of_le mem (by rw [length_be64]; omega)]
  rfl

theorem loadPayload_of_le (mem : List UInt8) (h : off + pattern.length ≤ limit) :
    loadPayload limit mem off pattern = some (slice mem off pattern.length) := by
  rw [loadPayload, bind_of_some (load_of_le pattern (Nat.le_of_eq (Nat.zero_add _)))]
  exact load_of_le mem h

theorem loadIv_of_length (sequenceCounter : UInt64)
    (h : ctx.conf.securityIvPrefix.bytes.length = securityIvPrefixLen) :
    loadIv ctx sequenceCounter =
      some (prepareIv ctx.conf.securityIvPrefix.bytes sequenceCounter) := by
  rw [loadIv, bind_of_some (load_of_le _ (by rw [h, Nat.zero_add])), ← h, slice_full]

theorem loadEthHeader_of_le (frame : List UInt8) (h : 18 ≤ limit)
    (hlength : sizeofVlanHeader ≤ conf.frameLength) :
    loadEthHeader limit conf frame =
      some ⟨frameProto frame, sizeOfEthHeader frame, expectedFrameLength conf frame,
        vlanTagMissing frame⟩ := by
  rw [loadEthHeader, loadBe16_of_le frame (by omega)]
  simp only [Option.bind_eq_bind, Option.bind_some, frameProto, sizeOfEthHeader,
    expectedFrameLength, vlanTagMissing, bne_iff_ne, ne_eq, ite_not]
  split
  · next htag =>
    rw [loadBe16_of_le frame (by omega)]
    simp [htag]
  · next htag =>
    rw [sub_of_le hlength]
    simp [htag]

/-- Behind its headers an accepted frame is as long with a tag as without. -/
theorem accepted_length (hlength : sizeofVlanHeader ≤ conf.frameLength)
    (h : len = expectedFrameLength conf frame) :
    len + sizeofVlanEthernetHeader = sizeOfEthHeader frame + conf.frameLength := by
  rw [h, expectedFrameLength, sizeOfEthHeader]
  simp only [sizeofVlanHeader, sizeofEthhdr, sizeofVlanEthernetHeader] at hlength ⊢
  split <;> omega

theorem decodeRtFrameChecked_of_le
    (h : sizeOfEthHeader frame + sizeofProfinetRtHeader + ctx.conf.payloadPattern.bytes.length ≤
      limit) :
    decodeRtFrameChecked limit env ctx frame (sizeOfEthHeader frame) =
      some (decodeRtFrame env ctx frame) := by
  have hheader : sizeOfEthHeader frame + 18 ≤ limit := Nat.le_of_add_right_le h
  rw [decodeRtFrameChecked, bind_of_some (loadBe16_of_le _ (by omega)),
    bind_of_some (loadSequenceCounter_of_le _ _ (by omega)),
    bind_of_some (loadTxTimestamp_of_le _ (by omega)),
    bind_of_some (storeMirrorTxTimestampEst_of_le _ _ (by omega)),
    bind_of_some (loadPayload_of_le _ h)]
  rfl

theorem decodeGenericL2FrameChecked_of_le
    (h : sizeOfEthHeader frame + sizeofGenericL2Header + ctx.conf.payloadPattern.bytes.length ≤
      limit) :
    decodeGenericL2FrameChecked limit env ctx frame (sizeOfEthHeader frame) =
      some (decodeGenericL2Frame env ctx frame) := by
  have hheader : sizeOfEthHeader frame + 16 ≤ limit := Nat.le_of_add_right_le h
  rw [decodeGenericL2FrameChecked, bind_of_some (loadSequenceCounter_of_le _ _ hheader),
    bind_of_some (loadTxTimestamp_of_le _ hheader),
    bind_of_some (storeMirrorTxTimestampEst_of_le _ _ hheader),
    bind_of_some (loadPayload_of_le _ h)]
  rfl

theorem decodePlainFrameChecked_of_le (hmeta : off + 16 ≤ limit)
    (h : n + ctx.conf.payloadPattern.bytes.length ≤ limit) :
    decodePlainFrameChecked limit ctx frame off n = some (decodePlainFrame ctx frame off n) := by
  rw [decodePlainFrameChecked, bind_of_some (loadSequenceCounter_of_le _ _ hmeta),
    bind_of_some (loadTxTimestamp_of_le _ hmeta), bind_of_some (loadPayload_of_le _ h)]
  rfl

/-- A cipher decrypts into no more room than the message took. -/
def OpensWithin (c : Aead.Cipher) : Prop :=
  ∀ m ad tag iv, (c.decrypt m ad tag iv).plaintext.length ≤ (m.getD []).length

/-- What a secured receiver relies on: a cipher that stays in its buffers, a complete prefix of the
initial vector, and room for headers, pattern and checksum. -/
structure SecureRoom (ctx : ThreadContext) (srt len : Nat) : Prop where
  seals : SealsWithin ctx.rxSecurityContext
  opens : OpensWithin ctx.rxSecurityContext
  ivPrefix : ctx.conf.securityIvPrefix.bytes.length = securityIvPrefixLen
  room : srt + sizeofProfinetSecureHeader + ctx.conf.payloadPattern.bytes.length +
    sizeofSecurityChecksum ≤ len
  resealed : srt + sizeofProfinetSecureHeader + ctx.payloadPatternLength +
    sizeofSecurityChecksum = len
  copy : sizeofVlanEthernetHeader + sizeofProfinetSecureHeader + ctx.payloadPatternLength ≤
    maxFrameSize
  le_max : len ≤ maxFrameSize

theorem SecureRoom.checksum_le (h : SecureRoom ctx srt len) (hlen : len ≤ limit) :
    len - sizeofSecurityChecksum + sizeofSecurityChecksum ≤ limit := by
  have hroom := h.room
  omega

theorem SecureRoom.tag_le (h : SecureRoom ctx srt len) (hlen : len ≤ limit)
    (p : Option (List UInt8)) (ad iv : List UInt8) :
    len - sizeofSecurityChecksum + (ctx.rxSecurityContext.encrypt p ad iv).tag.length ≤ limit :=
  Nat.le_trans (Nat.add_le_add_left (h.seals p ad iv).2 _) (h.checksum_le hlen)

theorem decodeAoFrameChecked_of_le (hlen : len ≤ limit)
    (h : SecureRoom ctx (sizeOfEthHeader frame) len) :
    decodeAoFrameChecked limit env ctx frame (sizeOfEthHeader frame) len =
      some (decodeAoFrame env ctx frame len) := by
  have hroom := h.room
  have hheader : sizeOfEthHeader frame + 26 ≤ limit :=
    show sizeOfEthHeader frame + sizeofProfinetSecureHeader ≤ limit by omega
  have haad : sizeOfEthHeader frame + (len - sizeOfEthHeader frame - sizeofSecurityChecksum) ≤
      limit := by omega
  rw [decodeAoFrameChecked, bind_of_some (loadBe16_of_le _ (by omega)),
    bind_of_some (loadSequenceCounter_of_le _ _ (by omega)),
    bind_of_some (loadTxTimestamp_of_le _ (by omega)), bind_of_some (sub_of_le (by omega)),
    bind_of_some (sub_of_le (by omega)), bind_of_some (sub_of_le (by omega)),
    bind_of_some (loadIv_of_length _ h.ivPrefix), bind_of_some (load_of_le _ haad),
    bind_of_some (load_of_le _ (h.checksum_le hlen)),
    bind_of_some (storeMirrorTxTimestampEst_of_le _ _ (by omega)),
    bind_of_some (load_of_le _ haad), bind_of_some (store_of_le _ (h.tag_le hlen _ _ _)),
    bind_of_some (loadPayload_of_le _ (by omega))]
  rfl

theorem SecureRoom.load_pattern (h : SecureRoom ctx srt len) :
    load maxFrameSize ctx.frameCopy (sizeofVlanEthernetHeader + sizeofProfinetSecureHeader)
      ctx.payloadPatternLength = some ctx.payloadPattern := load_of_le _ h.copy

/-- The new ciphertext ends where the checksum begins. -/
theorem SecureRoom.resealed_le (h : SecureRoom ctx srt len) (hlen : len ≤ limit)
    (ad iv : List UInt8) : ∀ w ∈
      [(srt + sizeofProfinetSecureHeader,
          (ctx.rxSecurityContext.encrypt (some ctx.payloadPattern) ad iv).ciphertext),
        (len - sizeofSecurityChecksum,
          (ctx.rxSecurityContext.encrypt (some ctx.payloadPattern) ad iv).tag)],
      w.1 + w.2.length ≤ limit := by
  have hciphertext := (h.seals (some ctx.payloadPattern) ad iv).1
  have hpattern : ctx.payloadPattern.length ≤ ctx.payloadPatternLength := List.length_take_le _ _
  have hresealed := h.resealed
  rw [Option.getD_some] at hciphertext
  simp only [List.forall_mem_cons, List.not_mem_nil, false_imp_iff, implies_true, and_true]
  exact ⟨by omega, h.tag_le hlen _ ad iv⟩

theorem decodeAeFrameChecked_of_le (hlen : len ≤ limit)
    (h : SecureRoom ctx (sizeOfEthHeader frame) len) :
    decodeAeFrameChecked limit env ctx frame (sizeOfEthHeader frame) len =
      some (decodeAeFrame env ctx frame len) := by
  have hroom := h.room
  have hmax := h.le_max
  have hsecure : sizeOfEthHeader frame + sizeofProfinetSecureHeader ≤ limit := by omega
  have hheader : sizeOfEthHeader frame + 26 ≤ limit := hsecure
  have hciphertext : sizeOfEthHeader frame + sizeofProfinetSecureHeader +
      (len - sizeOfEthHeader frame - sizeofProfinetSecureHeader - sizeofSecurityChecksum) ≤
        limit := by omega
  have hplaintext (ad tag iv : List UInt8) : (ctx.rxSecurityContext.decrypt
      (some (slice frame (sizeOfEthHeader frame + sizeofProfinetSecureHeader)
        (len - sizeOfEthHeader frame - sizeofProfinetSecureHeader - sizeofSecurityChecksum)))
      ad tag iv).plaintext.length ≤ maxFrameSize := by
    refine Nat.le_trans (h.opens _ ad tag iv) (Nat.le_trans (List.length_take_le _ _) ?_)
    omega
  rw [decodeAeFrameChecked, bind_of_some (loadBe16_of_le _ (by omega)),
    bind_of_some (loadSequenceCounter_of_le _ _ (by omega)),
    bind_of_some (loadTxTimestamp_of_le _ (by omega)), bind_of_some (sub_of_le (by omega)),
    bind_of_some (sub_of_le (by omega)), bind_of_some (sub_of_le (by omega)),
    bind_of_some (sub_of_le (by omega)), bind_of_some (loadIv_of_length _ h.ivPrefix),
    bind_of_some (load_of_le _ hciphertext), bind_of_some (load_of_le _ hsecure),
    bind_of_some (load_of_le _ (h.checksum_le hlen)),
    bind_of_some (fill_of_le (hplaintext _ _ _)),
    bind_of_some (storeMirrorTxTimestampEst_of_le _ _ (by omega)),
    bind_of_some h.load_pattern, bind_of_some (load_of_le _ hsecure),
    bind_of_some (storeAll_of_le _ (h.resealed_le hlen _ _)),
    bind_of_some (loadPayload_of_le _ (by omega))]
  rfl

theorem insertVlanTagChecked_of_le (hlow : 14 ≤ len) (h : len + 4 ≤ limit)
    (etherType vlanTci : UInt16) :
    insertVlanTagChecked limit frame len etherType vlanTci =
      some (insertVlanTag frame len etherType vlanTci) := by
  rw [insertVlanTagChecked, insertVlanTag]
  split
  · rfl
  · have hpayload := length_slice_le frame 12 (len - 12)
    rw [bind_of_some (sub_of_le (by omega)), bind_of_some (load_of_le _ (by omega))]
    apply storeAll_of_le
    simp only [List.forall_mem_cons, List.not_mem_nil, false_imp_iff, implies_true, and_true,
      length_be16]
    omega

theorem swapMacAddressesChecked_of_le (h : 12 ≤ limit) :
    swapMacAddressesChecked limit frame len = some (swapMacAddresses frame len) := by
  rw [swapMacAddressesChecked, swapMacAddresses]
  split
  · rfl
  · have hdest := length_slice_le frame 0 6
    have hsource := length_slice_le frame 6 6
    rw [bind_of_some (load_of_le _ (by omega)), bind_of_some (load_of_le _ (by omega))]
    apply storeAll_of_le
    simp only [List.forall_mem_cons, List.not_mem_nil, false_imp_iff, implies_true, and_true]
    omega

theorem buildVlanFrameFromRxChecked_of_le (hlow : 14 ≤ len) (h : len ≤ limit)
    (newFrame : List UInt8) (newFrameLen : Nat) (etherType vlanTci : UInt16) :
    buildVlanFrameFromRxChecked limit frame len newFrame newFrameLen etherType vlanTci =
      some (buildVlanFrameFromRx frame len newFrame newFrameLen etherType vlanTci) := by
  rw [buildVlanFrameFromRxChecked, buildVlanFrameFromRx]
  split
  · rfl
  · next hroom =>
    simp only [sizeofVlanHeader] at hroom
    have hpayload := length_slice_le frame 12 (len - 12)
    have hdest := length_slice_le frame 0 6
    have hsource := length_slice_le frame 6 6
    rw [bind_of_some (sub_of_le (by omega)), bind_of_some (load_of_le _ (by omega)),
      bind_of_some (load_of_le _ (by omega)), bind_of_some (load_of_le _ (by omega))]
    apply storeAll_of_le
    simp only [List.forall_mem_cons, List.not_mem_nil, false_imp_iff, implies_true, and_true,
      length_be16]
    omega

/-- The tag that is put back needs room in the frame, a copy of the frame needs it in the buffer of
the function. -/
theorem storeVlanFrameChecked_of_le (hlow : 14 ≤ len) (hlen : len ≤ limit) {missing : Bool}
    (r : RxAccepted) (hinsert : missing = true → len + 4 ≤ limit)
    (hcopy : r.ctx.conf.xdpEnabled = false → len + 4 ≤ maxFrameSize) (etherType : UInt16) :
    storeVlanFrameChecked limit env etherType len missing (s.accept r) =
      some (s.accept (storeVlanFrame env etherType len missing r)) := by
  cases hmirror : r.ctx.conf.rxMirrorEnabled with
  | false =>
    simp only [storeVlanFrameChecked, storeVlanFrame, RxState.accept, hmirror, Bool.not_false,
      if_true]
  | true =>
    cases hxdp : r.ctx.conf.xdpEnabled with
    | true =>
      have hframe : (if missing = true then
            insertVlanTagChecked limit r.frameData len etherType r.ctx.conf.vlanTci
          else some r.frameData) =
          some (if missing = true then insertVlanTag r.frameData len etherType r.ctx.conf.vlanTci
            else r.frameData) := by
        split
        · next hmissing => exact insertVlanTagChecked_of_le hlow (hinsert hmissing) _ _
        · rfl
      simp only [storeVlanFrameChecked, storeVlanFrame, RxState.accept, hmirror, hxdp,
        Bool.not_true, Bool.false_eq_true, if_false, if_true]
      rw [bind_of_some hframe, bind_of_some (swapMacAddressesChecked_of_le (by omega))]
    | false =>
      simp only [storeVlanFrameChecked, storeVlanFrame, RxState.accept, hmirror, hxdp,
        Bool.not_true, Bool.false_eq_true, if_false]
      rw [bind_of_some (buildVlanFrameFromRxChecked_of_le hlow hlen _ _ _ _),
        bind_of_some (load_of_le _ (by simpa using hcopy hxdp))]
      rfl

end RtcTestbench
