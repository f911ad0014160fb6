import RtcTestbench.RoundTrip

namespace RtcTestbench
open Buffer
set_option autoImplicit true

/-- The frame is accepted and authenticates, and counter and payload are what was sent; with
encryption the decrypted bytes begin with the configured pattern. -/
structure SecureReceipt (env : RxEnv) (rx : ThreadContext) (frameData : List UInt8) (len : Nat)
    (s : UInt64) : Prop where
  accepted : ∃ acc, receiveProfinetFrame env rx frameData len = .ok acc ∧
    acc.report.sequenceCounter = s ∧ acc.report.payloadMismatch = false
  authenticated : (rx.conf.securityMode = .ao → (openAoFrame rx frameData len).ret = 0) ∧
    (rx.conf.securityMode = .ae → (openAeFrame rx frameData len).ret = 0)
  plaintext : rx.conf.securityMode = .ae →
    rx.conf.payloadPattern.bytes <+: (openAeFrame rx frameData len).plaintext

/-- An initialised secure frame, before its meta data is set. -/
structure SecureFrame (frame : List UInt8) (pattern : List UInt8) : Prop where
  tag : be16At frame 12 = ethP8021Q
  proto : be16At frame 16 = ethPProfinetRt
  payload_eq : slice frame 44 pattern.length = pattern

variable {frame buf mem : List UInt8} {stripped : Bool} {len L : Nat} {n s t : UInt64}
  {rx tx : ThreadContext} {env : RxEnv} {pattern : List UInt8} {conf : TrafficClassConfig}
  {frameType : StatFrameType} {c : Aead.Cipher} {ws : List (Nat × List UInt8)}

theorem be16At_writeAll {x : UInt16} {i k : Nat} (hk : ws[k]? = some (i, be16 x))
    (hm : i + 2 ≤ mem.length)
    (hpost : ∀ w ∈ ws.drop (k + 1), i + 2 ≤ w.1 ∨ w.1 + w.2.length ≤ i) :
    be16At (writeAll mem ws) i = x := by
  have h := slice_writeAll_at mem k hk hm hpost
  rw [length_be16] at h
  rw [be16At, h, be16toh_be16]

theorem initializeSecureProfinetFrame_fields (mode : SecurityMode) (bufferLength : Nat)
    (source destination : MacAddress) (tci frameId : UInt16)
    (hm : 44 + pattern.length ≤ mem.length) :
    SecureFrame (initializeSecureProfinetFrame mode mem bufferLength source destination pattern
      tci frameId) pattern := by
  refine ⟨?_, ?_, ?_⟩
  · exact be16At_writeAll (k := 3) rfl (by omega) (by simp)
  · exact be16At_writeAll (k := 5) rfl (by omega) (by simp)
  · exact slice_writeAll_at mem 11 rfl hm (by simp)

/-- Where the secure receiver looks, in terms of the frame on the wire. -/
structure SecureView (frame : List UInt8) (rx : ThreadContext) (buf : List UInt8) (len : Nat)
    (s : UInt64) : Prop where
  check : checkVlanFrame rx.conf (rx.trafficClass ++ "Rx") ": Not a Profinet frame received!\n"
    ethPProfinetRt buf len = none
  counter : secureSequenceCounter rx buf = s
  view : ∀ i k, 18 ≤ i → i + k ≤ frame.length →
    slice buf (sizeOfEthHeader buf + (i - 18)) k = slice frame i k
  len_eq : len = sizeOfEthHeader buf + (frame.length - 18)

theorem Delivered.secureView (hd : Delivered frame stripped buf len)
    (hlen : frame.length = rx.conf.frameLength) (hl : 60 ≤ frame.length)
    (htag : be16At frame 12 = ethP8021Q) (hproto : be16At frame 16 = ethPProfinetRt)
    (hseq : metaDataToSequenceCounter frame 28 rx.conf.numFramesPerCycle = s) :
    SecureView frame rx buf len s := by
  obtain ⟨_, hhdr, _⟩ := hd.header (by omega) htag hproto (by decide)
  have hoff (i : Nat) (hi : 18 ≤ i) :
      sizeOfEthHeader buf + (i - 18) = i - if stripped then 4 else 0 := by
    rw [hhdr]
    split <;> omega
  refine ⟨hd.check hlen (by omega) htag hproto (by decide) _ _, ?_, fun i k hi hk => ?_, ?_⟩
  · rw [← hseq, ← (hd.decode (by decide) (by omega)).1, ← hoff 28 (by decide)]
    rfl
  · rw [hoff i hi]
    exact hd.view i k (by omega) hk
  · rw [hd.len_eq, hhdr]
    split <;> omega

theorem SecureView.openAo (hv : SecureView frame rx buf len s) (hl : 60 ≤ frame.length) :
    openAoFrame rx buf len = rx.rxSecurityContext.decrypt none
      (slice frame 18 (frame.length - 34)) (slice frame (frame.length - 16) 16)
      (prepareIv rx.conf.securityIvPrefix.bytes s) := by
  have haad := hv.view 18 (frame.length - 34) (by omega) (by omega)
  have htag := hv.view (frame.length - 16) 16 (by omega) (by omega)
  rw [← haad, ← htag, ← hv.counter]
  simp only [openAoFrame, secureIv, hv.len_eq, sizeofSecurityChecksum, Nat.sub_self, Nat.add_zero]
  congr 2
  · omega
  · omega

theorem SecureView.openAe (hv : SecureView frame rx buf len s) (hl : 60 ≤ frame.length) :
    openAeFrame rx buf len = rx.rxSecurityContext.decrypt
      (some (slice frame 44 (frame.length - 60))) (slice frame 18 26)
      (slice frame (frame.length - 16) 16) (prepareIv rx.conf.securityIvPrefix.bytes s) := by
  have hmsg := hv.view 44 (frame.length - 60) (by omega) (by omega)
  have haad := hv.view 18 26 (by omega) (by omega)
  have htag := hv.view (frame.length - 16) 16 (by omega) (by omega)
  rw [← hmsg, ← haad, ← htag, ← hv.counter]
  simp only [openAeFrame, secureIv, hv.len_eq, sizeofSecurityChecksum, sizeofProfinetSecureHeader,
    Nat.sub_self, Nat.add_zero]
  congr 3
  · omega
  · omega

theorem SecureView.payloadAo (hv : SecureView frame rx buf len s) (hl : 60 ≤ frame.length)
    (hfit : 60 + rx.conf.payloadPattern.bytes.length ≤ frame.length) :
    (decodeAoFrame env rx buf len).payload =
      slice frame 44 rx.conf.payloadPattern.bytes.length := by
  have hpay := hv.view 44 rx.conf.payloadPattern.bytes.length (by omega) (by omega)
  simp only [decodeAoFrame, sizeofSecurityChecksum, sizeofProfinetSecureHeader]
  rw [slice_write_left _ _ (by rw [hv.len_eq]; omega),
    slice_setMirrorTxTimestampEst (by omega), ← hpay]

theorem SecureView.accepted_iff (hv : SecureView frame rx buf len s') (env : RxEnv) :
    (∃ acc, receiveProfinetFrame env rx buf len = .ok acc ∧
      acc.report.sequenceCounter = s ∧ acc.report.payloadMismatch = false) ↔
    (decodeProfinetFrame env rx buf len).sequenceCounter = s ∧
      (decodeProfinetFrame env rx buf len).payload = rx.conf.payloadPattern.bytes := by
  obtain ⟨acc, hacc, hext⟩ := receiveProfinetFrame_ok env hv.check
  have hpm : acc.report.payloadMismatch = false ↔
      (decodeProfinetFrame env rx buf len).payload = rx.conf.payloadPattern.bytes := by
    rw [hext.report_eq]
    exact bne_eq_false_iff_eq
  have hseq : acc.report.sequenceCounter = (decodeProfinetFrame env rx buf len).sequenceCounter :=
    by rw [hext.report_eq]; rfl
  rw [← hseq, ← hpm]
  constructor
  · rintro ⟨acc', hok, hr⟩
    rw [hacc] at hok
    cases hok
    exact hr
  · intro hr
    exact ⟨acc, hacc, hr⟩

theorem SecureView.receipt_ao (hv : SecureView frame rx buf len s')
    (hmode : rx.conf.securityMode = .ao) (hl : 60 ≤ frame.length)
    (hfit : 60 + rx.conf.payloadPattern.bytes.length ≤ frame.length)
    (hpay : slice frame 44 rx.conf.payloadPattern.bytes.length = rx.conf.payloadPattern.bytes)
    (hopen : s' = s → (openAoFrame rx buf len).ret = 0) :
    SecureReceipt env rx buf len s ↔ s' = s := by
  have hiff := hv.accepted_iff (s := s) env
  simp only [decodeProfinetFrame, hmode] at hiff
  have hcount : (decodeAoFrame env rx buf len).sequenceCounter = s' := hv.counter
  rw [hv.payloadAo hl hfit, hcount] at hiff
  constructor
  · intro h
    exact (hiff.mp h.accepted).1
  · intro h
    refine ⟨hiff.mpr ⟨h, hpay⟩, ⟨fun _ => hopen h, ?_⟩, ?_⟩
    all_goals
      intro hae
      rw [hmode] at hae
      cases hae

theorem prefix_iff_take (xs ys : List UInt8) : xs <+: ys ↔ ys.take xs.length = xs := by
  rw [List.prefix_iff_eq_take, eq_comm]

theorem SecureView.receipt_ae (hv : SecureView frame rx buf len s')
    (hmode : rx.conf.securityMode = .ae)
    (hopen : s' = s → openAeFrame rx buf len = ⟨0, plaintext⟩) :
    SecureReceipt env rx buf len s ↔
      s' = s ∧ plaintext.take rx.conf.payloadPattern.bytes.length =
        rx.conf.payloadPattern.bytes := by
  have hiff := hv.accepted_iff (s := s) env
  simp only [decodeProfinetFrame, hmode] at hiff
  have hcount : (decodeAeFrame env rx buf len).sequenceCounter = s' := hv.counter
  rw [hcount] at hiff
  have hpay (h : s' = s) : (decodeAeFrame env rx buf len).payload =
      plaintext.take rx.conf.payloadPattern.bytes.length := by
    rw [decodeAeFrame, hopen h]
  constructor
  · intro h
    obtain ⟨heq, hp⟩ := hiff.mp h.accepted
    exact ⟨heq, (hpay heq).symm.trans hp⟩
  · rintro ⟨heq, hp⟩
    refine ⟨hiff.mpr ⟨heq, (hpay heq).trans hp⟩, ⟨?_, fun _ => by rw [hopen heq]⟩, fun _ => ?_⟩
    · intro hao
      rw [hmode] at hao
      cases hao
    · rw [hopen heq, prefix_iff_take]
      exact hp

theorem slice_sealedAo (hL : 60 ≤ L) (hm : L ≤ mem.length) (htag : tag.length = 16) :
    let frame := (write mem (L - 16) tag).take L
    frame.length = L ∧ slice frame (L - 16) 16 = tag ∧
      ∀ i k, i + k ≤ L - 16 → slice frame i k = slice mem i k := by
  refine ⟨?_, ?_, fun i k hk => ?_⟩
  · rw [List.length_take, length_write, Nat.min_eq_left hm]
  · rw [take_slice _ (by omega), slice_write_self _ _ (by omega) htag.symm]
  · rw [take_slice _ (by omega), slice_write_left _ _ hk]

theorem slice_sealedAe (hL : 60 ≤ L) (hm : L ≤ mem.length) (htag : tag.length = 16)
    (hc : msg.length = L - 60) :
    let frame := (writeAll mem [(44, msg), (L - 16, tag)]).take L
    frame.length = L ∧ slice frame (L - 16) 16 = tag ∧ slice frame 44 (L - 60) = msg ∧
      ∀ i k, i + k ≤ 44 → slice frame i k = slice mem i k := by
  refine ⟨?_, ?_, ?_, fun i k hk => ?_⟩
  · rw [List.length_take, length_writeAll, Nat.min_eq_left hm]
  · rw [take_slice _ (by omega), ← htag]
    exact slice_writeAll_at mem 1 rfl (by omega) (by simp)
  · rw [take_slice _ (by omega), ← hc]
    exact slice_writeAll_at mem 0 rfl (by omega) (by simp; omega)
  · rw [take_slice _ (by omega)]
    exact slice_writeAll_disjoint mem (by simp; omega)

theorem SecureFrame.header_onWire (hf : SecureFrame mem pattern) (hm : 44 ≤ mem.length)
    (hv : ∀ i k, i + k ≤ 44 → slice frame i k = slice (setMetaData mem 28 s n t) i k) :
    be16At frame 12 = ethP8021Q ∧ be16At frame 16 = ethPProfinetRt ∧
      metaDataToSequenceCounter frame 28 n = wireSequenceCounter n s := by
  refine ⟨?_, ?_, ?_⟩
  · rw [be16At, hv 12 2 (by decide), slice_setMetaData (by decide), ← be16At, hf.tag]
  · rw [be16At, hv 16 2 (by decide), slice_setMetaData (by decide), ← be16At, hf.proto]
  · rw [metaDataToSequenceCounter_congr (hv 28 16 (by decide))]
    exact (setMetaData_decode hm).1

structure SecureRequest (req : PrepareFrameConfig) (conf : TrafficClassConfig) : Prop where
  mode_eq : req.mode = conf.securityMode
  ivPrefix_eq : req.ivPrefix = conf.securityIvPrefix.bytes
  frameLength_eq : req.frameLength = conf.frameLength
  numFrames_eq : req.numFramesPerCycle = conf.numFramesPerCycle
  frameType_ne : req.frameType ≠ .genericL2
  payload_length : req.payloadPattern.length = conf.frameLength - 60
  initialised : SecureFrame req.frameData conf.payloadPattern.bytes
  fits : 60 + conf.payloadPattern.bytes.length ≤ conf.frameLength
  room : conf.frameLength ≤ req.frameData.length

variable {req : PrepareFrameConfig}

theorem receive_ao (env : RxEnv) (hconf : rx.conf = conf) (hreq : SecureRequest req conf)
    (hc : Aead.Ideal req.securityContext)
    (hkey : rx.rxSecurityContext = req.securityContext) (hmode : conf.securityMode = .ao)
    (stripped : Bool) (tail : List UInt8) :
    let frame := (prepareFrameForTx req).1.take conf.frameLength
    SecureReceipt env rx ((if stripped then stripVlanTag frame else frame) ++ tail)
      (if stripped then stripVlanTag frame else frame).length req.sequenceCounter ↔
    wireSequenceCounter conf.numFramesPerCycle req.sequenceCounter = req.sequenceCounter := by
  subst hconf
  intro frame
  have hfits := hreq.fits
  have hroom := hreq.room
  let head := setMetaData req.frameData 28 req.sequenceCounter rx.conf.numFramesPerCycle
    req.txTimestamp
  have hhead : head.length = req.frameData.length := length_setMetaData
  let sealed := req.securityContext.encrypt none (slice head 18 (rx.conf.frameLength - 34))
    (prepareIv req.ivPrefix req.sequenceCounter)
  have hframe : frame = (write head (rx.conf.frameLength - 16) sealed.tag).take
      rx.conf.frameLength := by
    simp only [frame, prepareFrameForTx, hreq.frameType_ne, false_and, ↓reduceIte, hreq.mode_eq,
      hmode, hreq.frameLength_eq, PrepareFrameConfig.adjustMetaData, hreq.numFrames_eq,
      sizeofVlanEthernetHeader, sizeofSecurityChecksum, Nat.sub_sub, head, sealed]
  obtain ⟨hlen, htag, hview⟩ := slice_sealedAo (L := rx.conf.frameLength) (by omega)
    (by rw [hhead]; exact hroom) (hc.length_tag _ _ _ : sealed.tag.length = 16)
  rw [← hframe] at hlen htag hview
  obtain ⟨h8021q, hproto, hseq⟩ := hreq.initialised.header_onWire (by omega)
    fun i k hk => hview i k (by omega)
  have hv := (delivered_either (by omega) stripped tail).secureView hlen (by omega) h8021q hproto
    hseq
  refine hv.receipt_ao hmode (by omega) (by omega) ?_ fun h => ?_
  · rw [hview _ _ (by omega), slice_setMetaData (.inr (by decide)), hreq.initialised.payload_eq]
  · rw [hv.openAo (by omega), hlen, htag, hview _ _ (by omega), h, hkey, ← hreq.ivPrefix_eq,
      hc.decrypt_no_message]

theorem receive_ae (env : RxEnv) (hconf : rx.conf = conf) (hreq : SecureRequest req conf)
    (hc : Aead.Ideal req.securityContext)
    (hkey : rx.rxSecurityContext = req.securityContext) (hmode : conf.securityMode = .ae)
    (stripped : Bool) (tail : List UInt8) :
    let frame := (prepareFrameForTx req).1.take conf.frameLength
    SecureReceipt env rx ((if stripped then stripVlanTag frame else frame) ++ tail)
      (if stripped then stripVlanTag frame else frame).length req.sequenceCounter ↔
    wireSequenceCounter conf.numFramesPerCycle req.sequenceCounter = req.sequenceCounter ∧
      req.payloadPattern.take conf.payloadPattern.bytes.length =
        conf.payloadPattern.bytes := by
  subst hconf
  intro frame
  have hfits := hreq.fits
  have hroom := hreq.room
  let head := setMetaData req.frameData 28 req.sequenceCounter rx.conf.numFramesPerCycle
    req.txTimestamp
  have hhead : head.length = req.frameData.length := length_setMetaData
  let sealed := req.securityContext.encrypt (some req.payloadPattern) (slice head 18 26)
    (prepareIv req.ivPrefix req.sequenceCounter)
  have hframe : frame = (writeAll head [(44, sealed.ciphertext),
      (rx.conf.frameLength - 16, sealed.tag)]).take rx.conf.frameLength := by
    simp only [frame, prepareFrameForTx, hreq.frameType_ne, false_and, ↓reduceIte, hreq.mode_eq,
      hmode, hreq.frameLength_eq, PrepareFrameConfig.adjustMetaData, hreq.numFrames_eq,
      sizeofVlanEthernetHeader, sizeofProfinetSecureHeader, sizeofSecurityChecksum, head, sealed]
  have hmsg : sealed.ciphertext.length = rx.conf.frameLength - 60 :=
    (hc.length_ciphertext _ _ _).trans hreq.payload_length
  obtain ⟨hlen, htag, hcipher, hview⟩ := slice_sealedAe (L := rx.conf.frameLength) (by omega)
    (by rw [hhead]; exact hroom) (hc.length_tag _ _ _ : sealed.tag.length = 16) hmsg
  rw [← hframe] at hlen htag hcipher hview
  obtain ⟨h8021q, hproto, hseq⟩ := hreq.initialised.header_onWire (by omega) hview
  have hv := (delivered_either (by omega) stripped tail).secureView hlen (by omega) h8021q hproto
    hseq
  refine hv.receipt_ae hmode fun h => ?_
  rw [hv.openAe (by omega), hlen, htag, hcipher, hview _ _ (by omega), h, hkey,
    ← hreq.ivPrefix_eq, hc.decrypt_message]

section FrameCopy
variable {bufferLength : Nat} {source destination : MacAddress} {tci frameId : UInt16}

/-- The bytes behind the frame id in an AE frame: the flag, then zeros up to the length. -/
theorem secureHeader_flag (hm : 44 ≤ mem.length) :
    slice (initializeSecureProfinetFrame .ae mem bufferLength source destination pattern tci
      frameId) 20 1 = [0x01] := by
  rw [initializeSecureProfinetFrame, slice_writeAll_within mem 7 rfl (by simp; omega) (by omega)
    (by simp) (by simp)]
  rfl

theorem secureHeader_reserved (hm : bufferLength ≤ mem.length) (hb : 44 ≤ bufferLength) :
    slice (initializeSecureProfinetFrame mode mem bufferLength source destination pattern tci
      frameId) 21 1 = [0] := by
  have hlen : (List.replicate bufferLength (0 : UInt8)).length = bufferLength :=
    List.length_replicate
  rw [initializeSecureProfinetFrame, slice_writeAll_within mem 0 rfl (by omega) (by omega)
    (by omega) (by simp [destination.length_eq, source.length_eq])]
  rw [slice, List.drop_replicate, List.take_replicate, Nat.min_eq_left (by omega)]
  rfl

theorem secureHeader_counter (hm : 44 ≤ mem.length) :
    slice (initializeSecureProfinetFrame mode mem bufferLength source destination pattern tci
      frameId) 28 1 = [0] := by
  rw [initializeSecureProfinetFrame, slice_writeAll_within mem 9 rfl (by simp; omega) (by omega)
    (by simp) (by simp)]
  rfl

end FrameCopy

theorem head_eq_of_slice (h : slice mem off (b :: bs).length = b :: bs) :
    slice mem off 1 = [b] ∧ slice mem (off + 1) bs.length = bs := by
  have hlen : (b :: bs).length = bs.length + 1 := rfl
  have hfst : slice (slice mem off (b :: bs).length) 0 1 = slice mem off 1 :=
    slice_slice mem (by omega)
  have hrest : slice (slice mem off (b :: bs).length) 1 bs.length = slice mem (off + 1) bs.length :=
    slice_slice mem (by omega)
  rw [← hfst, ← hrest, h]
  exact ⟨rfl, List.take_length⟩

theorem initializeFrame_secure (htx : tx.ForClass conf frameType)
    (ht : frameType ∈ [.tsnHigh, .tsnLow, .rtc, .rta]) (hmode : conf.securityMode ≠ .none)
    (buffer : List UInt8) (bufferLength : Nat) (source destination : MacAddress) :
    initializeFrame tx buffer bufferLength source destination =
      initializeSecureProfinetFrame conf.securityMode buffer bufferLength source destination
        conf.payloadPattern.bytes conf.vlanTci tx.frameId := by
  obtain ⟨rfl, rfl, _, _⟩ := htx
  cases hm : tx.conf.securityMode with
  | none => exact absurd hm hmode
  | ao => cases hft : tx.frameType <;> simp_all [initializeFrame, initializeProfinetFrame]
  | ae => cases hft : tx.frameType <;> simp_all [initializeFrame, initializeProfinetFrame]

theorem initializedLength_secure (htx : tx.ForClass conf frameType)
    (ht : frameType ∈ [.tsnHigh, .tsnLow, .rtc, .rta]) (hmode : conf.securityMode ≠ .none) :
    initializedLength tx = 44 + conf.payloadPattern.bytes.length := by
  obtain ⟨rfl, rfl, _, _⟩ := htx
  cases hm : tx.conf.securityMode with
  | none => exact absurd hm hmode
  | ao => cases hft : tx.frameType <;> simp_all [initializedLength]
  | ae => cases hft : tx.frameType <;> simp_all [initializedLength]

theorem txMetadataRoom_cases (build : BuildConfig) (conf : TrafficClassConfig) :
    txMetadataRoom build conf = 0 ∨ txMetadataRoom build conf = 16 ∨
      txMetadataRoom build conf = 24 := by
  have hsize := build.sizeofXskTxMetadata_eq
  unfold txMetadataRoom
  split
  · exact .inr hsize
  · exact .inl rfl

/-- When the window into the copy of an AE frame shows the payload pattern: it does not move with
the frame. -/
theorem frameCopy_pattern (room : Nat) (hroom : room = 0 ∨ room = 16 ∨ room = 24)
    (pattern : CString) (hfit : room + 44 + pattern.bytes.length ≤ maxFrameSize)
    (source destination : MacAddress) (tci frameId : UInt16) :
    slice (initializeSecureProfinetFrame .ae (List.replicate (maxFrameSize - room) 0)
        (maxFrameSize - room) source destination pattern.bytes tci frameId) (44 - room)
        pattern.bytes.length = pattern.bytes ↔
      room = 0 ∨ pattern.bytes = [] ∨ room = 24 ∧ pattern.bytes = [0x01] := by
  have hmax : maxFrameSize = 4096 := rfl
  have hlen : (List.replicate (maxFrameSize - room) (0 : UInt8)).length = maxFrameSize - room :=
    List.length_replicate
  generalize List.replicate (maxFrameSize - room) (0 : UInt8) = mem at hlen ⊢
  obtain ⟨bytes, hnul⟩ := pattern
  dsimp only at hfit ⊢
  generalize hframe : initializeSecureProfinetFrame .ae mem (maxFrameSize - room) source
    destination bytes tci frameId = frame
  have hpay : slice frame 44 bytes.length = bytes := by
    rw [← hframe]
    exact (initializeSecureProfinetFrame_fields _ _ _ _ _ _ (by omega)).payload_eq
  have hflag : slice frame 20 1 = [0x01] := by
    rw [← hframe]
    exact secureHeader_flag (by omega)
  have hreserved : slice frame 21 1 = [0] := by
    rw [← hframe]
    exact secureHeader_reserved (by omega) (by omega)
  have hcounter : slice frame 28 1 = [0] := by
    rw [← hframe]
    exact secureHeader_counter (by omega)
  cases bytes with
  | nil => simp [slice]
  | cons b bs =>
    rw [List.mem_cons, not_or] at hnul
    rcases hroom with rfl | rfl | rfl
    · exact ⟨fun _ => .inl rfl, fun _ => hpay⟩
    · -- the window shows the cycle counter
      refine ⟨fun h => absurd ?_ hnul.1, by simp⟩
      have hb := hcounter.symm.trans (head_eq_of_slice h).1
      exact List.head_eq_of_cons_eq hb
    · -- the window shows the security flag and the padding behind it
      constructor
      · intro h
        obtain ⟨hb, hrest⟩ := head_eq_of_slice h
        cases bs with
        | nil => exact .inr (.inr ⟨rfl, hb.symm.trans hflag⟩)
        | cons b' bs =>
          have hb' := hreserved.symm.trans (head_eq_of_slice hrest).1
          refine absurd ?_ hnul.2
          rw [List.head_eq_of_cons_eq hb']
          exact List.mem_cons_self
      · rintro (h | h | ⟨-, h⟩)
        · cases h
        · cases h
        · rw [h]
          exact hflag

variable {build : BuildConfig} {app : AppConfig} {sender : ThreadContext}
  {securityInit : SecurityAlgorithm → List UInt8 → Aead.Cipher} {source : MacAddress}

theorem tcInitializeFrames_secure (htx : tx.ForClass conf frameType)
    (ht : frameType ∈ [.tsnHigh, .tsnLow, .rtc, .rta]) (hmode : conf.securityMode ≠ .none)
    (hfit : 60 + conf.payloadPattern.bytes.length ≤ conf.frameLength)
    (hmax : conf.frameLength ≤ maxFrameSize) (hi : i < numFrames)
    (hbuf : i * maxFrameSize + txMetadataRoom build conf + conf.frameLength ≤ mem.length)
    (hframes : tcInitializeFrames build tx mem numFrames source destination = some frames) :
    SecureFrame (frames.drop (i * maxFrameSize + txMetadataRoom build conf))
      conf.payloadPattern.bytes := by
  obtain ⟨old, hold, hview⟩ := slice_tcInitializeFrames hframes hi
  rw [htx.conf_eq] at hview
  have hinit := initializeSecureProfinetFrame_fields conf.securityMode
    (maxFrameSize - txMetadataRoom build conf) source destination conf.vlanTci tx.frameId
    (show 44 + conf.payloadPattern.bytes.length ≤
      (old.drop (i * maxFrameSize + txMetadataRoom build conf)).length by
      rw [List.length_drop]; omega)
  rw [← initializeFrame_secure htx ht hmode] at hinit
  refine ⟨?_, ?_, ?_⟩
  · rw [be16At, drop_slice, hview 12 2 (by omega) (by omega), ← be16At, hinit.tag]
  · rw [be16At, drop_slice, hview 16 2 (by omega) (by omega), ← be16At, hinit.proto]
  · rw [drop_slice, hview 44 _ (by omega) (by omega), hinit.payload_eq]

/-- What the thread set up by `tc_tx_thread` or `tc_xdp_tx_thread` encrypts for the payload. -/
theorem tcTxThreadInit_payload
    (htx : tcThreadsCreate securityInit conf frameType source = some tx)
    (ht : frameType ∈ [.tsnHigh, .tsnLow, .rtc, .rta]) (hmode : conf.securityMode = .ae)
    (hfit : 60 + conf.payloadPattern.bytes.length ≤ conf.frameLength)
    (hinit : tcTxThreadInit build tx = some sender) :
    sender.payloadPattern.take conf.payloadPattern.bytes.length = conf.payloadPattern.bytes ↔
      txMetadataRoom build conf = 0 ∨ conf.payloadPattern.bytes = [] ∨
        txMetadataRoom build conf = 24 ∧ conf.payloadPattern.bytes = [0x01] := by
  have hclass := (tcThreadsCreate_created htx).toForClass
  obtain ⟨hcopy, hplen, -⟩ := tcThreadsCreate_secure htx
  have hne : conf.securityMode ≠ .none := by rw [hmode]; decide
  have hroom := txMetadataRoom_cases build conf
  obtain ⟨hlt, txFrameData, frameCopy, -, hdata, rfl⟩ := tcTxThreadInit_eq_some.mp hinit
  rw [hclass.conf_eq, initializedLength_secure hclass ht hne] at hlt
  have hlen : (List.replicate maxFrameSize (0 : UInt8)).length = maxFrameSize :=
    List.length_replicate
  have hmax : maxFrameSize = 4096 := rfl
  rw [← frameCopy_pattern _ hroom conf.payloadPattern (by omega) tx.source conf.l2Destination
    conf.vlanTci tx.frameId, ← hmode, ← initializeFrame_secure hclass ht hne,
    ← List.drop_replicate]
  rw [← slice_atOffset_right _ (fun frame => initializeFrame tx frame
    (maxFrameSize - txMetadataRoom build conf) tx.source conf.l2Destination) _ _ (by omega),
    Nat.add_sub_cancel' (by omega : txMetadataRoom build conf ≤ 44)]
  have hone : frameCopy =
      atOffset (List.replicate maxFrameSize 0) (txMetadataRoom build conf) fun frame =>
        initializeFrame tx frame (maxFrameSize - txMetadataRoom build conf) tx.source
          conf.l2Destination := by
    rw [tcInitializeFrames_succ, slotOffset_eq (by decide), Nat.zero_mul, Nat.zero_add,
      hclass.conf_eq, hcopy] at hdata
    exact (Option.some.inj hdata).symm
  rw [← hone, ThreadContext.payloadPattern, hplen, slice_take _ _ (by omega)]
  rfl

theorem secureRequest_of_slot
    (htx : tcThreadsCreate securityInit conf frameType source = some tx)
    (ht : frameType ∈ [.tsnHigh, .tsnLow, .rtc, .rta]) (hmode : conf.securityMode ≠ .none)
    (hfit : 60 + conf.payloadPattern.bytes.length ≤ conf.frameLength)
    (hmax : conf.frameLength ≤ maxFrameSize) (hinit : tcTxThreadInit build tx = some sender)
    (hi : i < numFrames)
    (hbuf : i * maxFrameSize + txMetadataRoom build conf + conf.frameLength ≤ mem.length)
    (hframes : tcInitializeFrames build sender mem numFrames source' destination = some frames)
    (s t : UInt64) :
    SecureRequest (sender.prepareFrameConfig
      (frames.drop (i * maxFrameSize + txMetadataRoom build conf)) s t) conf ∧
      sender.txSecurityContext = securityInit conf.securityAlgorithm conf.securityKey.bytes := by
  have hclass := (tcThreadsCreate_created htx).toForClass
  obtain ⟨hcopy, hplen, hkey, -⟩ := tcThreadsCreate_secure htx
  have hne : frameType ≠ .genericL2 := by
    rintro rfl
    simp at ht
  have hsender : sender.ForClass conf frameType ∧ sender.payloadPatternLength =
      conf.frameLength - 60 ∧ sender.txSecurityContext = tx.txSecurityContext ∧
      sender.frameCopy.length = maxFrameSize := by
    obtain ⟨-, txFrameData, frameCopy, -, hdata, rfl⟩ := tcTxThreadInit_eq_some.mp hinit
    refine ⟨⟨hclass.conf_eq, hclass.frameType_eq, hclass.frameId_eq, hclass.metaDataOffset_eq⟩,
      hplen, rfl, ?_⟩
    rw [length_tcInitializeFrames hdata, hcopy, List.length_replicate]
  obtain ⟨hs, hslen, hskey, hscopy⟩ := hsender
  refine ⟨⟨?_, ?_, ?_, ?_, ?_, ?_, ?_, hfit, ?_⟩, hskey.trans hkey⟩
  · rw [ThreadContext.prepareFrameConfig, hs.conf_eq]
  · rw [ThreadContext.prepareFrameConfig, hs.conf_eq]
  · rw [ThreadContext.prepareFrameConfig, hs.conf_eq]
  · rw [ThreadContext.prepareFrameConfig, hs.conf_eq]
  · rw [ThreadContext.prepareFrameConfig, hs.frameType_eq]
    exact hne
  · rw [ThreadContext.prepareFrameConfig, ThreadContext.payloadPattern, hslen]
    exact length_slice (by simp only [sizeofVlanEthernetHeader, sizeofProfinetSecureHeader]; omega)
  · exact tcInitializeFrames_secure hs ht hmode hfit hmax hi hbuf hframes
  · change conf.frameLength ≤ List.length (List.drop _ _)
    rw [List.length_drop, length_tcInitializeFrames hframes]
    omega

theorem minFrameSize_secure (ht : frameType ∈ [.tsnHigh, .tsnLow, .rtc, .rta])
    (hmode : conf.securityMode ≠ .none) : minFrameSize conf frameType = 60 := by
  cases frameType <;> simp_all [minFrameSize, profinetMinFrameSize, minSecureProfinetFrameSize]

theorem deliver_secure (ht : frameType ∈ [.tsnHigh, .tsnLow, .rtc, .rta]) (stripped : Bool)
    (frame : List UInt8) :
    deliver frameType stripped frame = if stripped then stripVlanTag frame else frame := by
  cases frameType <;> first | rfl | simp at ht

theorem tcTxThreadInit_isSome_secure (build : BuildConfig) (hclass : tx.ForClass conf frameType)
    (ht : frameType ∈ [.tsnHigh, .tsnLow, .rtc, .rta]) (hmode : conf.securityMode ≠ .none) :
    (∃ sender, tcTxThreadInit build tx = some sender) ↔
      txMetadataRoom build conf + 44 + conf.payloadPattern.bytes.length ≤ maxFrameSize ∧
        (conf.xdpEnabled = true ∨ conf.numFramesPerCycle.toNat ≤ 2 ^ 19) := by
  rw [tcTxThreadInit_isSome, hclass.conf_eq, initializedLength_secure hclass ht hmode,
    Nat.add_assoc]

theorem wireSequenceCounter_eq_iff_of_lt (hn : 0 < n.toNat) (hs : s.toNat < n.toNat * 2 ^ 32) :
    wireSequenceCounter n s = s ↔ s.toNat % n.toNat < 2 ^ 32 := by
  rw [wireSequenceCounter_eq_iff hn]
  refine and_iff_right ((Nat.div_lt_iff_lt_mul hn).mpr ?_)
  rwa [Nat.mul_comm]

section Deployed
variable (hs : configSanityCheck build app = true)
  (ht : frameType ∈ [.tsnHigh, .tsnLow, .rtc, .rta])
  (hmode : (app.classes frameType).securityMode ≠ .none)
  (htx : tcThreadsCreate securityInit (app.classes frameType) frameType source = some tx)
  (hrx : rx.ForClass (app.classes frameType) frameType)
  (hkey : rx.rxSecurityContext = securityInit (app.classes frameType).securityAlgorithm
    (app.classes frameType).securityKey.bytes)
  (hideal : Aead.Ideal (securityInit (app.classes frameType).securityAlgorithm
    (app.classes frameType).securityKey.bytes))
  (hn : 0 < (app.classes frameType).numFramesPerCycle.toNat)
  (hseq : s.toNat < (app.classes frameType).numFramesPerCycle.toNat * 2 ^ 32)
include hs ht hmode htx hrx hkey hideal hn hseq

/-- What becomes of a frame of a thread that got through its initialisation. -/
theorem secureReceipt_iff (hinit : tcTxThreadInit build tx = some sender) (t : UInt64)
    (hi : i < txSlots (app.classes frameType))
    (hbuf : i * maxFrameSize + txMetadataRoom build (app.classes frameType) +
      (app.classes frameType).frameLength ≤ mem.length)
    (hframes : tcInitializeFrames build sender mem (txSlots (app.classes frameType)) source
      destination = some frames) (stripped : Bool) (env : RxEnv) (tail : List UInt8) :
    let conf := app.classes frameType
    let room := txMetadataRoom build conf
    let prepared := prepareFrameForTx
      (sender.prepareFrameConfig (frames.drop (slotOffset room i)) s t)
    let received := deliver frameType stripped (prepared.1.take conf.frameLength)
    SecureReceipt env rx (received ++ tail) received.length s ↔
      s.toNat % conf.numFramesPerCycle.toNat < 2 ^ 32 ∧
        (conf.securityMode = .ae → room = 0 ∨ conf.payloadPattern.bytes = [] ∨
          room = 24 ∧ conf.payloadPattern.bytes = [0x01]) := by
  intro conf room prepared received
  have hlt := Nat.lt_of_lt_of_le hi (tcInitializeFrames_isSome.mp ⟨frames, hframes⟩)
  obtain ⟨hmax, hfit⟩ := configSanityCheck_frameLength hs frameType
  rw [minFrameSize_secure ht hmode] at hfit
  obtain ⟨hreq, htxkey⟩ := secureRequest_of_slot htx ht hmode hfit hmax hinit hi hbuf hframes s t
  rw [← slotOffset_eq hlt] at hreq
  have hideal' : Aead.Ideal sender.txSecurityContext := by
    rw [htxkey]
    exact hideal
  have hkey' := hkey.trans htxkey.symm
  have hwire := wireSequenceCounter_eq_iff_of_lt hn hseq
  rw [show received = _ from deliver_secure ht stripped _, ← hwire]
  cases hm : conf.securityMode with
  | none => exact absurd hm hmode
  | ao =>
    have h := receive_ao env hrx.conf_eq hreq hideal' hkey' hm stripped tail
    simp only [reduceCtorEq, false_implies, and_true]
    exact h
  | ae =>
    have h := receive_ae env hrx.conf_eq hreq hideal' hkey' hm stripped tail
    have hpay := tcTxThreadInit_payload htx ht hm hfit hinit
    simp only [true_implies]
    exact h.trans (and_congr_right' hpay)

end Deployed

def encryptedConfig (txTimeEnabled : Bool) : AppConfig :=
  (configSetDefaults false).setClass .tsnHigh fun c =>
    { c with
      enabled := true
      txTimeEnabled
      securityMode := .ae
      securityAlgorithm := .chacha20Poly1305
      securityKey := ⟨List.replicate 32 0x6b, by decide⟩
      securityIvPrefix := ⟨[0x61, 0x62, 0x63, 0x64, 0x65, 0x66], by decide⟩ }

theorem encryptedConfig_created (txTimeEnabled : Bool) :
    ∃ tx, tcThreadsCreate chachaInit ((encryptedConfig txTimeEnabled).classes .tsnHigh) .tsnHigh
        defaultDestination = some tx ∧
      tx.ForClass ((encryptedConfig txTimeEnabled).classes .tsnHigh) .tsnHigh ∧
      tx.rxSecurityContext = ChaCha20Poly1305.cipher (List.replicate 32 0x6b) := by
  obtain ⟨tx, htx⟩ := tcThreadsCreate_xdp chachaInit .tsnHigh defaultDestination
    (show ((encryptedConfig txTimeEnabled).classes .tsnHigh).xdpEnabled = true from rfl)
  obtain ⟨-, -, hkey, hrx⟩ := tcThreadsCreate_secure htx
  exact ⟨tx, htx, (tcThreadsCreate_created htx).toForClass, hrx.trans hkey⟩

end RtcTestbench
