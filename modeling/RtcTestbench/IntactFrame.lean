import RtcTestbench.MirrorFilter
import RtcTestbench.TxSlots

namespace RtcTestbench
open Buffer
set_option autoImplicit true

/-- A class whose frames can be told apart from others and have room for their payload. -/
structure CarriedClass (conf : TrafficClassConfig) (frameType : StatFrameType) : Prop
    extends CountedClass conf frameType where
  ether : frameType = .genericL2 → conf.etherType.toNat % 2 ^ 16 ≠ 0x8100
  pattern_fits : minFrameSize conf frameType + conf.payloadPattern.bytes.length ≤ conf.frameLength

/-- What every frame of a class has in common. With encryption the payload is somewhere else. -/
structure Template (conf : TrafficClassConfig) (frameType : StatFrameType) (frame : List UInt8) :
    Prop where
  length_eq : frame.length = conf.frameLength
  header : HasHeader conf frameType frame
  frameId : frameType ∈ [.tsnHigh, .tsnLow, .rtc, .rta] →
    be16At frame 18 = classFrameId frameType conf.securityMode
  payload : conf.securityMode ≠ .ae →
    slice frame (getMetaDataOffset frameType conf.securityMode + 16)
      conf.payloadPattern.bytes.length = conf.payloadPattern.bytes

/-- The frame of a class with its counters. -/
structure Filled (conf : TrafficClassConfig) (frameType : StatFrameType) (frame : List UInt8)
    (s : UInt64) : Prop extends Template conf frameType frame where
  decode : metaDataToSequenceCounter frame (getMetaDataOffset frameType conf.securityMode)
    conf.numFramesPerCycle = wireSequenceCounter conf.numFramesPerCycle s

def wireIv (conf : TrafficClassConfig) (s : UInt64) : List UInt8 :=
  prepareIv conf.securityIvPrefix.bytes (wireSequenceCounter conf.numFramesPerCycle s)

/-- The frame with counter `s`, sealed as its class wants it. Addresses and time stamp are free. -/
structure Intact (conf : TrafficClassConfig) (frameType : StatFrameType) (cipher : Aead.Cipher)
    (frame : List UInt8) (s : UInt64) : Prop extends Filled conf frameType frame s where
  opensAo : conf.securityMode = .ao →
    (cipher.decrypt none (slice frame 18 (conf.frameLength - 34))
      (slice frame (conf.frameLength - 16) 16) (wireIv conf s)).ret = 0
  opensAe : conf.securityMode = .ae →
    ∃ plaintext, cipher.decrypt (some (slice frame 44 (conf.frameLength - 60))) (slice frame 18 26)
        (slice frame (conf.frameLength - 16) 16) (wireIv conf s) = ⟨0, plaintext⟩ ∧
      plaintext.take conf.payloadPattern.bytes.length = conf.payloadPattern.bytes

/-- What both sides do to a frame whose meta data is set: checksum and ciphertext. -/
def sealFrame (conf : TrafficClassConfig) (cipher : Aead.Cipher) (pattern : List UInt8)
    (s : UInt64) (frame : List UInt8) : List UInt8 :=
  let iv := prepareIv conf.securityIvPrefix.bytes s
  match conf.securityMode with
  | .none => frame
  | .ao =>
    write frame (conf.frameLength - 16)
      (cipher.encrypt none (slice frame 18 (conf.frameLength - 34)) iv).tag
  | .ae =>
    let e := cipher.encrypt (some pattern) (slice frame 18 26) iv
    writeAll frame [(44, e.ciphertext), (conf.frameLength - 16, e.tag)]

/-- Where the part of a frame starts that both directions have in common. -/
def bodyOffset (frameType : StatFrameType) : Nat := if frameType = .lldp then 14 else 16

/-- Two frames that differ in their addresses and the priority of their tag at most. -/
structure SameBody (frameType : StatFrameType) (frame frame' : List UInt8) : Prop where
  length_eq : frame'.length = frame.length
  tag : be16At frame' 12 = be16At frame 12
  body : ∀ i k, bodyOffset frameType ≤ i → slice frame' i k = slice frame i k

/-- A pattern that can be encrypted for a frame of the class. -/
def PatternFits (conf : TrafficClassConfig) (pattern : List UInt8) : Prop :=
  conf.securityMode = .ae → pattern.length = conf.frameLength - 60 ∧
    pattern.take conf.payloadPattern.bytes.length = conf.payloadPattern.bytes

variable {conf : TrafficClassConfig} {frameType : StatFrameType} {cipher : Aead.Cipher}
  {frame frame' buf pattern : List UInt8} {s t c : UInt64} {ctx : ThreadContext} {len : Nat}
  {env : RxEnv} {acc : RxAccepted} {rx : ThreadContext} {stripped rxMirrorEnabled xdpEnabled : Bool}

theorem CarriedClass.payload_fits (hc : CarriedClass conf frameType) :
    getMetaDataOffset frameType conf.securityMode + 16 + conf.payloadPattern.bytes.length +
      (if conf.securityMode = .none then 0 else 16) ≤ conf.frameLength := by
  have hfits := hc.pattern_fits
  by_cases hm : conf.securityMode = .none
  · have hoff := getMetaDataOffset_fits hm frameType
    rw [if_pos hm, hm]
    omega
  · obtain ⟨hoff, -⟩ := hc.secure_layout hm
    rw [minFrameSize_secure (hc.secured hm) hm] at hfits
    rw [if_neg hm, hoff]
    omega

theorem bodyOffset_le (hc : CountedClass conf frameType) (mode : SecurityMode) :
    bodyOffset frameType ≤ getMetaDataOffset frameType mode := by
  obtain ⟨hhigh, hlow⟩ := hc.not_udp
  cases frameType <;> cases mode <;> simp_all [bodyOffset, getMetaDataOffset]

theorem bodyOffset_tagged (h : wireEtherType conf frameType = some etherType) :
    bodyOffset frameType = 16 := by
  cases frameType <;> first | rfl | cases h

theorem wireEtherType_profinet (conf : TrafficClassConfig)
    (ht : frameType ∈ [.tsnHigh, .tsnLow, .rtc, .rta]) :
    wireEtherType conf frameType = some ethPProfinetRt := by
  cases frameType <;> first | rfl | simp at ht

theorem profinet_behind_id (ht : frameType ∈ [.tsnHigh, .tsnLow, .rtc, .rta])
    (mode : SecurityMode) : 20 ≤ getMetaDataOffset frameType mode := by
  rw [getMetaDataOffset_profinet ht]
  split <;> omega

section Body
variable (hb : SameBody frameType frame frame') (hc : CountedClass conf frameType)
include hb hc

theorem Template.sameBody (h : Template conf frameType frame) :
    Template conf frameType frame' := by
  refine ⟨hb.length_eq.trans h.length_eq, ?_, ?_, ?_⟩
  · intro etherType he
    obtain ⟨htag, hproto⟩ := h.header etherType he
    refine ⟨hb.tag.trans htag, ?_⟩
    rw [be16At, hb.body 16 2 (Nat.le_of_eq (bodyOffset_tagged he))]
    exact hproto
  · intro ht
    have hoff := bodyOffset_tagged (wireEtherType_profinet conf ht)
    rw [be16At, hb.body 18 2 (by omega)]
    exact h.frameId ht
  · intro hm
    have hoff := bodyOffset_le hc conf.securityMode
    rw [hb.body _ _ (by omega)]
    exact h.payload hm

theorem Filled.sameBody (h : Filled conf frameType frame s) : Filled conf frameType frame' s := by
  refine ⟨h.toTemplate.sameBody hb hc, ?_⟩
  rw [metaDataToSequenceCounter_congr (hb.body _ 16 (bodyOffset_le hc conf.securityMode))]
  exact h.decode

theorem Intact.sameBody (h : Intact conf frameType cipher frame s) :
    Intact conf frameType cipher frame' s := by
  have hsecure (hm : conf.securityMode ≠ .none) :
      bodyOffset frameType = 16 ∧ 60 ≤ conf.frameLength :=
    ⟨bodyOffset_tagged (wireEtherType_profinet conf (hc.secured hm)),
      (hc.secure_layout hm).2⟩
  refine ⟨h.toFilled.sameBody hb hc, ?_, ?_⟩
  · intro hm
    obtain ⟨hoff, hlong⟩ := hsecure (by rw [hm]; decide)
    rw [hb.body 18 _ (by omega), hb.body (conf.frameLength - 16) 16 (by omega)]
    exact h.opensAo hm
  · intro hm
    obtain ⟨hoff, hlong⟩ := hsecure (by rw [hm]; decide)
    rw [hb.body 44 _ (by omega), hb.body 18 26 (by omega),
      hb.body (conf.frameLength - 16) 16 (by omega)]
    exact h.opensAe hm

end Body

/-- A time stamp is not part of what makes a frame the frame of its counter. -/
theorem Filled.stamped (h : Filled conf frameType frame s) (t : UInt64) :
    Filled conf frameType
      (txTimestampToMetaData frame (getMetaDataOffset frameType conf.securityMode) t) s := by
  refine ⟨⟨length_txTimestampToMetaData.trans h.length_eq, ?_, ?_, ?_⟩, ?_⟩
  · intro etherType he
    have hoff := metaData_behind_header he conf.securityMode
    rw [be16At, be16At, slice_txTimestampToMetaData (by omega),
      slice_txTimestampToMetaData (by omega)]
    exact h.header etherType he
  · intro ht
    have hoff := profinet_behind_id ht conf.securityMode
    rw [be16At, slice_txTimestampToMetaData (by omega)]
    exact h.frameId ht
  · intro hm
    rw [slice_txTimestampToMetaData (by omega)]
    exact h.payload hm
  · rw [metaDataToSequenceCounter_txTimestamp]
    exact h.decode

theorem Template.filled (h : Template conf frameType frame) (hc : CountedClass conf frameType)
    (s t : UInt64) :
    Filled conf frameType (setMetaData frame (getMetaDataOffset frameType conf.securityMode) s
      conf.numFramesPerCycle t) s := by
  refine ⟨⟨length_setMetaData.trans h.length_eq, ?_, ?_, ?_⟩, ?_⟩
  · intro etherType he
    have hoff := metaData_behind_header he conf.securityMode
    rw [be16At, be16At, slice_setMetaData (by omega), slice_setMetaData (by omega)]
    exact h.header etherType he
  · intro ht
    have hoff := profinet_behind_id ht conf.securityMode
    rw [be16At, slice_setMetaData (by omega)]
    exact h.frameId ht
  · intro hm
    rw [slice_setMetaData (by omega)]
    exact h.payload hm
  · have hfits := hc.metaData_fits
    rw [← h.length_eq] at hfits
    exact (setMetaData_decode hfits).1

@[simp] theorem length_sealFrame (conf : TrafficClassConfig) (cipher : Aead.Cipher)
    (pattern : List UInt8) (s : UInt64) (frame : List UInt8) :
    (sealFrame conf cipher pattern s frame).length = frame.length := by
  rw [sealFrame]
  cases conf.securityMode with
  | none => rfl
  | ao => exact length_write _ _ _
  | ae => exact length_writeAll _ _

/-- Sealing starts behind the meta data, and behind the payload if this is not encrypted. -/
theorem slice_sealFrame (hL : conf.securityMode ≠ .none → 60 ≤ conf.frameLength)
    (hend : i + k ≤ if conf.securityMode = .ao then conf.frameLength - 16 else 44)
    (cipher : Aead.Cipher) (pattern : List UInt8) (s : UInt64) (frame : List UInt8) :
    slice (sealFrame conf cipher pattern s frame) i k = slice frame i k := by
  rw [sealFrame]
  cases hm : conf.securityMode with
  | none => rfl
  | ao =>
    rw [hm, if_pos rfl] at hend
    exact slice_write_left _ _ hend
  | ae =>
    have hlong := hL (by rw [hm]; decide)
    rw [hm, if_neg (by decide)] at hend
    apply slice_writeAll_disjoint
    simp only [List.forall_mem_cons]
    exact ⟨.inl hend, .inl (by omega), List.forall_mem_nil _⟩

/-- Everything in front of the payload stays. -/
theorem slice_sealFrame_front (hL : conf.securityMode ≠ .none → 60 ≤ conf.frameLength)
    (hi : i + k ≤ 44) (cipher : Aead.Cipher) (pattern : List UInt8) (s : UInt64)
    (frame : List UInt8) :
    slice (sealFrame conf cipher pattern s frame) i k = slice frame i k := by
  apply slice_sealFrame hL
  split
  · rename_i hm
    have := hL (by rw [hm]; decide)
    omega
  · exact hi

theorem sealFrame_ao (hm : conf.securityMode = .ao) (cipher : Aead.Cipher)
    (pattern : List UInt8) (s : UInt64) (frame : List UInt8) :
    sealFrame conf cipher pattern s frame = write frame (conf.frameLength - 16)
      (cipher.encrypt none (slice frame 18 (conf.frameLength - 34))
        (prepareIv conf.securityIvPrefix.bytes s)).tag := by
  rw [sealFrame, hm]

theorem sealFrame_ae (hm : conf.securityMode = .ae) (cipher : Aead.Cipher)
    (pattern : List UInt8) (s : UInt64) (frame : List UInt8) :
    let e := cipher.encrypt (some pattern) (slice frame 18 26)
      (prepareIv conf.securityIvPrefix.bytes s)
    sealFrame conf cipher pattern s frame =
      writeAll frame [(44, e.ciphertext), (conf.frameLength - 16, e.tag)] := by
  rw [sealFrame, hm]

/-- A sealed frame opens under the vector it was sealed with. -/
theorem sealFrame_opens (hlen : frame.length = conf.frameLength)
    (hL : conf.securityMode ≠ .none → 60 ≤ conf.frameLength) (hideal : Aead.Ideal cipher)
    (hp : PatternFits conf pattern) (s : UInt64) :
    let iv := prepareIv conf.securityIvPrefix.bytes s
    let out := sealFrame conf cipher pattern s frame
    (conf.securityMode = .ao →
      (cipher.decrypt none (slice out 18 (conf.frameLength - 34))
        (slice out (conf.frameLength - 16) 16) iv).ret = 0) ∧
    (conf.securityMode = .ae →
      cipher.decrypt (some (slice out 44 (conf.frameLength - 60))) (slice out 18 26)
        (slice out (conf.frameLength - 16) 16) iv = ⟨0, pattern⟩) := by
  intro iv out
  have hfull : out.take conf.frameLength = out := by
    rw [← hlen, ← length_sealFrame conf cipher pattern s frame]
    exact List.take_length
  constructor
  · intro hm
    have hout : out = _ := sealFrame_ao hm cipher pattern s frame
    have hlong := hL (by rw [hm]; decide)
    obtain ⟨-, htag, hview⟩ := slice_sealedAo hlong (Nat.le_of_eq hlen.symm)
      (hideal.length_tag none (slice frame 18 (conf.frameLength - 34)) iv)
    rw [← hout, hfull] at htag hview
    rw [htag, hview 18 _ (by omega), hideal.decrypt_no_message]
  · intro hm
    have hout : out = _ := sealFrame_ae hm cipher pattern s frame
    obtain ⟨-, htag, hmsg, hview⟩ := slice_sealedAe (hL (by rw [hm]; decide))
      (Nat.le_of_eq hlen.symm) (hideal.length_tag (some pattern) (slice frame 18 26) iv)
      ((hideal.length_ciphertext (some pattern) (slice frame 18 26) iv).trans (hp hm).1)
    rw [← hout, hfull] at htag hmsg hview
    rw [htag, hmsg, hview 18 26 (by decide), hideal.decrypt_message]

/-- Sealing leaves what a frame has in common with the others of its class. -/
theorem Filled.sealFrame (h : Filled conf frameType frame s) (hc : CarriedClass conf frameType)
    (cipher : Aead.Cipher) (pattern : List UInt8) (c : UInt64) :
    Filled conf frameType (sealFrame conf cipher pattern c frame) s := by
  have hpay := hc.payload_fits
  have hlong (hm : conf.securityMode ≠ .none) : 60 ≤ conf.frameLength :=
    (hc.secure_layout hm).2
  have hoff : getMetaDataOffset frameType conf.securityMode ≤ 28 := getMetaDataOffset_le _ _
  have hview (i k : Nat) (hi : i + k ≤ 44) := slice_sealFrame_front hlong hi cipher pattern c frame
  refine ⟨⟨?_, ?_, ?_, ?_⟩, ?_⟩
  · rw [length_sealFrame]
    exact h.length_eq
  · intro etherType he
    rw [be16At, be16At, hview 12 2 (by decide), hview 16 2 (by decide)]
    exact h.header etherType he
  · intro ht
    rw [be16At, hview 18 2 (by decide)]
    exact h.frameId ht
  · intro hne
    apply Eq.trans ?_ (h.payload hne)
    cases hm : conf.securityMode with
    | none => rw [RtcTestbench.sealFrame, hm]
    | ao =>
      rw [hm, if_neg (by decide)] at hpay
      apply slice_sealFrame hlong
      rw [if_pos hm]
      omega
    | ae => exact absurd hm hne
  · rw [metaDataToSequenceCounter_congr (hview _ 16 (by omega))]
    exact h.decode

/-- A frame sealed under the counter a receiver decodes is intact. -/
theorem Filled.sealed (h : Filled conf frameType frame s) (hc : CarriedClass conf frameType)
    (hideal : Aead.Ideal cipher) (hp : PatternFits conf pattern) :
    Intact conf frameType cipher (RtcTestbench.sealFrame conf cipher pattern
      (wireSequenceCounter conf.numFramesPerCycle s) frame) s := by
  obtain ⟨hao, hae⟩ := sealFrame_opens h.length_eq (fun hm => (hc.secure_layout hm).2) hideal hp
    (wireSequenceCounter conf.numFramesPerCycle s)
  exact ⟨h.sealFrame hc cipher pattern _, hao, fun hm => ⟨pattern, hae hm, (hp hm).2⟩⟩

theorem prepared_eq_sealFrame (hctx : ctx.ForClass conf frameType)
    (hc : CountedClass conf frameType) (frame : List UInt8) (s t : UInt64) :
    ctx.prepared frame s t = sealFrame conf ctx.txSecurityContext ctx.payloadPattern s
      (setMetaData frame (getMetaDataOffset frameType conf.securityMode) s conf.numFramesPerCycle
        t) := by
  obtain ⟨rfl, rfl, -, hoff⟩ := hctx
  have hne : ¬ ((ctx.prepareFrameConfig frame s t).frameType = .genericL2 ∧
      (ctx.prepareFrameConfig frame s t).protocolType = .etherCat) := by
    rintro ⟨h, he⟩
    cases (hc.not_ethercat h).symm.trans he
  have hsecure (hm : ctx.conf.securityMode ≠ .none) :
      getMetaDataOffset ctx.frameType ctx.conf.securityMode = 28 := (hc.secure_layout hm).1
  rw [← hoff] at hsecure ⊢
  rw [ThreadContext.prepared, prepareFrameForTx, if_neg hne]
  simp only [ThreadContext.prepareFrameConfig, PrepareFrameConfig.adjustMetaData, sealFrame]
  cases hm : ctx.conf.securityMode with
  | none => rfl
  | ao =>
    rw [hsecure (by rw [hm]; decide), Nat.sub_sub]
    rfl
  | ae =>
    rw [hsecure (by rw [hm]; decide)]
    rfl

theorem sameBody_monitorFrame (frameType : StatFrameType) (monitor : Option MacAddress)
    (frame : List UInt8) : SameBody frameType frame (monitorFrame monitor frame) := by
  refine ⟨length_monitorFrame _ _, ?_, ?_⟩
  · rw [be16At, slice_monitorFrame _ _ (by decide), be16At]
  · intro i k hi
    apply slice_monitorFrame
    rw [bodyOffset] at hi
    split at hi <;> omega

/-- What the Tx thread makes of a frame of its class is intact, as long as the wire can carry the
counter the frame is sealed with. -/
theorem keepsFrames_intact (hctx : ctx.ForClass conf frameType) (hc : CarriedClass conf frameType)
    (hideal : Aead.Ideal ctx.txSecurityContext) (hp : PatternFits conf ctx.payloadPattern)
    (monitor : Option MacAddress) :
    KeepsFrames ctx (Template conf frameType)
      (fun frame s _ => (conf.securityMode ≠ .none →
          wireSequenceCounter conf.numFramesPerCycle s = s) →
        Intact conf frameType ctx.txSecurityContext frame s) monitor := by
  intro frame s t hframe
  have hfilled := hframe.filled hc.toCountedClass s t
  have hbody := sameBody_monitorFrame frameType monitor (ctx.prepared frame s t)
  have hprepared := prepared_eq_sealFrame hctx hc.toCountedClass frame s t
  refine ⟨?_, fun hwire => ?_⟩
  · apply Template.sameBody hbody hc.toCountedClass
    rw [hprepared]
    exact (hfilled.sealFrame hc _ _ _).toTemplate
  · apply Intact.sameBody hbody hc.toCountedClass
    have hintact := hfilled.sealed hc hideal hp
    rw [hprepared]
    by_cases hm : conf.securityMode = .none
    · simpa only [sealFrame, hm] using hintact
    · rwa [hwire hm] at hintact

theorem initializeFrame_payload (hctx : ctx.ForClass conf frameType)
    (hc : CarriedClass conf frameType) (hmem : conf.frameLength ≤ mem.length) (bufferLength : Nat)
    (source destination : MacAddress) :
    slice (initializeFrame ctx mem bufferLength source destination)
      (getMetaDataOffset frameType conf.securityMode + 16) conf.payloadPattern.bytes.length =
        conf.payloadPattern.bytes := by
  have hpay := hc.payload_fits
  by_cases hm : conf.securityMode = .none
  · rw [hm] at hpay ⊢
    have hrt (ht : frameType ∈ [.tsnHigh, .tsnLow, .rtc, .rta, .dcp])
        (hoff : getMetaDataOffset frameType .none = 20) :
        slice (initializeFrame ctx mem bufferLength source destination) 36
          conf.payloadPattern.bytes.length = conf.payloadPattern.bytes := by
      rw [initializeFrame_rt hctx hm ht]
      exact slice_writeAll_at mem 9 rfl (by omega) (by simp)
    cases frameType with
    | tsnHigh => exact hrt (by simp) rfl
    | tsnLow => exact hrt (by simp) rfl
    | rtc => exact hrt (by simp) rfl
    | rta => exact hrt (by simp) rfl
    | dcp => exact hrt (by simp) rfl
    | lldp =>
      simp only [initializeFrame, hctx.frameType_eq, hctx.conf_eq]
      exact slice_writeAll_at mem 5 rfl (Nat.le_trans hpay hmem) (by simp)
    | udpHigh => exact absurd rfl hc.not_udp.1
    | udpLow => exact absurd rfl hc.not_udp.2
    | genericL2 =>
      simp only [initializeFrame, hctx.frameType_eq, hctx.conf_eq, hc.not_ethercat rfl]
      exact slice_writeAll_at mem 8 rfl (Nat.le_trans hpay hmem) (by simp)
  · rw [if_neg hm] at hpay
    rw [(hc.secure_layout hm).1] at hpay ⊢
    rw [initializeFrame_secure hctx (hc.secured hm) hm]
    exact (initializeSecureProfinetFrame_fields _ _ _ _ _ _ (by omega)).payload_eq

/-- The frames a class initialises. -/
theorem initializeFrame_template (hctx : ctx.ForClass conf frameType)
    (hc : CarriedClass conf frameType) (hmem : conf.frameLength ≤ mem.length) (bufferLength : Nat)
    (source destination : MacAddress) :
    Template conf frameType
      (slice (initializeFrame ctx mem bufferLength source destination) 0 conf.frameLength) := by
  have hpay := hc.payload_fits
  have hlen := length_initializeFrame ctx mem bufferLength source destination
  have hview (i k : Nat) (h : i + k ≤ conf.frameLength) :
      slice (slice (initializeFrame ctx mem bufferLength source destination) 0 conf.frameLength) i
        k = slice (initializeFrame ctx mem bufferLength source destination) i k := by
    rw [slice_slice _ h, Nat.zero_add]
  refine ⟨length_slice (by omega), ?_, ?_, ?_⟩
  · intro etherType he
    have hoff := metaData_behind_header he conf.securityMode
    rw [be16At, be16At, hview 12 2 (by omega), hview 16 2 (by omega)]
    exact initializeFrame_header hctx hc.toCountedClass (by omega) _ _ _ etherType he
  · intro ht
    have hoff := profinet_behind_id ht conf.securityMode
    rw [be16At, hview 18 2 (by omega), ← be16At, ← hctx.frameId_eq]
    by_cases hm : conf.securityMode = .none
    · rw [initializeFrame_rt hctx hm (List.mem_append_left [StatFrameType.dcp] ht),
        ← hctx.frameId_eq]
      exact be16At_writeAll (k := 6) rfl (by omega) (by simp)
    · rw [initializeFrame_secure hctx ht hm]
      exact be16At_writeAll (k := 6) rfl (by omega) (by simp)
  · intro hne
    rw [hview _ _ (by omega)]
    exact initializeFrame_payload hctx hc hmem bufferLength source destination

section Start
variable {build : BuildConfig} {source : MacAddress} {tx sender : ThreadContext}
  {securityInit : SecurityAlgorithm → List UInt8 → Aead.Cipher} {umem : List UInt8}

theorem startTable_template (htx : tcThreadsCreate securityInit conf frameType source = some tx)
    (hinit : tcTxThreadInit build tx = some sender) (hc : CarriedClass conf frameType)
    (hroom : txMetadataRoom build conf + conf.frameLength ≤ maxFrameSize)
    (humem : umem.length = xskRingConsDefaultNumDescs * maxFrameSize) :
    ∀ slot < txSlots conf, Template conf frameType ((startTable build sender umem).table slot) := by
  intro slot hslot
  obtain ⟨ctx, chunk, hctx, hchunk, hlen, hview⟩ := startTable_chunk htx hinit humem hslot
  have hfull := slice_full ((startTable build sender umem).table slot)
  have hlength : ((startTable build sender umem).table slot).length = conf.frameLength := by
    omega
  rw [hlength] at hfull
  rw [← hfull, hview 0 conf.frameLength (by omega) (by omega)]
  exact initializeFrame_template hctx hc (by omega) _ _ _

end Start

/-- A reception nothing is wrong with, except perhaps its place in the sequence. -/
structure CleanReceipt (acc : RxAccepted) (c : UInt64) : Prop where
  counter : acc.report.sequenceCounter = c
  payload : acc.report.payloadMismatch = false
  frameId : acc.report.frameIdMismatch = false
  logs : acc.report.outOfOrder = false → acc.logs = []

/-- A frame was received as what it is. -/
def ReceivedClean (conf : TrafficClassConfig) (s : UInt64) (r : Except LogMessage RxAccepted) :
    Prop :=
  ∃ acc, r = .ok acc ∧ CleanReceipt acc (wireSequenceCounter conf.numFramesPerCycle s)

theorem logs_of_extends (h : acc.Extends (reportFrame name ctx d idMismatch hw sw))
    (hd : d.logs = []) (hp : acc.report.payloadMismatch = false)
    (hid : acc.report.frameIdMismatch = false) (ho : acc.report.outOfOrder = false) :
    acc.logs = [] := by
  rw [h.report_eq] at hp hid ho
  simp only [reportFrame] at hp hid ho
  rw [h.logs_eq]
  simp only [reportFrame, hd, hp, hid, ho, Bool.false_and, Bool.false_eq_true, ↓reduceIte,
    List.append_nil]

theorem cleanReceipt_of_receivedAs {r : Except LogMessage RxAccepted} (hr : ReceivedAs r c t)
    (hext : ∃ acc, r = .ok acc ∧ acc.Extends (reportFrame name ctx d idMismatch hw sw))
    (hd : d.logs = []) : ∃ acc, r = .ok acc ∧ CleanReceipt acc c := by
  obtain ⟨acc, hok, hcounter, -, hp, hid⟩ := hr
  obtain ⟨acc', hok', hext⟩ := hext
  cases hok.symm.trans hok'
  exact ⟨acc, hok, hcounter, hp, hid, fun ho => logs_of_extends hext hd hp hid ho⟩

/-- What a receiver of one of the four cyclic and acyclic classes reads off a frame. -/
structure Reading where
  sequenceCounter : UInt64
  frameId : UInt16
  payload : List UInt8
  authentic : Bool

def readFrame (conf : TrafficClassConfig) (frameType : StatFrameType) (cipher : Aead.Cipher)
    (frame : List UInt8) : Reading :=
  let s := metaDataToSequenceCounter frame (getMetaDataOffset frameType conf.securityMode)
    conf.numFramesPerCycle
  let iv := prepareIv conf.securityIvPrefix.bytes s
  let checksum := slice frame (conf.frameLength - 16) 16
  match conf.securityMode with
  | .none => ⟨s, be16At frame 18, slice frame 36 conf.payloadPattern.bytes.length, true⟩
  | .ao =>
    ⟨s, be16At frame 18, slice frame 44 conf.payloadPattern.bytes.length,
      (cipher.decrypt none (slice frame 18 (conf.frameLength - 34)) checksum iv).ret == 0⟩
  | .ae =>
    let opened := cipher.decrypt (some (slice frame 44 (conf.frameLength - 60)))
      (slice frame 18 26) checksum iv
    ⟨s, be16At frame 18, opened.plaintext.take conf.payloadPattern.bytes.length, opened.ret == 0⟩

/-- The two messages that say a frame did not authenticate. -/
def authenticationFailures (rx : String) (sequenceCounter : UInt64) : List LogMessage :=
  [warning (frameText rx sequenceCounter ++ "Not authentificated\n"),
    warning (frameText rx sequenceCounter ++ "Not authentificated and decrypted\n")]

/-- A tagged frame of the right length and kind; nothing is said about what it carries. -/
structure Shaped (conf : TrafficClassConfig) (frame : List UInt8) : Prop where
  length_eq : frame.length = conf.frameLength
  tag : be16At frame 12 = ethP8021Q
  proto : be16At frame 16 = ethPProfinetRt

section Read
variable (hs : Shaped conf frame) (hd : Delivered frame stripped buf len)
  (hrx : rx.ForClass (peerConfig conf rxMirrorEnabled xdpEnabled) frameType)
  (hc : CarriedClass conf frameType) (ht : frameType ∈ [.tsnHigh, .tsnLow, .rtc, .rta])
include hs hd hrx hc

theorem Shaped.secureView (hm : conf.securityMode ≠ .none) (cipher : Aead.Cipher) :
    SecureView frame rx buf len (readFrame conf frameType cipher frame).sequenceCounter := by
  obtain ⟨hoff, hlong⟩ := hc.secure_layout hm
  have hlen := hs.length_eq
  apply hd.secureView
  · rw [hlen, hrx.conf_eq]
    rfl
  · omega
  · exact hs.tag
  · exact hs.proto
  · rw [hrx.conf_eq, readFrame, hoff]
    cases conf.securityMode <;> rfl

include ht

theorem Shaped.check :
    checkVlanFrame rx.conf (rx.trafficClass ++ "Rx") ": Not a Profinet frame received!\n"
      ethPProfinetRt buf len = none := by
  have hlen := hs.length_eq
  have hfits := hc.metaData_fits
  have hoff := profinet_behind_id ht conf.securityMode
  exact hd.check (show frame.length = rx.conf.frameLength by rw [hlen, hrx.conf_eq]; rfl)
    (by omega) hs.tag hs.proto (by decide) _ _

theorem Shaped.decodes (env : RxEnv) :
    let d := decodeProfinetFrame env rx buf len
    let w := readFrame conf frameType rx.rxSecurityContext frame
    d.sequenceCounter = w.sequenceCounter ∧ d.frameId = w.frameId ∧ d.payload = w.payload ∧
      (d.logs = [] ↔ w.authentic = true) ∧
      ∀ m ∈ d.logs, m ∈ authenticationFailures (rx.trafficClass ++ "Rx") d.sequenceCounter := by
  have hmode : rx.conf.securityMode = conf.securityMode := by rw [hrx.conf_eq]; rfl
  have hpattern : rx.conf.payloadPattern = conf.payloadPattern := by rw [hrx.conf_eq]; rfl
  have hiv : rx.conf.securityIvPrefix = conf.securityIvPrefix := by rw [hrx.conf_eq]; rfl
  have hframes : rx.conf.numFramesPerCycle = conf.numFramesPerCycle := by rw [hrx.conf_eq]; rfl
  have hlen := hs.length_eq
  have hfits := hc.metaData_fits
  have hpay := hc.payload_fits
  have hoff := getMetaDataOffset_profinet ht conf.securityMode
  obtain ⟨-, hhdr, -⟩ := hd.header (by omega) hs.tag hs.proto (by decide)
  have hid : be16At buf (sizeOfEthHeader buf) = be16At frame 18 := by
    rw [be16At, hhdr, hd.view 18 2 (by decide) (by omega)]
    rfl
  rw [decodeProfinetFrame, hmode]
  cases hm : conf.securityMode with
  | none =>
    rw [hm, if_pos rfl] at hoff hpay
    have hview := hd.view 36 conf.payloadPattern.bytes.length (by decide) (by omega)
    have hmeta := hd.view 20 16 (by decide) (by omega)
    rw [← Delivered.offset hhdr 18] at hview
    rw [← Delivered.offset hhdr 2] at hmeta
    simp only [readFrame, hm, hoff, decodeRtFrame, hpattern, hframes]
    refine ⟨metaDataToSequenceCounter_congr hmeta, hid, ?_, trivial,
      List.forall_mem_nil _⟩
    exact (slice_setMirrorTxTimestampEst (by simp)).trans hview
  | ao =>
    have hne : conf.securityMode ≠ .none := by rw [hm]; decide
    have hlong := (hc.secure_layout hne).2
    rw [(hc.secure_layout hne).1, if_neg hne] at hpay
    have hv := hs.secureView hd hrx hc hne rx.rxSecurityContext
    have hopen := hv.openAo (by omega)
    have hpayload : (decodeAoFrame env rx buf len).payload = _ :=
      hv.payloadAo (by omega) (by rw [hpattern]; omega)
    have hcounter : (decodeAoFrame env rx buf len).sequenceCounter = _ := hv.counter
    rw [hiv, hlen] at hopen
    rw [hpattern] at hpayload
    generalize hw : readFrame conf frameType rx.rxSecurityContext frame = w at hopen hcounter ⊢
    simp only [readFrame, hm] at hw
    subst hw
    refine ⟨hcounter, hid, hpayload, ?_, ?_⟩
    · rw [beq_iff_eq, ← hopen]
      simp only [decodeAoFrame, ne_eq, ite_eq_right_iff, List.cons_ne_nil, imp_false, not_not]
    · intro m hmem
      have hm' := (List.mem_ite_nil_right.mp hmem).2
      rw [List.mem_singleton.mp hm']
      exact List.mem_cons_self
  | ae =>
    have hne : conf.securityMode ≠ .none := by rw [hm]; decide
    have hlong := (hc.secure_layout hne).2
    have hv := hs.secureView hd hrx hc hne rx.rxSecurityContext
    have hopen := hv.openAe (by omega)
    have hcounter : (decodeAeFrame env rx buf len).sequenceCounter = _ := hv.counter
    rw [hiv, hlen] at hopen
    generalize hw : readFrame conf frameType rx.rxSecurityContext frame = w at hopen hcounter ⊢
    simp only [readFrame, hm] at hw
    subst hw
    refine ⟨hcounter, hid, ?_, ?_, ?_⟩
    · simp only [decodeAeFrame, hopen, hpattern]
    · rw [beq_iff_eq, ← hopen]
      simp only [decodeAeFrame, ne_eq, ite_eq_right_iff, List.cons_ne_nil, imp_false, not_not]
    · intro m hmem
      have hm' := (List.mem_ite_nil_right.mp hmem).2
      exact List.mem_cons_of_mem _ hm'

end Read

theorem Intact.shaped (h : Intact conf frameType cipher frame s)
    (ht : frameType ∈ [.tsnHigh, .tsnLow, .rtc, .rta]) : Shaped conf frame := by
  obtain ⟨htag, hproto⟩ := h.header _ (wireEtherType_profinet conf ht)
  exact ⟨h.length_eq, htag, hproto⟩

theorem Intact.reads (h : Intact conf frameType cipher frame s)
    (ht : frameType ∈ [.tsnHigh, .tsnLow, .rtc, .rta]) :
    readFrame conf frameType cipher frame = ⟨wireSequenceCounter conf.numFramesPerCycle s,
      classFrameId frameType conf.securityMode, conf.payloadPattern.bytes, true⟩ := by
  have hoff := getMetaDataOffset_profinet ht conf.securityMode
  simp only [readFrame, h.decode, h.frameId ht]
  cases hm : conf.securityMode with
  | none =>
    have hpayload := h.payload (by rw [hm]; decide)
    rw [hoff, if_pos hm] at hpayload
    simp only [hpayload]
  | ao =>
    have hpayload := h.payload (by rw [hm]; decide)
    have hopen := h.opensAo hm
    rw [hoff, if_neg (by rw [hm]; decide)] at hpayload
    rw [wireIv] at hopen
    simp only [hpayload, hopen, BEq.rfl]
  | ae =>
    obtain ⟨plaintext, hopen, htake⟩ := h.opensAe hm
    rw [wireIv] at hopen
    simp only [hopen, htake, BEq.rfl]

section Received
variable (h : Intact conf frameType cipher frame s) (hc : CarriedClass conf frameType)
  (hrx : rx.ForClass (peerConfig conf rxMirrorEnabled xdpEnabled) frameType)
include h hc hrx

theorem Intact.secureView (hd : Delivered frame stripped buf len)
    (hm : conf.securityMode ≠ .none) :
    SecureView frame rx buf len (wireSequenceCounter conf.numFramesPerCycle s) := by
  have ht := hc.secured hm
  have hview := (h.shaped ht).secureView hd hrx hc hm cipher
  rwa [h.reads ht] at hview

/-- The four classes that share a receive function accept the frame. -/
theorem Intact.received_profinet (hkey : rx.rxSecurityContext = cipher)
    (ht : frameType ∈ [.tsnHigh, .tsnLow, .rtc, .rta]) (hd : Delivered frame stripped buf len)
    (env : RxEnv) :
    ∃ acc, receiveProfinetFrame env rx buf len = .ok acc ∧
      CleanReceipt acc (wireSequenceCounter conf.numFramesPerCycle s) := by
  have hs := h.shaped ht
  obtain ⟨acc, hok, hext⟩ := receiveProfinetFrame_ok env (hs.check hd hrx hc ht)
  obtain ⟨hcounter, hid, hpayload, hlogs, -⟩ := hs.decodes hd hrx hc ht env
  rw [hkey, h.reads ht] at hcounter hid hpayload hlogs
  have hpm : acc.report.payloadMismatch = false := by
    rw [hext.report_eq]
    apply bne_eq_false_iff_eq.mpr
    rw [hpayload, hrx.conf_eq]
    rfl
  have hidm : acc.report.frameIdMismatch = false := by
    rw [hext.report_eq]
    exact bne_eq_false_iff_eq.mpr (hid.trans hrx.frameId_eq.symm)
  refine ⟨acc, hok, ?_, hpm, hidm, logs_of_extends hext (hlogs.mpr rfl) hpm hidm⟩
  rw [hext.report_eq]
  exact hcounter

/-- Whichever class it is, an intact frame is received as what it is. -/
theorem Intact.received (hkey : rx.rxSecurityContext = cipher)
    (hd : Delivers frameType ⟨s, frame⟩ r) :
    ∃ acc, receiveFrame r.env rx r.frameData r.len = .ok acc ∧
      CleanReceipt acc (wireSequenceCounter conf.numFramesPerCycle s) := by
  obtain ⟨stripped, tail, hdata, hlen⟩ := hd
  have hlength := h.length_eq
  have hbig := hc.metaData_fits
  have hpay := hc.payload_fits
  have hshort {etherType : UInt16} (he : wireEtherType conf frameType = some etherType) :
      18 ≤ frame.length := by
    have := metaData_behind_header he conf.securityMode
    omega
  have hplain (hns : frameType ∉ [.tsnHigh, .tsnLow, .rtc, .rta]) : conf.securityMode = .none := by
    by_contra hm
    exact hns (hc.secured hm)
  have hprofinet (ht : frameType ∈ [.tsnHigh, .tsnLow, .rtc, .rta]) :=
    h.received_profinet hc hrx hkey ht
      (delivered_either (hshort (wireEtherType_profinet conf ht)) stripped tail) r.env
  have hconf : rx.conf = peerConfig conf rxMirrorEnabled xdpEnabled := hrx.conf_eq
  rw [receiveFrame, hrx.frameType_eq, hdata, hlen]
  cases frameType with
  | tsnHigh => exact hprofinet (by simp)
  | tsnLow => exact hprofinet (by simp)
  | rtc => exact hprofinet (by simp)
  | rta => exact hprofinet (by simp)
  | dcp =>
    have hm := hplain (by simp)
    have hpayload := h.payload (by rw [hm]; decide)
    have hdecode := h.decode
    rw [hm, if_pos rfl] at hpay
    rw [hm] at hpayload hdecode
    obtain ⟨htag, hproto⟩ := h.header _ rfl
    have hd := delivered_stripped (hshort rfl) tail
    have hv : VlanFrame frame ethPProfinetRt 20 36 rx.conf.numFramesPerCycle s
        (metaDataToTxTimestamp frame 20) rx.conf.payloadPattern.bytes := by
      rw [hconf]
      exact ⟨htag, hproto, ⟨hdecode, rfl⟩, hpayload⟩
    have hfull : frame.length = rx.conf.frameLength := by
      rw [hlength, hconf]
      rfl
    have hreceived : ReceivedAs (dcpRxFrame r.env rx _ _) _ _ := receive_dcpFrame hd hv hfull (by
      rw [hconf, hlength]
      exact hpay)
    rw [hconf] at hreceived
    apply cleanReceipt_of_receivedAs hreceived (dcpRxFrame_ok r.env ?_) rfl
    rw [← hfull]
    exact hd.len_eq
  | lldp =>
    have hm := hplain (by simp)
    have hpayload := h.payload (by rw [hm]; decide)
    have hdecode := h.decode
    rw [hm, if_pos rfl] at hpay
    rw [hm] at hpayload hdecode
    have hfull : frame.length = rx.conf.frameLength := by
      rw [hlength, hconf]
      rfl
    have hseq : metaDataToSequenceCounter frame 14 rx.conf.numFramesPerCycle =
        wireSequenceCounter conf.numFramesPerCycle s := by
      rw [hconf]
      exact hdecode
    have hreceived : ReceivedAs (lldpRxFrame r.env rx _ _) _ _ := receive_lldpFrame hfull (by
      rw [hconf, hlength]
      exact hpay) hseq rfl (by rw [hconf]; exact hpayload) tail
    exact cleanReceipt_of_receivedAs hreceived (lldpRxFrame_ok r.env hfull) rfl
  | udpHigh => exact absurd rfl hc.not_udp.1
  | udpLow => exact absurd rfl hc.not_udp.2
  | genericL2 =>
    have hm := hplain (by simp)
    have hpayload := h.payload (by rw [hm]; decide)
    have hdecode := h.decode
    rw [hm, if_pos rfl] at hpay
    rw [hm] at hpayload hdecode
    obtain ⟨htag, hproto⟩ := h.header _ rfl
    have hd := delivered_either (hshort rfl) stripped tail
    have hether := etherType_ne (hc.ether rfl)
    have hlong : 18 + 16 ≤ conf.frameLength := hbig
    have hv : VlanFrame frame rx.conf.etherType.toUInt16 18 34 rx.conf.numFramesPerCycle s
        (metaDataToTxTimestamp frame 18) rx.conf.payloadPattern.bytes := by
      rw [hconf]
      exact ⟨htag, hproto, ⟨hdecode, rfl⟩, hpayload⟩
    have hfull : frame.length = rx.conf.frameLength := by
      rw [hlength, hconf]
      rfl
    have hether' : rx.conf.etherType.toUInt16 ≠ ethP8021Q := by
      rw [hconf]
      exact hether
    have hreceived : ReceivedAs (genericL2RxFrame r.env rx _ _) _ _ :=
      receive_genericL2Frame hd hv hether' hfull (by
        rw [hconf, hlength]
        exact hpay)
    have hcheck := hd.check hfull (by omega) hv.tag hv.proto hether' "GenericL2Rx"
      ": Frame with wrong Ether Type received!\n"
    rw [show rx.conf.protocolType = .genericL2 by rw [hconf]; exact hc.not_ethercat rfl]
    rw [hconf] at hreceived
    exact cleanReceipt_of_receivedAs hreceived (genericL2RxFrame_ok r.env hcheck) rfl

end Received

end RtcTestbench
