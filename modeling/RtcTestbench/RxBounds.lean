import RtcTestbench.RxCheckedSteps
import RtcTestbench.SocketFilter

namespace RtcTestbench
open Bounds Bpf Buffer
set_option autoImplicit true

variable {limit len : Nat} {env : RxEnv} {ctx : ThreadContext} {conf : TrafficClassConfig}
  {frame pattern : List UInt8} {s : RxState}

/-- What keeps a receiver in its buffers: the frame memory holds what was received and a frame of
the configured length, which has room for headers and pattern. -/
structure RxRoom (limit len : Nat) (s : RxState) : Prop where
  len_le : len ≤ limit
  length_le : s.ctx.conf.frameLength ≤ limit
  le_max : s.ctx.conf.frameLength ≤ maxFrameSize
  min_le : minFrameSize s.ctx.conf s.ctx.frameType + s.ctx.conf.payloadPattern.bytes.length ≤
    s.ctx.conf.frameLength

theorem receiveVlanFrameChecked_of_le (h : RxRoom limit len s)
    (hlength : sizeofVlanHeader ≤ s.ctx.conf.frameLength)
    (hstripped : s.ctx.conf.xdpEnabled = false → vlanTagMissing s.frame = true)
    {rx wrongType : String} {etherType : UInt16} {decode : EthHeader → Option RxDecoded}
    {d : RxDecoded} (frameIdMismatch : RxDecoded → Bool)
    (hdecode : len + sizeofVlanEthernetHeader =
        sizeOfEthHeader s.frame + s.ctx.conf.frameLength →
      decode ⟨frameProto s.frame, sizeOfEthHeader s.frame,
        expectedFrameLength s.ctx.conf s.frame, vlanTagMissing s.frame⟩ = some d) :
    receiveVlanFrameChecked limit env s len rx wrongType etherType decode frameIdMismatch =
      some (s.after (match checkVlanFrame s.ctx.conf rx wrongType etherType s.frame len with
        | some message => .error message
        | none => .ok (storeVlanFrame env etherType len (vlanTagMissing s.frame)
            (reportFrame rx s.ctx d (frameIdMismatch d) (rxTimestamps env).1
              (rxTimestamps env).2)))) := by
  rw [receiveVlanFrameChecked, checkVlanFrame]
  split
  · rfl
  · next hlow =>
    have hlow : 18 ≤ len := Nat.le_of_not_lt hlow
    have hlen := h.len_le
    rw [bind_of_some (loadEthHeader_of_le _ (by omega) hlength)]
    dsimp only
    split
    · rfl
    · split
      · rfl
      · next hexpected =>
        have hexpected : len = expectedFrameLength s.ctx.conf s.frame := not_not.mp hexpected
        have hmissing (hm : vlanTagMissing s.frame = true) : len + 4 = s.ctx.conf.frameLength := by
          rw [hexpected, expectedFrameLength, if_pos hm]
          exact Nat.sub_add_cancel hlength
        have hinsert (hm : vlanTagMissing s.frame = true) : len + 4 ≤ limit :=
          Nat.le_trans (Nat.le_of_eq (hmissing hm)) h.length_le
        have hcopy (hx : s.ctx.conf.xdpEnabled = false) : len + 4 ≤ maxFrameSize :=
          Nat.le_trans (Nat.le_of_eq (hmissing (hstripped hx))) h.le_max
        rw [bind_of_some (hdecode (accepted_length hlength hexpected)),
          bind_of_some (storeVlanFrameChecked_of_le (by omega) hlen _ hinsert hcopy _)]
        rfl

theorem mem_tcSecurity : frameType ∈ tcSecurity ↔
    frameType = .tsnHigh ∨ frameType = .tsnLow ∨ frameType = .rtc ∨ frameType = .rta := by
  simp only [tcSecurity, tcProfinet, tcTsn, List.cons_append, List.nil_append, List.mem_cons,
    List.not_mem_nil, or_false]

/-- What the create function leaves behind for the secured modes. -/
structure SecureSetup (ctx : ThreadContext) : Prop where
  seals : SealsWithin ctx.rxSecurityContext
  opens : OpensWithin ctx.rxSecurityContext
  ivPrefix : ctx.conf.securityIvPrefix.bytes.length = securityIvPrefixLen
  pattern : ctx.payloadPatternLength = ctx.conf.frameLength - 60

theorem sizeOfEthHeader_le (frame : List UInt8) : sizeOfEthHeader frame ≤ 18 := by
  rw [sizeOfEthHeader]
  split <;> decide

theorem RxRoom.profinetMin_le (h : RxRoom limit len s) (ht : s.ctx.frameType ∈ tcSecurity) :
    profinetMinFrameSize s.ctx.conf + s.ctx.conf.payloadPattern.bytes.length ≤
      s.ctx.conf.frameLength := by
  have hmin := h.min_le
  rcases mem_tcSecurity.mp ht with ht | ht | ht | ht <;> rw [ht] at hmin <;> exact hmin

theorem RxRoom.secureRoom (h : RxRoom limit len s) (ht : s.ctx.frameType ∈ tcSecurity)
    (hmode : s.ctx.conf.securityMode ≠ .none) (hsecure : SecureSetup s.ctx)
    (hlen : len + sizeofVlanEthernetHeader = sizeOfEthHeader s.frame + s.ctx.conf.frameLength) :
    SecureRoom s.ctx (sizeOfEthHeader s.frame) len := by
  have hmin := h.profinetMin_le ht
  have hmax := h.le_max
  have hpattern := hsecure.pattern
  have heth := sizeOfEthHeader_le s.frame
  rw [profinetMinFrameSize, if_neg hmode, minSecureProfinetFrameSize] at hmin
  simp only [sizeofVlanEthernetHeader, sizeofProfinetSecureHeader, sizeofSecurityChecksum]
    at hmin hlen
  refine ⟨hsecure.seals, hsecure.opens, hsecure.ivPrefix, ?_, ?_, ?_, by omega⟩
  all_goals
    simp only [sizeofVlanEthernetHeader, sizeofProfinetSecureHeader, sizeofSecurityChecksum]
    omega

theorem decodeProfinetFrameChecked_of_le (h : RxRoom limit len s)
    (ht : s.ctx.frameType ∈ tcSecurity)
    (hsecure : s.ctx.conf.securityMode ≠ .none → SecureSetup s.ctx)
    (hlen : len + sizeofVlanEthernetHeader = sizeOfEthHeader s.frame + s.ctx.conf.frameLength) :
    decodeProfinetFrameChecked limit env s.ctx s.frame (sizeOfEthHeader s.frame) len =
      some (decodeProfinetFrame env s.ctx s.frame len) := by
  have hroom (hmode : s.ctx.conf.securityMode ≠ .none) :=
    h.secureRoom ht hmode (hsecure hmode) hlen
  rw [decodeProfinetFrameChecked, decodeProfinetFrame]
  cases hmode : s.ctx.conf.securityMode with
  | none =>
    have hmin := h.profinetMin_le ht
    have hle := h.len_le
    rw [profinetMinFrameSize, if_pos hmode, minProfinetFrameSize] at hmin
    apply decodeRtFrameChecked_of_le
    omega
  | ao => exact decodeAoFrameChecked_of_le h.len_le (hroom (by rw [hmode]; decide))
  | ae => exact decodeAeFrameChecked_of_le h.len_le (hroom (by rw [hmode]; decide))

theorem receiveProfinetFrameChecked_of_le (h : RxRoom limit len s)
    (ht : s.ctx.frameType ∈ tcSecurity)
    (hsecure : s.ctx.conf.securityMode ≠ .none → SecureSetup s.ctx)
    (hstripped : s.ctx.conf.xdpEnabled = false → vlanTagMissing s.frame = true) :
    receiveProfinetFrameChecked limit env s len =
      some (s.after (receiveProfinetFrame env s.ctx s.frame len)) := by
  have hlength : sizeofVlanHeader ≤ s.ctx.conf.frameLength := by
    have hmin := h.profinetMin_le ht
    rw [profinetMinFrameSize] at hmin
    refine Nat.le_trans ?_ (Nat.le_of_add_right_le hmin)
    split <;> decide
  exact receiveVlanFrameChecked_of_le h hlength hstripped (fun d => d.frameId != s.ctx.frameId)
    (decodeProfinetFrameChecked_of_le h ht hsecure)

theorem genericL2RxFrameChecked_of_le (h : RxRoom limit len s) (ht : s.ctx.frameType = .genericL2)
    (hstripped : s.ctx.conf.xdpEnabled = false → vlanTagMissing s.frame = true) :
    genericL2RxFrameChecked limit env s len =
      some (s.after (genericL2RxFrame env s.ctx s.frame len)) := by
  have hmin := h.min_le
  rw [ht, minFrameSize] at hmin
  have hlength : sizeofVlanHeader ≤ s.ctx.conf.frameLength := by
    simp only [sizeofVlanEthernetHeader, sizeofVlanHeader] at hmin ⊢
    omega
  refine receiveVlanFrameChecked_of_le h hlength hstripped (fun _ => false) fun hlen => ?_
  have hle := h.len_le
  apply decodeGenericL2FrameChecked_of_le
  omega

theorem dcpBuildFrameFromRxChecked_of_le (hlow : 32 ≤ len) (h : len ≤ limit)
    (newFrame : List UInt8) (newFrameLen : Nat) :
    dcpBuildFrameFromRxChecked limit env ctx frame len newFrame newFrameLen =
      some (dcpBuildFrameFromRx env ctx frame len newFrame newFrameLen) := by
  rw [dcpBuildFrameFromRxChecked, dcpBuildFrameFromRx]
  split
  · rfl
  · next hroom =>
    simp only [sizeofVlanHeader] at hroom
    have hpayload := length_slice_le frame 12 (len - 12)
    have hdest := length_slice_le frame 0 6
    have hsource := ctx.source.length_eq
    have hwrites : ∀ w ∈ [(16, slice frame 12 (len - 12)), (0, slice frame 0 6),
        (6, ctx.source.bytes), (12, be16 ethP8021Q), (14, be16 ctx.conf.vlanTci),
        (16, be16 ethPProfinetRt)], w.1 + w.2.length ≤ newFrameLen := by
      simp only [List.forall_mem_cons, List.not_mem_nil, false_imp_iff, implies_true, and_true,
        length_be16]
      omega
    rw [bind_of_some (sub_of_le (by omega)), bind_of_some (load_of_le _ (by omega)),
      bind_of_some (load_of_le _ (by omega)), bind_of_some (storeAll_of_le _ hwrites)]
    exact storeMirrorTxTimestampEst_of_le _ _ (by simp only [sizeofVlanEthernetHeader]; omega)

theorem dcpRxFrameChecked_of_le (h : RxRoom limit len s) (ht : s.ctx.frameType = .dcp) :
    dcpRxFrameChecked limit env s len = some (s.after (dcpRxFrame env s.ctx s.frame len)) := by
  have hmin := h.min_le
  have hmax := h.le_max
  have hlimit := h.length_le
  rw [ht, minFrameSize, minProfinetFrameSize] at hmin
  simp only [sizeofVlanEthernetHeader, sizeofProfinetRtHeader] at hmin
  rw [dcpRxFrameChecked, dcpRxFrame, bind_of_some (sub_of_le (by omega))]
  split
  · rfl
  · next hlen =>
    rw [bind_of_some (decodePlainFrameChecked_of_le (by simp only [sizeofEthhdr]; omega)
      (by simp only [sizeofEthhdr, sizeofProfinetRtHeader]; omega))]
    dsimp only
    rw [show (s.accept (reportFrame "DcpRx" s.ctx (decodePlainFrame s.ctx s.frame
      (sizeofEthhdr + 2) (sizeofEthhdr + sizeofProfinetRtHeader)) false 0 0)).ctx.conf =
        s.ctx.conf from rfl]
    split
    · rfl
    · rw [bind_of_some (dcpBuildFrameFromRxChecked_of_le (by omega) (by omega) _ _),
        bind_of_some (load_of_le _ (by simp only [sizeofVlanHeader]; omega))]
      rfl

theorem lldpBuildFrameFromRxChecked_of_le (h : 30 ≤ limit) :
    lldpBuildFrameFromRxChecked limit env ctx frame =
      some (lldpBuildFrameFromRx env ctx frame) := by
  have hsource := ctx.source.length_eq
  rw [lldpBuildFrameFromRxChecked, bind_of_some (store_of_le _ (by omega))]
  exact storeMirrorTxTimestampEst_of_le _ _ (by simp only [sizeofEthhdr]; omega)

theorem lldpRxFrameChecked_of_le (h : RxRoom limit len s) (ht : s.ctx.frameType = .lldp) :
    lldpRxFrameChecked limit env s len = some (s.after (lldpRxFrame env s.ctx s.frame len)) := by
  have hmin := h.min_le
  have hlimit := h.length_le
  have hle := h.len_le
  rw [ht, minFrameSize] at hmin
  simp only [sizeofEthhdr, sizeofReferenceMetaData] at hmin
  rw [lldpRxFrameChecked, lldpRxFrame]
  split
  · rfl
  · rw [bind_of_some (decodePlainFrameChecked_of_le (by simp only [sizeofEthhdr]; omega)
      (by simp only [sizeofEthhdr, sizeofReferenceMetaData]; omega))]
    dsimp only
    rw [show (s.accept (reportFrame "LldpRx" s.ctx (decodePlainFrame s.ctx s.frame
      sizeofEthhdr (sizeofEthhdr + sizeofReferenceMetaData)) false 0 0)).ctx.conf =
        s.ctx.conf from rfl]
    split
    · rfl
    · rw [bind_of_some (lldpBuildFrameFromRxChecked_of_le (by omega)),
        bind_of_some (load_of_le _ (by omega))]
      rfl

theorem udpRxFrameChecked_of_le (h : RxRoom limit len s)
    (ht : s.ctx.frameType = .udpHigh ∨ s.ctx.frameType = .udpLow) :
    udpRxFrameChecked limit env s len = some (s.after (udpRxFrame env s.ctx s.frame len)) := by
  have hmin : 16 + s.ctx.conf.payloadPattern.bytes.length ≤ s.ctx.conf.frameLength := by
    have hmin := h.min_le
    rcases ht with ht | ht <;> rw [ht] at hmin <;> exact hmin
  have hlimit := h.length_le
  have hle := h.len_le
  rw [udpRxFrameChecked, udpRxFrame]
  dsimp only
  split
  · rfl
  · rw [bind_of_some (loadSequenceCounter_of_le _ _ (by omega)),
      bind_of_some (loadTxTimestamp_of_le _ (by omega)),
      bind_of_some (storeMirrorTxTimestampEst_of_le _ _ (by omega)),
      bind_of_some (loadPayload_of_le _ (by simp only [sizeofReferenceMetaData]; omega))]
    simp only [RxState.accept, reportFrame]
    split
    · rfl
    · rw [bind_of_some (load_of_le _ (by omega))]
      rfl

theorem receiveEthercatFrameChecked_of_le (h : RxRoom limit len s) :
    receiveEthercatFrameChecked limit env s len =
      some (s.after (receiveEthercatFrame env s.ctx s.frame len)) := by
  rw [receiveEthercatFrameChecked, receiveEthercatFrame]
  dsimp only
  split
  · rfl
  · next hlow =>
    have hle := h.len_le
    simp only [sizeofEthhdr, sizeofEthercatHeader] at hlow
    rw [bind_of_some (loadBe16_of_le _ (by omega))]
    split
    · rfl
    · rw [bind_of_some (load_of_le _ (by omega)), bind_of_some (load_of_le _ (by decide))]
      split
      · rfl
      · rw [bind_of_some (load_of_le _ (by omega))]
        rfl

/-- The receivers that take frames with and without a tag. -/
def ThreadContext.handlesTag (ctx : ThreadContext) : Prop :=
  ctx.frameType ∈ tcSecurity ∨ ctx.frameType = .genericL2 ∧ ctx.conf.protocolType = .genericL2

/-- With every access checked a receive function does what it does without. -/
theorem receiveFrameChecked_of_le (h : RxRoom limit len s)
    (hsecure : s.ctx.frameType ∈ tcSecurity → s.ctx.conf.securityMode ≠ .none →
      SecureSetup s.ctx)
    (hstripped : s.ctx.handlesTag → s.ctx.conf.xdpEnabled = false →
      vlanTagMissing s.frame = true) :
    receiveFrameChecked limit env s len = some (s.after (receiveFrame env s.ctx s.frame len)) := by
  have hprofinet (ht : s.ctx.frameType ∈ tcSecurity) : receiveProfinetFrameChecked limit env s len =
      some (s.after (receiveProfinetFrame env s.ctx s.frame len)) :=
    receiveProfinetFrameChecked_of_le h ht (hsecure ht) (hstripped (.inl ht))
  rw [receiveFrameChecked, receiveFrame]
  cases ht : s.ctx.frameType with
  | tsnHigh | tsnLow | rtc | rta => exact hprofinet (by rw [ht]; decide)
  | dcp => exact dcpRxFrameChecked_of_le h ht
  | lldp => exact lldpRxFrameChecked_of_le h ht
  | udpHigh => exact udpRxFrameChecked_of_le h (.inl ht)
  | udpLow => exact udpRxFrameChecked_of_le h (.inr ht)
  | genericL2 =>
    cases hp : s.ctx.conf.protocolType with
    | etherCat => exact receiveEthercatFrameChecked_of_le h
    | genericL2 => exact genericL2RxFrameChecked_of_le h ht (hstripped (.inr ⟨ht, hp⟩))

/-- The filter of a socket lets no frame pass that has a second tag. -/
theorem vlanTagMissing_of_accepts {app : AppConfig} {tci : UInt16}
    (ht : frameType ∈ tcSecurity ∨
      frameType = .genericL2 ∧ (app.classes frameType).protocolType = .genericL2)
    (htype : (app.classes .genericL2).etherType ≠ 0x8100)
    (h : accepts (socketFilter app frameType) (skb (frame.take len) tci) = true) :
    vlanTagMissing frame = true := by
  have hbytes (hlen : 14 ≤ (frame.take len).length) :
      be16At (frame.take len) 12 = be16At frame 12 := by
    rw [List.length_take] at hlen
    rw [be16At, take_slice _ (by omega), be16At]
  rw [vlanTagMissing, bne_iff_ne]
  rcases ht with ht | ⟨rfl, hp⟩
  · have hmem : frameType ∈ profinetClasses := by
      rcases mem_tcSecurity.mp ht with rfl | rfl | rfl | rfl <;> decide
    obtain ⟨hlen, hproto, -⟩ := (socketFilter_accepts app hmem _ _).mp h
    rw [← hbytes (by omega), hproto]
    decide
  · simp only [socketFilter, hp] at h
    obtain ⟨hlen, hproto, -⟩ := (genericL2Filter_accepts _ _ _ _).mp h
    intro heq
    rw [hbytes hlen, heq] at hproto
    exact htype hproto.symm

/-- A context at some later time: its buffers and its counter have changed since it was created. -/
def ThreadContext.Continues (ctx created : ThreadContext) : Prop :=
  ctx = { created with
    txFrameData := ctx.txFrameData
    rxFrameData := ctx.rxFrameData
    frameCopy := ctx.frameCopy
    mirrorBuffer := ctx.mirrorBuffer
    rxSequenceCounter := ctx.rxSequenceCounter }

variable {created : ThreadContext} {app : AppConfig}
  {securityInit : SecurityAlgorithm → List UInt8 → Aead.Cipher}

theorem secureSetup_of_sane (hs : configSanityCheck build app = true)
    (hcreate : threadsCreate securityInit app frameType source = some created)
    (hcipher : ∀ algorithm key, SealsWithin (securityInit algorithm key) ∧
      OpensWithin (securityInit algorithm key))
    (hctx : ctx.Continues created) (ht : frameType ∈ tcSecurity)
    (hmode : (app.classes frameType).securityMode ≠ .none) : SecureSetup ctx := by
  have hudp : frameType ≠ .udpHigh ∧ frameType ≠ .udpLow := by
    constructor <;> rintro rfl <;> revert ht <;> decide
  obtain ⟨-, hlength, htx, hrx⟩ := tcThreadsCreate_secure (threadsCreate_tc hudp hcreate)
  have hconf := (threadsCreate_created hcreate).conf_eq
  have hiv := configSanityCheck_ivLength hs (mem_tcSecurity.mp ht) hmode
  obtain ⟨hseals, hopens⟩ := hcipher (app.classes frameType).securityAlgorithm
    (app.classes frameType).securityKey.bytes
  rw [← htx, ← hrx] at hseals hopens
  rw [← hconf] at hlength hiv
  rw [ThreadContext.Continues] at hctx
  rw [hctx]
  exact ⟨hseals, hopens, hiv, hlength⟩

/-- Under every accepted configuration a receive function accesses, of the frame, what was received
or what a frame of the configured length takes, stays inside its other buffers, and computes no
size that wraps around. A frame it refuses leaves a line in the log and nothing else. -/
theorem receive_in_bounds (hs : configSanityCheck build app = true)
    (htype : (app.classes .genericL2).etherType ≠ 0x8100)
    (hcreate : threadsCreate securityInit app frameType source = some created)
    (hcipher : ∀ algorithm key, SealsWithin (securityInit algorithm key) ∧
      OpensWithin (securityInit algorithm key))
    (hctx : s.ctx.Continues created)
    (hpacket : frameType ∉ tcUdp → (app.classes frameType).xdpEnabled = false →
      ∃ tci, accepts (socketFilter app frameType) (skb (s.frame.take len) tci) = true) :
    receiveFrameChecked (max len (app.classes frameType).frameLength) env s len =
        some (s.after (receiveFrame env s.ctx s.frame len)) ∧
      ∀ s', receiveFrameChecked (max len (app.classes frameType).frameLength) env s len =
          some (s', some .einval) →
        s'.frame = s.frame ∧ s'.ctx = s.ctx ∧ s'.reports = s.reports := by
  obtain ⟨⟨hconf, hframeType, -, -⟩, -, -⟩ := threadsCreate_created hcreate
  replace hconf : s.ctx.conf = app.classes frameType := by rw [hctx]; exact hconf
  replace hframeType : s.ctx.frameType = frameType := by rw [hctx]; exact hframeType
  obtain ⟨hmax, hmin⟩ := configSanityCheck_frameLength hs frameType
  have hroom : RxRoom (max len (app.classes frameType).frameLength) len s := by
    refine ⟨Nat.le_max_left _ _, ?_, ?_, ?_⟩ <;> rw [hconf]
    · exact Nat.le_max_right _ _
    · exact hmax
    · rw [hframeType]
      exact hmin
  have hchecked : receiveFrameChecked (max len (app.classes frameType).frameLength) env s len =
      some (s.after (receiveFrame env s.ctx s.frame len)) := by
    apply receiveFrameChecked_of_le hroom
    · intro ht hmode
      rw [hframeType] at ht
      rw [hconf] at hmode
      exact secureSetup_of_sane hs hcreate hcipher hctx ht hmode
    · intro ht hx
      rw [ThreadContext.handlesTag, hframeType, hconf] at ht
      rw [hconf] at hx
      have hudp : frameType ∉ tcUdp := by
        rcases ht with ht | ⟨rfl, -⟩
        · rcases mem_tcSecurity.mp ht with rfl | rfl | rfl | rfl <;> decide
        · decide
      obtain ⟨tci, hpass⟩ := hpacket hudp hx
      exact vlanTagMissing_of_accepts ht htype hpass
  refine ⟨hchecked, fun s' hs' => ?_⟩
  rw [hchecked] at hs'
  cases hresult : receiveFrame env s.ctx s.frame len with
  | error message =>
    rw [hresult] at hs'
    cases hs'
    exact ⟨rfl, rfl, rfl⟩
  | ok acc =>
    rw [hresult] at hs'
    cases hs'

/-- RTC mirrored over AF_PACKET with authenticated encryption. -/
def sealedCopyConfig : AppConfig :=
  (configSetDefaults true).setClass .rtc fun conf =>
    { conf with
      enabled := true
      xdpEnabled := false
      securityMode := .ae
      securityKey := ⟨List.replicate 32 1, nul_not_mem_key⟩
      securityIvPrefix := ⟨List.replicate 6 1, nul_not_mem_ivPrefix⟩ }

/-- A frame of the right length for its class, after the tag has been taken out. -/
def sealedFrame : List UInt8 :=
  List.replicate 12 0 ++ be16 ethPProfinetRt ++ be16 0x8001 ++ List.replicate 108 0

theorem chachaInit_opensWithin (algorithm : SecurityAlgorithm) (key : List UInt8) :
    OpensWithin (chachaInit algorithm key) := by
  intro m ad tag iv
  exact List.length_zipWith .. ▸ Nat.min_le_left _ _

theorem sealedFrame_accepted : accepts (socketFilter sealedCopyConfig .rtc)
    (skb (sealedFrame.take 124) (sealedCopyConfig.classes .rtc).vlanTci) = true := by
  decide +kernel

/-- The frame is decrypted, reported, encrypted again and stored, inside 128 bytes. -/
theorem receive_in_bounds_sealed :
    ∃ ctx, threadsCreate chachaInit sealedCopyConfig .rtc defaultDestination = some ctx ∧
      ∃ s, receiveFrameChecked 128 quietEnv ⟨sealedFrame, ctx, [], []⟩ 124 = some (s, none) := by
  obtain ⟨ctx, -, hcreate, -⟩ := tcThreadsCreate_mirror chachaInit .rtc defaultDestination
    (show (sealedCopyConfig.classes .rtc).xdpEnabled = false from rfl) rfl (by decide)
  obtain ⟨⟨hconf, htype, -, -⟩, -, -⟩ := tcThreadsCreate_created hcreate
  have hproto : frameProto sealedFrame = ethPProfinetRt := by decide +kernel
  have hlen : 124 = expectedFrameLength ctx.conf sealedFrame := by
    rw [hconf]
    decide +kernel
  have hcheck : checkVlanFrame ctx.conf (ctx.trafficClass ++ "Rx")
      ": Not a Profinet frame received!\n" ethPProfinetRt sealedFrame 124 = none := by
    rw [checkVlanFrame, if_neg (by decide), if_neg (not_not_intro hproto),
      if_neg (not_not_intro hlen)]
  obtain ⟨acc, hacc, -⟩ := receiveProfinetFrame_ok quietEnv hcheck
  have hreceive : receiveFrame quietEnv ctx sealedFrame 124 = .ok acc := by
    rw [receiveFrame, htype]
    exact hacc
  have hmax : max 124 (sealedCopyConfig.classes .rtc).frameLength = 128 := by decide +kernel
  have hthreads : threadsCreate chachaInit sealedCopyConfig .rtc defaultDestination = some ctx :=
    hcreate
  have hbounds : receiveFrameChecked 128 quietEnv ⟨sealedFrame, ctx, [], []⟩ 124 =
      some (RxState.after ⟨sealedFrame, ctx, [], []⟩
        (receiveFrame quietEnv ctx sealedFrame 124)) := by
    rw [← hmax]
    exact (receive_in_bounds
      (show configSanityCheck fullBuild sealedCopyConfig = true by decide +kernel)
      (by decide +kernel) hthreads
      (fun algorithm key => ⟨chachaInit_sealsWithin algorithm key,
        chachaInit_opensWithin algorithm key⟩)
      (show (RxState.mk sealedFrame ctx [] []).ctx.Continues ctx from rfl)
      (fun _ _ => ⟨_, sealedFrame_accepted⟩)).1
  rw [hreceive] at hbounds
  exact ⟨ctx, hthreads, _, hbounds⟩

end RtcTestbench
