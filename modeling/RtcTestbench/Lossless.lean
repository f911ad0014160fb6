import RtcTestbench.Generator

namespace RtcTestbench
open Buffer Machine
set_option autoImplicit true

/-- The frame reaches the receiver once, with or without its tag, in a buffer of any length. -/
def Delivers (frameType : StatFrameType) (f : SentFrame) (r : Reception) : Prop :=
  ∃ stripped tail, r.frameData = deliver frameType stripped f.bytes ++ tail ∧
    r.len = (deliver frameType stripped f.bytes).length

def peerConfig (conf : TrafficClassConfig) (rxMirrorEnabled xdpEnabled : Bool) :
    TrafficClassConfig :=
  { conf with rxMirrorEnabled, xdpEnabled }

/-- The initial vector `prepare_frame_for_tx` used for a frame. -/
def SentFrame.iv (conf : TrafficClassConfig) (f : SentFrame) : List UInt8 :=
  prepareIv conf.securityIvPrefix.bytes f.sequenceCounter

variable {conf : TrafficClassConfig} {frameType : StatFrameType} {ctx rx : ThreadContext}
  {frame buf : List UInt8} {len : Nat} {stripped rxMirrorEnabled xdpEnabled : Bool}
  {n s c : UInt64} {cs : List UInt64}

theorem decodeProfinetFrame_counter (env : RxEnv) (rx : ThreadContext) (buf : List UInt8)
    (len : Nat) :
    (decodeProfinetFrame env rx buf len).sequenceCounter =
      metaDataToSequenceCounter buf
        (sizeOfEthHeader buf + if rx.conf.securityMode = .none then 2 else 10)
        rx.conf.numFramesPerCycle := by
  cases h : rx.conf.securityMode <;> simp only [decodeProfinetFrame, h] <;> rfl

theorem getMetaDataOffset_profinet (ht : frameType ∈ [.tsnHigh, .tsnLow, .rtc, .rta])
    (mode : SecurityMode) :
    getMetaDataOffset frameType mode = 18 + if mode = .none then 2 else 10 := by
  cases frameType <;> cases mode <;> simp_all [getMetaDataOffset]

theorem OnWire.profinet (hf : OnWire conf frameType frame s) (hc : CountedClass conf frameType)
    (ht : frameType ∈ [.tsnHigh, .tsnLow, .rtc, .rta]) (hd : Delivered frame stripped buf len)
    (hrx : rx.ForClass (peerConfig conf rxMirrorEnabled xdpEnabled) frameType) (env : RxEnv) :
    (∃ acc, receiveProfinetFrame env rx buf len = .ok acc ∧
      acc.report.sequenceCounter = wireSequenceCounter conf.numFramesPerCycle s) ∧
    (conf.securityMode ≠ .none → secureIv rx buf = prepareIv conf.securityIvPrefix.bytes
      (wireSequenceCounter conf.numFramesPerCycle s)) := by
  have hether : wireEtherType conf frameType = some ethPProfinetRt := by
    cases frameType <;> first | rfl | simp at ht
  obtain ⟨htag, hproto⟩ := hf.header _ hether
  have hfits := hc.metaData_fits
  have hoff := getMetaDataOffset_profinet ht conf.securityMode
  have hlen := hf.length_eq
  have hmode : rx.conf.securityMode = conf.securityMode := by rw [hrx.conf_eq]; rfl
  have hframes : rx.conf.numFramesPerCycle = conf.numFramesPerCycle := by rw [hrx.conf_eq]; rfl
  obtain ⟨-, hhdr, -⟩ := hd.header (by omega) htag hproto (by decide)
  have hcount : metaDataToSequenceCounter buf
      (sizeOfEthHeader buf + if rx.conf.securityMode = .none then 2 else 10)
      rx.conf.numFramesPerCycle = wireSequenceCounter conf.numFramesPerCycle s := by
    rw [hmode, hframes, Delivered.offset hhdr, ← hoff, (hd.decode (by omega) (by omega)).1,
      hf.decode]
  constructor
  · obtain ⟨acc, hok, hext⟩ := receiveProfinetFrame_ok env
      (hd.check (show frame.length = rx.conf.frameLength by rw [hlen, hrx.conf_eq]; rfl)
        (by omega) htag hproto (by decide) _ _)
    refine ⟨acc, hok, ?_⟩
    rw [hext.report_eq, ← hcount]
    exact decodeProfinetFrame_counter env rx buf len
  · intro hsec
    rw [if_neg (by rw [hmode]; exact hsec)] at hcount
    rw [secureIv, secureSequenceCounter, hcount, hrx.conf_eq]
    rfl

theorem OnWire.genericL2 (hf : OnWire conf .genericL2 frame s) (hc : CountedClass conf .genericL2)
    (hne : conf.etherType.toNat % 2 ^ 16 ≠ 0x8100) (hd : Delivered frame stripped buf len)
    (hrx : rx.ForClass (peerConfig conf rxMirrorEnabled xdpEnabled) .genericL2) (env : RxEnv) :
    ∃ acc, genericL2RxFrame env rx buf len = .ok acc ∧
      acc.report.sequenceCounter = wireSequenceCounter conf.numFramesPerCycle s := by
  obtain ⟨htag, hproto⟩ := hf.header _ rfl
  have hfits : 18 + 16 ≤ conf.frameLength := hc.metaData_fits
  have hlen := hf.length_eq
  obtain ⟨-, hhdr, -⟩ := hd.header (by omega) htag hproto (etherType_ne hne)
  have hconf : rx.conf.etherType = conf.etherType ∧ rx.conf.frameLength = conf.frameLength ∧
      rx.conf.numFramesPerCycle = conf.numFramesPerCycle := by
    rw [hrx.conf_eq]
    exact ⟨rfl, rfl, rfl⟩
  obtain ⟨hether, hframe, hframes⟩ := hconf
  have hcheck := hd.check (hlen.trans hframe.symm) (by omega) htag hproto (etherType_ne hne)
    "GenericL2Rx" ": Frame with wrong Ether Type received!\n"
  rw [← hether] at hcheck
  obtain ⟨acc, hok, hext⟩ := genericL2RxFrame_ok env hcheck
  refine ⟨acc, hok, ?_⟩
  rw [hext.report_eq]
  change metaDataToSequenceCounter buf (sizeOfEthHeader buf) rx.conf.numFramesPerCycle = _
  rw [hframes, hhdr, (hd.decode (Nat.le_refl 18) (by omega)).1]
  exact hf.decode

theorem OnWire.dcp (hf : OnWire conf .dcp frame s) (hc : CountedClass conf .dcp)
    (hd : Delivered frame true buf len)
    (hrx : rx.ForClass (peerConfig conf rxMirrorEnabled xdpEnabled) .dcp) (env : RxEnv) :
    ∃ acc, dcpRxFrame env rx buf len = .ok acc ∧
      acc.report.sequenceCounter = wireSequenceCounter conf.numFramesPerCycle s := by
  have hmode : conf.securityMode = .none := by
    by_contra hm
    have ht := hc.secured hm
    simp at ht
  have hoff : getMetaDataOffset .dcp conf.securityMode = 20 := by rw [hmode]; rfl
  have hfits := hc.metaData_fits
  have hdecode := hf.decode
  have hlen := hf.length_eq
  rw [hoff] at hfits hdecode
  have hlen' : len = rx.conf.frameLength - 4 := by
    rw [hd.len_eq, hlen, hrx.conf_eq]
    rfl
  obtain ⟨acc, hok, hext⟩ := dcpRxFrame_ok env hlen'
  refine ⟨acc, hok, ?_⟩
  rw [hext.report_eq, ← hdecode, ← (hd.decode (by decide) (by omega)).1]
  change metaDataToSequenceCounter buf 16 rx.conf.numFramesPerCycle = _
  rw [hrx.conf_eq]
  rfl

theorem OnWire.lldp (hf : OnWire conf .lldp frame s) (hc : CountedClass conf .lldp)
    (hrx : rx.ForClass (peerConfig conf rxMirrorEnabled xdpEnabled) .lldp) (env : RxEnv)
    (tail : List UInt8) :
    ∃ acc, lldpRxFrame env rx (frame ++ tail) frame.length = .ok acc ∧
      acc.report.sequenceCounter = wireSequenceCounter conf.numFramesPerCycle s := by
  have hfits : 14 + 16 ≤ conf.frameLength := hc.metaData_fits
  have hlen := hf.length_eq
  have hlen' : frame.length = rx.conf.frameLength := by
    rw [hlen, hrx.conf_eq]
    rfl
  obtain ⟨acc, hok, hext⟩ := @lldpRxFrame_ok env rx (frame ++ tail) frame.length hlen'
  refine ⟨acc, hok, ?_⟩
  rw [hext.report_eq]
  change metaDataToSequenceCounter (frame ++ tail) 14 rx.conf.numFramesPerCycle = _
  rw [metaDataToSequenceCounter_congr (slice_append_left frame tail (by omega)), hrx.conf_eq]
  exact hf.decode

variable {f : SentFrame} {r : Reception}

theorem OnWire.accepted (hf : OnWire conf frameType f.bytes f.sequenceCounter)
    (hc : CountedClass conf frameType)
    (hl2 : frameType = .genericL2 → conf.etherType.toNat % 2 ^ 16 ≠ 0x8100)
    (hd : Delivers frameType f r) :
    AcceptedAs (peerConfig conf rxMirrorEnabled xdpEnabled) frameType r
      (wireSequenceCounter conf.numFramesPerCycle f.sequenceCounter) := by
  intro rx hrx
  obtain ⟨stripped, tail, hdata, hlen⟩ := hd
  have hlength := hf.length_eq
  have hbig := hc.metaData_fits
  have hshort {etherType : UInt16} (h : wireEtherType conf frameType = some etherType) :
      18 ≤ f.bytes.length := by
    have := metaData_behind_header h conf.securityMode
    omega
  rw [receiveFrame, hrx.frameType_eq, hdata, hlen]
  have hprofinet (ht : frameType ∈ [.tsnHigh, .tsnLow, .rtc, .rta])
      (hw : wireEtherType conf frameType = some ethPProfinetRt) :=
    (hf.profinet hc ht (delivered_either (hshort hw) stripped tail) hrx r.env).1
  cases frameType with
  | tsnHigh => exact hprofinet (by simp) rfl
  | tsnLow => exact hprofinet (by simp) rfl
  | rtc => exact hprofinet (by simp) rfl
  | rta => exact hprofinet (by simp) rfl
  | dcp => exact hf.dcp hc (delivered_stripped (hshort rfl) tail) hrx r.env
  | lldp => exact hf.lldp hc hrx r.env tail
  | udpHigh => exact absurd rfl hc.not_udp.1
  | udpLow => exact absurd rfl hc.not_udp.2
  | genericL2 =>
    rw [show rx.conf.protocolType = .genericL2 by rw [hrx.conf_eq]; exact hc.not_ethercat rfl]
    exact hf.genericL2 hc (hl2 rfl) (delivered_either (hshort rfl) stripped tail) hrx r.env

theorem OnWire.secureIv_eq (hf : OnWire conf frameType f.bytes f.sequenceCounter)
    (hc : CountedClass conf frameType) (hd : Delivers frameType f r)
    (hrx : rx.ForClass (peerConfig conf rxMirrorEnabled xdpEnabled) frameType)
    (hmode : conf.securityMode ≠ .none) :
    secureIv rx r.frameData = prepareIv conf.securityIvPrefix.bytes
      (wireSequenceCounter conf.numFramesPerCycle f.sequenceCounter) := by
  obtain ⟨stripped, tail, hdata, -⟩ := hd
  have ht := hc.secured hmode
  have hlength := hf.length_eq
  have hbig := (hc.secure_layout hmode).2
  rw [hdata, deliver_secure ht]
  exact (hf.profinet hc ht (delivered_either (by omega) stripped tail) hrx r.env).2 hmode

/-- Nothing is flagged exactly if the counters come in a row, from the expected one on. -/
theorem sequenceFlags_false_iff (e : UInt64) (cs : List UInt64) :
    (∀ flag ∈ sequenceFlags e cs, flag = false) ↔ cs = consecutive e cs.length := by
  induction cs generalizing e with
  | nil => exact ⟨fun _ => rfl, fun _ => nofun⟩
  | cons c cs ih =>
    rw [sequenceFlags, List.forall_mem_cons, bne_eq_false_iff_eq, List.length_cons, consecutive,
      List.cons.injEq]
    refine and_congr_right fun hc => ?_
    subst hc
    rw [nextSequenceCounter, if_neg (not_not_intro rfl), ih]

theorem length_consecutive (x : UInt64) (N : Nat) : (consecutive x N).length = N := by
  induction N generalizing x with
  | zero => rfl
  | succ N ih => rw [consecutive, List.length_cons, ih]

theorem mem_consecutive : c ∈ consecutive x N ↔ ∃ g < N, c = x + UInt64.ofNat g := by
  induction N generalizing x with
  | zero => simp [consecutive]
  | succ N ih =>
    rw [consecutive, List.mem_cons, ih]
    constructor
    · rintro (rfl | ⟨g, hg, rfl⟩)
      · exact ⟨0, by omega, (UInt64.add_zero _).symm⟩
      · exact ⟨g + 1, by omega, add_one_add_ofNat x g⟩
    · rintro ⟨g, hg, rfl⟩
      cases g with
      | zero => exact .inl (UInt64.add_zero _)
      | succ g => exact .inr ⟨g, by omega, (add_one_add_ofNat x g).symm⟩

/-- When the two 32 bit counters can carry all counters of `K` cycles. -/
theorem wireSequenceCounter_cycles (hn : 0 < n.toNat) (K : Nat) :
    (∀ g < K * n.toNat, wireSequenceCounter n (UInt64.ofNat g) = UInt64.ofNat g) ↔
      K = 0 ∨ n.toNat ≤ 2 ^ 32 ∧ (K ≤ 2 ^ 32 ∨ n.toNat = 2 ^ 32) := by
  simp only [wireSequenceCounter_eq_iff hn, UInt64.toNat_ofNat']
  constructor
  · intro h
    by_contra hcond
    have hn64 := n.toNat_lt
    by_cases hn32 : n.toNat ≤ 2 ^ 32
    · -- the cycle counter overflows in the first frame of cycle 2 ^ 32
      have hK : 2 ^ 32 < K := by omega
      obtain ⟨hdiv, -⟩ := h (2 ^ 32 * n.toNat) (Nat.mul_lt_mul_of_pos_right hK hn)
      rw [Nat.mod_eq_of_lt (by omega), Nat.mul_div_cancel _ hn] at hdiv
      exact Nat.lt_irrefl _ hdiv
    · -- the frame counter overflows in the first cycle
      have hKn : n.toNat ≤ K * n.toNat := Nat.le_mul_of_pos_left _ (by omega)
      obtain ⟨-, hmod⟩ := h (2 ^ 32) (by omega)
      rw [show 2 ^ 32 % 2 ^ 64 = 2 ^ 32 by decide, Nat.mod_eq_of_lt (by omega)] at hmod
      exact Nat.lt_irrefl _ hmod
  · rintro (rfl | ⟨hn32, hK⟩) g hg
    · omega
    · have hlt : g % 2 ^ 64 < n.toNat * 2 ^ 32 := by
        rcases hK with hK | hK
        · have := Nat.mul_le_mul_right n.toNat hK
          have := Nat.mod_le g (2 ^ 64)
          omega
        · rw [hK]
          exact Nat.mod_lt _ (by decide)
      exact ⟨Nat.div_lt_of_lt_mul hlt, Nat.lt_of_lt_of_le (Nat.mod_lt _ hn) hn32⟩

theorem rxFlags_ethercat (hrx : rx.ForClass conf .genericL2)
    (hp : conf.protocolType = .etherCat) (rs : List Reception) :
    ∀ flag ∈ rxFlags rx rs, flag = false := by
  induction rs generalizing rx with
  | nil => exact nofun
  | cons r rs ih =>
    cases h : receiveFrame r.env rx r.frameData r.len with
    | error message =>
      rw [rxFlags, (rxSystem_error h rs).2]
      exact ih hrx
    | ok acc =>
      rw [rxFlags, (rxSystem_ok h rs).2, List.map_cons, List.forall_mem_cons]
      refine ⟨?_, ih ((receiveFrame_checked h).forClass hrx)⟩
      simp only [receiveFrame, hrx.frameType_eq, hrx.conf_eq, hp, receiveEthercatFrame] at h
      split at h
      · cases h
      · split at h
        · cases h
        · split at h
          · cases h
          · cases h
            rfl

variable {build : BuildConfig} {app : AppConfig} {tx sender : ThreadContext}
  {securityInit : SecurityAlgorithm → List UInt8 → Aead.Cipher} {source : MacAddress}
  {umem : List UInt8} {sent : List SentFrame} {rs : List Reception}

theorem rxFlags_delivered (hc : CountedClass conf frameType)
    (hl2 : frameType = .genericL2 → conf.etherType.toNat % 2 ^ 16 ≠ 0x8100)
    (hwire : ∀ f ∈ sent, OnWire conf frameType f.bytes f.sequenceCounter)
    (hdel : List.Forall₂ (Delivers frameType) sent rs)
    (hrx : rx.ForClass (peerConfig conf rxMirrorEnabled xdpEnabled) frameType) :
    rxFlags rx rs = sequenceFlags rx.rxSequenceCounter
      (sent.map fun f => wireSequenceCounter conf.numFramesPerCycle f.sequenceCounter) := by
  have haccepted : List.Forall₂
      (AcceptedAs (peerConfig conf rxMirrorEnabled xdpEnabled) frameType) rs
      (sent.map fun f => wireSequenceCounter conf.numFramesPerCycle f.sequenceCounter) := by
    rw [List.forall₂_map_right_iff]
    refine List.Forall₂.flip ?_
    exact ((List.forall₂_and_left _ _).mpr ⟨hwire, hdel⟩).imp
      fun f r h => h.1.accepted hc hl2 h.2
  rw [(rxSystem_sequence rx rs).2, rxCounters_of_accepted hrx haccepted]

theorem rxFlags_lossless (hc : CountedClass conf frameType)
    (hl2 : frameType = .genericL2 → conf.etherType.toNat % 2 ^ 16 ≠ 0x8100)
    (hn : 0 < conf.numFramesPerCycle.toNat)
    (hwire : ∀ f ∈ sent, OnWire conf frameType f.bytes f.sequenceCounter)
    (hcounters : sent.map SentFrame.sequenceCounter =
      consecutive 0 (K * conf.numFramesPerCycle.toNat))
    (hdel : List.Forall₂ (Delivers frameType) sent rs)
    (hrx : rx.ForClass (peerConfig conf rxMirrorEnabled xdpEnabled) frameType)
    (h0 : rx.rxSequenceCounter = 0) :
    ((∀ flag ∈ rxFlags rx rs, flag = false) ↔
      K = 0 ∨ conf.numFramesPerCycle.toNat ≤ 2 ^ 32 ∧
        (K ≤ 2 ^ 32 ∨ conf.numFramesPerCycle.toNat = 2 ^ 32)) ∧
    ((∀ flag ∈ rxFlags rx rs, flag = false) →
      ∀ f ∈ sent, wireSequenceCounter conf.numFramesPerCycle f.sequenceCounter =
        f.sequenceCounter) := by
  have hmap : (sent.map fun f => wireSequenceCounter conf.numFramesPerCycle f.sequenceCounter) =
      (consecutive 0 (K * conf.numFramesPerCycle.toNat)).map
        (wireSequenceCounter conf.numFramesPerCycle) := by
    rw [← hcounters, List.map_map]
    rfl
  have hflags : (∀ flag ∈ rxFlags rx rs, flag = false) ↔
      ∀ c ∈ consecutive 0 (K * conf.numFramesPerCycle.toNat),
        wireSequenceCounter conf.numFramesPerCycle c = c := by
    rw [rxFlags_delivered hc hl2 hwire hdel hrx, h0, sequenceFlags_false_iff, hmap,
      List.length_map, length_consecutive]
    nth_rewrite 2 [← List.map_id (consecutive 0 (K * conf.numFramesPerCycle.toNat))]
    exact List.map_inj_left
  constructor
  · rw [hflags, ← wireSequenceCounter_cycles hn]
    constructor
    · intro h g hg
      have := h (0 + UInt64.ofNat g) (mem_consecutive.mpr ⟨g, hg, rfl⟩)
      rwa [UInt64.zero_add] at this
    · intro h c hcm
      obtain ⟨g, hg, rfl⟩ := mem_consecutive.mp hcm
      rw [UInt64.zero_add]
      exact h g hg
  · intro h f hf
    refine hflags.mp h _ ?_
    rw [← hcounters]
    exact List.mem_map_of_mem hf

theorem countedClass_of_sane (hs : configSanityCheck build app = true)
    (htc : frameType ≠ .udpHigh ∧ frameType ≠ .udpLow)
    (hsec : (app.classes frameType).securityMode ≠ .none →
      frameType ∈ [.tsnHigh, .tsnLow, .rtc, .rta])
    (hcat : ¬ (frameType = .genericL2 ∧ (app.classes frameType).protocolType = .etherCat)) :
    CountedClass (app.classes frameType) frameType := by
  obtain ⟨hmax, hfit⟩ := configSanityCheck_frameLength hs frameType
  refine ⟨htc, hsec, fun h => ?_, by omega, hmax⟩
  cases hp : (app.classes frameType).protocolType with
  | genericL2 => rfl
  | etherCat => exact absurd ⟨h, hp⟩ hcat

theorem threadsCreate_tc (htc : frameType ≠ .udpHigh ∧ frameType ≠ .udpLow)
    (h : threadsCreate securityInit app frameType source = some tx) :
    tcThreadsCreate securityInit (app.classes frameType) frameType source = some tx := by
  have ha := threadsCreate_active h
  rw [threadsCreate, if_pos ha] at h
  · exact h
  · exact htc.1
  · exact htc.2

theorem initializedLength_le {ctx : ThreadContext} (hs : configSanityCheck build app = true)
    (ha : configIsTcActive app ctx.frameType = true)
    (hconf : ctx.conf = app.classes ctx.frameType) :
    initializedLength ctx ≤ ctx.conf.frameLength := by
  have hfit := (configSanityCheck_frameLength hs ctx.frameType).2
  rw [← hconf] at hfit
  cases ht : ctx.frameType with
  | tsnHigh | tsnLow | rtc | rta =>
    simp only [initializedLength, ht]
    simp only [ht, minFrameSize, profinetMinFrameSize] at hfit
    split
    · next hmode =>
      simp only [hmode, if_true, minProfinetFrameSize] at hfit
      exact hfit
    · next hmode =>
      rw [if_neg hmode, minSecureProfinetFrameSize] at hfit
      omega
  | dcp | lldp | udpHigh | udpLow =>
    simp only [initializedLength, ht]
    simp only [ht, minFrameSize, minProfinetFrameSize] at hfit
    exact hfit
  | genericL2 =>
    simp only [initializedLength, ht]
    simp only [ht, minFrameSize] at hfit
    cases hp : ctx.conf.protocolType with
    | genericL2 => exact hfit
    | etherCat =>
      have hcat := configSanityCheck_all hs
        ⟨configIsTcActive app .genericL2 &&
          decide ((app.classes .genericL2).protocolType = .etherCat) &&
          decide ((app.classes .genericL2).frameLength < sizeofEthhdr + sizeofEthercatHeader + 20),
          ["EtherCAT needs a minimum frame length of " ++
            toString (sizeofEthhdr + sizeofEthercatHeader + 20) ++ "!"]⟩ (by simp [sanityChecks])
      rw [ht] at ha hconf
      rw [← hconf, ha, hp] at hcat
      simp only [decide_true, Bool.true_and, decide_eq_false_iff_not, Nat.not_lt] at hcat
      exact hcat

/-- The threads of a sane configuration get to their loop if the frames have the room they need. -/
theorem tcTxThreadInit_of_sane (hs : configSanityCheck build app = true)
    (hroom : txMetadataRoom build (app.classes frameType) +
      (app.classes frameType).frameLength ≤ maxFrameSize)
    (htx : threadsCreate securityInit app frameType source = some tx) :
    (∃ sender, tcTxThreadInit build tx = some sender) ↔
      (app.classes frameType).xdpEnabled = true ∨
        (app.classes frameType).numFramesPerCycle.toNat ≤ 2 ^ 19 := by
  obtain ⟨⟨hconf, htype, -, -⟩, -, -⟩ := threadsCreate_created htx
  have ha := threadsCreate_active htx
  rw [tcTxThreadInit_isSome, hconf, and_iff_right_iff_imp]
  intro _
  subst htype
  have hlen := initializedLength_le hs ha hconf
  rw [hconf] at hlen
  omega

theorem sends_congr (hconf : tx.conf = sender.conf) (htype : tx.frameType = sender.frameType)
    (p : TxPass) : p.sends tx = p.sends sender := by
  rw [TxPass.sends, TxPass.sends, tcWaitForTxCycle, tcWaitForTxCycle, hconf, htype]

/-- Passes that send come with few frames. -/
theorem numFramesPerCycle_le_of_sends {passes : List TxPass} (hpasses : ∀ p ∈ passes, p.HasRoom tx)
    (hslots : tx.conf.xdpEnabled = true ∨ tx.conf.numFramesPerCycle.toNat ≤ 2 ^ 19) :
    passes.countP (·.sends tx) = 0 ∨ tx.conf.numFramesPerCycle.toNat ≤ 2 ^ 19 := by
  by_cases hK : passes.countP (·.sends tx) = 0
  · exact .inl hK
  · obtain ⟨p, hp, hsends⟩ := List.countP_pos_iff.mp (Nat.pos_of_ne_zero hK)
    rcases hslots with hx | hn
    · have hle := Nat.le_trans (hpasses p hp hsends hx) p.freeDescriptors_le
      rw [xskRingProdDefaultNumDescs] at hle
      exact .inr (by omega)
    · exact .inr hn

/-- With every frame delivered once and in order, nothing is flagged and the initial vectors agree
exactly as long as all frames have a place in their memory and the cycle counter on the wire does
not overflow. -/
theorem lossless_run (hs : configSanityCheck build app = true)
    (htc : frameType ≠ .udpHigh ∧ frameType ≠ .udpLow)
    (hsec : (app.classes frameType).securityMode ≠ .none →
      frameType ∈ [.tsnHigh, .tsnLow, .rtc, .rta])
    (hl2 : frameType = .genericL2 → (app.classes frameType).etherType.toNat % 2 ^ 16 ≠ 0x8100)
    (hroom : txMetadataRoom build (app.classes frameType) +
      (app.classes frameType).frameLength ≤ maxFrameSize)
    (htx : threadsCreate securityInit app frameType source = some tx)
    (humem : umem.length = xskRingConsDefaultNumDescs * maxFrameSize)
    (hrx : rx.ForClass (peerConfig (app.classes frameType) rxMirrorEnabled xdpEnabled) frameType)
    (h0 : rx.rxSequenceCounter = 0) (monitor : Option MacAddress) (passes : List TxPass)
    (hpasses : ∀ p ∈ passes, p.HasRoom tx) (rs : List Reception)
    (hdel : ∀ sender, tcTxThreadInit build tx = some sender →
      List.Forall₂ (Delivers frameType) ((generator build monitor sender).run
        (Generator.start build sender umem) passes).2.flatten rs) :
    let conf := app.classes frameType
    let K := passes.countP (·.sends tx)
    (∃ sender, tcTxThreadInit build tx = some sender ∧
      let sent := ((generator build monitor sender).run (Generator.start build sender umem)
        passes).2.flatten
      (∀ flag ∈ rxFlags rx rs, flag = false) ∧
        (conf.securityMode ≠ .none →
          List.Forall₂ (fun f r => secureIv rx r.frameData = f.iv conf) sent rs)) ↔
    (conf.xdpEnabled = true ∨ conf.numFramesPerCycle.toNat ≤ 2 ^ 19) ∧
      (frameType = .genericL2 ∧ conf.protocolType = .etherCat ∨ K ≤ 2 ^ 32) := by
  intro conf K
  have hstarts := tcTxThreadInit_of_sane hs hroom htx
  by_cases hslots : conf.xdpEnabled = true ∨ conf.numFramesPerCycle.toNat ≤ 2 ^ 19
  swap
  · refine iff_of_false ?_ fun h => hslots h.1
    rintro ⟨sender, hinit, -⟩
    exact hslots (hstarts.mp ⟨sender, hinit⟩)
  obtain ⟨sender, hinit⟩ := hstarts.mpr hslots
  have hdel := hdel sender hinit
  rw [and_iff_right hslots, hinit]
  simp only [Option.some.injEq, exists_eq_left']
  by_cases hcat : frameType = .genericL2 ∧ conf.protocolType = .etherCat
  · obtain ⟨rfl, hp⟩ := hcat
    refine iff_of_true ⟨rxFlags_ethercat hrx hp rs, fun hm => ?_⟩ (.inl ⟨rfl, hp⟩)
    have hmem := hsec hm
    simp at hmem
  · rw [or_iff_right hcat]
    have hc := countedClass_of_sane hs htc hsec hcat
    have hcreate := threadsCreate_tc htc htx
    have hclass := (tcThreadsCreate_created hcreate).toForClass
    obtain ⟨hsender, -⟩ := tcTxThreadInit_sender hclass hinit
    have hready := Generator.start_ready hcreate hinit hc hroom humem
    have hsame := sends_congr (hclass.conf_eq.trans hsender.conf_eq.symm)
      (hclass.frameType_eq.trans hsender.frameType_eq.symm)
    obtain ⟨hwire, hcounters⟩ := generator_run hsender hc hready (fun p hp hsends hx => by
      have hroom := hpasses p hp
      rw [TxPass.HasRoom, hsame, hclass.conf_eq, ← hsender.conf_eq] at hroom
      exact hroom hsends hx) monitor
    simp only [← hsame] at hcounters
    have hn := configIsTcActive_pos (threadsCreate_active htx)
    obtain ⟨hflags, hwhole⟩ := rxFlags_lossless hc hl2 hn hwire hcounters hdel hrx h0
    have hconf : tx.conf = conf := hclass.conf_eq
    have hbound : K = 0 ∨ (app.classes frameType).numFramesPerCycle.toNat ≤ 2 ^ 19 := by
      have hle := numFramesPerCycle_le_of_sends hpasses (hconf ▸ hslots)
      rwa [hconf] at hle
    have hcond : K ≤ 2 ^ 32 ↔ ∀ flag ∈ rxFlags rx rs, flag = false := by
      rw [hflags]
      omega
    rw [hcond]
    refine ⟨And.left, fun h => ⟨h, fun hm => ?_⟩⟩
    have hboth := (List.forall₂_and_left _ _).mpr
      ⟨fun f hf => And.intro (hwire f hf) (hwhole h f hf), hdel⟩
    refine hboth.imp fun f r hfr => ?_
    rw [hfr.1.1.secureIv_eq hc hfr.2 hrx hm, hfr.1.2]
    rfl

def readyPass : TxPass := ⟨true, 1700000000000000000, 4096, Nat.le_refl _⟩

def deliverAll (frameType : StatFrameType) (sent : List SentFrame) : List Reception :=
  sent.map fun f => ⟨quietEnv, deliver frameType true f.bytes,
    (deliver frameType true f.bytes).length⟩

theorem deliverAll_delivers (frameType : StatFrameType) (sent : List SentFrame) :
    List.Forall₂ (Delivers frameType) sent (deliverAll frameType sent) := by
  rw [deliverAll, List.forall₂_map_right_iff, List.forall₂_same]
  exact fun f _ => ⟨true, [], (List.append_nil _).symm, rfl⟩

theorem threadsCreate_of_tc (htc : frameType ≠ .udpHigh ∧ frameType ≠ .udpLow)
    (ha : configIsTcActive app frameType = true)
    (htx : tcThreadsCreate securityInit (app.classes frameType) frameType source = some tx) :
    threadsCreate securityInit app frameType source = some tx := by
  rw [threadsCreate, if_pos ha, htx]
  · exact htc.1
  · exact htc.2

/-- The threads of an active class on AF_XDP, if the initialisation stays within a chunk. -/
theorem xdp_threads (build : BuildConfig) (app : AppConfig)
    (securityInit : SecurityAlgorithm → List UInt8 → Aead.Cipher) (source : MacAddress)
    (htc : frameType ≠ .udpHigh ∧ frameType ≠ .udpLow) (ha : configIsTcActive app frameType = true)
    (hx : (app.classes frameType).xdpEnabled = true)
    (hfit : ∀ ctx : ThreadContext, ctx.conf = app.classes frameType → ctx.frameType = frameType →
      txMetadataRoom build (app.classes frameType) + initializedLength ctx ≤ maxFrameSize) :
    ∃ tx sender, threadsCreate securityInit app frameType source = some tx ∧
      tcTxThreadInit build tx = some sender ∧ tx.Created (app.classes frameType) frameType ∧
      sender.ForClass (app.classes frameType) frameType := by
  obtain ⟨tx, htx⟩ := tcThreadsCreate_xdp securityInit frameType source hx
  have hcreated := tcThreadsCreate_created htx
  have hsome : ∃ sender, tcTxThreadInit build tx = some sender := by
    rw [tcTxThreadInit_isSome, hcreated.conf_eq]
    exact ⟨hfit tx hcreated.conf_eq hcreated.frameType_eq, .inl hx⟩
  obtain ⟨sender, hinit⟩ := hsome
  exact ⟨tx, sender, threadsCreate_of_tc htc ha htx, hinit, hcreated,
    (tcTxThreadInit_sender hcreated.toForClass hinit).1⟩

/-- With more than 2 ^ 19 frames in memory a Tx thread over AF_PACKET leaves its memory. -/
theorem crowded_threads (build : BuildConfig) (app : AppConfig)
    (securityInit : SecurityAlgorithm → List UInt8 → Aead.Cipher) (source : MacAddress)
    (htc : frameType ≠ .udpHigh ∧ frameType ≠ .udpLow) (ha : configIsTcActive app frameType = true)
    (hx : (app.classes frameType).xdpEnabled = false)
    (hmem : (app.classes frameType).numFramesPerCycle.toNat * maxFrameSize ≤ ptrdiffMax)
    (hn : 2 ^ 19 < (app.classes frameType).numFramesPerCycle.toNat) :
    ∃ tx, threadsCreate securityInit app frameType source = some tx ∧
      tcTxThreadInit build tx = none := by
  obtain ⟨tx, htx⟩ := tcThreadsCreate_packet securityInit frameType source hx hmem
  refine ⟨tx, threadsCreate_of_tc htc ha htx, ?_⟩
  rw [Option.eq_none_iff_forall_ne_some]
  intro sender hinit
  have hbound := (tcTxThreadInit_isSome.mp ⟨sender, hinit⟩).2
  rw [(tcThreadsCreate_created htx).conf_eq, hx] at hbound
  rcases hbound with hbound | hbound
  · cases hbound
  · omega

theorem encryptedConfig_threads :
    ∃ tx sender, threadsCreate chachaInit (encryptedConfig false) .tsnHigh defaultDestination =
        some tx ∧
      tcTxThreadInit fullBuild tx = some sender ∧
      sender.ForClass ((encryptedConfig false).classes .tsnHigh) .tsnHigh ∧
      tx.ForClass (peerConfig ((encryptedConfig false).classes .tsnHigh) false true) .tsnHigh ∧
      tx.rxSequenceCounter = 0 := by
  obtain ⟨tx, sender, htx, hinit, hcreated, hsender⟩ := xdp_threads fullBuild
    (encryptedConfig false) chachaInit defaultDestination
    (show StatFrameType.tsnHigh ≠ .udpHigh ∧ StatFrameType.tsnHigh ≠ .udpLow by decide) (by decide)
    rfl (by
      intro ctx hconf htype
      rw [initializedLength, hconf, htype]
      decide)
  exact ⟨tx, sender, htx, hinit, hsender, hcreated.toForClass, hcreated.rxSequenceCounter_eq⟩

theorem readyPass_runs (hs : sender.ForClass ((encryptedConfig false).classes .tsnHigh) .tsnHigh)
    (K : Nat) :
    (List.replicate K readyPass).countP (·.sends sender) = K ∧
      ∀ p ∈ List.replicate K readyPass, p.HasRoom sender := by
  have hsends : readyPass.sends sender = true := by
    rw [TxPass.sends, tcWaitForTxCycle, hs.frameType_eq, hs.conf_eq]
    decide
  refine ⟨?_, fun p hp _ _ => ?_⟩
  · rw [List.countP_replicate, if_pos hsends]
  · rw [List.eq_of_mem_replicate hp, hs.conf_eq]
    decide

/-- Three cycles of an encrypted class over AF_XDP. -/
theorem lossless_run_encrypted :
    ∃ tx sender, threadsCreate chachaInit (encryptedConfig false) .tsnHigh defaultDestination =
        some tx ∧
      tcTxThreadInit fullBuild tx = some sender ∧
      let sent := ((generator fullBuild none sender).run (Generator.start fullBuild sender
        (List.replicate (xskRingConsDefaultNumDescs * maxFrameSize) 0))
        (List.replicate 3 readyPass)).2.flatten
      ∀ flag ∈ rxFlags tx (deliverAll .tsnHigh sent), flag = false := by
  obtain ⟨tx, sender, htx, hinit, hsender, hrx, h0⟩ := encryptedConfig_threads
  obtain ⟨hK, hpasses⟩ := readyPass_runs hrx 3
  have hs : configSanityCheck fullBuild (encryptedConfig false) = true := by decide
  have hfit : txMetadataRoom fullBuild ((encryptedConfig false).classes .tsnHigh) +
      ((encryptedConfig false).classes .tsnHigh).frameLength ≤ maxFrameSize := by decide
  obtain ⟨-, -, hflags, -⟩ := (lossless_run hs (by decide) (by decide) (by decide) hfit
    htx List.length_replicate hrx h0 none (List.replicate 3 readyPass) hpasses _
    (fun sender' hinit' => by
      rw [Option.some.inj (hinit'.symm.trans hinit)]
      exact deliverAll_delivers _ _)).mpr ⟨.inl rfl, .inr (by rw [hK]; decide)⟩
  exact ⟨tx, sender, htx, hinit, hflags⟩

theorem encrypted_overflow
    (htx : threadsCreate chachaInit (encryptedConfig false) .tsnHigh defaultDestination = some tx)
    (hinit : tcTxThreadInit fullBuild tx = some sender)
    (hrx : tx.ForClass (peerConfig ((encryptedConfig false).classes .tsnHigh) false true) .tsnHigh)
    (h0 : tx.rxSequenceCounter = 0)
    (humem : umem.length = xskRingConsDefaultNumDescs * maxFrameSize) (hK : 2 ^ 32 < K) :
    let sent := ((generator fullBuild none sender).run (Generator.start fullBuild sender umem)
      (List.replicate K readyPass)).2.flatten
    true ∈ rxFlags tx (deliverAll .tsnHigh sent) ∧
      ¬ List.Forall₂ (fun f r => secureIv tx r.frameData =
        f.iv ((encryptedConfig false).classes .tsnHigh)) sent (deliverAll .tsnHigh sent) := by
  intro sent
  have hs : configSanityCheck fullBuild (encryptedConfig false) = true := by decide
  have hc : CountedClass ((encryptedConfig false).classes .tsnHigh) .tsnHigh :=
    countedClass_of_sane hs (by decide) (by decide) (by decide)
  have hcreate := threadsCreate_tc (by decide) htx
  obtain ⟨hsender, -⟩ := tcTxThreadInit_sender (tcThreadsCreate_created hcreate).toForClass hinit
  obtain ⟨hcount, hpasses⟩ := readyPass_runs hsender K
  obtain ⟨hwire, hcounters⟩ := generator_run hsender hc
    (Generator.start_ready hcreate hinit hc (by decide) humem) hpasses none
  rw [hcount, show (Generator.start fullBuild sender umem).sequenceCounter = 0 from rfl]
    at hcounters
  have hdel := deliverAll_delivers .tsnHigh sent
  obtain ⟨hflags, -⟩ := rxFlags_lossless hc nofun (by decide) hwire hcounters hdel hrx h0
  constructor
  · by_contra hnone
    have hfalse : ∀ flag ∈ rxFlags tx (deliverAll .tsnHigh sent), flag = false := by
      intro flag hflag
      cases flag with
      | false => rfl
      | true => exact absurd hflag hnone
    rcases hflags.mp hfalse with hzero | ⟨-, hle | hn⟩
    · omega
    · omega
    · exact absurd hn (by decide)
  · intro hiv
    -- the frame with counter 2 ^ 32 comes with the counters of frame 0
    have hone : ((encryptedConfig false).classes .tsnHigh).numFramesPerCycle.toNat = 1 := by decide
    have hmem : (0x100000000 : UInt64) ∈ sent.map SentFrame.sequenceCounter := by
      rw [hcounters, mem_consecutive, hone]
      exact ⟨0x100000000, by omega, by decide⟩
    obtain ⟨f, hf, hfc⟩ := List.mem_map.mp hmem
    rw [deliverAll, List.forall₂_map_right_iff, List.forall₂_same] at hiv
    have hreceived := (hwire f hf).secureIv_eq hc
      (r := ⟨quietEnv, deliver .tsnHigh true f.bytes, (deliver .tsnHigh true f.bytes).length⟩)
      ⟨true, [], (List.append_nil _).symm, rfl⟩ hrx (by decide)
    have heq := hreceived.symm.trans (hiv f hf)
    rw [SentFrame.iv, prepareIv_eq_iff rfl, hfc] at heq
    exact absurd heq (by decide)

/-- In cycle 2 ^ 32, seven weeks into a run with 1 ms cycles, the cycle counter on the wire is zero
again: the frame is flagged, and its initial vector is not the one the receiver uses. -/
theorem lossless_run_overflow :
    configSanityCheck fullBuild (encryptedConfig false) = true ∧
    ∃ tx sender, threadsCreate chachaInit (encryptedConfig false) .tsnHigh defaultDestination =
        some tx ∧
      tcTxThreadInit fullBuild tx = some sender ∧ tx.rxSequenceCounter = 0 ∧
      let sent := ((generator fullBuild none sender).run (Generator.start fullBuild sender
        (List.replicate (xskRingConsDefaultNumDescs * maxFrameSize) 0))
        (List.replicate (2 ^ 32 + 1) readyPass)).2.flatten
      true ∈ rxFlags tx (deliverAll .tsnHigh sent) ∧
        ¬ List.Forall₂ (fun f r => secureIv tx r.frameData =
          f.iv ((encryptedConfig false).classes .tsnHigh)) sent (deliverAll .tsnHigh sent) := by
  obtain ⟨tx, sender, htx, hinit, -, hrx, h0⟩ := encryptedConfig_threads
  refine ⟨by decide, tx, sender, htx, hinit, h0, ?_⟩
  exact encrypted_overflow htx hinit hrx h0 List.length_replicate (by decide)

end RtcTestbench
