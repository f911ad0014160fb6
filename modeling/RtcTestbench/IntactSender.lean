import RtcTestbench.IntactMirror

namespace RtcTestbench
open Buffer Machine
set_option autoImplicit true

/-- What both sides agree on. -/
structure Paired (conf : TrafficClassConfig) (frameType : StatFrameType) (cipher : Aead.Cipher)
    (sender : ThreadContext) : Prop where
  carried : CarriedClass conf frameType
  ideal : Aead.Ideal cipher
  forClass : sender.ForClass conf frameType
  key : sender.txSecurityContext = cipher
  pattern : PatternFits conf sender.payloadPattern
  room : conf.frameLength ≤ conf.mirrorSize
  slots : txSlots conf ≤ 2 ^ 19

/-- The frames in memory are those of the class. -/
def GeneratorReady (build : BuildConfig) (conf : TrafficClassConfig) (frameType : StatFrameType)
    (sender : ThreadContext) (g : Generator) : Prop :=
  ∃ a, HoldsTable build sender g a ∧ ∀ slot < txSlots conf, Template conf frameType (a.table slot)

variable {build : BuildConfig} {conf : TrafficClassConfig} {frameType : StatFrameType}
  {cipher : Aead.Cipher} {sender tx : ThreadContext} {monitor : Option MacAddress}
  {a : SlotGenerator} {g : Generator} {ctx : ThreadContext} {app : AppConfig}
  {securityInit : SecurityAlgorithm → List UInt8 → Aead.Cipher} {umem : List UInt8}

theorem slotGenerator_step_forall {P : List UInt8 → Prop} {Q : List UInt8 → UInt64 → UInt64 → Prop}
    (hnone : KeepsFrames ctx P Q none) (hmonitor : KeepsFrames ctx P Q monitor)
    (hnumber : 4096 ≤ a.frameNumber ∧ a.frameNumber < 8192)
    (htable : ∀ slot < txSlots ctx.conf, P (a.table slot)) (p : TxPass) :
    (∀ slot < txSlots ctx.conf, P (((slotGenerator monitor ctx).step a p).1.table slot)) ∧
      ∀ f ∈ ((slotGenerator monitor ctx).step a p).2, Q f.bytes f.sequenceCounter p.now := by
  simp only [slotGenerator]
  split
  · exact ⟨htable, List.forall_mem_nil _⟩
  · split
    · exact ⟨htable, List.forall_mem_nil _⟩
    · rename_i hfree
      have hslots := (@passSlots_ok ctx _ hnumber fun hx =>
        Nat.le_trans (Nat.le_of_not_lt fun h => hfree ⟨hx, h⟩) p.freeDescriptors_le).1
      apply patchSlots_forall hnone ?_ htable hslots
      split
      · exact hmonitor
      · exact hnone

/-- A pass of the Tx thread keeps its frames, and those it sends are intact. -/
theorem GeneratorReady.step (hpair : Paired conf frameType cipher sender)
    (h : GeneratorReady build conf frameType sender g) (p : TxPass)
    (hwire : conf.securityMode ≠ .none →
      ∀ f ∈ ((generator build monitor sender).step g p).2,
        wireSequenceCounter conf.numFramesPerCycle f.sequenceCounter = f.sequenceCounter) :
    GeneratorReady build conf frameType sender ((generator build monitor sender).step g p).1 ∧
      List.Forall₂ (Intact conf frameType cipher)
        (((generator build monitor sender).step g p).2.map SentFrame.bytes)
        (((generator build monitor sender).step g p).2.map SentFrame.sequenceCounter) := by
  obtain ⟨a, hholds, htable⟩ := h
  have hconf := hpair.forClass.conf_eq
  have hlen : sender.conf.frameLength ≤ maxFrameSize := hconf ▸ hpair.carried.fits_chunk
  have hslots : txSlots sender.conf = txSlots conf := by rw [hconf]
  have hsim := generator_simulates build monitor hlen (hslots ▸ hpair.slots)
  have hideal : Aead.Ideal sender.txSecurityContext := hpair.key ▸ hpair.ideal
  have hkeeps := keepsFrames_intact hpair.forClass hpair.carried hideal hpair.pattern
  rw [← hslots] at htable
  obtain ⟨htable', hsent⟩ := slotGenerator_step_forall (hkeeps none) (hkeeps monitor)
    hholds.rotation htable p
  rw [← hsim.observed hholds trivial] at hsent
  rw [hslots] at htable'
  refine ⟨⟨_, hsim.related hholds trivial, htable'⟩, ?_⟩
  rw [List.forall₂_map_left_iff, List.forall₂_map_right_iff, List.forall₂_same]
  intro f hf
  rw [← hpair.key]
  exact hsent f hf fun hm => hwire hm f hf

theorem tcTxThreadInit_keys (h : tcTxThreadInit build tx = some sender) :
    sender.txSecurityContext = tx.txSecurityContext ∧
      sender.rxSecurityContext = tx.rxSecurityContext ∧
      sender.mirrorBuffer = tx.mirrorBuffer ∧ sender.rxSequenceCounter = tx.rxSequenceCounter := by
  obtain ⟨-, frames, frameCopy, -, -, rfl⟩ := tcTxThreadInit_eq_some.mp h
  exact ⟨rfl, rfl, rfl, rfl⟩

/-- After the initialisation the pattern is the one to encrypt. -/
theorem patternFits_init (hcreate : tcThreadsCreate securityInit conf frameType source = some tx)
    (hinit : tcTxThreadInit build tx = some sender) (hc : CarriedClass conf frameType)
    (hroom : conf.securityMode = .ae → txMetadataRoom build conf = 0) :
    PatternFits conf sender.payloadPattern := by
  intro hm
  have hne : conf.securityMode ≠ .none := by
    rw [hm]
    decide
  have ht := hc.secured hne
  have hfits := hc.pattern_fits
  rw [minFrameSize_secure ht hne] at hfits
  obtain ⟨hcopy, hlength, -⟩ := tcThreadsCreate_secure hcreate
  refine ⟨?_, (tcTxThreadInit_payload hcreate ht hm hfits hinit).mpr (.inl (hroom hm))⟩
  have hmax := hc.fits_chunk
  have hsender : sender.payloadPatternLength = tx.payloadPatternLength ∧
      sender.frameCopy.length = tx.frameCopy.length := by
    obtain ⟨-, frames, frameCopy, -, hframeCopy, rfl⟩ := tcTxThreadInit_eq_some.mp hinit
    exact ⟨rfl, length_tcInitializeFrames hframeCopy⟩
  rw [ThreadContext.payloadPattern, hsender.1, hlength]
  apply length_slice
  rw [hsender.2, hcopy, List.length_replicate]
  simp only [sizeofVlanEthernetHeader, sizeofProfinetSecureHeader]
  omega

/-- The mirror of a class whose Tx thread has set up its frames. -/
theorem mirrorReady_init
    (hcreate : tcThreadsCreate securityInit (peerConfig conf true xdpEnabled) frameType source =
      some tx)
    (hinit : tcTxThreadInit build tx = some mirror) (hc : CarriedClass conf frameType)
    (hroom : conf.securityMode = .ae → txMetadataRoom build (peerConfig conf true xdpEnabled) = 0) :
    MirrorReady conf xdpEnabled frameType
      (securityInit conf.securityAlgorithm conf.securityKey.bytes) mirror := by
  obtain ⟨hmirror, -⟩ := tcTxThreadInit_sender (tcThreadsCreate_created hcreate).toForClass hinit
  obtain ⟨-, -, hkey, hsame⟩ := tcThreadsCreate_secure hcreate
  have hc' : CarriedClass (peerConfig conf true xdpEnabled) frameType :=
    ⟨⟨hc.not_udp, hc.secured, hc.not_ethercat, hc.fits, hc.fits_chunk⟩, hc.ether, hc.pattern_fits⟩
  have hpattern := patternFits_init hcreate hinit hc' hroom
  exact ⟨hmirror, (tcTxThreadInit_keys hinit).2.1.trans (hsame.trans hkey), hpattern⟩

/-- A class that sends, as its thread is when the traffic starts. -/
structure Sending (securityInit : SecurityAlgorithm → List UInt8 → Aead.Cipher)
    (build : BuildConfig) (app : AppConfig) (frameType : StatFrameType) (sender : ThreadContext) :
    Prop where
  sane : configSanityCheck build app = true
  not_udp : frameType ≠ .udpHigh ∧ frameType ≠ .udpLow
  secured : (app.classes frameType).securityMode ≠ .none →
    frameType ∈ [.tsnHigh, .tsnLow, .rtc, .rta]
  not_ethercat : frameType = .genericL2 → (app.classes frameType).protocolType = .genericL2
  ether : frameType = .genericL2 → (app.classes frameType).etherType.toNat % 2 ^ 16 ≠ 0x8100
  room : txMetadataRoom build (app.classes frameType) +
    (app.classes frameType).frameLength ≤ maxFrameSize
  pattern : (app.classes frameType).securityMode = .ae →
    txMetadataRoom build (app.classes frameType) = 0
  ideal : Aead.Ideal (securityInit (app.classes frameType).securityAlgorithm
    (app.classes frameType).securityKey.bytes)
  sender : ∃ source tx, threadsCreate securityInit app frameType source = some tx ∧
    tcTxThreadInit build tx = some sender

theorem Sending.carried (h : Sending securityInit build app frameType sender) :
    CarriedClass (app.classes frameType) frameType := by
  obtain ⟨hmax, hfit⟩ := configSanityCheck_frameLength h.sane frameType
  exact ⟨⟨h.not_udp, h.secured, h.not_ethercat, by omega, hmax⟩, h.ether, hfit⟩

theorem Sending.paired (h : Sending securityInit build app frameType sender) :
    Paired (app.classes frameType) frameType (securityInit (app.classes frameType).securityAlgorithm
      (app.classes frameType).securityKey.bytes) sender := by
  obtain ⟨source, tx, htx, hinit⟩ := h.sender
  have hcreate := threadsCreate_tc h.not_udp htx
  obtain ⟨hsender, -, hslots, -⟩ :=
    tcTxThreadInit_sender (tcThreadsCreate_created hcreate).toForClass hinit
  obtain ⟨-, -, hkey, -⟩ := tcThreadsCreate_secure hcreate
  have hn := configIsTcActive_pos (threadsCreate_active htx)
  refine ⟨h.carried, h.ideal, hsender, ?_, patternFits_init hcreate hinit h.carried h.pattern, ?_,
    hslots⟩
  · rw [(tcTxThreadInit_keys hinit).1]
    exact hkey
  · exact Nat.le_trans h.carried.fits_chunk (Nat.le_mul_of_pos_right _ hn)

theorem Sending.start (h : Sending securityInit build app frameType sender)
    (humem : umem.length = xskRingConsDefaultNumDescs * maxFrameSize) :
    GeneratorReady build (app.classes frameType) frameType sender
      (Generator.start build sender umem) := by
  obtain ⟨source, tx, htx, hinit⟩ := h.sender
  exact ⟨startTable build sender umem, ⟨rfl, rfl, startTable_rotation, fun slot _ => rfl⟩,
    startTable_template (threadsCreate_tc h.not_udp htx) hinit h.carried h.room humem⟩

end RtcTestbench
