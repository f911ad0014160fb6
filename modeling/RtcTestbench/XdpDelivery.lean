import RtcTestbench.XdpKern

namespace RtcTestbench
open Buffer Machine
set_option autoImplicit true

/-- The filter that is built for the frames of a class. -/
structure TbProgram.BuiltFor (p : TbProgram) (conf : TrafficClassConfig)
    (frameType : StatFrameType) : Prop where
  vid : p.vid = conf.vlanTci &&& vlanIdMask
  ethType : wireEtherType conf frameType = some p.ethType
  checkFrameId : p.checkFrameId = true → frameType ∈ tcProfinet

/-- How `xdp_receive_frames` calls the receive function for a redirected frame. -/
def xdpReception (env : RxEnv) (x : XdpMd) : Reception :=
  let timestamps := xdpGetTimestampMetadata x.mem x.data
  ⟨{ env with rxHwTimestamp := timestamps.1, rxSwTimestamp := timestamps.2 },
    x.mem.drop x.data, x.dataEnd - x.data⟩

variable {ctx sender tx rx : ThreadContext} {conf : TrafficClassConfig} {frameType : StatFrameType}
  {mem umem frame : List UInt8} {build : BuildConfig} {source : MacAddress} {app : AppConfig}
  {securityInit : SecurityAlgorithm → List UInt8 → Aead.Cipher} {cipher : Aead.Cipher}
  {etherType : UInt16} {p : TbProgram} {x x' : XdpMd} {s : UInt64}

theorem initializeFrame_tci (hctx : ctx.ForClass conf frameType)
    (hc : CountedClass conf frameType) (he : wireEtherType conf frameType = some etherType)
    (hm : 18 ≤ mem.length) (bufferLength : Nat) (source destination : MacAddress) :
    be16At (initializeFrame ctx mem bufferLength source destination) 14 = conf.vlanTci := by
  by_cases hl2 : frameType = .genericL2
  · subst hl2
    have hinit : initializeFrame ctx mem bufferLength source destination =
        genericL2InitializeFrame conf mem bufferLength source destination := by
      simp only [initializeFrame, hctx.frameType_eq, hctx.conf_eq, hc.not_ethercat rfl]
    rw [hinit]
    exact be16At_writeAll (k := 4) rfl (by omega) (by simp)
  · have ht : frameType ∈ [.tsnHigh, .tsnLow, .rtc, .rta, .dcp] := by
      cases frameType <;> simp_all [wireEtherType]
    by_cases hmode : conf.securityMode = .none
    · rw [initializeFrame_rt hctx hmode ht]
      exact be16At_writeAll (k := 4) rfl (by omega) (by simp)
    · rw [initializeFrame_secure hctx (hc.secured hmode) hmode]
      exact be16At_writeAll (k := 4) rfl (by omega) (by simp)

theorem keepsFrames_tci (hctx : ctx.ForClass conf frameType) (hc : CountedClass conf frameType)
    (he : wireEtherType conf frameType = some etherType) (monitor : Option MacAddress) :
    KeepsFrames ctx (fun frame => be16At frame 14 = conf.vlanTci)
      (fun frame _ _ => be16At frame 14 = conf.vlanTci) monitor := by
  intro frame s t hframe
  have hoff := metaData_behind_header he conf.securityMode
  have hview := prepareFrameForTx_view hctx hc frame s t
  have hkept : be16At (monitorFrame monitor (ctx.prepared frame s t)) 14 = conf.vlanTci := by
    rw [be16At, slice_monitorFrame _ _ (by decide), ThreadContext.prepared,
      hview 14 2 (by omega), slice_setMetaData (.inl (by omega)), ← be16At, hframe]
  exact ⟨hkept, hkept⟩

theorem startTable_tci (htx : tcThreadsCreate securityInit conf frameType source = some tx)
    (hinit : tcTxThreadInit build tx = some sender) (hc : CountedClass conf frameType)
    (he : wireEtherType conf frameType = some etherType)
    (humem : umem.length = xskRingConsDefaultNumDescs * maxFrameSize) :
    ∀ slot < txSlots conf,
      be16At ((startTable build sender umem).table slot) 14 = conf.vlanTci := by
  intro slot hslot
  obtain ⟨ctx, chunk, hctx, hchunk, -, hview⟩ := startTable_chunk htx hinit humem hslot
  have hroom := txMetadataRoom_le build conf
  have hsize : maxFrameSize = 4096 := rfl
  have hoff := metaData_behind_header he conf.securityMode
  have hfits := hc.metaData_fits
  rw [be16At, hview 14 2 (by omega) (by omega), ← be16At]
  exact initializeFrame_tci hctx hc he (by omega) _ _ _

theorem KeepsFrames.and {P P' : List UInt8 → Prop} {Q Q' : List UInt8 → UInt64 → UInt64 → Prop}
    (h : KeepsFrames ctx P Q monitor) (h' : KeepsFrames ctx P' Q' monitor) :
    KeepsFrames ctx (fun frame => P frame ∧ P' frame)
      (fun frame s t => Q frame s t ∧ Q' frame s t) monitor := by
  intro frame s t hframe
  obtain ⟨hp, hq⟩ := h frame s t hframe.1
  obtain ⟨hp', hq'⟩ := h' frame s t hframe.2
  exact ⟨⟨hp, hp'⟩, hq, hq'⟩

/-- The frames of every run are intact and have the tag of the class. -/
theorem Sending.run_tagged (h : Sending securityInit build app frameType sender)
    (he : wireEtherType (app.classes frameType) frameType = some etherType)
    (humem : umem.length = xskRingConsDefaultNumDescs * maxFrameSize)
    (monitor : Option MacAddress) (passes : List TxPass) :
    let conf := app.classes frameType
    ∀ sent ∈ ((generator build monitor sender).run (Generator.start build sender umem) passes).2,
      ∀ f ∈ sent, ((conf.securityMode ≠ .none →
          wireSequenceCounter conf.numFramesPerCycle f.sequenceCounter = f.sequenceCounter) →
        Intact conf frameType (securityInit conf.securityAlgorithm conf.securityKey.bytes) f.bytes
          f.sequenceCounter) ∧ be16At f.bytes 14 = conf.vlanTci := by
  intro conf sent hsent f hf
  have hpair := h.paired
  have hconf := hpair.forClass.conf_eq
  have hcounted := h.carried.toCountedClass
  obtain ⟨source, tx, htx, hinit⟩ := h.sender
  have hcreate := threadsCreate_tc h.not_udp htx
  have hideal : Aead.Ideal sender.txSecurityContext := hpair.key ▸ hpair.ideal
  have hkeeps (m : Option MacAddress) :=
    (keepsFrames_intact hpair.forClass h.carried hideal hpair.pattern m).and
      (keepsFrames_tci hpair.forClass hcounted he m)
  rw [generator_run_table (by rw [hconf]; exact h.carried.fits_chunk)
    (by rw [hconf]; exact hpair.slots)] at hsent
  obtain ⟨p, hp⟩ := System.exists_mem_zip _ hsent
  have hsent := slotGenerator_forall (hkeeps none) (hkeeps monitor) startTable_rotation
    (fun slot hslot => ?_) passes _ hp f hf
  · rw [hpair.key] at hsent
    exact hsent
  · rw [hconf] at hslot
    exact ⟨startTable_template hcreate hinit h.carried h.room humem slot hslot,
      startTable_tci hcreate hinit hcounted he humem slot hslot⟩

theorem checkFrameId_class (ht : frameType ∈ tcProfinet) (mode : SecurityMode) :
    checkFrameId (classFrameId frameType mode) = true := by
  revert ht
  cases frameType <;> cases mode <;> decide

theorem Intact.selected (h : Intact conf frameType cipher frame s)
    (hc : CarriedClass conf frameType)
    (hb : p.BuiltFor conf frameType) (htci : be16At frame 14 = conf.vlanTci) :
    p.Selects frame := by
  have hlen := h.length_eq
  have hfits := hc.metaData_fits
  have hoff := metaData_behind_header hb.ethType conf.securityMode
  obtain ⟨htag, htype⟩ := h.header _ hb.ethType
  refine ⟨by omega, htag, htype, ?_, fun hcheck => ?_⟩
  · rw [htci, hb.vid]
  · have ht := hb.checkFrameId hcheck
    have hbehind := profinet_behind_id ht conf.securityMode
    rw [h.frameId ht]
    exact ⟨by omega, checkFrameId_class ht _⟩

theorem delivers_xdpReception (ht : frameType ∈ tcXdp) (hframe : x.frame = frame) (env : RxEnv) :
    Delivers frameType ⟨s, frame⟩ (xdpReception env x) := by
  have hdeliver : deliver frameType false frame = frame := by
    cases frameType <;> first | rfl | exact absurd ht (by decide)
  refine ⟨false, x.mem.drop x.dataEnd, ?_, ?_⟩
  · have hle := x.data_le
    have hsplit := List.take_append_drop (x.dataEnd - x.data) (x.mem.drop x.data)
    rw [List.drop_drop, Nat.add_sub_cancel' hle] at hsplit
    rw [hdeliver, ← hframe]
    exact hsplit.symm
  · rw [hdeliver, ← hframe, x.length_frame]
    rfl

/-- The filter for the default VLAN of the class, next to the one for EtherCAT. -/
def tsnHighChain : List Attached :=
  [.tb ⟨0x101, 0x8892, 10, true⟩ oneSocket, .ethercat oneSocket]

end RtcTestbench
