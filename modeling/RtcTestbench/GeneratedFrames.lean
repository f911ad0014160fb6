import RtcTestbench.Lossless
import RtcTestbench.TxSlots

namespace RtcTestbench
open Buffer Function Machine
set_option autoImplicit true

/-- What `prepare_frame_for_tx` writes into a frame without security. -/
def classPatches (conf : TrafficClassConfig) (frameType : StatFrameType) (s t : UInt64) :
    List (Nat × List UInt8) :=
  if frameType = .genericL2 ∧ conf.protocolType = .etherCat then
    [(26, leBytes 8 t.toNat),
      (14, leBytes 2 (((UInt64.ofNat conf.frameLength - 14) &&& 0x7ff) ||| 0x1000).toNat),
      (22, leBytes 2 ((UInt64.ofNat conf.frameLength - 28) &&& 0x7ff).toNat)]
  else
    let off := getMetaDataOffset frameType conf.securityMode
    [(off, be32 (s % conf.numFramesPerCycle).toUInt32),
      (off + 4, be32 (s / conf.numFramesPerCycle).toUInt32), (off + 8, be64 t)]

/-- What the initialisation of a class writes into a cleared frame without security. -/
def classHeader (conf : TrafficClassConfig) (frameType : StatFrameType) (source : MacAddress) :
    List (Nat × List UInt8) :=
  match frameType with
  | .tsnHigh | .tsnLow | .rtc | .rta | .dcp =>
    [(0, conf.l2Destination.bytes), (6, source.bytes), (12, be16 ethP8021Q),
      (14, be16 conf.vlanTci), (16, be16 ethPProfinetRt),
      (18, be16 (classFrameId frameType .none)), (20, be32 0), (24, be32 0),
      (sizeofVlanEthernetHeader + sizeofProfinetRtHeader, conf.payloadPattern.bytes)]
  | .genericL2 =>
    match conf.protocolType with
    | .etherCat =>
      [(0, conf.l2Destination.bytes), (6, source.bytes), (12, be16 ethPEthercat),
        (sizeofEthhdr, [0x16, 0x10]),
        (sizeofEthhdr + sizeofEthercatHeader,
          [0, 0, 0, 0, 0, 0, 0x08, 0, 0, 0, 0, 0, 0, 0, 0, 0, 0, 0, 0, 0])]
    | .genericL2 =>
      [(0, conf.l2Destination.bytes), (6, source.bytes), (12, be16 ethP8021Q),
        (14, be16 conf.vlanTci), (16, be16 conf.etherType.toUInt16), (18, be32 0), (22, be32 0),
        (sizeofVlanEthernetHeader + sizeofGenericL2Header, conf.payloadPattern.bytes)]
  | .lldp =>
    [(0, conf.l2Destination.bytes), (6, source.bytes), (12, be16 ethPLldp),
      (sizeofEthhdr, List.replicate sizeofReferenceMetaData 0),
      (sizeofEthhdr + sizeofReferenceMetaData, conf.payloadPattern.bytes)]
  | .udpHigh | .udpLow => []

/-- The frame of a class with a given counter and send time. -/
def generatedFrame (conf : TrafficClassConfig) (frameType : StatFrameType) (source : MacAddress)
    (s t : UInt64) : List UInt8 :=
  writeAll (writeAll (List.replicate conf.frameLength 0) (classHeader conf frameType source))
    (classPatches conf frameType s t)

/-- A frame that becomes the frame of any counter and send time when it is prepared. -/
structure Preparable (conf : TrafficClassConfig) (frameType : StatFrameType) (source : MacAddress)
    (frame : List UInt8) : Prop where
  length_eq : frame.length = conf.frameLength
  prepares : ∀ s t, writeAll frame (classPatches conf frameType s t) =
    generatedFrame conf frameType source s t

variable {conf : TrafficClassConfig} {frameType : StatFrameType} {ctx : ThreadContext}
  {source : MacAddress} {frame mem : List UInt8} {build : BuildConfig}
  {table : Nat → List UInt8} {slots : List Nat} {numSlots : Nat} {a : SlotGenerator}

theorem covers_classPatches (h : Covers (classPatches conf frameType s t) i) (s' t' : UInt64) :
    Covers (classPatches conf frameType s' t') i := by
  obtain ⟨w, hw, hi⟩ := h
  rw [classPatches] at hw ⊢
  split at hw
  · rename_i hec
    rw [if_pos hec]
    simp only [List.mem_cons, List.not_mem_nil, or_false] at hw
    rcases hw with rfl | rfl | rfl
    · exact ⟨_, List.mem_cons_self, by simpa using hi⟩
    · exact ⟨_, List.mem_cons_of_mem _ List.mem_cons_self, hi⟩
    · exact ⟨_, List.mem_cons_of_mem _ (List.mem_cons_of_mem _ List.mem_cons_self), hi⟩
  · rename_i hec
    rw [if_neg hec]
    simp only [List.mem_cons, List.not_mem_nil, or_false] at hw
    rcases hw with rfl | rfl | rfl
    · exact ⟨_, List.mem_cons_self, by simpa using hi⟩
    · exact ⟨_, List.mem_cons_of_mem _ List.mem_cons_self, by simpa using hi⟩
    · exact ⟨_, List.mem_cons_of_mem _ (List.mem_cons_of_mem _ List.mem_cons_self),
        by simpa using hi⟩

theorem length_generatedFrame (s t : UInt64) :
    (generatedFrame conf frameType source s t).length = conf.frameLength := by
  rw [generatedFrame, length_writeAll, length_writeAll, List.length_replicate]

/-- Nothing of an earlier counter or time is left. -/
theorem generatedFrame_preparable (s t : UInt64) :
    Preparable conf frameType source (generatedFrame conf frameType source s t) where
  length_eq := length_generatedFrame s t
  prepares s' t' := writeAll_writeAll _ fun _ h => covers_classPatches h s' t'

theorem prepared_eq (hctx : ctx.ForClass conf frameType) (hmode : conf.securityMode = .none)
    (frame : List UInt8) (s t : UInt64) :
    ctx.prepared frame s t = writeAll frame (classPatches conf frameType s t) := by
  obtain ⟨rfl, rfl, -, hoff⟩ := hctx
  rw [ThreadContext.prepared, prepareFrameForTx, classPatches]
  by_cases hec : ctx.frameType = .genericL2 ∧ ctx.conf.protocolType = .etherCat
  · rw [if_pos hec]
    exact congrArg Prod.fst (if_pos hec)
  · have hec' : ¬ ((ctx.prepareFrameConfig frame s t).frameType = .genericL2 ∧
        (ctx.prepareFrameConfig frame s t).protocolType = .etherCat) := hec
    have hnone : (ctx.prepareFrameConfig frame s t).mode = .none := hmode
    rw [if_neg hec, if_neg hec', hnone, ← hoff]
    rfl

theorem initializeFrame_eq (hctx : ctx.ForClass conf frameType) (hmode : conf.securityMode = .none)
    (hudp : frameType ≠ .udpHigh ∧ frameType ≠ .udpLow) (mem : List UInt8) (bufferLength : Nat) :
    initializeFrame ctx mem bufferLength source conf.l2Destination =
      writeAll (write mem 0 (List.replicate bufferLength 0))
        (classHeader conf frameType source) := by
  obtain ⟨rfl, rfl, hid, -⟩ := hctx
  unfold initializeFrame classHeader
  rw [hmode] at hid
  cases hft : ctx.frameType with
  | tsnHigh | tsnLow | rtc | rta =>
    rw [hft] at hid
    simp only [initializeProfinetFrame, hmode, initializeRtProfinetFrame, hid]
    rfl
  | dcp | lldp => rfl
  | genericL2 =>
    dsimp only
    cases ctx.conf.protocolType with
    | etherCat => rfl
    | genericL2 => rfl
  | udpHigh => exact absurd hft hudp.1
  | udpLow => exact absurd hft hudp.2

theorem initializeFrame_preparable (hctx : ctx.ForClass conf frameType)
    (hmode : conf.securityMode = .none) (hudp : frameType ≠ .udpHigh ∧ frameType ≠ .udpLow)
    (hmem : conf.frameLength ≤ mem.length) (hbuffer : conf.frameLength ≤ bufferLength) :
    Preparable conf frameType source
      (slice (initializeFrame ctx mem bufferLength source conf.l2Destination) 0
        conf.frameLength) := by
  have htake : (mem.take conf.frameLength).length = conf.frameLength := by
    rw [List.length_take]
    omega
  rw [initializeFrame_eq hctx hmode hudp, slice, List.drop_zero, take_writeAll, take_write,
    write_replicate _ (by rw [htake]; exact hbuffer), htake]
  refine ⟨?_, fun s t => rfl⟩
  rw [length_writeAll, List.length_replicate]

/-- Whatever was in a slot, the frame is the one of its counter. -/
theorem keepsFrames_preparable (hctx : ctx.ForClass conf frameType)
    (hmode : conf.securityMode = .none) :
    KeepsFrames ctx (Preparable conf frameType source)
      (fun frame s t => frame = generatedFrame conf frameType source s t) none := by
  intro frame s t hframe
  have hprepared : ctx.prepared frame s t = generatedFrame conf frameType source s t := by
    rw [prepared_eq hctx hmode]
    exact hframe.prepares s t
  rw [monitorFrame, hprepared]
  exact ⟨generatedFrame_preparable s t, rfl⟩

section Start
variable {securityInit : SecurityAlgorithm → List UInt8 → Aead.Cipher} {tx sender : ThreadContext}
  {umem : List UInt8} {app : AppConfig}

theorem start_preparable (htx : tcThreadsCreate securityInit conf frameType source = some tx)
    (hinit : tcTxThreadInit build tx = some sender) (hmode : conf.securityMode = .none)
    (hudp : frameType ≠ .udpHigh ∧ frameType ≠ .udpLow)
    (hroom : txMetadataRoom build conf + conf.frameLength ≤ maxFrameSize)
    (humem : umem.length = xskRingConsDefaultNumDescs * maxFrameSize) :
    ∀ slot < txSlots conf,
      Preparable conf frameType source ((startTable build sender umem).table slot) := by
  intro slot hslot
  obtain ⟨ctx, chunk, hctx, hchunk, hlen, hview⟩ := startTable_chunk htx hinit humem hslot
  have hfull := slice_full ((startTable build sender umem).table slot)
  have hlength : ((startTable build sender umem).table slot).length = conf.frameLength := by
    omega
  rw [hlength] at hfull
  rw [← hfull, hview 0 conf.frameLength (by omega) (by omega)]
  apply initializeFrame_preparable hctx hmode hudp
  · omega
  · omega

theorem txMetadataRoom_fits (h : conf.txTimeEnabled = true ∨ conf.txHwtstampEnabled = true →
      conf.frameLength + build.sizeofXskTxMetadata ≤ maxFrameSize)
    (hL : conf.frameLength ≤ maxFrameSize) (xdp : Bool) :
    txMetadataRoom build { conf with xdpEnabled := xdp } + conf.frameLength ≤ maxFrameSize := by
  rw [txMetadataRoom]
  split
  · rename_i hon
    simp only [Bool.and_eq_true, Bool.or_eq_true] at hon
    rw [Nat.add_comm]
    exact h hon.2
  · rw [Nat.zero_add]
    exact hL

/-- Over either transport, with room for the Tx meta data, every frame is the one its counter and
its send time make of the configuration, as long as all frames have a place in their memory. -/
theorem generated_frames_agree {xdp : Bool} (hs : configSanityCheck build app = true)
    (hconf : app.classes frameType = { conf with xdpEnabled := xdp })
    (hudp : frameType ≠ .udpHigh ∧ frameType ≠ .udpLow) (hmode : conf.securityMode = .none)
    (hroom : conf.txTimeEnabled = true ∨ conf.txHwtstampEnabled = true →
      conf.frameLength + build.sizeofXskTxMetadata ≤ maxFrameSize)
    (htx : threadsCreate securityInit app frameType source = some tx)
    (humem : umem.length = xskRingConsDefaultNumDescs * maxFrameSize) (passes : List TxPass) :
    (∃ sender, tcTxThreadInit build tx = some sender ∧
      ∀ x ∈ passes.zip ((generator build none sender).run
          (Generator.start build sender umem) passes).2, ∀ f ∈ x.2,
        f.bytes = generatedFrame conf frameType source f.sequenceCounter x.1.now ∧
          f.bytes.length = conf.frameLength) ↔
    xdp = true ∨ conf.numFramesPerCycle.toNat ≤ 2 ^ 19 := by
  have hL : conf.frameLength ≤ maxFrameSize := by
    have h := (configSanityCheck_frameLength hs frameType).1
    rw [hconf] at h
    exact h
  have hfits := txMetadataRoom_fits hroom hL xdp
  have hstarts := tcTxThreadInit_of_sane hs (by rw [hconf]; exact hfits) htx
  rw [hconf] at hstarts
  refine ⟨fun ⟨sender, hinit, _⟩ => hstarts.mp ⟨sender, hinit⟩, fun hslots => ?_⟩
  obtain ⟨sender, hinit⟩ := hstarts.mpr hslots
  refine ⟨sender, hinit, ?_⟩
  have hcreate := threadsCreate_tc hudp htx
  rw [hconf] at hcreate
  have hclass := (tcThreadsCreate_created hcreate).toForClass
  obtain ⟨hsender, -, hbound, -⟩ := tcTxThreadInit_sender hclass hinit
  have htable := start_preparable hcreate hinit hmode hudp hfits humem
  rw [generator_run_table (by rw [hsender.conf_eq]; exact hL)
    (by rw [hsender.conf_eq]; exact hbound)]
  intro x hx f hf
  have hkeeps := @keepsFrames_preparable _ frameType sender source hsender hmode
  have hframe := slotGenerator_forall hkeeps hkeeps startTable_rotation
    (by rw [hsender.conf_eq]; exact htable) passes x hx f hf
  refine ⟨hframe, ?_⟩
  rw [hframe]
  exact length_generatedFrame _ _

end Start

/-- A class with launch times, three frames in a cycle. -/
def pacedConfig (xdp : Bool) : AppConfig :=
  (configSetDefaults false).setClass .tsnHigh fun conf =>
    { conf with
      enabled := true, xdpEnabled := xdp, txTimeEnabled := true, numFramesPerCycle := 3 }

/-- Two thousand cycles go through every chunk; the frames are those AF_PACKET sends. -/
theorem generated_frames_agree_paced :
    ∃ tx, threadsCreate chachaInit (pacedConfig true) .tsnHigh defaultDestination = some tx ∧
      ∃ sender, tcTxThreadInit fullBuild tx = some sender ∧
        ∀ x ∈ (List.replicate 2000 readyPass).zip ((generator fullBuild none sender).run
            (Generator.start fullBuild sender
              (List.replicate (xskRingConsDefaultNumDescs * maxFrameSize) 0))
            (List.replicate 2000 readyPass)).2,
          ∀ f ∈ x.2, f.bytes = generatedFrame ((pacedConfig false).classes .tsnHigh) .tsnHigh
              defaultDestination f.sequenceCounter x.1.now ∧ f.bytes.length = 128 := by
  obtain ⟨tx, htx⟩ := tcThreadsCreate_xdp chachaInit .tsnHigh defaultDestination
    (show ((pacedConfig true).classes .tsnHigh).xdpEnabled = true from rfl)
  have htx := @threadsCreate_of_tc _ _ _ _ _ (by decide) (by decide) htx
  exact ⟨tx, htx, (generated_frames_agree (by decide)
    (rfl : _ = { (pacedConfig false).classes .tsnHigh with xdpEnabled := true }) (by decide) rfl
    (by decide) htx List.length_replicate _).mpr (.inl rfl)⟩

/-- One frame more than the memory of an AF_PACKET class can address. -/
def crowdedConfig : AppConfig :=
  (configSetDefaults false).setClass .tsnHigh fun conf =>
    { conf with enabled := true, xdpEnabled := false, numFramesPerCycle := 524289 }

/-- The last frame would be set up 2 GiB before the memory of the frames. -/
theorem generated_frames_agree_crowded :
    configSanityCheck fullBuild crowdedConfig = true ∧
    frameIdx (cInt 524288) = -2 ^ 31 ∧
    ∃ tx, threadsCreate chachaInit crowdedConfig .tsnHigh defaultDestination = some tx ∧
      tcTxThreadInit fullBuild tx = none :=
  ⟨by decide, by decide, crowded_threads fullBuild crowdedConfig chachaInit defaultDestination
    (by decide) (by decide) rfl (by decide) (by decide)⟩

end RtcTestbench
