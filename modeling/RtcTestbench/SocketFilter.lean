import RtcTestbench.GeneratedFrames
import RtcTestbench.Lib.Bpf

namespace RtcTestbench
open Bpf Buffer Machine
set_option autoImplicit true

/-- `PROFINET_FRAME_FILTER`. -/
def profinetFrameFilter (frameIdLow frameIdHigh : UInt32) : List SockFilter :=
  [⟨0x28, 0, 0, 0x0000000c⟩, ⟨0x15, 0, 6, 0x00008892⟩,
    ⟨0x20, 0, 0, 0xfffff02c⟩, ⟨0x15, 0, 4, 0x00001234⟩,
    ⟨0x28, 0, 0, 0x0000000e⟩, ⟨0x35, 0, 2, frameIdLow⟩,
    ⟨0x25, 1, 0, frameIdHigh⟩, ⟨0x06, 0, 0, 0xffffffff⟩,
    ⟨0x06, 0, 0, 0⟩]

def tsnHighFrameFilter : List SockFilter := profinetFrameFilter 0x0100 0x01ff
def tsnLowFrameFilter : List SockFilter := profinetFrameFilter 0x0200 0x03ff
def rtcFrameFilter : List SockFilter := profinetFrameFilter 0x8000 0xbbff
def rtaFrameFilter : List SockFilter := profinetFrameFilter 0xfc01 0xfc02
def dcpFrameFilter : List SockFilter := profinetFrameFilter 0xfefe 0xfeff

def lldpFrameFilter : List SockFilter :=
  [⟨0x28, 0, 0, 0x0000000c⟩, ⟨0x15, 0, 1, 0x000088cc⟩, ⟨0x06, 0, 0, 0xffffffff⟩, ⟨0x06, 0, 0, 0⟩]

def genericL2FrameFilter : List SockFilter :=
  [⟨0x28, 0, 0, 0x0000000c⟩, ⟨0x15, 0, 3, 0x00001234⟩, ⟨0x20, 0, 0, 0xfffff02c⟩,
    ⟨0x15, 0, 1, 0x00004321⟩, ⟨0x06, 0, 0, 0xffffffff⟩, ⟨0x06, 0, 0, 0⟩]

def ethercatFrameFilter : List SockFilter :=
  [⟨0x28, 0, 0, 0x0000000c⟩, ⟨0x15, 0, 1, 0x000088a4⟩, ⟨0x06, 0, 0, 0xffffffff⟩, ⟨0x06, 0, 0, 0⟩]

/-- `vid | pcp << VLAN_PCP_SHIFT` as the filters compare it, with all its bits. -/
def TrafficClassConfig.filterTci (conf : TrafficClassConfig) : UInt32 :=
  conf.vid.toUInt32 ||| (conf.pcp.toUInt32 <<< 13)

def setK (filter : List SockFilter) (i : Nat) (k : UInt32) : List SockFilter :=
  filter.modify i fun ins => { ins with k }

/-- The filter a class attaches to its socket. UDP sockets have none. -/
def socketFilter (app : AppConfig) (frameType : StatFrameType) : List SockFilter :=
  let conf := app.classes frameType
  match frameType with
  | .tsnHigh => setK tsnHighFrameFilter 3 conf.filterTci
  | .tsnLow => setK tsnLowFrameFilter 3 conf.filterTci
  | .rtc => setK rtcFrameFilter 3 conf.filterTci
  | .rta => setK rtaFrameFilter 3 conf.filterTci
  | .dcp => setK dcpFrameFilter 3 conf.filterTci
  | .lldp => lldpFrameFilter
  | .genericL2 =>
    match conf.protocolType with
    | .etherCat => ethercatFrameFilter
    | .genericL2 => setK (setK genericL2FrameFilter 1 conf.etherType) 3 conf.filterTci
  | .udpHigh | .udpLow => []

def skfAdVlanTag : UInt32 := 44

/-- A packet whose outer tag the kernel has moved into its meta data. -/
def skb (bytes : List UInt8) (vlanTci : UInt16) : Packet :=
  ⟨bytes, fun k => if k = skfAdVlanTag then some vlanTci.toUInt32 else none⟩

/-- A tagged frame as a socket of the receiver gets it. -/
def untagged (frame : List UInt8) : Packet := skb (stripVlanTag frame) (be16At frame 14)

def profinetClasses : List StatFrameType := [.tsnHigh, .tsnLow, .rtc, .rta, .dcp]

/-- The first and the last frame id of a class. -/
def frameIdRange : StatFrameType → UInt16 × UInt16
  | .tsnHigh => (0x0100, 0x01ff)
  | .tsnLow => (0x0200, 0x03ff)
  | .rtc => (0x8000, 0xbbff)
  | .rta => (0xfc01, 0xfc02)
  | .dcp => (0xfefe, 0xfeff)
  | .lldp | .udpHigh | .udpLow | .genericL2 => (1, 0)

/-- What the filters of the PROFINET classes look at, in a frame on the wire. -/
structure ProfinetHeader (conf : TrafficClassConfig) (frameType : StatFrameType)
    (frame : List UInt8) : Prop where
  length : 20 ≤ frame.length
  tci : be16At frame 14 = conf.vlanTci
  etherType : be16At frame 16 = ethPProfinetRt
  frameId : be16At frame 18 = classFrameId frameType conf.securityMode

variable {conf : TrafficClassConfig} {frameType other : StatFrameType} {ctx : ThreadContext}
  {bytes frame : List UInt8} {tci : UInt16} {k low high : UInt32} {app : AppConfig}

theorem skb_read_half (bytes : List UInt8) (tci : UInt16) (off : Nat) :
    (skb bytes tci).read (.abs .half off) =
      if off + 2 ≤ bytes.length then some (be16At bytes off).toUInt32 else none := by
  rw [Packet.read]
  by_cases h : off + 2 ≤ bytes.length
  · have hlt := ofBe_lt (slice bytes off 2)
    rw [length_slice h] at hlt
    have hword : UInt32.ofNat (ofBe (slice bytes off 2)) = (be16At bytes off).toUInt32 := by
      rw [be16At, be16toh, ← UInt32.toNat_inj, UInt16.toNat_toUInt32, UInt16.toNat_ofNat',
        UInt32.toNat_ofNat']
      omega
    exact (if_pos h).trans ((congrArg some hword).trans (if_pos h).symm)
  · exact (if_neg h).trans (if_neg h).symm

theorem skb_read_vlanTag (bytes : List UInt8) (tci : UInt16) :
    (skb bytes tci).read (.ancillary skfAdVlanTag) = some tci.toUInt32 := rfl

/-- The conditions in the comment above the filter. -/
def profinetGuards (tci low high : UInt32) : List Guard :=
  [⟨some (.abs .half 12), .eq, 0x8892, true⟩, ⟨some (.ancillary skfAdVlanTag), .eq, tci, true⟩,
    ⟨some (.abs .half 14), .ge, low, true⟩, ⟨none, .gt, high, false⟩]

/-- The jumps of the table are those of the conditions. -/
theorem profinetFrameFilter_compiled (tci low high : UInt32) :
    (setK (profinetFrameFilter low high) 3 tci).mapM decode =
      some (compile (profinetGuards tci low high)) := rfl

theorem profinetFilter_accepts (bytes : List UInt8) (tci : UInt16) (k : UInt32)
    (low high : UInt16) :
    accepts (setK (profinetFrameFilter low.toUInt32 high.toUInt32) 3 k) (skb bytes tci) = true ↔
      16 ≤ bytes.length ∧ be16At bytes 12 = ethPProfinetRt ∧ tci.toUInt32 = k ∧
        low ≤ be16At bytes 14 ∧ be16At bytes 14 ≤ high := by
  rw [accepts_iff_meets (profinetFrameFilter_compiled _ _ _)]
  have hproto : (be16At bytes 12).toUInt32 = 0x8892 ↔ be16At bytes 12 = ethPProfinetRt :=
    @UInt16.toUInt32_inj _ ethPProfinetRt
  simp only [profinetGuards, Meets, Packet.value, skb_read_half, skb_read_vlanTag, Test.holds,
    Option.ite_none_right_eq_some, Option.some.injEq, decide_eq_true_eq, decide_eq_false_iff_not,
    exists_eq_left', UInt32.not_lt]
  constructor
  · rintro ⟨_, ⟨-, rfl⟩, htype, htci, _, ⟨hlen, rfl⟩, hlow, hhigh, -⟩
    exact ⟨hlen, hproto.mp htype, htci, UInt16.toUInt32_le.mp hlow, UInt16.toUInt32_le.mp hhigh⟩
  · rintro ⟨hlen, htype, htci, hlow, hhigh⟩
    exact ⟨_, ⟨by omega, rfl⟩, hproto.mpr htype, htci, _, ⟨hlen, rfl⟩,
      UInt16.toUInt32_le.mpr hlow, UInt16.toUInt32_le.mpr hhigh, trivial⟩

theorem socketFilter_accepts (app : AppConfig) (ht : frameType ∈ profinetClasses)
    (bytes : List UInt8) (tci : UInt16) :
    accepts (socketFilter app frameType) (skb bytes tci) = true ↔
      16 ≤ bytes.length ∧ be16At bytes 12 = ethPProfinetRt ∧
        tci.toUInt32 = (app.classes frameType).filterTci ∧
        (frameIdRange frameType).1 ≤ be16At bytes 14 ∧
        be16At bytes 14 ≤ (frameIdRange frameType).2 := by
  cases frameType with
  | tsnHigh => exact profinetFilter_accepts bytes tci _ 0x0100 0x01ff
  | tsnLow => exact profinetFilter_accepts bytes tci _ 0x0200 0x03ff
  | rtc => exact profinetFilter_accepts bytes tci _ 0x8000 0xbbff
  | rta => exact profinetFilter_accepts bytes tci _ 0xfc01 0xfc02
  | dcp => exact profinetFilter_accepts bytes tci _ 0xfefe 0xfeff
  | lldp | udpHigh | udpLow | genericL2 => simp [profinetClasses] at ht

theorem genericL2FrameFilter_compiled (etherType tci : UInt32) :
    (setK (setK genericL2FrameFilter 1 etherType) 3 tci).mapM decode =
      some (compile [⟨some (.abs .half 12), .eq, etherType, true⟩,
        ⟨some (.ancillary skfAdVlanTag), .eq, tci, true⟩]) := rfl

theorem genericL2Filter_accepts (bytes : List UInt8) (tci : UInt16) (etherType k : UInt32) :
    accepts (setK (setK genericL2FrameFilter 1 etherType) 3 k) (skb bytes tci) = true ↔
      14 ≤ bytes.length ∧ (be16At bytes 12).toUInt32 = etherType ∧ tci.toUInt32 = k := by
  rw [accepts_iff_meets (genericL2FrameFilter_compiled _ _)]
  simp only [Meets, Packet.value, skb_read_half, skb_read_vlanTag, Test.holds,
    Option.ite_none_right_eq_some, Option.some.injEq, decide_eq_true_eq, exists_eq_left', and_true]
  constructor
  · rintro ⟨_, ⟨hlen, rfl⟩, htype, htci⟩
    exact ⟨hlen, htype, htci⟩
  · rintro ⟨hlen, htype, htci⟩
    exact ⟨_, ⟨hlen, rfl⟩, htype, htci⟩

/-- No id is in the range of two classes. -/
theorem classFrameId_range (ht : frameType ∈ profinetClasses) (ho : other ∈ profinetClasses)
    (mode : SecurityMode) :
    (frameIdRange other).1 ≤ classFrameId frameType mode ∧
      classFrameId frameType mode ≤ (frameIdRange other).2 ↔ other = frameType := by
  revert ht ho
  cases frameType <;> cases other <;> cases mode <;> decide

theorem vlanTci_toUInt32 (h : conf.filterTci.toNat < 2 ^ 16) :
    conf.vlanTci.toUInt32 = conf.filterTci := by
  rw [← UInt32.toNat_inj, UInt16.toNat_toUInt32]
  exact Nat.mod_eq_of_lt h

/-- A frame with the header of its class passes the filter of this class and of no other one. -/
theorem ProfinetHeader.accepts_iff (h : ProfinetHeader (app.classes frameType) frameType frame)
    (ht : frameType ∈ profinetClasses) (ho : other ∈ profinetClasses)
    (htci : (app.classes frameType).filterTci.toNat < 2 ^ 16) :
    accepts (socketFilter app other) (untagged frame) = true ↔ other = frameType := by
  have hlen := h.length
  have hbytes (i : Nat) (hi : 16 ≤ i) (hi' : i + 2 ≤ 20) :
      be16At (stripVlanTag frame) (i - 4) = be16At frame i := by
    rw [be16At, slice_stripVlanTag hi (by omega), be16At]
  have htype : be16At (stripVlanTag frame) 12 = ethPProfinetRt :=
    (hbytes 16 (by decide) (by decide)).trans h.etherType
  have hid : be16At (stripVlanTag frame) 14 =
      classFrameId frameType (app.classes frameType).securityMode :=
    (hbytes 18 (by decide) (by decide)).trans h.frameId
  rw [untagged, socketFilter_accepts app ho, htype, hid, h.tci, vlanTci_toUInt32 htci,
    classFrameId_range ht ho, length_stripVlanTag (by omega)]
  constructor
  · rintro ⟨-, -, -, heq⟩
    exact heq
  · rintro rfl
    exact ⟨by omega, rfl, rfl, rfl⟩

theorem initializeFrame_profinet (hctx : ctx.ForClass conf frameType)
    (ht : frameType ∈ profinetClasses) (hm : 20 ≤ mem.length) (bufferLength : Nat)
    (source destination : MacAddress) :
    let frame := initializeFrame ctx mem bufferLength source destination
    be16At frame 14 = conf.vlanTci ∧ be16At frame 16 = ethPProfinetRt ∧
      be16At frame 18 = classFrameId frameType conf.securityMode := by
  obtain ⟨rfl, rfl, hid, -⟩ := hctx
  intro frame
  have hfields {mode : SecurityMode} {frameId : UInt16}
      (hf : frame = initializeProfinetFrame mode mem bufferLength source destination
        ctx.conf.payloadPattern.bytes ctx.conf.vlanTci frameId) :
      be16At frame 14 = ctx.conf.vlanTci ∧ be16At frame 16 = ethPProfinetRt ∧
        be16At frame 18 = frameId := by
    rw [hf]
    cases mode with
    | none | ao | ae =>
      exact ⟨be16At_writeAll (k := 4) rfl (by omega) (by simp),
        be16At_writeAll (k := 5) rfl (by omega) (by simp),
        be16At_writeAll (k := 6) rfl (by omega) (by simp)⟩
  rw [← hid]
  simp only [frame, initializeFrame] at hfields ⊢
  cases hft : ctx.frameType with
  | tsnHigh | tsnLow | rtc | rta =>
    rw [hft] at hfields
    exact hfields rfl
  | dcp =>
    rw [hft] at hfields hid
    rw [hid]
    exact hfields rfl
  | lldp | udpHigh | udpLow | genericL2 =>
    rw [hft] at ht
    simp [profinetClasses] at ht

/-- Preparing and marking frames keeps the header. -/
theorem keepsFrames_profinet (hctx : ctx.ForClass conf frameType) (ht : frameType ∈ profinetClasses)
    (hL : 36 ≤ conf.frameLength) (monitor : Option MacAddress) :
    KeepsFrames ctx (ProfinetHeader conf frameType)
      (fun frame _ _ => ProfinetHeader conf frameType frame) monitor := by
  intro frame s t h
  have hmeta : 20 ≤ getMetaDataOffset frameType conf.securityMode := by
    revert ht
    cases frameType <;> cases conf.securityMode <;> decide
  have hl2 : frameType ≠ .genericL2 := by
    rintro rfl
    simp [profinetClasses] at ht
  have hview (i : Nat) (hi : 6 ≤ i) (hi' : i + 2 ≤ 20) :
      be16At (monitorFrame monitor (ctx.prepared frame s t)) i = be16At frame i := by
    rw [be16At, monitored_slice hctx hi _ _ _ monitor frame s t, be16At]
    · omega
    · exact Nat.le_trans hi' (Nat.le_sub_of_add_le hL)
    · exact fun h => absurd h hl2
  have hheader : ProfinetHeader conf frameType (monitorFrame monitor (ctx.prepared frame s t)) := by
    refine ⟨?_, ?_, ?_, ?_⟩
    · rw [length_monitorFrame, ThreadContext.prepared, length_prepareFrameForTx]
      exact h.length
    · rw [hview 14 (by decide) (by decide), h.tci]
    · rw [hview 16 (by decide) (by decide), h.etherType]
    · rw [hview 18 (by decide) (by decide), h.frameId]
  exact ⟨hheader, hheader⟩

section Start
variable {build : BuildConfig} {securityInit : SecurityAlgorithm → List UInt8 → Aead.Cipher}
  {source : MacAddress} {tx sender : ThreadContext} {umem : List UInt8}

theorem start_profinet (htx : tcThreadsCreate securityInit conf frameType source = some tx)
    (hinit : tcTxThreadInit build tx = some sender) (ht : frameType ∈ profinetClasses)
    (hL : 36 ≤ conf.frameLength)
    (humem : umem.length = xskRingConsDefaultNumDescs * maxFrameSize) :
    ∀ slot < txSlots conf,
      ProfinetHeader conf frameType ((startTable build sender umem).table slot) := by
  intro slot hslot
  have hroom := txMetadataRoom_le build conf
  have hsize : maxFrameSize = 4096 := rfl
  obtain ⟨ctx, chunk, hctx, hchunk, hlen, hview⟩ := startTable_chunk htx hinit humem hslot
  obtain ⟨htci, htype, hid⟩ := @initializeFrame_profinet conf frameType ctx chunk hctx ht (by omega)
    (maxFrameSize - txMetadataRoom build conf) source conf.l2Destination
  have hbytes (i : Nat) (hi : i + 2 ≤ 20) :
      be16At ((startTable build sender umem).table slot) i =
        be16At (initializeFrame ctx chunk (maxFrameSize - txMetadataRoom build conf) source
          conf.l2Destination) i := by
    rw [be16At, hview i 2 (by omega) (by omega), be16At]
  refine ⟨by omega, ?_, ?_, ?_⟩
  · rw [hbytes 14 (by decide), htci]
  · rw [hbytes 16 (by decide), htype]
  · rw [hbytes 18 (by decide), hid]

theorem profinetClasses_frameLength (hs : configSanityCheck build app = true)
    (ht : frameType ∈ profinetClasses) : 36 ≤ (app.classes frameType).frameLength := by
  have hfit := (configSanityCheck_frameLength hs frameType).2
  generalize app.classes frameType = conf at hfit
  have hmin : 36 ≤ minFrameSize conf frameType := by
    revert ht
    cases frameType <;> cases hm : conf.securityMode <;>
      simp [minFrameSize, profinetMinFrameSize, minProfinetFrameSize,
        minSecureProfinetFrameSize, hm, profinetClasses]
  omega

/-- A filter accepts exactly the packets with the protocol, the tag and the frame ids of its class,
and every frame a PROFINET class sends passes its own filter and no other one, as long as all frames
have a place in their memory. -/
theorem socket_filters_classify (app : AppConfig) (ht : frameType ∈ profinetClasses) :
    (∀ bytes tci, accepts (socketFilter app frameType) (skb bytes tci) = true ↔
      16 ≤ bytes.length ∧ be16At bytes 12 = ethPProfinetRt ∧
        tci.toUInt32 = (app.classes frameType).filterTci ∧
        (frameIdRange frameType).1 ≤ be16At bytes 14 ∧
        be16At bytes 14 ≤ (frameIdRange frameType).2) ∧
    ∀ (build : BuildConfig) (securityInit : SecurityAlgorithm → List UInt8 → Aead.Cipher)
      (source : MacAddress) (tx : ThreadContext) (umem : List UInt8)
      (monitor : Option MacAddress) (passes : List TxPass),
      configSanityCheck build app = true → (app.classes frameType).filterTci.toNat < 2 ^ 16 →
      threadsCreate securityInit app frameType source = some tx →
      umem.length = xskRingConsDefaultNumDescs * maxFrameSize →
        ((∃ sender, tcTxThreadInit build tx = some sender ∧
          ∀ sent ∈ ((generator build monitor sender).run (Generator.start build sender umem)
              passes).2, ∀ f ∈ sent, ∀ other ∈ profinetClasses,
            (accepts (socketFilter app other) (untagged f.bytes) = true ↔ other = frameType)) ↔
        txMetadataRoom build (app.classes frameType) + initializedLength tx ≤ maxFrameSize ∧
          ((app.classes frameType).xdpEnabled = true ∨
            (app.classes frameType).numFramesPerCycle.toNat ≤ 2 ^ 19)) := by
  refine ⟨socketFilter_accepts app ht, ?_⟩
  intro build securityInit source tx umem monitor passes hs htci htx humem
  have hudp : frameType ≠ .udpHigh ∧ frameType ≠ .udpLow := by
    revert ht
    cases frameType <;> decide
  have hL := profinetClasses_frameLength hs ht
  have hcreate := threadsCreate_tc hudp htx
  have hclass := (tcThreadsCreate_created hcreate).toForClass
  rw [← hclass.conf_eq, ← tcTxThreadInit_isSome]
  refine ⟨fun ⟨sender, hinit, _⟩ => ⟨sender, hinit⟩, fun ⟨sender, hinit⟩ => ⟨sender, hinit, ?_⟩⟩
  intro sent hsent f hf other ho
  obtain ⟨hsender, -, hbound, -⟩ := tcTxThreadInit_sender hclass hinit
  have htable := start_profinet hcreate hinit ht hL humem
  rw [generator_run_table (by rw [hsender.conf_eq]; exact (configSanityCheck_frameLength hs _).1)
    (by rw [hsender.conf_eq]; exact hbound)] at hsent
  obtain ⟨p, hp⟩ := System.exists_mem_zip _ hsent
  have hheader := slotGenerator_forall (keepsFrames_profinet hsender ht hL none)
    (keepsFrames_profinet hsender ht hL monitor) startTable_rotation
    (by rw [hsender.conf_eq]; exact htable) passes _ hp f hf
  exact hheader.accepts_iff ht ho htci

end Start

/-- All classes have the tag of VID 5 and PCP 6, and one of them is encrypted. -/
def sharedTagConfig : AppConfig :=
  { encryptedConfig false with
    classes := fun t => { (encryptedConfig false).classes t with vid := 5, pcp := 6 } }

/-- The frames of the encrypted class go to its socket only. -/
theorem socket_filters_classify_shared :
    configSanityCheck fullBuild sharedTagConfig = true ∧
    ∃ tx, threadsCreate chachaInit sharedTagConfig .tsnHigh defaultDestination = some tx ∧
      ∃ sender, tcTxThreadInit fullBuild tx = some sender ∧
        ∀ sent ∈ ((generator fullBuild none sender).run (Generator.start fullBuild sender
            (List.replicate (xskRingConsDefaultNumDescs * maxFrameSize) 0))
            (List.replicate 10 readyPass)).2,
          ∀ f ∈ sent, ∀ other ∈ profinetClasses,
            (accepts (socketFilter sharedTagConfig other) (untagged f.bytes) = true ↔
              other = .tsnHigh) := by
  obtain ⟨tx, htx⟩ := tcThreadsCreate_xdp chachaInit .tsnHigh defaultDestination
    (show (sharedTagConfig.classes .tsnHigh).xdpEnabled = true from rfl)
  have hclass := (tcThreadsCreate_created htx).toForClass
  have htx := @threadsCreate_of_tc _ _ _ _ _ (by decide) (by decide) htx
  refine ⟨by decide, tx, htx, ((socket_filters_classify sharedTagConfig (by decide)).2 fullBuild
    chachaInit _ tx _ none _ (by decide) (by decide) htx List.length_replicate).mpr ⟨?_, .inl rfl⟩⟩
  rw [initializedLength, hclass.conf_eq, hclass.frameType_eq]
  decide

/-- The same class over AF_PACKET, with one frame more than its memory can address. -/
def crowdedTagConfig : AppConfig :=
  sharedTagConfig.setClass .tsnHigh fun conf =>
    { conf with xdpEnabled := false, numFramesPerCycle := 524289 }

/-- The last frame would be set up 2 GiB before the memory of the frames, without any header. -/
theorem socket_filters_classify_crowded :
    configSanityCheck fullBuild crowdedTagConfig = true ∧
    (crowdedTagConfig.classes .tsnHigh).filterTci.toNat < 2 ^ 16 ∧
    frameIdx (cInt 524288) = -2 ^ 31 ∧
    ∃ tx, threadsCreate chachaInit crowdedTagConfig .tsnHigh defaultDestination = some tx ∧
      tcTxThreadInit fullBuild tx = none :=
  ⟨by decide, by decide, by decide, crowded_threads fullBuild crowdedTagConfig chachaInit
    defaultDestination (by decide) (by decide) rfl (by decide) (by decide)⟩

end RtcTestbench
