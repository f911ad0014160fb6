import RtcTestbench.InitialVectors
import RtcTestbench.MirrorFilter
import RtcTestbench.TxSlots

namespace RtcTestbench
open Buffer Machine
set_option autoImplicit true

/-- `security_length` of a secure frame, with or without its tag. -/
def securityLength (frameData : List UInt8) : UInt16 :=
  be16At frameData (sizeOfEthHeader frameData + 8)

/-- The header gives the length of what lies between the Ethernet header and the checksum, in bits 0
to 10. -/
def DescribesFrame (frameLength : Nat) (frameData : List UInt8) : Prop :=
  (securityLength frameData).toNat =
      frameLength - sizeofVlanEthernetHeader - sizeofSecurityChecksum ∧
    securityLength frameData &&& 0xf800 = 0

/-- What a mirror sends for a frame it has accepted: the frame in its chunk, or the one that goes
into the buffer. -/
def SendsBack (ctx : ThreadContext) (acc : RxAccepted) (sent : List UInt8) : Prop :=
  if ctx.conf.xdpEnabled then sent = slice acc.frameData 0 ctx.conf.frameLength
  else acc.ctx.mirrorBuffer = ringBufferAdd ctx.mirrorBuffer sent

/-- What the receive function is called with: a chunk with room for the frame that goes back, or a
frame that has passed the filter. -/
def Reception.Arrives (ctx : ThreadContext) (r : Reception) : Prop :=
  if ctx.conf.xdpEnabled then ctx.conf.frameLength ≤ r.frameData.length else r.PassesFilter ctx

/-- The frame has its tag and the given length in its header. -/
structure Labelled (x : UInt16) (frame : List UInt8) : Prop where
  tag : be16At frame 12 = ethP8021Q
  label : be16At frame 26 = x

variable {ctx tx sender : ThreadContext} {conf : TrafficClassConfig} {frameType : StatFrameType}
  {frame mem frameData umem pattern : List UInt8} {x : UInt16} {L len : Nat} {build : BuildConfig}
  {app : AppConfig} {source : MacAddress} {acc : RxAccepted} {d : RxDecoded} {r : Reception}
  {securityInit : SecurityAlgorithm → List UInt8 → Aead.Cipher} {monitor : Option MacAddress}

theorem Labelled.securityLength_eq (h : Labelled x frame) : securityLength frame = x := by
  have hsize : sizeOfEthHeader frame = 18 := by
    rw [sizeOfEthHeader, vlanTagMissing, h.tag]
    rfl
  rw [securityLength, hsize]
  exact h.label

theorem be16At_congr (h : slice frame i 2 = slice mem j 2) : be16At frame i = be16At mem j := by
  rw [be16At, be16At, h]

/-- The header is written once, with the length of the buffer. -/
theorem initializeSecureProfinetFrame_labelled (mode : SecurityMode) (bufferLength : Nat)
    (source destination : MacAddress) (tci frameId : UInt16) (hm : 28 ≤ mem.length) :
    Labelled (UInt16.ofNat (bufferLength - sizeofVlanEthernetHeader - sizeofSecurityChecksum))
      (initializeSecureProfinetFrame mode mem bufferLength source destination pattern tci
        frameId) := by
  constructor
  · exact be16At_writeAll (k := 3) rfl (by omega) (by simp)
  · exact be16At_writeAll (k := 8) rfl (by omega) (by simp)

/-- Preparing a frame does not touch the label, nor does the destination of the monitor. -/
theorem keepsFrames_labelled (hctx : ctx.ForClass conf frameType)
    (hc : CountedClass conf frameType) (hmode : conf.securityMode ≠ .none)
    (x : UInt16) (monitor : Option MacAddress) :
    KeepsFrames ctx (Labelled x) (fun frame _ _ => Labelled x frame) monitor := by
  intro frame s t hframe
  obtain ⟨hmeta, hlong⟩ := hc.secure_layout hmode
  have hec : frameType ≠ .genericL2 := by
    rintro rfl
    simpa using hc.secured hmode
  have hview (i : Nat) (h6 : 6 ≤ i) (hi : i + 2 ≤ 28) :
      slice (monitorFrame monitor (ctx.prepared frame s t)) i 2 = slice frame i 2 := by
    apply monitored_slice hctx h6
    · rw [hmeta]
      exact hi
    · rw [sizeofSecurityChecksum]
      omega
    · exact fun h => absurd h hec
  have hlabelled : Labelled x (monitorFrame monitor (ctx.prepared frame s t)) := by
    constructor
    · exact (be16At_congr (hview 12 (by decide) (by decide))).trans hframe.tag
    · exact (be16At_congr (hview 26 (by decide) (by decide))).trans hframe.label
  exact ⟨hlabelled, hlabelled⟩

theorem startTable_labelled (htx : tcThreadsCreate securityInit conf frameType source = some tx)
    (hinit : tcTxThreadInit build tx = some sender)
    (ht : frameType ∈ [.tsnHigh, .tsnLow, .rtc, .rta]) (hmode : conf.securityMode ≠ .none)
    (hL : 28 ≤ conf.frameLength)
    (humem : umem.length = xskRingConsDefaultNumDescs * maxFrameSize) :
    ∀ slot < txSlots conf,
      Labelled (UInt16.ofNat (maxFrameSize - txMetadataRoom build conf -
          sizeofVlanEthernetHeader - sizeofSecurityChecksum))
        ((startTable build sender umem).table slot) := by
  intro slot hslot
  obtain ⟨ctx, chunk, hctx, hchunk, -, hview⟩ := startTable_chunk htx hinit humem hslot
  have hroom := txMetadataRoom_le build conf
  have hsize : maxFrameSize = 4096 := rfl
  have hlabelled := @initializeSecureProfinetFrame_labelled chunk conf.payloadPattern.bytes
    conf.securityMode (maxFrameSize - txMetadataRoom build conf) source conf.l2Destination
    conf.vlanTci ctx.frameId (by omega)
  rw [← initializeFrame_secure hctx ht hmode] at hlabelled
  constructor
  · exact (be16At_congr (hview 12 2 (by omega) (by omega))).trans hlabelled.tag
  · exact (be16At_congr (hview 26 2 (by omega) (by omega))).trans hlabelled.label

/-- Every frame of a run says how long its buffer is. -/
theorem generator_labelled (hs : configSanityCheck build app = true)
    (ht : frameType ∈ [.tsnHigh, .tsnLow, .rtc, .rta])
    (hmode : (app.classes frameType).securityMode ≠ .none)
    (htx : threadsCreate securityInit app frameType source = some tx)
    (hinit : tcTxThreadInit build tx = some sender)
    (humem : umem.length = xskRingConsDefaultNumDescs * maxFrameSize)
    (monitor : Option MacAddress) (passes : List TxPass) :
    ∀ f ∈ ((generator build monitor sender).run (Generator.start build sender umem)
        passes).2.flatten,
      Labelled (UInt16.ofNat (maxFrameSize - txMetadataRoom build (app.classes frameType) -
        sizeofVlanEthernetHeader - sizeofSecurityChecksum)) f.bytes := by
  obtain ⟨hsender, hc, -, -⟩ := secured_class hs ht hmode htx hinit
  have hlong := (hc.secure_layout hmode).2
  have hcreate := threadsCreate_tc (secured_tc ht) htx
  obtain ⟨-, -, hbound, -⟩ :=
    tcTxThreadInit_sender (tcThreadsCreate_created hcreate).toForClass hinit
  have htable := startTable_labelled hcreate hinit ht hmode (by omega) humem
  rw [generator_run_table (by rw [hsender.conf_eq]; exact hc.fits_chunk)
    (by rw [hsender.conf_eq]; exact hbound)]
  intro f hf
  obtain ⟨frames, hframes, hf⟩ := List.mem_flatten.mp hf
  obtain ⟨p, hp⟩ := System.exists_mem_zip _ hframes
  exact slotGenerator_forall (keepsFrames_labelled hsender hc hmode _ none)
    (keepsFrames_labelled hsender hc hmode _ monitor) startTable_rotation
    (by rw [hsender.conf_eq]; exact htable) passes _ hp f hf

/-- No buffer is short enough for the header to describe the frame in it. -/
theorem Labelled.not_describes {room : Nat}
    (h : Labelled (UInt16.ofNat (maxFrameSize - room - sizeofVlanEthernetHeader -
      sizeofSecurityChecksum)) frame) (hroom : room ≤ 24) (hL : L < 2048 + 34) :
    ¬ DescribesFrame L frame := by
  rintro ⟨hlength, -⟩
  rw [h.securityLength_eq, UInt16.toNat_ofNat'] at hlength
  simp only [maxFrameSize, sizeofVlanEthernetHeader, sizeofSecurityChecksum] at hlength
  omega

/-- Decoding a secure frame leaves the protocol and the label. -/
theorem DecodeKeeps.header (hd : DecodeKeeps ctx frameData len d)
    (hmeta : ctx.metaDataOffset = 28) :
    be16At d.frameData 12 = be16At frameData 12 ∧
      be16At d.frameData (sizeOfEthHeader frameData + 8) = securityLength frameData := by
  have hat : ctx.rxMetaData frameData = sizeOfEthHeader frameData + 10 := by
    rw [ThreadContext.rxMetaData, hmeta]
    rfl
  have hsize : 14 ≤ sizeOfEthHeader frameData := by
    rw [sizeOfEthHeader]
    split <;> decide
  constructor
  · exact be16At_congr (hd.keeps _ _ (by omega))
  · exact be16At_congr (hd.keeps _ _ (by omega))

theorem reflectFrame_labelled (vlanTci : UInt16) (hm : 12 ≤ frame.length) :
    Labelled (be16At frame 22) (reflectFrame vlanTci frame) := by
  obtain ⟨htag, hrest⟩ := slice_reflectFrame hm vlanTci
  constructor
  · rw [be16At, htag, be16toh_be16]
  · exact be16At_congr (hrest 22 2 (by decide))

theorem DecodeKeeps.reflected (hd : DecodeKeeps ctx frameData len d)
    (hmeta : ctx.metaDataOffset = 28) (hmissing : vlanTagMissing frameData = true)
    (hlen : 24 ≤ len) (hroom : len ≤ frameData.length) (vlanTci : UInt16) :
    Labelled (securityLength frameData) (reflectFrame vlanTci (slice d.frameData 0 len)) := by
  have hbuf := hd.length_eq
  have hsize : sizeOfEthHeader frameData = 14 := by
    rw [sizeOfEthHeader, hmissing]
    rfl
  have hlabel := (hd.header hmeta).2
  rw [hsize] at hlabel
  have hframe : (slice d.frameData 0 len).length = len := length_slice (by omega)
  have hreflected := @reflectFrame_labelled (slice d.frameData 0 len) vlanTci (by omega)
  rwa [be16At, slice_slice _ (by omega), Nat.zero_add, ← be16At, hlabel] at hreflected

section Mirror
variable (h : ctx.VlanReceiver) (hmeta : ctx.metaDataOffset = 28)
  (hm : ctx.conf.rxMirrorEnabled = true)
include h hmeta hm

/-- A frame without its tag is stored with the label it came with. -/
theorem receiveFrame_stored_labelled (hx : ctx.conf.xdpEnabled = false)
    (huntagged : ctx.etherType ≠ ethP8021Q) (hr : r.PassesFilter ctx)
    (hok : receiveFrame r.env ctx r.frameData r.len = .ok acc) :
    ∃ sent, acc.ctx.mirrorBuffer = ringBufferAdd ctx.mirrorBuffer sent ∧
      Labelled (securityLength r.frameData) sent := by
  have hmissing := hr.untagged huntagged
  obtain ⟨d, hd, hstored⟩ := receiveFrame_stored h hm hx hmissing hr hok
  have hacc := (receiveFrame_accepts_iff h r.env r.frameData r.len).mp ⟨acc, hok⟩
  have hlen := h.metaData_within hacc
  have hshift := (h.metaData_fits r.frameData).2.2
  rw [hmissing, if_pos rfl, hmeta] at hshift
  exact ⟨_, hstored, hd.reflected hmeta hmissing (by omega) hr.room _⟩

theorem receiveFrame_inPlace_labelled (hx : ctx.conf.xdpEnabled = true)
    (hroom : ctx.conf.frameLength ≤ frameData.length)
    (hok : receiveFrame env ctx frameData len = .ok acc) :
    Labelled (securityLength frameData) (slice acc.frameData 0 ctx.conf.frameLength) := by
  obtain ⟨hacc, d, hd, hframe⟩ := receiveFrame_chunk h hm hx hok
  rw [hframe]
  have hlen := hacc.length
  obtain ⟨hfits, -, hshift⟩ := h.metaData_fits frameData
  have hmax := h.counted.fits_chunk
  have hbuf := hd.length_eq
  obtain ⟨hproto, hlabel⟩ := hd.header hmeta
  rw [hmeta] at hshift hfits
  cases hmissing : vlanTagMissing frameData with
  | true =>
    rw [hmissing, if_pos rfl] at hlen
    have hether : ctx.etherType = be16At d.frameData 12 := by
      rw [hproto]
      exact (hacc.proto hmissing).symm
    rw [if_pos rfl, hether, ← hlen]
    have hreflected := hd.reflected hmeta hmissing (by omega) (by omega) ctx.conf.vlanTci
    rw [← slice_inPlace (by omega) (by omega) (by omega)] at hreflected
    exact hreflected
  | false =>
    -- the tag is in its place, and what is behind the addresses stays
    rw [hmissing, if_neg Bool.false_ne_true] at hlen
    have hsize : sizeOfEthHeader frameData = 18 := by
      rw [sizeOfEthHeader, hmissing]
      rfl
    rw [hsize] at hlabel
    have hview (i : Nat) (h12 : 12 ≤ i) (hi : i + 2 ≤ 44) :
        slice (slice (swapMacAddresses d.frameData len) 0 ctx.conf.frameLength) i 2 =
          slice d.frameData i 2 := by
      rw [slice_slice _ (by omega), Nat.zero_add]
      exact slice_swapMacAddresses_rest (by omega) _ h12
    constructor
    · apply (be16At_congr (hview 12 (by decide) (by decide))).trans
      rw [hproto]
      exact bne_eq_false_iff_eq.mp hmissing
    · exact (be16At_congr (hview 26 (by decide) (by decide))).trans hlabel

/-- A mirror sends a frame back with the length it came with. -/
theorem receiveFrame_labelled (huntagged : ctx.etherType ≠ ethP8021Q)
    (hr : r.Arrives ctx) (hok : receiveFrame r.env ctx r.frameData r.len = .ok acc) :
    ∃ sent, SendsBack ctx acc sent ∧ Labelled (securityLength r.frameData) sent := by
  unfold Reception.Arrives at hr
  unfold SendsBack
  cases hx : ctx.conf.xdpEnabled with
  | true =>
    rw [hx, if_pos rfl] at hr
    refine ⟨slice acc.frameData 0 ctx.conf.frameLength, ?_, ?_⟩
    · rw [if_pos rfl]
    · exact receiveFrame_inPlace_labelled h hmeta hm hx hr hok
  | false =>
    rw [hx, if_neg Bool.false_ne_true] at hr
    obtain ⟨sent, hstored, hlabelled⟩ :=
      receiveFrame_stored_labelled h hmeta hm hx huntagged hr hok
    refine ⟨sent, ?_, hlabelled⟩
    rw [if_neg Bool.false_ne_true]
    exact hstored

end Mirror

theorem Labelled.describes_iff (h : Labelled (securityLength frameData) frame) :
    DescribesFrame L frame ↔ DescribesFrame L frameData := by
  rw [DescribesFrame, DescribesFrame, h.securityLength_eq]

/-- The header of a generated frame never describes the frame, on neither transport: it is written
for the whole buffer. A mirror hands the header on, and a frame it sends is described exactly if the
received one was. -/
theorem secure_header_describes (hs : configSanityCheck build app = true)
    (ht : frameType ∈ [.tsnHigh, .tsnLow, .rtc, .rta])
    (hmode : (app.classes frameType).securityMode ≠ .none)
    (hL : (app.classes frameType).frameLength < 2048 + 34)
    (htx : threadsCreate securityInit app frameType source = some tx)
    (hinit : tcTxThreadInit build tx = some sender)
    (humem : umem.length = xskRingConsDefaultNumDescs * maxFrameSize) :
    let conf := app.classes frameType
    (∀ monitor passes, ∀ f ∈ ((generator build monitor sender).run
        (Generator.start build sender umem) passes).2.flatten,
      ¬ DescribesFrame conf.frameLength f.bytes) ∧
    (conf.rxMirrorEnabled = true →
      Aead.Ideal (securityInit conf.securityAlgorithm conf.securityKey.bytes) →
      ∀ ctx, tx.SameClass ctx → ∀ (r : Reception) acc, r.Arrives ctx →
        receiveFrame r.env ctx r.frameData r.len = .ok acc →
        ∃ sent, SendsBack ctx acc sent ∧
          (DescribesFrame conf.frameLength sent ↔
            DescribesFrame conf.frameLength r.frameData)) := by
  intro conf
  obtain ⟨-, hc, -, -⟩ := secured_class hs ht hmode htx hinit
  constructor
  · intro monitor passes f hf
    have hlabelled := generator_labelled hs ht hmode htx hinit humem monitor passes f hf
    exact hlabelled.not_describes (txMetadataRoom_le _ _) hL
  · intro hm hcipher ctx hsame r acc hr hok
    have hcreate := threadsCreate_tc (secured_tc ht) htx
    have hclass := (tcThreadsCreate_created hcreate).toForClass
    have hvlan : frameType ∈ [.tsnHigh, .tsnLow, .rtc, .rta, .genericL2] :=
      List.mem_append_left [StatFrameType.genericL2] ht
    have hreceiver := hsame.vlanReceiver (tcThreadsCreate_vlanReceiver hcreate hvlan hc hcipher)
    have hmeta : ctx.metaDataOffset = 28 := by
      rw [hsame.metaDataOffset_eq, hclass.metaDataOffset_eq]
      exact (hc.secure_layout hmode).1
    have hether : ctx.etherType ≠ ethP8021Q := by
      have hl2 : ctx.frameType ≠ .genericL2 := by
        rw [hsame.frameType_eq, hclass.frameType_eq]
        rintro rfl
        simp at ht
      rw [ThreadContext.etherType, if_neg hl2]
      decide
    have hmirror : ctx.conf.rxMirrorEnabled = true := by
      rw [hsame.conf_eq, hclass.conf_eq]
      exact hm
    obtain ⟨sent, hsent, hlabelled⟩ := receiveFrame_labelled hreceiver hmeta hmirror hether hr hok
    exact ⟨sent, hsent, hlabelled.describes_iff⟩

/-- The frames of an encrypted class over AF_XDP. -/
theorem secure_header_describes_encrypted :
    ∃ tx sender, threadsCreate chachaInit (encryptedConfig false) .tsnHigh defaultDestination =
        some tx ∧
      tcTxThreadInit fullBuild tx = some sender ∧
      ∀ monitor passes, ∀ f ∈ ((generator fullBuild monitor sender).run
          (Generator.start fullBuild sender encryptedUmem) passes).2.flatten,
        ¬ DescribesFrame 128 f.bytes := by
  obtain ⟨tx, sender, htx, hinit, -, -⟩ := encryptedConfig_threads
  refine ⟨tx, sender, htx, hinit, ?_⟩
  exact (secure_header_describes (by decide) (by simp) (by decide) (by decide) htx hinit
    (show encryptedUmem.length = _ from List.length_replicate)).1

/-- The first frame is 128 bytes long, its header says 4062 bytes instead of 94, in a field of 11
bits. -/
theorem secure_header_says_4062 :
    configSanityCheck fullBuild (encryptedConfig false) = true ∧
    ((encryptedConfig false).classes .tsnHigh).frameLength = 128 ∧
    ∃ tx sender f, threadsCreate chachaInit (encryptedConfig false) .tsnHigh defaultDestination =
        some tx ∧
      tcTxThreadInit fullBuild tx = some sender ∧
      ((generator fullBuild none sender).run (Generator.start fullBuild sender encryptedUmem)
        [readyPass]).2 = [[f]] ∧
      securityLength f.bytes = 4062 ∧ securityLength f.bytes &&& 0xf800 ≠ 0 ∧
      ¬ DescribesFrame 128 f.bytes := by
  obtain ⟨tx, sender, f, htx, hinit, -, hf, -⟩ := encryptedPair_frame
    (show encryptedUmem.length = _ from List.length_replicate)
  have hs : configSanityCheck fullBuild (encryptedConfig false) = true := by decide
  have hrun : ((generator fullBuild none sender).run
      (Generator.start fullBuild sender encryptedUmem) [readyPass]).2 = [[f]] := by
    rw [System.run_cons, hf]
    rfl
  have hlabelled := generator_labelled hs (by simp) (by decide) htx hinit
    (show encryptedUmem.length = _ from List.length_replicate) none [readyPass] f (by
      rw [hrun]
      exact List.mem_singleton_self f)
  have hlength : securityLength f.bytes = 4062 := hlabelled.securityLength_eq.trans (by decide)
  refine ⟨hs, by decide, tx, sender, f, htx, hinit, hrun, hlength, ?_, ?_⟩
  · rw [hlength]
    decide
  · exact hlabelled.not_describes (by decide) (by decide)

end RtcTestbench
