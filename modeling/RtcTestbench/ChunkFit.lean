import RtcTestbench.ConfigFile
import RtcTestbench.MonitorMark
import RtcTestbench.PacketSend
import RtcTestbench.XdpGenerator

namespace RtcTestbench
open Buffer
set_option autoImplicit true

/-- The UDP threads have their own loop: one frame, no AF_XDP and no metadata in front of it. -/
def ThreadContext.isUdp (ctx : ThreadContext) : Bool := tcUdp.contains ctx.frameType

def ThreadContext.usesXdp (ctx : ThreadContext) : Bool := !ctx.isUdp && ctx.conf.xdpEnabled

/-- The metadata in front of a frame. -/
def ThreadContext.headroom (build : BuildConfig) (ctx : ThreadContext) : Nat :=
  if ctx.isUdp then 0 else txMetadataRoom build ctx.conf

/-- The number of frames that are set up. -/
def ThreadContext.txSlots (ctx : ThreadContext) : Nat :=
  if ctx.isUdp then 1
  else if ctx.conf.xdpEnabled then xskRingConsDefaultNumDescs
  else ctx.conf.numFramesPerCycle.toNat

/-- Applied at the address `addr`, the function touches bytes of the slot only. Addresses are
relative to the first slot. -/
def InSlot (slot : Nat) (addr : Int) (f : List UInt8 → List UInt8) : Prop :=
  ∀ k, Touches f k → (slot * maxFrameSize : Int) ≤ addr + k ∧
    addr + k < (slot * maxFrameSize + maxFrameSize : Int)

def setUp (build : BuildConfig) (ctx : ThreadContext) (frame : List UInt8) : List UInt8 :=
  initializeFrame ctx frame (maxFrameSize - ctx.headroom build) ctx.source ctx.conf.l2Destination

/-- A frame is prepared with the payload pattern that the copy holds at that time. -/
def preparedWith (ctx : ThreadContext) (copy : List UInt8) (sequenceCounter txTimestamp : UInt64)
    (frame : List UInt8) : List UInt8 :=
  (prepareFrame { ctx with frameCopy := copy } frame sequenceCounter txTimestamp).1

/-- Every frame, the copy for AE included, is set up and prepared inside its own slot, and every
descriptor of the generator stays inside its chunk. -/
structure FramesFit (build : BuildConfig) (ctx : ThreadContext) : Prop where
  frames : ∀ slot < ctx.txSlots,
    InSlot slot (frameIdx (cInt slot) + ctx.headroom build) (setUp build ctx)
  copy : ctx.isUdp = false →
    InSlot 0 (frameIdx (cInt (0 : Nat)) + ctx.headroom build) (setUp build ctx)
  packets : ctx.usesXdp = false → ∀ slot < ctx.txSlots, ∀ copy s t, copy.length = maxFrameSize →
    InSlot slot (frameIdx (cInt slot)) (preparedWith ctx copy s t)
  descs : ctx.usesXdp = true → ∀ g : XdpGenerator, ∀ desc ∈ g.descs build ctx,
    desc.addr + desc.len ≤ (desc.addr / xdpFrameSize + 1) * xdpFrameSize ∧
      ∀ copy s t, copy.length = maxFrameSize →
        InSlot (desc.addr / xdpFrameSize) desc.addr (preparedWith ctx copy s t)

theorem initializeFrame_writes (ctx : ThreadContext) (frame : List UInt8) (frameLength : Nat)
    (source destination : MacAddress) :
    ∃ ws, initializeFrame ctx frame frameLength source destination = writeAll frame ws ∧
      ∀ w ∈ ws, w.1 + w.2.length ≤ max frameLength (initializedLength ctx) := by
  have hsource := source.length_eq
  have hdestination := destination.length_eq
  unfold initializeFrame initializedLength
  dsimp only
  cases ctx.frameType <;> cases ctx.conf.securityMode <;> cases ctx.conf.protocolType
  all_goals
    refine ⟨_, rfl, ?_⟩
    simp only [List.forall_mem_cons, List.not_mem_nil, false_imp_iff, implies_true, and_true,
      List.length_replicate, List.length_cons, List.length_nil, length_be16, length_be32,
      hsource, hdestination, sizeofVlanEthernetHeader, sizeofProfinetRtHeader,
      sizeofProfinetSecureHeader, sizeofEthhdr, sizeofReferenceMetaData, sizeofGenericL2Header,
      sizeofEthercatHeader]
    omega

theorem setMetaData_writes (frame : List UInt8) (off : Nat) (s n t : UInt64) :
    ∃ ws, setMetaData frame off s n t = writeAll frame ws ∧
      ∀ w ∈ ws, w.1 + w.2.length ≤ off + 16 := by
  refine ⟨[(off, be32 (s % n).toUInt32), (off + 4, be32 (s / n).toUInt32), (off + 8, be64 t)],
    rfl, ?_⟩
  simp only [List.forall_mem_cons, List.not_mem_nil, false_imp_iff, implies_true, and_true,
    length_be32, length_be64]
  omega

/-- A cipher writes no more than the message and a checksum. -/
def SealsWithin (c : Aead.Cipher) : Prop :=
  ∀ p ad iv, (c.encrypt p ad iv).ciphertext.length ≤ (p.getD []).length ∧
    (c.encrypt p ad iv).tag.length ≤ sizeofSecurityChecksum

/-- What a context of a sane configuration brings along for its frames. -/
structure Fitting (ctx : ThreadContext) : Prop where
  cipher : ctx.isUdp = false → SealsWithin ctx.txSecurityContext
  secured : ctx.conf.securityMode ≠ .none → ctx.frameType ∈ tcSecurity
  min_le : minFrameSize ctx.conf ctx.frameType ≤ ctx.conf.frameLength
  le_max : ctx.conf.frameLength ≤ maxFrameSize
  initialized : initializedLength ctx ≤ ctx.conf.frameLength
  pattern : ctx.isUdp = false → ctx.payloadPatternLength = ctx.conf.frameLength - 60
  metaDataOffset : ctx.metaDataOffset = getMetaDataOffset ctx.frameType ctx.conf.securityMode

theorem writeAll_snoc (frame : List UInt8) (ws ws' : List (Nat × List UInt8)) :
    writeAll (writeAll frame ws) ws' = writeAll frame (ws ++ ws') :=
  (List.foldl_append).symm

theorem secured_min (h : Fitting ctx) (hmode : ctx.conf.securityMode ≠ .none) :
    ctx.isUdp = false ∧ ctx.frameType ≠ .genericL2 ∧ 60 ≤ ctx.conf.frameLength := by
  have hmin := h.min_le
  have hmem := h.secured hmode
  simp only [tcSecurity, tcProfinet, tcTsn, List.cons_append, List.nil_append, List.mem_cons,
    List.not_mem_nil, or_false] at hmem
  rcases hmem with ht | ht | ht | ht <;>
    simp only [ht, minFrameSize, profinetMinFrameSize, if_neg hmode, minSecureProfinetFrameSize]
      at hmin <;>
    simp only [ThreadContext.isUdp, ht] <;> exact ⟨rfl, by decide, hmin⟩

theorem prepareFrame_tc (hudp : ctx.isUdp = false) (frame : List UInt8) (s t : UInt64) :
    prepareFrame ctx frame s t = prepareFrameForTx (ctx.prepareFrameConfig frame s t) := by
  unfold prepareFrame
  split
  · next ht =>
    rw [ThreadContext.isUdp, ht] at hudp
    cases hudp
  · next ht =>
    rw [ThreadContext.isUdp, ht] at hudp
    cases hudp
  · rfl

/-- The counters and the time stamp of a frame without security lie in the headers. -/
theorem metaData_fits (h : Fitting ctx) (hmode : ctx.conf.securityMode = .none) :
    ctx.metaDataOffset + 16 ≤ ctx.conf.frameLength := by
  have hmin := h.min_le
  rw [h.metaDataOffset, hmode]
  cases ht : ctx.frameType <;>
    simp only [ht, minFrameSize, profinetMinFrameSize, hmode, if_true, minProfinetFrameSize,
      sizeofVlanEthernetHeader, sizeofProfinetRtHeader, sizeofEthhdr, sizeofReferenceMetaData,
      sizeofGenericL2Header] at hmin <;>
    simp only [getMetaDataOffset, sizeofVlanEthernetHeader, sizeofEthhdr] <;> omega

/-- The meta data of a secured frame is followed by what the encryption writes. -/
theorem secured_writes (h : Fitting ctx) (hmode : ctx.conf.securityMode ≠ .none)
    (frame : List UInt8) (s t : UInt64) (ws : List (Nat × List UInt8))
    (hws : ∀ w ∈ ws, w.1 + w.2.length ≤ ctx.conf.frameLength) :
    ∃ ws', writeAll (setMetaData frame (sizeofVlanEthernetHeader + 10) s
        ctx.conf.numFramesPerCycle t) ws = writeAll frame ws' ∧
      ∀ w ∈ ws', w.1 + w.2.length ≤ ctx.conf.frameLength := by
  have hmin := (secured_min h hmode).2.2
  obtain ⟨front, hfront, hend⟩ := setMetaData_writes frame (sizeofVlanEthernetHeader + 10) s
    ctx.conf.numFramesPerCycle t
  refine ⟨front ++ ws, ?_, ?_⟩
  · rw [hfront, writeAll_snoc]
  · intro w hw
    rcases List.mem_append.mp hw with hw | hw
    · have := hend w hw
      simp only [sizeofVlanEthernetHeader] at this
      omega
    · exact hws w hw

theorem checksum_fits (h : Fitting ctx) (hmode : ctx.conf.securityMode ≠ .none)
    (p : Option (List UInt8)) (ad iv : List UInt8) :
    ctx.conf.frameLength - sizeofSecurityChecksum +
      (ctx.txSecurityContext.encrypt p ad iv).tag.length ≤ ctx.conf.frameLength := by
  obtain ⟨hudp, -, hmin⟩ := secured_min h hmode
  have htag := (h.cipher hudp p ad iv).2
  simp only [sizeofSecurityChecksum] at htag ⊢
  omega

theorem ciphertext_fits (h : Fitting ctx) (hmode : ctx.conf.securityMode ≠ .none)
    (p ad iv : List UInt8) (hp : p.length ≤ ctx.payloadPatternLength) :
    sizeofVlanEthernetHeader + sizeofProfinetSecureHeader +
      (ctx.txSecurityContext.encrypt (some p) ad iv).ciphertext.length ≤
        ctx.conf.frameLength := by
  obtain ⟨hudp, -, hmin⟩ := secured_min h hmode
  have hlen := (h.cipher hudp (some p) ad iv).1
  rw [h.pattern hudp] at hp
  simp only [Option.getD_some, sizeofVlanEthernetHeader, sizeofProfinetSecureHeader] at hlen ⊢
  omega

/-- Preparing a frame writes inside its configured length. -/
theorem preparedWith_writes (h : Fitting ctx) (copy : List UInt8) (s t : UInt64)
    (frame : List UInt8) :
    ∃ ws, preparedWith ctx copy s t frame = writeAll frame ws ∧
      ∀ w ∈ ws, w.1 + w.2.length ≤ ctx.conf.frameLength := by
  cases hudp : ctx.isUdp with
  | true =>
    have hmode : ctx.conf.securityMode = .none := by
      by_contra hmode
      rw [(secured_min h hmode).1] at hudp
      cases hudp
    have hfits := metaData_fits h hmode
    obtain ⟨ws, hws, hend⟩ := setMetaData_writes frame 0 s ctx.conf.numFramesPerCycle t
    refine ⟨ws, ?_, fun w hw => Nat.le_trans (hend w hw) (by omega)⟩
    rw [← hws]
    simp only [ThreadContext.isUdp, tcUdp, List.contains_eq_mem, List.mem_cons,
      List.not_mem_nil, or_false, decide_eq_true_eq] at hudp
    rcases hudp with ht | ht <;> simp only [preparedWith, prepareFrame, ht] <;> rfl
  | false =>
    rw [preparedWith, prepareFrame_tc (by exact hudp)]
    have hmin := h.min_le
    unfold prepareFrameForTx
    split
    · next hcat =>
      obtain ⟨ht, -⟩ : ctx.frameType = .genericL2 ∧ ctx.conf.protocolType = .etherCat := hcat
      rw [ht] at hmin
      simp only [minFrameSize, sizeofVlanEthernetHeader, sizeofGenericL2Header] at hmin
      refine ⟨_, rfl, ?_⟩
      simp only [List.forall_mem_cons, List.not_mem_nil, false_imp_iff, implies_true, and_true,
        length_leBytes]
      omega
    · dsimp only
      split
      · next hmode =>
        have hfits := metaData_fits h hmode
        obtain ⟨ws, hws, hend⟩ :=
          setMetaData_writes frame ctx.metaDataOffset s ctx.conf.numFramesPerCycle t
        exact ⟨ws, hws, fun w hw => Nat.le_trans (hend w hw) hfits⟩
      · next hmode =>
        have hmode' : ctx.conf.securityMode ≠ .none := by
          rw [show ctx.conf.securityMode = .ao from hmode]
          decide
        refine secured_writes h hmode' frame s t [(_, _)] ?_
        simp only [List.forall_mem_cons, List.not_mem_nil, false_imp_iff, implies_true, and_true]
        exact checksum_fits h hmode' _ _ _
      · next hmode =>
        have hmode' : ctx.conf.securityMode ≠ .none := by
          rw [show ctx.conf.securityMode = .ae from hmode]
          decide
        refine secured_writes h hmode' frame s t [(_, _), (_, _)] ?_
        simp only [List.forall_mem_cons, List.not_mem_nil, false_imp_iff, implies_true, and_true]
        exact ⟨ciphertext_fits h hmode' _ _ _ (List.length_take_le _ _),
          checksum_fits h hmode' _ _ _⟩

theorem inSlot_of_writes {slot room : Nat} {addr : Int} (haddr : addr = slot * maxFrameSize + room)
    (hfit : room + n ≤ maxFrameSize)
    (hf : ∀ mem, ∃ ws, f mem = writeAll mem ws ∧ ∀ w ∈ ws, w.1 + w.2.length ≤ n) :
    InSlot slot addr f := by
  intro k hk
  have := hk.lt hf
  omega

theorem setUp_touches (hudp : ctx.isUdp = false) (build : BuildConfig) :
    Touches (setUp build ctx) 0 := by
  have ht : ctx.frameType ≠ .udpHigh ∧ ctx.frameType ≠ .udpLow := by
    constructor <;> intro h <;> rw [ThreadContext.isUdp, h] at hudp <;> cases hudp
  obtain ⟨d, ds, hd⟩ : ∃ d ds, ctx.conf.l2Destination.bytes = d :: ds := by
    have hlen := ctx.conf.l2Destination.length_eq
    cases h : ctx.conf.l2Destination.bytes with
    | nil => simp [h] at hlen
    | cons d ds => exact ⟨d, ds, rfl⟩
  refine ⟨List.replicate 6 (d + 1), ?_⟩
  have hdest := initializeFrame_destination ht
    (show 6 ≤ (List.replicate 6 (d + 1)).length by simp) (maxFrameSize - ctx.headroom build)
    ctx.source ctx.conf.l2Destination
  have hfirst := congrArg (fun bytes => bytes[0]?) hdest
  simp only [destinationOf, getElem?_slice, hd] at hfirst
  simp only [setUp] at hfirst ⊢
  intro heq
  rw [heq] at hfirst
  simp at hfirst

theorem mem_txDescs_addr (hd : d ∈ txDescs room frameLength numbers s) :
    ∃ number, d.addr = number * xdpFrameSize + room ∧ d.len = frameLength % 2 ^ 32 := by
  induction numbers generalizing s with
  | nil => cases hd
  | cons number numbers ih =>
    rcases List.mem_cons.mp hd with rfl | hd
    · exact ⟨number, rfl, rfl⟩
    · exact ih hd

theorem headroom_le (build : BuildConfig) (ctx : ThreadContext) : ctx.headroom build ≤ 24 := by
  rw [ThreadContext.headroom]
  split
  · omega
  · exact txMetadataRoom_le build ctx.conf

theorem setUp_inSlot {slot : Nat} {addr : Int} (h : Fitting ctx)
    (haddr : addr = slot * maxFrameSize + ctx.headroom build)
    (hroom : ctx.headroom build + ctx.conf.frameLength ≤ maxFrameSize) :
    InSlot slot addr (setUp build ctx) := by
  have hinit := h.initialized
  have hle := headroom_le build ctx
  have hmax : ctx.headroom build +
      max (maxFrameSize - ctx.headroom build) (initializedLength ctx) ≤ maxFrameSize := by
    rw [maxFrameSize] at hroom ⊢
    omega
  exact inSlot_of_writes haddr hmax fun mem => initializeFrame_writes ctx mem _ _ _

theorem txSlots_lt {ctx : ThreadContext} (h : ctx.isUdp = true ∨ ctx.conf.xdpEnabled = true ∨
    ctx.conf.numFramesPerCycle.toNat ≤ 2 ^ 19) (hslot : slot < ctx.txSlots) : slot < 2 ^ 19 := by
  rw [ThreadContext.txSlots] at hslot
  split at hslot
  · omega
  · split at hslot
    · rw [xskRingConsDefaultNumDescs] at hslot
      omega
    · next hudp hx =>
      rcases h with h | h | h
      · exact absurd h hudp
      · exact absurd h hx
      · omega

/-- Frames that leave room for their metadata stay in their slots. -/
theorem framesFit_of (h : Fitting ctx)
    (hroom : ctx.headroom build + ctx.conf.frameLength ≤ maxFrameSize)
    (hn : ctx.isUdp = true ∨ ctx.conf.xdpEnabled = true ∨
      ctx.conf.numFramesPerCycle.toNat ≤ 2 ^ 19) : FramesFit build ctx where
  frames slot hslot :=
    setUp_inSlot h (by rw [frameIdx_slot (txSlots_lt hn hslot)]) hroom
  copy _ := setUp_inSlot h (by rw [frameIdx_slot (show 0 < 2 ^ 19 by decide)]) hroom
  packets _ slot hslot copy s t _ := by
    have haddr : frameIdx (cInt slot) = slot * maxFrameSize + (0 : Nat) := by
      rw [frameIdx_slot (txSlots_lt hn hslot), Nat.cast_zero, add_zero]
    exact inSlot_of_writes haddr (Nat.le_trans (Nat.le_of_eq (Nat.zero_add _)) h.le_max)
      (preparedWith_writes h copy s t)
  descs hx g desc hdesc := by
    have hudp : ctx.isUdp = false := by
      rw [ThreadContext.usesXdp, Bool.and_eq_true] at hx
      simpa using hx.1
    rw [ThreadContext.headroom, hudp] at hroom
    simp only [Bool.false_eq_true, if_false] at hroom
    have hle := txMetadataRoom_le build ctx.conf
    obtain ⟨number, haddr, hlen⟩ := mem_txDescs_addr hdesc
    have hnumber : desc.addr / xdpFrameSize = number := by
      rw [haddr, xdpFrameSize]
      omega
    rw [hnumber]
    refine ⟨?_, fun copy s t _ => ?_⟩
    · rw [haddr, hlen, xdpFrameSize]
      rw [maxFrameSize] at hroom
      have := Nat.mod_le ctx.conf.frameLength (2 ^ 32)
      omega
    · have haddr' : (desc.addr : Int) =
          number * maxFrameSize + (txMetadataRoom build ctx.conf : Nat) := by
        rw [haddr]
        push_cast
        rfl
      exact inSlot_of_writes haddr' hroom (preparedWith_writes h copy s t)

/-- The generator before its first pass. -/
def idleGenerator (build : BuildConfig) (ctx : ThreadContext) : XdpGenerator :=
  .start build ctx [] fun _ => ⟨false, 0⟩

theorem first_desc_mem (build : BuildConfig) (hn : 0 < ctx.conf.numFramesPerCycle.toNat) :
    ⟨xskRingProdDefaultNumDescs * xdpFrameSize + txMetadataRoom build ctx.conf,
      ctx.conf.frameLength % 2 ^ 32, 0⟩ ∈ (idleGenerator build ctx).descs build ctx := by
  obtain ⟨k, hk⟩ : ∃ k, ctx.conf.numFramesPerCycle.toNat = k + 1 :=
    ⟨ctx.conf.numFramesPerCycle.toNat - 1, by omega⟩
  rw [XdpGenerator.descs, hk, frameNumbers, txDescs]
  exact List.mem_cons_self

/-- A descriptor behind the metadata is as long as the whole configured frame. -/
theorem descs_room (hx : ctx.usesXdp = true) (hn : 0 < ctx.conf.numFramesPerCycle.toNat)
    (hmax : ctx.conf.frameLength ≤ maxFrameSize) (h : FramesFit build ctx) :
    txMetadataRoom build ctx.conf + ctx.conf.frameLength ≤ maxFrameSize := by
  have hfit := (h.descs hx _ _ (first_desc_mem build hn)).1
  have hle := txMetadataRoom_le build ctx.conf
  rw [maxFrameSize] at hmax ⊢
  rw [Nat.mod_eq_of_lt (by omega), xdpFrameSize] at hfit
  dsimp only at hfit
  omega

/-- The offset of frame 2 ^ 19 is no `int`, so that frame is set up far from its slot. -/
theorem frames_limit (hudp : ctx.isUdp = false) (hx : ctx.conf.xdpEnabled = false)
    (h : FramesFit build ctx) : ctx.conf.numFramesPerCycle.toNat ≤ 2 ^ 19 := by
  by_contra hn
  have hslot : 2 ^ 19 < ctx.txSlots := by
    rw [ThreadContext.txSlots, hudp, hx]
    exact Nat.not_le.mp hn
  obtain ⟨hlow, -⟩ := h.frames (2 ^ 19) hslot 0 (setUp_touches hudp build)
  have hroom := headroom_le build ctx
  rw [frameIdx_overflow] at hlow
  omega

theorem framesFit_iff (h : Fitting ctx) (hn : 0 < ctx.conf.numFramesPerCycle.toNat) :
    FramesFit build ctx ↔ ctx.isUdp = true ∨
      txMetadataRoom build ctx.conf + ctx.conf.frameLength ≤ maxFrameSize ∧
        (ctx.conf.xdpEnabled = true ∨ ctx.conf.numFramesPerCycle.toNat ≤ 2 ^ 19) := by
  cases hudp : ctx.isUdp with
  | true =>
    refine iff_of_true (framesFit_of h ?_ (.inl hudp)) (.inl rfl)
    rw [ThreadContext.headroom, hudp, if_pos rfl, Nat.zero_add]
    exact h.le_max
  | false =>
    have hroom : ctx.headroom build = txMetadataRoom build ctx.conf := by
      rw [ThreadContext.headroom, hudp]
      exact if_neg Bool.false_ne_true
    simp only [Bool.false_eq_true, false_or]
    constructor
    · intro hfit
      cases hx : ctx.conf.xdpEnabled with
      | true =>
        have huses : ctx.usesXdp = true := by
          rw [ThreadContext.usesXdp, hudp, hx]
          rfl
        exact ⟨descs_room huses hn h.le_max hfit, .inl rfl⟩
      | false =>
        have hzero : txMetadataRoom build ctx.conf = 0 := by simp [txMetadataRoom, hx]
        rw [hzero, Nat.zero_add]
        exact ⟨h.le_max, .inr (frames_limit hudp hx hfit)⟩
    · rintro ⟨hfit, hlimit⟩
      exact framesFit_of h (by rw [hroom]; exact hfit) (.inr hlimit)

theorem fitting_of_sane (hs : configSanityCheck build app = true)
    (hsec : (app.classes frameType).securityMode ≠ .none → frameType ∈ tcSecurity)
    (hcreate : threadsCreate securityInit app frameType source = some ctx)
    (hcipher : ∀ algorithm key, SealsWithin (securityInit algorithm key)) : Fitting ctx := by
  obtain ⟨⟨hconf, htype, -, hoffset⟩, -, -⟩ := threadsCreate_created hcreate
  obtain ⟨hmax, hmin⟩ := configSanityCheck_frameLength hs frameType
  have hsecure (hudp : ctx.isUdp = false) :
      ctx.payloadPatternLength = ctx.conf.frameLength - 60 ∧
        SealsWithin ctx.txSecurityContext := by
    have htc : frameType ≠ .udpHigh ∧ frameType ≠ .udpLow := by
      rw [ThreadContext.isUdp, htype] at hudp
      constructor <;> rintro rfl <;> cases hudp
    obtain ⟨-, hlen, hcontext, -⟩ := tcThreadsCreate_secure (threadsCreate_tc htc hcreate)
    rw [hlen, hconf, hcontext]
    exact ⟨rfl, hcipher _ _⟩
  have hactive := threadsCreate_active hcreate
  subst htype
  refine ⟨fun hudp => (hsecure hudp).2, ?_, ?_, ?_, ?_, fun hudp => (hsecure hudp).1, ?_⟩
  · rw [hconf]
    exact hsec
  · rw [hconf]
    exact Nat.le_of_add_right_le hmin
  · rw [hconf]
    exact hmax
  · exact initializedLength_le hs hactive hconf
  · rw [hoffset, hconf]

/-- Frames stay in their chunks unless the metadata in front of them takes the room they need, or
the offset of an AF_PACKET frame is no `int`. -/
theorem frames_fit_chunk (hs : configSanityCheck build app = true)
    (hsec : (app.classes frameType).securityMode ≠ .none → frameType ∈ tcSecurity)
    (hcreate : threadsCreate securityInit app frameType source = some ctx)
    (hcipher : ∀ algorithm key, SealsWithin (securityInit algorithm key)) :
    FramesFit build ctx ↔ frameType ∈ tcUdp ∨
      txMetadataRoom build (app.classes frameType) + (app.classes frameType).frameLength ≤
          maxFrameSize ∧
        ((app.classes frameType).xdpEnabled = true ∨
          (app.classes frameType).numFramesPerCycle.toNat ≤ 2 ^ 19) := by
  obtain ⟨⟨hconf, htype, -, -⟩, -, -⟩ := threadsCreate_created hcreate
  have hpos := configIsTcActive_pos (threadsCreate_active hcreate)
  have hiff := @framesFit_iff ctx build (fitting_of_sane hs hsec hcreate hcipher)
    (by rw [hconf]; exact hpos)
  rw [ThreadContext.isUdp, htype, hconf, List.contains_iff_mem] at hiff
  exact hiff

theorem nul_not_mem_key : (0 : UInt8) ∉ List.replicate 32 (1 : UInt8) := by decide

theorem nul_not_mem_ivPrefix : (0 : UInt8) ∉ List.replicate 6 (1 : UInt8) := by decide

/-- RTC with AF_XDP, Tx time stamps and authenticated encryption. -/
def chunkConfig (frameLength : Nat) : AppConfig :=
  (configSetDefaults false).setClass .rtc fun conf =>
    { conf with
      enabled := true
      xdpEnabled := true
      txHwtstampEnabled := true
      frameLength
      securityMode := .ae
      securityKey := ⟨List.replicate 32 1, nul_not_mem_key⟩
      securityIvPrefix := ⟨List.replicate 6 1, nul_not_mem_ivPrefix⟩ }

def chunkContext (frameLength : Nat) : Option ThreadContext :=
  threadsCreate chachaInit (chunkConfig frameLength) .rtc defaultDestination

theorem chachaInit_sealsWithin (algorithm : SecurityAlgorithm) (key : List UInt8) :
    SealsWithin (chachaInit algorithm key) := by
  intro p ad iv
  have hideal := ChaCha20Poly1305.ideal key
  exact ⟨Nat.le_of_eq (hideal.length_ciphertext p ad iv), Nat.le_of_eq (hideal.length_tag p ad iv)⟩

theorem chunkContext_some (frameLength : Nat) : ∃ ctx, chunkContext frameLength = some ctx ∧
    ctx.conf = (chunkConfig frameLength).classes .rtc ∧ ctx.frameType = .rtc := by
  obtain ⟨ctx, hctx⟩ := tcThreadsCreate_xdp chachaInit .rtc defaultDestination
    (show ((chunkConfig frameLength).classes .rtc).xdpEnabled = true from rfl)
  have hcreated := tcThreadsCreate_created hctx
  exact ⟨ctx, hctx, hcreated.conf_eq, hcreated.frameType_eq⟩

theorem frames_fit_chunk_secured :
    ∃ ctx, chunkContext 4072 = some ctx ∧ FramesFit fullBuild ctx := by
  obtain ⟨ctx, hctx, -⟩ := chunkContext_some 4072
  exact ⟨ctx, hctx, (frames_fit_chunk (by decide +kernel) (by decide) hctx
    chachaInit_sealsWithin).mpr (.inr ⟨by decide, .inl rfl⟩)⟩

/-- With a frame length of 4096 the descriptor of a frame ends 24 bytes behind its chunk. -/
theorem frame_exceeds_chunk : configSanityCheck fullBuild (chunkConfig 4096) = true ∧
    ∃ ctx, chunkContext 4096 = some ctx ∧ ¬FramesFit fullBuild ctx ∧
      ∃ desc ∈ (idleGenerator fullBuild ctx).descs fullBuild ctx,
        desc.addr + desc.len = (desc.addr / xdpFrameSize + 1) * xdpFrameSize + 24 := by
  obtain ⟨ctx, hctx, hconf, htype⟩ := chunkContext_some 4096
  have hn : 0 < ctx.conf.numFramesPerCycle.toNat := by
    rw [hconf]
    decide
  have hdesc := first_desc_mem fullBuild hn
  refine ⟨by decide +kernel, ctx, hctx, fun hfit => ?_, _, hdesc, ?_⟩
  · have huses : ctx.usesXdp = true := by
      rw [ThreadContext.usesXdp, ThreadContext.isUdp, hconf, htype]
      rfl
    have hroom := descs_room huses hn (by rw [hconf]; decide) hfit
    rw [hconf] at hroom
    revert hroom
    decide
  · rw [hconf]
    decide

end RtcTestbench
