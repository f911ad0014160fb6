import RtcTestbench.PacketSend
import RtcTestbench.ProcLatency
import RtcTestbench.TxSlots
import RtcTestbench.XdpGenSubmit

namespace RtcTestbench
open Buffer Function Machine
set_option autoImplicit true

/-- A hardware time stamp is asked for, for frame `i` of a pass. -/
def wantsTimestamp (build : BuildConfig) (ctx : ThreadContext) (i : Nat) (f : SentFrame) : Bool :=
  let n := ctx.conf.numFramesPerCycle
  txHwtstampMode build ctx.conf &&
    if ctx.conf.xdpEnabled then xdpWantsTimestamp n.toNat i
    else packetWantsTimestamp n (getSequenceCounter f.bytes ctx.metaDataOffset n)

/-- A completion with a time that brings the transmitted bytes back. -/
def SentFrame.CompletedBy (ctx : ThreadContext) (f : SentFrame) : TxCompletion → Prop
  | .xdp metadata data => ctx.conf.xdpEnabled = true ∧ metadata.timestamp = true ∧
      ∃ rest, data = f.bytes ++ rest
  | .packet hwTs frame => ctx.conf.xdpEnabled = false ∧ hwTs ≠ 0 ∧ frame = f.bytes

/-- What is asked for is what the completion handlers take for the first or last of a cycle. -/
structure RequestsAgree (build : BuildConfig) (ctx : ThreadContext) (sent : List SentFrame) :
    Prop where
  agree : ∀ i f, sent[i]? = some f → ∀ c, f.CompletedBy ctx c →
    ∃ r, c.reading ctx.metaDataOffset ctx.conf.numFramesPerCycle = some r ∧
      (wantsTimestamp build ctx i f = true ↔
        r.isFirst ctx.conf.numFramesPerCycle = true ∨ r.isLast ctx.conf.numFramesPerCycle = true)
  count : sent ≠ [] → (sent.zipIdx.countP fun x => wantsTimestamp build ctx x.2 x.1) =
    min ctx.conf.numFramesPerCycle.toNat 2

/-- A receiver or a completion handler reads the counter off the frame. -/
structure CarriesCounter (conf : TrafficClassConfig) (frameType : StatFrameType)
    (frame : List UInt8) (s : UInt64) : Prop where
  fits : getMetaDataOffset frameType conf.securityMode + 16 ≤ frame.length
  decode : metaDataToSequenceCounter frame (getMetaDataOffset frameType conf.securityMode)
    conf.numFramesPerCycle = wireSequenceCounter conf.numFramesPerCycle s

/-- The frames in the table have room for the meta data. -/
structure TableReady (conf : TrafficClassConfig) (frameType : StatFrameType) (a : SlotGenerator) :
    Prop where
  rotation : 4096 ≤ a.frameNumber ∧ a.frameNumber < 8192
  fits : ∀ slot < txSlots conf,
    getMetaDataOffset frameType conf.securityMode + 16 ≤ (a.table slot).length

variable {build : BuildConfig} {ctx : ThreadContext} {conf : TrafficClassConfig}
  {frameType : StatFrameType} {monitor : Option MacAddress} {sent : List SentFrame} {f : SentFrame}
  {n c : UInt64} {a : SlotGenerator} {p : TxPass} {passes : List TxPass}
  {frame : List UInt8} {table : Nat → List UInt8} {slots : List Nat} {numSlots : Nat}

/-- What the metadata in front of frame `i` says. -/
theorem prepareMetadata_at {hwtstampMode : Bool} {descs : List TxDesc} {desc : TxDesc}
    (hnodup : (descs.map TxDesc.addr).Nodup) (h : descs[i]? = some desc)
    (metadata : Nat → XskTxMetadata) (n k : Nat) :
    prepareMetadata hwtstampMode n k metadata descs desc.addr =
      ⟨hwtstampMode && xdpWantsTimestamp n (k + i), 0⟩ := by
  induction descs generalizing i k metadata with
  | nil => cases h
  | cons d descs ih =>
    rw [List.map_cons, List.nodup_cons] at hnodup
    rw [prepareMetadata]
    cases i with
    | zero =>
      cases h
      rw [prepareMetadata_other hnodup.1, update_self]
      rfl
    | succ i =>
      rw [ih hnodup.2 h, Nat.add_assoc, Nat.add_comm 1]

/-- On AF_XDP the request is the flag in the metadata of the frame. -/
theorem xdpSubmitFrames_requests {s : XdpGenerator} {tx : XskRing.Producer TxDesc} {desc : TxDesc}
    (hx : ctx.conf.xdpEnabled = true) (hmode : txHwtstampMode build ctx.conf = true)
    (hnumber : 4096 ≤ s.gen.frameNumber ∧ s.gen.frameNumber < 8192)
    (hle : ctx.conf.numFramesPerCycle.toNat ≤ 4096)
    (hr : s.tx.reserve (s.descs build ctx) = some tx)
    (hdesc : (s.descs build ctx)[i]? = some desc) (p : XdpGenPass) (f : SentFrame) :
    ((xdpSubmitFrames build monitor ctx s p).1.metadata desc.addr).timestamp =
      wantsTimestamp build ctx i f := by
  have hroom := txMetadataRoom_pos hx hmode
  simp only [xdpSubmitFrames, hr, if_pos hroom]
  rw [prepareMetadata_at (descs_nodup hnumber hle) hdesc, wantsTimestamp, hx, if_pos rfl,
    Nat.zero_add]

/-- On AF_PACKET it is the request among the control messages of the frame. -/
theorem messageFor_requests {req : PacketSendRequest} (hx : ctx.conf.xdpEnabled = false)
    (hmode : req.txHwtstampEnabled = txHwtstampMode build ctx.conf)
    (hoff : req.metaDataOffset = ctx.metaDataOffset)
    (hframe : req.bytes base (ctx.metaDataOffset + 16) =
      slice f.bytes 0 (ctx.metaDataOffset + 16)) (i : Nat) (now : UInt64) :
    (req.messageFor ctx.conf.numFramesPerCycle base now).timestamping =
      wantsTimestamp build ctx i f := by
  have hview : slice (slice f.bytes 0 (ctx.metaDataOffset + 16)) ctx.metaDataOffset 16 =
      slice f.bytes ctx.metaDataOffset 16 := by
    rw [slice_slice _ (Nat.le_refl _), Nat.zero_add]
  rw [PacketSendRequest.messageFor, PacketSendRequest.sequenceCounter, wantsTimestamp, hmode, hoff,
    sizeofReferenceMetaData, hframe, getSequenceCounter, metaDataToSequenceCounter_congr hview, hx]
  rfl

/-- The position in a cycle survives the two 32 bit counters. -/
theorem wireSequenceCounter_mod (hn : 0 < n.toNat) (hlt : n.toNat ≤ 2 ^ 32) (s : UInt64) :
    (wireSequenceCounter n s).toNat % n.toNat = s.toNat % n.toNat := by
  have hmod : s.toNat % n.toNat < n.toNat := Nat.mod_lt _ hn
  rw [wireSequenceCounter_toNat, Nat.mod_eq_of_lt (Nat.lt_of_lt_of_le hmod hlt),
    Nat.mul_add_mod_self_right, Nat.mod_mod]

theorem countP_first_last (n : Nat) :
    (List.range n).countP (fun i => i = 0 || i = n - 1) = min n 2 := by
  match n with
  | 0 => rfl
  | 1 => rfl
  | k + 2 =>
    have hmiddle : (List.range k).countP (fun i => i + 1 = 0 || i + 1 = k + 1) = 0 := by
      rw [List.countP_eq_zero]
      intro i hi
      rw [List.mem_range] at hi
      simp only [Bool.or_eq_true, decide_eq_true_eq]
      omega
    rw [List.range_succ, List.range_succ_eq_map, List.countP_append, List.countP_cons,
      List.countP_map]
    simp only [Nat.add_one_sub_one] at hmiddle ⊢
    change (List.range k).countP (fun i => i + 1 = 0 || i + 1 = k + 1) + _ + _ = _
    rw [hmiddle]
    simp

theorem toNat_sub_one (hn : 0 < n.toNat) : (n - 1).toNat = n.toNat - 1 :=
  UInt64.toNat_sub_of_le n 1 (UInt64.le_iff_toNat_le.mpr hn)

theorem prepared_carries (hctx : ctx.ForClass conf frameType) (hc : CountedClass conf frameType)
    (hfits : getMetaDataOffset frameType conf.securityMode + 16 ≤ frame.length)
    (monitor : Option MacAddress) (s t : UInt64) :
    CarriesCounter conf frameType (monitorFrame monitor (ctx.prepared frame s t)) s := by
  have hview := prepareFrameForTx_view hctx hc frame s t _ 16 (Nat.le_refl _)
  have hdecode : metaDataToSequenceCounter (ctx.prepared frame s t)
      (getMetaDataOffset frameType conf.securityMode) conf.numFramesPerCycle =
        wireSequenceCounter conf.numFramesPerCycle s :=
    (metaDataToSequenceCounter_congr hview).trans (setMetaData_decode hfits).1
  refine ⟨?_, ?_⟩
  · rw [length_monitorFrame, ThreadContext.prepared, length_prepareFrameForTx]
    exact hfits
  · rw [metaDataToSequenceCounter_congr (slice_monitorFrame _ _ hc.metaData_behind)]
    exact hdecode

theorem keepsFrames_carries (hctx : ctx.ForClass conf frameType) (hc : CountedClass conf frameType)
    (monitor : Option MacAddress) :
    KeepsFrames ctx (fun frame => getMetaDataOffset frameType conf.securityMode + 16 ≤ frame.length)
      (fun frame s _ => CarriesCounter conf frameType frame s) monitor := by
  intro frame s t hfits
  have hframe := prepared_carries hctx hc hfits monitor s t
  exact ⟨hframe.fits, hframe⟩

theorem CarriesCounter.reading (hf : CarriesCounter conf frameType f.bytes s)
    (hctx : ctx.ForClass conf frameType) (hlt : conf.numFramesPerCycle.toNat < 2 ^ 32)
    (h : f.CompletedBy ctx completion) :
    ∃ hwTs, completion.reading ctx.metaDataOffset conf.numFramesPerCycle =
      some ⟨wireSequenceCounter conf.numFramesPerCycle s, hwTs⟩ := by
  obtain ⟨hfits, hdecode⟩ := hf
  rw [← hctx.metaDataOffset_eq] at hfits hdecode
  cases completion with
  | xdp metadata data =>
    obtain ⟨-, hstamp, rest, rfl⟩ := h
    refine ⟨metadata.txTimestamp, ?_⟩
    rw [TxCompletion.reading, hstamp, if_pos rfl, xdpFramesPerCycle_eq hlt, getSequenceCounter,
      metaDataToSequenceCounter_congr (slice_append_left _ _ hfits), hdecode]
  | packet hwTs frame =>
    obtain ⟨-, hwTs_ne, rfl⟩ := h
    refine ⟨hwTs, ?_⟩
    have hlong : ¬ (hwTs = 0 ∨ f.bytes.length < ctx.metaDataOffset + sizeofReferenceMetaData) :=
      not_or.mpr ⟨hwTs_ne, Nat.not_lt.mpr hfits⟩
    rw [TxCompletion.reading, if_neg hlong, getSequenceCounter, hdecode]

/-- For a frame at its place in the cycle both tests say the same. -/
theorem CarriesCounter.wantsTimestamp_iff (hf : CarriesCounter conf frameType f.bytes s)
    (hctx : ctx.ForClass conf frameType) (hmode : txHwtstampMode build conf = true)
    (hn : 0 < conf.numFramesPerCycle.toNat) (hlt : conf.numFramesPerCycle.toNat ≤ 2 ^ 32)
    (hi : s.toNat % conf.numFramesPerCycle.toNat = i) :
    wantsTimestamp build ctx i f = true ↔ i = 0 ∨ i = conf.numFramesPerCycle.toNat - 1 := by
  rw [wantsTimestamp, hctx.conf_eq, hmode, Bool.true_and]
  cases conf.xdpEnabled with
  | true =>
    rw [if_pos rfl, xdpWantsTimestamp, Bool.or_eq_true, decide_eq_true_eq, decide_eq_true_eq]
  | false =>
    have hplace : (getSequenceCounter f.bytes ctx.metaDataOffset conf.numFramesPerCycle %
        conf.numFramesPerCycle).toNat = i := by
      rw [UInt64.toNat_mod, getSequenceCounter, hctx.metaDataOffset_eq, hf.decode,
        wireSequenceCounter_mod hn hlt, hi]
    rw [if_neg Bool.false_ne_true, packetWantsTimestamp, Bool.or_eq_true, decide_eq_true_eq,
      decide_eq_true_eq, ← UInt64.toNat_inj, ← UInt64.toNat_inj, hplace, toNat_sub_one hn,
      UInt64.toNat_zero]

/-- A pass whose first counter is a multiple of the cycle length, and that does not wrap. -/
theorem requestsAgree_of_aligned (hctx : ctx.ForClass conf frameType)
    (hmode : txHwtstampMode build conf = true)
    (hn : 0 < conf.numFramesPerCycle.toNat) (hlt : conf.numFramesPerCycle.toNat < 2 ^ 32)
    (hwire : ∀ f ∈ sent, CarriesCounter conf frameType f.bytes f.sequenceCounter)
    (hcounters : sent.map SentFrame.sequenceCounter =
      consecutive c conf.numFramesPerCycle.toNat)
    (hdvd : conf.numFramesPerCycle.toNat ∣ c.toNat)
    (hfit : c.toNat + conf.numFramesPerCycle.toNat ≤ 2 ^ 64) : RequestsAgree build ctx sent := by
  have hlen : sent.length = conf.numFramesPerCycle.toNat := by
    have h := congrArg List.length hcounters
    rwa [List.length_map, length_consecutive] at h
  have hplace (i : Nat) (f : SentFrame) (hf : sent[i]? = some f) :
      f.sequenceCounter.toNat % conf.numFramesPerCycle.toNat = i := by
    have hi : i < conf.numFramesPerCycle.toNat := hlen ▸ (List.getElem?_eq_some_iff.mp hf).1
    have hcounter := congrArg (·[i]?) hcounters
    simp only [List.getElem?_map, hf, Option.map_some, getElem?_consecutive c hi,
      Option.some.injEq] at hcounter
    obtain ⟨k, hk⟩ := hdvd
    rw [hcounter, toNat_add_ofNat (by omega), hk, Nat.mul_add_mod_self_left, Nat.mod_eq_of_lt hi]
  have hwants (i : Nat) (f : SentFrame) (hf : sent[i]? = some f) :
      wantsTimestamp build ctx i f = true ↔ i = 0 ∨ i = conf.numFramesPerCycle.toNat - 1 :=
    (hwire f (List.mem_of_getElem? hf)).wantsTimestamp_iff hctx hmode hn hlt.le (hplace i f hf)
  constructor
  · intro i f hf completion hcompletion
    obtain ⟨hwTs, hreading⟩ :=
      (hwire f (List.mem_of_getElem? hf)).reading hctx hlt hcompletion
    rw [hctx.conf_eq]
    refine ⟨_, hreading, ?_⟩
    rw [hwants i f hf, isFirst_iff, isLast_iff hn]
    dsimp only
    rw [wireSequenceCounter_mod hn hlt.le, hplace i f hf]
  · intro _
    have hrange : List.range conf.numFramesPerCycle.toNat = sent.zipIdx.map Prod.snd := by
      rw [List.zipIdx_map_snd, hlen, List.range_eq_range']
    rw [hctx.conf_eq, ← countP_first_last, hrange, List.countP_map]
    apply List.countP_congr
    intro x hx
    rw [List.mem_zipIdx_iff_getElem?] at hx
    rw [hwants x.2 x.1 hx, Function.comp_apply, Bool.or_eq_true, decide_eq_true_eq,
      decide_eq_true_eq]

theorem length_passSlots (ctx : ThreadContext) (fn : Nat) :
    (passSlots ctx fn).length = ctx.conf.numFramesPerCycle.toNat := by
  rw [passSlots]
  split
  · rw [List.length_map, length_frameNumbers]
  · rw [List.length_range]

/-- A pass sends the frames of one cycle or none, and the counter only depends on whether it had
frames to send. -/
theorem slotGenerator_pass (hctx : ctx.ForClass conf frameType) (hc : CountedClass conf frameType)
    (ha : TableReady conf frameType a) (p : TxPass) (monitor : Option MacAddress) :
    let r := (slotGenerator monitor ctx).step a p
    TableReady conf frameType r.1 ∧
      r.1.sequenceCounter = a.sequenceCounter +
        (if p.sends ctx then conf.numFramesPerCycle else 0) ∧
      (∀ f ∈ r.2, CarriesCounter conf frameType f.bytes f.sequenceCounter) ∧
      (r.2 = [] ∨ p.sends ctx = true ∧ r.2.map SentFrame.sequenceCounter =
        consecutive a.sequenceCounter conf.numFramesPerCycle.toNat) := by
  intro r
  generalize hr : r = r'
  simp only [r, slotGenerator] at hr
  split at hr
  · rename_i hwait
    have hs : ¬ p.sends ctx = true := fun h => bne_iff_ne.mp h hwait
    rw [if_neg hs, UInt64.add_zero, ← hr]
    exact ⟨ha, rfl, List.forall_mem_nil _, .inl rfl⟩
  · rename_i hwait
    have hs : p.sends ctx = true := bne_iff_ne.mpr hwait
    rw [if_pos hs]
    split at hr
    · rw [← hr, hctx.conf_eq]
      exact ⟨⟨ha.rotation, ha.fits⟩, rfl, List.forall_mem_nil _, .inl rfl⟩
    · rename_i hfree
      have hslots := (@passSlots_ok ctx _ ha.rotation fun hx =>
        Nat.le_trans (Nat.le_of_not_lt fun h => hfree ⟨hx, h⟩) p.freeDescriptors_le).1
      rw [hctx.conf_eq] at hslots
      obtain ⟨hfits, hcarries⟩ := patchSlots_forall (keepsFrames_carries hctx hc none)
        (keepsFrames_carries hctx hc (if ctx.conf.xdpEnabled then monitor else none)) ha.fits hslots
        a.sequenceCounter p.now
      have hcounters := patchSlots_counters ctx p.now
        (if ctx.conf.xdpEnabled then monitor else none)
        a.table (passSlots ctx a.frameNumber) a.sequenceCounter
      rw [length_passSlots, hctx.conf_eq] at hcounters
      rw [hctx.conf_eq] at hr hcarries hfits
      rw [← hr]
      refine ⟨⟨?_, hfits⟩, rfl, hcarries, .inr ⟨hs, hcounters⟩⟩
      dsimp only
      split
      · exact nextFrameNumber_iterate ha.rotation _
      · exact ha.rotation

/-- The counters left for `K` passes do not lose the cycle: there is no wrap, or it is harmless. -/
def KeepsCycle (n c K : Nat) : Prop := n ∣ c ∧ (n ∣ 2 ^ 64 ∨ c + K * n ≤ 2 ^ 64)

theorem KeepsCycle.fits {n c K : Nat} (h : KeepsCycle n c (K + 1)) (hc : c < 2 ^ 64) :
    c + n ≤ 2 ^ 64 := by
  obtain ⟨hdvd, hall | hle⟩ := h
  · exact add_le_of_dvd_of_lt hdvd hall hc
  · rw [Nat.succ_mul] at hle
    omega

theorem KeepsCycle.next (h : KeepsCycle n.toNat c.toNat (K + 1)) :
    KeepsCycle n.toNat (c + n).toNat K := by
  have hfits := h.fits c.toNat_lt
  obtain ⟨hdvd, hrest⟩ := h
  rw [UInt64.toNat_add]
  rcases Nat.lt_or_eq_of_le hfits with hlt | heq
  · rw [Nat.mod_eq_of_lt hlt]
    refine ⟨hdvd.add (Nat.dvd_refl _), hrest.imp_right fun hle => ?_⟩
    rw [Nat.succ_mul] at hle
    omega
  · rw [heq, Nat.mod_self]
    refine ⟨Nat.dvd_zero _, .inl ?_⟩
    rw [← heq]
    exact hdvd.add (Nat.dvd_refl _)

theorem slotGenerator_requestsAgree (hctx : ctx.ForClass conf frameType)
    (hc : CountedClass conf frameType) (hmode : txHwtstampMode build conf = true)
    (hn : 0 < conf.numFramesPerCycle.toNat) (hlt : conf.numFramesPerCycle.toNat < 2 ^ 32)
    (ha : TableReady conf frameType a)
    (hkeeps : KeepsCycle conf.numFramesPerCycle.toNat a.sequenceCounter.toNat
      (passes.countP (·.sends ctx))) (monitor : Option MacAddress) :
    ∀ sent ∈ ((slotGenerator monitor ctx).run a passes).2, RequestsAgree build ctx sent := by
  induction passes generalizing a with
  | nil => nofun
  | cons p passes ih =>
    obtain ⟨hready, hnext, hcarries, hsent⟩ := slotGenerator_pass hctx hc ha p monitor
    rw [System.run_cons, List.forall_mem_cons]
    rw [List.countP_cons] at hkeeps
    by_cases hs : p.sends ctx = true
    · rw [if_pos hs] at hkeeps hnext
      refine ⟨?_, ih hready ?_⟩
      · rcases hsent with hnil | ⟨-, hcounters⟩
        · rw [hnil]
          exact ⟨nofun, fun h => absurd rfl h⟩
        · exact requestsAgree_of_aligned hctx hmode hn hlt hcarries hcounters hkeeps.1
            (hkeeps.fits a.sequenceCounter.toNat_lt)
      · rw [hnext]
        exact hkeeps.next
    · rw [if_neg hs] at hkeeps hnext
      rw [UInt64.add_zero] at hnext
      refine ⟨?_, ih hready ?_⟩
      · have hnil := hsent.resolve_right fun h => hs h.1
        rw [hnil]
        exact ⟨nofun, fun h => absurd rfl h⟩
      · rw [hnext]
        exact hkeeps

section Start
variable {securityInit : SecurityAlgorithm → List UInt8 → Aead.Cipher} {tx sender : ThreadContext}
  {umem : List UInt8} {app : AppConfig} {source : MacAddress}

theorem startTable_ready (htx : tcThreadsCreate securityInit conf frameType source = some tx)
    (hinit : tcTxThreadInit build tx = some sender) (hc : CountedClass conf frameType)
    (humem : umem.length = xskRingConsDefaultNumDescs * maxFrameSize) :
    TableReady conf frameType (startTable build sender umem) := by
  have hroom := txMetadataRoom_le build conf
  have hmeta := hc.metaData_fits
  have hshort := getMetaDataOffset_le frameType conf.securityMode
  have hsize : maxFrameSize = 4096 := rfl
  refine ⟨startTable_rotation, fun slot hslot => ?_⟩
  obtain ⟨ctx, chunk, -, -, hlen, -⟩ := startTable_chunk htx hinit humem hslot
  omega

/-- With either transport, time stamps are asked for exactly for the frames the completion handlers
take for the first or last of a cycle, as long as the counter does not wrap inside a cycle. -/
theorem timestamp_requests (hs : configSanityCheck build app = true)
    (htc : frameType ≠ .udpHigh ∧ frameType ≠ .udpLow)
    (hsec : (app.classes frameType).securityMode ≠ .none →
      frameType ∈ [.tsnHigh, .tsnLow, .rtc, .rta])
    (hcat : ¬ (frameType = .genericL2 ∧ (app.classes frameType).protocolType = .etherCat))
    (hmode : txHwtstampMode build (app.classes frameType) = true)
    (hlt : (app.classes frameType).numFramesPerCycle.toNat < 2 ^ 32)
    (hslots : (app.classes frameType).xdpEnabled = true ∨
      (app.classes frameType).numFramesPerCycle.toNat ≤ 2 ^ 19)
    (htx : threadsCreate securityInit app frameType source = some tx)
    (hinit : tcTxThreadInit build tx = some sender)
    (humem : umem.length = xskRingConsDefaultNumDescs * maxFrameSize)
    (monitor : Option MacAddress) (passes : List TxPass)
    (hwrap : (app.classes frameType).numFramesPerCycle.toNat ∣ 2 ^ 64 ∨
      passes.countP (·.sends sender) * (app.classes frameType).numFramesPerCycle.toNat ≤ 2 ^ 64) :
    ∀ sent ∈ ((generator build monitor sender).run (Generator.start build sender umem) passes).2,
      RequestsAgree build sender sent := by
  have hc := countedClass_of_sane hs htc hsec hcat
  have hcreate := threadsCreate_tc htc htx
  have hsender := (tcTxThreadInit_sender (tcThreadsCreate_created hcreate).toForClass hinit).1
  rw [generator_run_table (by rw [hsender.conf_eq]; exact hc.fits_chunk)
    (by rw [hsender.conf_eq, txSlots_le]; exact hslots)]
  apply slotGenerator_requestsAgree hsender hc hmode
    (configIsTcActive_pos (threadsCreate_active htx)) hlt
    (startTable_ready hcreate hinit hc humem)
  refine ⟨Nat.dvd_zero _, hwrap.imp_right fun hle => ?_⟩
  change 0 + _ ≤ _
  rwa [Nat.zero_add]

end Start

theorem slotGenerator_counter (hctx : ctx.ForClass conf frameType)
    (hc : CountedClass conf frameType) (ha : TableReady conf frameType a)
    (monitor : Option MacAddress) (passes : List TxPass) :
    let r := ((slotGenerator monitor ctx).run a passes).1
    TableReady conf frameType r ∧ r.sequenceCounter = a.sequenceCounter +
      UInt64.ofNat (passes.countP (·.sends ctx) * conf.numFramesPerCycle.toNat) := by
  induction passes generalizing a with
  | nil =>
    rw [List.countP_nil, Nat.zero_mul]
    exact ⟨ha, (UInt64.add_zero _).symm⟩
  | cons p passes ih =>
    obtain ⟨hready, hnext, -, -⟩ := slotGenerator_pass hctx hc ha p monitor
    obtain ⟨hready', hcounter⟩ := ih hready
    rw [System.run_cons, List.countP_cons]
    refine ⟨hready', hcounter.trans ?_⟩
    rw [hnext, UInt64.add_assoc]
    congr 1
    split
    · rw [Nat.succ_mul, UInt64.ofNat_add, UInt64.ofNat_toNat, UInt64.add_comm]
    · rw [UInt64.zero_add, Nat.add_zero]

theorem stampedConfig_counted :
    CountedClass ((stampedConfig 3).classes .genericL2) .genericL2 := by
  have hs : configSanityCheck fullBuild (stampedConfig 3) = true := by decide
  exact countedClass_of_sane hs (by decide) (by decide) (by decide)

theorem stampedConfig_threads :
    ∃ tx sender, threadsCreate chachaInit (stampedConfig 3) .genericL2 defaultDestination =
      some tx ∧ tcTxThreadInit fullBuild tx = some sender ∧
      sender.ForClass ((stampedConfig 3).classes .genericL2) .genericL2 ∧
      TableReady ((stampedConfig 3).classes .genericL2) .genericL2 (startTable fullBuild sender
        (List.replicate (xskRingConsDefaultNumDescs * maxFrameSize) 0)) := by
  have htc : StatFrameType.genericL2 ≠ .udpHigh ∧ StatFrameType.genericL2 ≠ .udpLow := by decide
  obtain ⟨tx, sender, htx, hinit, -, hsender⟩ := xdp_threads fullBuild (stampedConfig 3) chachaInit
    defaultDestination htc (by decide) rfl (by
      intro ctx hconf htype
      rw [initializedLength, hconf, htype]
      decide)
  exact ⟨tx, sender, htx, hinit, hsender,
    startTable_ready (threadsCreate_tc htc htx) hinit stampedConfig_counted List.length_replicate⟩

theorem stamped_sends (hs : sender.ForClass ((stampedConfig 3).classes .genericL2) .genericL2)
    (K : Nat) :
    readyPass.fills sender = true ∧ (List.replicate K readyPass).countP (·.sends sender) = K := by
  have hfills : readyPass.fills sender = true := by
    rw [TxPass.fills, TxPass.sends, tcWaitForTxCycle, hs.frameType_eq, hs.conf_eq]
    decide
  refine ⟨hfills, ?_⟩
  rw [List.countP_replicate, if_pos (Bool.and_eq_true_iff.mp hfills).1]

/-- Three frames in a cycle, for a thousand cycles. -/
theorem timestamp_requests_three :
    ∃ tx sender, threadsCreate chachaInit (stampedConfig 3) .genericL2 defaultDestination =
      some tx ∧ tcTxThreadInit fullBuild tx = some sender ∧
      ∀ sent ∈ ((generator fullBuild none sender).run (Generator.start fullBuild sender
          (List.replicate (xskRingConsDefaultNumDescs * maxFrameSize) 0))
          (List.replicate 1000 readyPass)).2,
        RequestsAgree fullBuild sender sent := by
  obtain ⟨tx, sender, htx, hinit, hsender, -⟩ := stampedConfig_threads
  refine ⟨tx, sender, htx, hinit, timestamp_requests (by decide) (by decide) (by decide) (by decide)
    (by decide) (by decide) (.inl rfl) htx hinit List.length_replicate none _ (.inr ?_)⟩
  rw [(stamped_sends hsender 1000).2]
  decide

/-- The cycle in which the counter wraps has a first frame in its middle. -/
theorem wrapped_cycle (hctx : ctx.ForClass ((stampedConfig 3).classes .genericL2) .genericL2)
    (ha : TableReady ((stampedConfig 3).classes .genericL2) .genericL2 a)
    (hwrap : a.sequenceCounter + 1 = 0) :
    ∃ f, ((slotGenerator none ctx).step a readyPass).2[1]? = some f ∧
      wantsTimestamp fullBuild ctx 1 f = false ∧ f.sequenceCounter = 0 ∧
      ∀ c, f.CompletedBy ctx c → ∃ r, c.reading ctx.metaDataOffset 3 = some r ∧
        r.isFirst 3 = true := by
  have hc := stampedConfig_counted
  have hx : ctx.conf.xdpEnabled = true := by
    rw [hctx.conf_eq]
    rfl
  have hslots := (@passSlots_ok ctx _ ha.rotation fun _ => by
    rw [hctx.conf_eq]
    decide).1
  rw [hctx.conf_eq] at hslots
  have hkeeps := keepsFrames_carries hctx hc none
  have hcarries := (patchSlots_forall hkeeps hkeeps ha.fits hslots a.sequenceCounter
    readyPass.now).2
  have hcounters := patchSlots_counters ctx readyPass.now none a.table
    (passSlots ctx a.frameNumber) a.sequenceCounter
  have hthree : (passSlots ctx a.frameNumber).length = 3 := by
    rw [length_passSlots, hctx.conf_eq]
    decide
  rw [step_fills hx (stamped_sends hctx 0).1]
  rw [hthree] at hcounters
  generalize (patchSlots ctx readyPass.now none a.table (passSlots ctx a.frameNumber)
    a.sequenceCounter).2 = sent at hcarries hcounters
  have hsecond := congrArg (·[1]?) hcounters
  simp only [List.getElem?_map, consecutive, List.getElem?_cons_succ, List.getElem?_cons_zero,
    Option.map_eq_some_iff] at hsecond
  obtain ⟨f, hf, hcounter⟩ := hsecond
  rw [hwrap] at hcounter
  have hcarry := hcarries f (List.mem_of_getElem? hf)
  refine ⟨f, hf, ?_, hcounter, fun c hcompleted => ?_⟩
  · rw [wantsTimestamp, hx, if_pos rfl, hctx.conf_eq]
    decide
  · obtain ⟨hwTs, hreading⟩ := hcarry.reading hctx (by decide) hcompleted
    refine ⟨_, hreading, (isFirst_iff _ _).mpr ?_⟩
    dsimp only
    rw [hcounter]
    decide

/-- After 2⁶⁴ - 1 frames. -/
theorem timestamp_requests_wrapped :
    configSanityCheck fullBuild (stampedConfig 3) = true ∧
    ∃ tx sender, threadsCreate chachaInit (stampedConfig 3) .genericL2 defaultDestination =
      some tx ∧ tcTxThreadInit fullBuild tx = some sender ∧
      ∃ sent ∈ ((generator fullBuild none sender).run (Generator.start fullBuild sender
          (List.replicate (xskRingConsDefaultNumDescs * maxFrameSize) 0))
          (List.replicate 6148914691236517206 readyPass)).2,
        ∃ f, sent[1]? = some f ∧ wantsTimestamp fullBuild sender 1 f = false ∧
          f.sequenceCounter = 0 ∧ ∀ c, f.CompletedBy sender c →
            ∃ r, c.reading sender.metaDataOffset 3 = some r ∧ r.isFirst 3 = true := by
  obtain ⟨tx, sender, htx, hinit, hsender, hready⟩ := stampedConfig_threads
  refine ⟨by decide, tx, sender, htx, hinit, ?_⟩
  have hc := stampedConfig_counted
  have hsplit : ∃ K, 6148914691236517206 = K + 1 ∧ K * 3 + 1 = 2 ^ 64 :=
    ⟨6148914691236517205, rfl, by decide⟩
  obtain ⟨K, hK, hframes⟩ := hsplit
  obtain ⟨hready', hcounter⟩ := slotGenerator_counter hsender hc hready none
    (List.replicate K readyPass)
  rw [(stamped_sends hsender K).2] at hcounter
  rw [hK, List.replicate_succ', generator_run_table (by rw [hsender.conf_eq]; decide)
    (by rw [hsender.conf_eq]; decide), System.run_append]
  have hwrap : ((slotGenerator none sender).run (startTable fullBuild sender
      (List.replicate (xskRingConsDefaultNumDescs * maxFrameSize) 0))
      (List.replicate K readyPass)).1.sequenceCounter + 1 = 0 := by
    rw [hcounter, ← UInt64.toNat_inj]
    change (0 + UInt64.ofNat (K * 3) + 1).toNat = 0
    rw [UInt64.zero_add, UInt64.toNat_add, UInt64.toNat_ofNat', Nat.mod_add_mod]
    change (K * 3 + 1) % 2 ^ 64 = 0
    rw [hframes, Nat.mod_self]
  obtain ⟨f, hf⟩ := wrapped_cycle hsender hready' hwrap
  exact ⟨_, List.mem_append_right _ List.mem_cons_self, f, hf⟩

end RtcTestbench
