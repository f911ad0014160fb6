import RtcTestbench.XdpGenSubmit

namespace RtcTestbench
open Buffer Function Machine XskRing
set_option autoImplicit true

variable {build : BuildConfig} {monitor : Option MacAddress} {ctx : ThreadContext}
  {conf : TrafficClassConfig} {frameType : StatFrameType} {s s' : XdpGenerator} {p : XdpGenPass}
  {room : Nat} {bs : List SentBatch} {d : TxDesc} {past : List TimestampEvent} {cfg : StatConfig}

section Reading
variable {c n : UInt64}

theorem wireSequenceCounter_cycle (hn : 0 < n.toNat) (hn' : n.toNat ≤ 2 ^ 32) (c : UInt64) :
    (wireSequenceCounter n c).toNat =
      n.toNat * (c.toNat / n.toNat % 2 ^ 32) + c.toNat % n.toNat := by
  have hlt := Nat.mod_lt c.toNat hn
  have hsmall : c.toNat % n.toNat % 2 ^ 32 = c.toNat % n.toNat := Nat.mod_eq_of_lt (by omega)
  rw [wireSequenceCounter_toNat, hsmall, Nat.mul_comm]

/-- What the wire loses of a counter makes no difference to its slot. -/
theorem sentReading_wire (hn : 0 < n.toNat) (hn' : n.toNat ≤ 2 ^ 32) {b : SentBatch}
    (hb : b ∈ batchesOf past) (hcontains : b.Contains c.toNat)
    (hin : ∀ b' ∈ batchesOf past, ∀ d, b'.Contains d →
      d < c.toNat / n.toNat * n.toNat + 1024 * n.toNat) (hwTs : UInt64) :
    SentReading n past ⟨wireSequenceCounter n c, hwTs⟩ b c.toNat := by
  have hwire := wireSequenceCounter_cycle hn hn' c
  refine ⟨hb, hcontains, hin, ?_, ?_⟩
  · rw [TxReading.cycleSeq, toNat_cycleStart, hwire, Nat.mul_add_div hn,
      Nat.div_eq_of_lt (Nat.mod_lt _ hn), Nat.add_zero, Nat.mul_mod_mul_right,
      Nat.mul_mod_mul_right, Nat.mod_mod_of_dvd _ (by decide)]
  · rw [isFirst_iff, hwire, Nat.mul_add_mod, Nat.mod_mod]

end Reading

theorem Prepared.reading (hctx : ctx.ForClass conf frameType) (hc : CountedClass conf frameType)
    (hle : conf.numFramesPerCycle.toNat ≤ 4096) (h : Prepared conf frameType room s bs d) :
    (s.completed d).completion.reading ctx.metaDataOffset conf.numFramesPerCycle =
      if (s.metadata d.addr).timestamp then
        some ⟨wireSequenceCounter conf.numFramesPerCycle d.sequenceCounter,
          (s.metadata d.addr).txTimestamp⟩
      else none := by
  obtain ⟨slot, hslot, haddr, honWire⟩ := h.onWire
  have hview : slice (s.gen.frames.drop (slotOffset room slot))
        (getMetaDataOffset frameType conf.securityMode) 16 =
      slice (slice s.gen.frames (slotOffset room slot) conf.frameLength)
        (getMetaDataOffset frameType conf.securityMode) 16 := by
    rw [drop_slice, slice_slice _ hc.metaData_fits]
  have hstart : d.addr - txUmemStart = slotOffset room slot := by
    rw [haddr, slotAddr, Nat.add_sub_cancel_left, slotOffset_eq (hslot.trans (by decide))]
    rfl
  rw [XdpGenerator.completed, TxCompletion.reading, xdpFramesPerCycle_eq (by omega), hstart,
    hctx.metaDataOffset_eq, getSequenceCounter, metaDataToSequenceCounter_congr hview,
    honWire.decode]

theorem Prepared.reading_timestamped (hctx : ctx.ForClass conf frameType)
    (hc : CountedClass conf frameType) (hle : conf.numFramesPerCycle.toNat ≤ 4096)
    (h : Prepared conf frameType room s bs d)
    (hflag : (s.completed d).completion.timestamped = true) :
    (s.completed d).completion.reading ctx.metaDataOffset conf.numFramesPerCycle =
      some ⟨wireSequenceCounter conf.numFramesPerCycle d.sequenceCounter,
        (s.completed d).completion.hwTs⟩ := by
  rw [h.reading hctx hc hle]
  exact if_pos hflag

/-- What holds between the passes, `past` being what has been reported. -/
structure GenInv (build : BuildConfig) (ctx : ThreadContext) (frameType : StatFrameType)
    (past : List TimestampEvent) (s : XdpGenerator) : Prop where
  ready : s.gen.Ready build ctx.conf frameType
  size : s.tx.size = 4096
  reserved : s.tx.reserved = []
  aligned : ctx.conf.numFramesPerCycle.toNat ∣ s.gen.sequenceCounter.toNat
  below : ∀ b ∈ batchesOf past, ∀ c, b.Contains c → c < s.gen.sequenceCounter.toNat
  increasing : Increasing (batchesOf past)
  prepared : ∀ d ∈ s.inFlight,
    Prepared ctx.conf frameType (txMetadataRoom build ctx.conf) s (batchesOf past) d
  bounded : past ≠ [] → ctx.conf.numFramesPerCycle.toNat ≤ 4096

theorem Prepared.past_ne (h : Prepared conf frameType room s (batchesOf past) d) : past ≠ [] := by
  rintro rfl
  obtain ⟨b, hb, -⟩ := h.batch
  cases hb

/-- The completion a pass looks at is that of the first frame of a cycle. -/
def CompletedDesc.IsFirst (n : UInt64) (c : CompletedDesc) : Prop :=
  c.desc.sequenceCounter.toNat % n.toNat = 0

/-- No chunk is filled again while its frame is on its way, and the first frame of a cycle whose
completion the pass looks at was on its way before the pass, its slot of the backlog is still its
own, and the clocks behave. -/
structure PassInTime (build : BuildConfig) (monitor : Option MacAddress) (ctx : ThreadContext)
    (past : List TimestampEvent) (s : XdpGenerator) (p : XdpGenPass) : Prop where
  unused : ∀ d ∈ s.descs build ctx, ∀ d' ∈ s.inFlight, d.addr ≠ d'.addr
  counter_lt : s.gen.sequenceCounter.toNat + ctx.conf.numFramesPerCycle.toNat < 2 ^ 64
  earlier : ∀ c, (s.peeked build monitor ctx p).head? = some c →
    c.IsFirst ctx.conf.numFramesPerCycle → c.desc ∈ s.inFlight
  window : ∀ c, (s.peeked build monitor ctx p).head? = some c →
    c.IsFirst ctx.conf.numFramesPerCycle → s.gen.sequenceCounter.toNat ≤
      c.desc.sequenceCounter.toNat + 1024 * ctx.conf.numFramesPerCycle.toNat
  clocks : ∀ c, (s.peeked build monitor ctx p).head? = some c →
    c.IsFirst ctx.conf.numFramesPerCycle → ∀ b ∈ batchesOf past,
    b.Contains c.desc.sequenceCounter.toNat →
    b.txTime ≠ 0 ∧ c.completion.hwTs.toNat < b.txTime.toNat + 2 ^ 63

theorem pass_reports (hmode : txHwtstampMode build ctx.conf = true)
    (hsends : tcWaitForTxCycle ctx (p.txPass s) ≠ 0) :
    (tcXdpGenPass build monitor ctx s p).2.reports =
      (((s.peeked build monitor ctx p).take 1).map fun c => .completed c.completion) ++
        if (xdpSubmitFrames build monitor ctx s p).2 then
          [.sent s.gen.sequenceCounter ctx.conf.numFramesPerCycle (p.sentNow 0)]
        else [] := by
  rw [XdpGenOutput.reports, tcXdpGenPass_reaped, hmode, if_pos rfl]
  simp only [tcXdpGenPass, if_neg hsends, hmode, sentReports, if_pos]
  split <;> rfl

theorem batchesOf_completions (cs : List CompletedDesc) :
    batchesOf (cs.map fun c => .completed c.completion) = [] := by
  apply List.filterMap_eq_nil_iff.mpr
  intro ev hev
  obtain ⟨c, -, rfl⟩ := List.mem_map.mp hev
  rfl

theorem batchesOf_reports (hmode : txHwtstampMode build ctx.conf = true)
    (hsends : tcWaitForTxCycle ctx (p.txPass s) ≠ 0) :
    batchesOf (past ++ (tcXdpGenPass build monitor ctx s p).2.reports) =
      batchesOf past ++ if (xdpSubmitFrames build monitor ctx s p).2 then
        [⟨s.gen.sequenceCounter, ctx.conf.numFramesPerCycle, p.sentNow 0⟩] else [] := by
  rw [batchesOf_append, pass_reports hmode hsends, batchesOf_append, batchesOf_completions,
    List.nil_append]
  split <;> rfl

section Step
variable (hctx : ctx.ForClass ctx.conf frameType) (hc : CountedClass ctx.conf frameType)
  (hx : ctx.conf.xdpEnabled = true) (hmode : txHwtstampMode build ctx.conf = true)
  (h : GenInv build ctx frameType past s)
  (hsends : tcWaitForTxCycle ctx (p.txPass s) ≠ 0)
  (hp : PassInTime build monitor ctx past s p)
include hctx hc hx hmode h hsends hp

theorem GenInv.submitted :
    Submitted build ctx.conf frameType s (xdpSubmitFrames build monitor ctx s p) := by
  cases hr : s.tx.reserve (s.descs build ctx) with
  | none => exact xdpSubmitFrames_full h.ready h.size h.reserved hsends hr
  | some tx =>
    exact xdpSubmitFrames_room hctx hc hx hmode h.ready h.size h.reserved hsends hr hp.unused
      h.aligned hp.counter_lt

theorem GenInv.pass :
    GenInv build ctx frameType (past ++ (tcXdpGenPass build monitor ctx s p).2.reports)
      (tcXdpGenPass build monitor ctx s p).1 := by
  have hsub := h.submitted hctx hc hx hmode hsends hp
  have hbatches := @batchesOf_reports build monitor ctx s p past hmode hsends
  have hstate : (tcXdpGenPass build monitor ctx s p).1 =
      (xdpCompleteTxOnly (txHwtstampMode build ctx.conf)
        (xdpSubmitFrames build monitor ctx s p).1 p).1 := by
    simp only [tcXdpGenPass, if_neg hsends]
  have hm := xdpCompleteTxOnly_moved (txHwtstampMode build ctx.conf)
    (xdpSubmitFrames build monitor ctx s p).1 p
  rw [← hstate] at hm
  have hnext : (tcXdpGenPass build monitor ctx s p).1.gen.sequenceCounter.toNat =
      s.gen.sequenceCounter.toNat + ctx.conf.numFramesPerCycle.toNat := by
    rw [hm.gen, hsub.counter, UInt64.toNat_add]
    exact Nat.mod_eq_of_lt hp.counter_lt
  -- old batches end where the new one begins
  have hold : ∀ b ∈ batchesOf past, ∀ c, b.Contains c → c < s.gen.sequenceCounter.toNat := h.below
  refine ⟨hm.gen ▸ hsub.ready, hm.size.trans (hsub.size.trans h.size),
    hm.reserved.trans hsub.reserved, ?_, ?_, ?_, ?_, ?_⟩
  · rw [hnext]
    exact Nat.dvd_add h.aligned (Nat.dvd_refl _)
  · intro b hb c hcontains
    rw [hbatches, List.mem_append] at hb
    rw [hnext]
    rcases hb with hb | hb
    · exact Nat.lt_of_lt_of_le (hold b hb c hcontains) (Nat.le_add_right _ _)
    · split at hb
      · cases List.mem_singleton.mp hb
        exact hcontains.2
      · cases hb
  · rw [hbatches]
    apply List.pairwise_append.mpr ⟨h.increasing, ?_, ?_⟩
    · split
      · exact List.pairwise_singleton _ _
      · exact .nil
    · intro a ha b hb c d hac hbd
      split at hb
      · cases List.mem_singleton.mp hb
        exact Nat.lt_of_lt_of_le (hold a ha c hac) hbd.1
      · cases hb
  · intro d hd
    rw [hbatches]
    apply Prepared.moved _ hm
    rcases hsub.new d (hm.inFlight d hd) with hflight | ⟨hsent, hnew⟩
    · exact (hsub.old d _ hflight (h.prepared d hflight)).mono fun b => List.mem_append_left _
    · rw [hsent, if_pos rfl]
      exact (hnew (p.sentNow 0)).mono fun b => List.mem_append_right _
  · intro hne
    by_cases hsent : (xdpSubmitFrames build monitor ctx s p).2 = true
    · exact hsub.fits hsent
    · rw [pass_reports hmode hsends, if_neg hsent, List.append_nil] at hne
      cases hpeeked : s.peeked build monitor ctx p with
      | nil =>
        rw [hpeeked, List.take_nil, List.map_nil, List.append_nil] at hne
        exact h.bounded hne
      | cons c cs =>
        obtain ⟨hflight, -⟩ := mem_peeked (hpeeked ▸ List.mem_cons_self)
        have hm := kernelSteps_moved (xdpSubmitFrames build monitor ctx s p).1 p.sendto
        rcases hsub.new _ (hm.inFlight _ hflight) with hold | ⟨hsent', -⟩
        · exact h.bounded (h.prepared _ hold).past_ne
        · exact absurd hsent' hsent

/-- A completion that is looked at is that of a frame the thread has prepared, before the pass or
in it. -/
theorem GenInv.handed {c : CompletedDesc} (hhead : (s.peeked build monitor ctx p).head? = some c) :
    c = (s.kicked build monitor ctx p).completed c.desc ∧
      ctx.conf.numFramesPerCycle.toNat ≤ 4096 ∧
      ∃ bs, Prepared ctx.conf frameType (txMetadataRoom build ctx.conf)
          (s.kicked build monitor ctx p) bs c.desc ∧
        (c.desc ∈ s.inFlight → bs = batchesOf past) := by
  have hsub := h.submitted hctx hc hx hmode hsends hp
  obtain ⟨hflight, hcompleted⟩ := mem_peeked (List.mem_of_head? hhead)
  have hm := kernelSteps_moved (xdpSubmitFrames build monitor ctx s p).1 p.sendto
  refine ⟨hcompleted, ?_⟩
  by_cases hold : c.desc ∈ s.inFlight
  · have hprep := h.prepared _ hold
    exact ⟨h.bounded hprep.past_ne, _, (hsub.old _ _ hold hprep).moved hm, fun _ => rfl⟩
  · rcases hsub.new _ (hm.inFlight _ hflight) with hold' | ⟨hsent, hnew⟩
    · exact absurd hold' hold
    · exact ⟨hsub.fits hsent, _, (hnew 0).moved hm, fun hold' => absurd hold' hold⟩

/-- A completion that is passed on is read as that of its own frame; if that is the first of its
cycle, it is passed on, and the slot of the cycle still holds the time of its own batch. -/
theorem GenInv.handed_reading {c : CompletedDesc}
    (hhead : (s.peeked build monitor ctx p).head? = some c)
    (hn : 0 < ctx.conf.numFramesPerCycle.toNat) :
    (∀ r, c.completion.reading ctx.metaDataOffset ctx.conf.numFramesPerCycle = some r →
      (r.isFirst ctx.conf.numFramesPerCycle = true ↔ c.IsFirst ctx.conf.numFramesPerCycle)) ∧
    (c.IsFirst ctx.conf.numFramesPerCycle → ∃ r b,
      c.completion.reading ctx.metaDataOffset ctx.conf.numFramesPerCycle = some r ∧
      r.hwTs = c.completion.hwTs ∧ b ∈ batchesOf past ∧
      b.Contains c.desc.sequenceCounter.toNat ∧
      SentReading ctx.conf.numFramesPerCycle past r b c.desc.sequenceCounter.toNat) := by
  obtain ⟨hcompleted, hle, bs, hprep, hbs⟩ := h.handed hctx hc hx hmode hsends hp hhead
  have hreading := hprep.reading hctx hc hle
  rw [← hcompleted] at hreading
  constructor
  · intro r hr
    rw [hreading] at hr
    split at hr
    · cases hr
      rw [isFirst_iff, wireSequenceCounter_cycle hn (by omega), Nat.mul_add_mod, Nat.mod_mod]
      exact Iff.rfl
    · cases hr
  · intro hfirst
    obtain ⟨b, hb, hcontains⟩ := hprep.batch
    rw [hbs (hp.earlier c hhead hfirst)] at hb
    have hin : ∀ b' ∈ batchesOf past, ∀ d, b'.Contains d →
        d < c.desc.sequenceCounter.toNat / ctx.conf.numFramesPerCycle.toNat *
          ctx.conf.numFramesPerCycle.toNat + 1024 * ctx.conf.numFramesPerCycle.toNat := by
      intro b' hb' d hd
      rw [Nat.div_mul_cancel (Nat.dvd_of_mod_eq_zero hfirst)]
      exact Nat.lt_of_lt_of_le (h.below b' hb' d hd) (hp.window c hhead hfirst)
    rw [if_pos (hprep.flag hfirst)] at hreading
    refine ⟨_, b, hreading, ?_, hb, hcontains, sentReading_wire hn (by omega) hb hcontains hin _⟩
    rw [hcompleted]
    rfl

end Step

theorem GenInv.moved (h : GenInv build ctx frameType past s) (hm : KernelMoved s s') :
    GenInv build ctx frameType past s' where
  ready := hm.gen ▸ h.ready
  size := hm.size.trans h.size
  reserved := hm.reserved.trans h.reserved
  aligned := hm.gen ▸ h.aligned
  below := hm.gen ▸ h.below
  increasing := h.increasing
  prepared d hd := (h.prepared d (hm.inFlight d hd)).moved hm
  bounded := h.bounded

theorem SentBatch.Fits.of_aligned {b : SentBatch} {n : Nat} (hn : 0 < n)
    (hb : n ∣ b.cycleNumber.toNat) (hcount : b.frameCount.toNat = n)
    (hlt : b.cycleNumber.toNat + n < 2 ^ 64) : b.Fits n := by
  obtain ⟨k, hk⟩ := hb
  have hceil : (b.cycleNumber.toNat + b.frameCount.toNat + n - 1) / n = k + 1 := by
    have heq : b.cycleNumber.toNat + b.frameCount.toNat + n - 1 = n * (k + 1) + (n - 1) := by
      rw [hcount, hk, Nat.mul_succ]
      omega
    rw [heq, Nat.mul_add_div hn, Nat.div_eq_of_lt (by omega), Nat.add_zero]
  rw [SentBatch.Fits, hceil, Nat.add_mul, Nat.one_mul, Nat.mul_comm, ← hk]
  exact hlt

section Report
variable (hctx : ctx.ForClass ctx.conf frameType) (hc : CountedClass ctx.conf frameType)
  (hx : ctx.conf.xdpEnabled = true) (hmode : txHwtstampMode build ctx.conf = true)
  (hn : 0 < ctx.conf.numFramesPerCycle.toNat)
  (hcfg : cfg.app.classes frameType = ctx.conf)
include hctx hc hx hmode hn hcfg

/-- What a pass reports is in time. -/
theorem GenInv.reports_inTime (h : GenInv build ctx frameType past s)
    (hsends : tcWaitForTxCycle ctx (p.txPass s) ≠ 0) (hp : PassInTime build monitor ctx past s p)
    (hpast : AllInTime cfg frameType ctx.metaDataOffset past) :
    AllInTime cfg frameType ctx.metaDataOffset
      (past ++ (tcXdpGenPass build monitor ctx s p).2.reports) := by
  have hframes : cfg.framesPerCycle frameType = ctx.conf.numFramesPerCycle :=
    congrArg TrafficClassConfig.numFramesPerCycle hcfg
  have hen : cfg.txHwtstampEnabled frameType = true := by
    rw [StatConfig.txHwtstampEnabled, hcfg]
    exact (Bool.and_eq_true_iff.mp hmode).2
  have hsent : ∀ past', InTime cfg frameType ctx.metaDataOffset past'
      (.sent s.gen.sequenceCounter ctx.conf.numFramesPerCycle (p.sentNow 0)) := by
    intro past'
    rw [InTime, stampStep_hw hen, hframes]
    exact .of_aligned hn h.aligned rfl hp.counter_lt
  have hlast : ∀ past', AllInTime cfg frameType ctx.metaDataOffset past' →
      AllInTime cfg frameType ctx.metaDataOffset
        (past' ++ if (xdpSubmitFrames build monitor ctx s p).2 then
          [.sent s.gen.sequenceCounter ctx.conf.numFramesPerCycle (p.sentNow 0)] else []) := by
    intro past' hpast'
    split
    · exact hpast'.concat (hsent past')
    · rw [List.append_nil]
      exact hpast'
  rw [pass_reports hmode hsends, ← List.append_assoc]
  apply hlast
  cases hpeeked : s.peeked build monitor ctx p with
  | nil =>
    rw [List.take_nil, List.map_nil, List.append_nil]
    exact hpast
  | cons c cs =>
    have hhead : (s.peeked build monitor ctx p).head? = some c := by rw [hpeeked, List.head?_cons]
    have hhanded := h.handed hctx hc hx hmode hsends hp hhead
    obtain ⟨hread, hfirst⟩ := h.handed_reading hctx hc hx hmode hsends hp hhead hn
    apply hpast.concat
    rw [InTime, hframes]
    refine ⟨TxCompletion.framesPerCycle_eq (by omega) _, fun r hr hf => ?_⟩
    have hf' := (hread r hr).mp hf
    obtain ⟨r', b, hr', hhw, hb, hcontains, hreading⟩ := hfirst hf'
    cases hr'.symm.trans hr
    obtain ⟨hclock, hsmall⟩ := hp.clocks c hhead hf' b hb hcontains
    exact ⟨b, _, hreading, hclock, hhw ▸ hsmall⟩

/-- What a pass adds to the Tx statistics. -/
theorem GenInv.pass_tx (hopt : cfg.logStatUserSelected ≠ .mirror)
    (h : GenInv build ctx frameType past s)
    (hsends : tcWaitForTxCycle ctx (p.txPass s) ≠ 0) (hp : PassInTime build monitor ctx past s p)
    (ht : SendTimes cfg frameType past t₁) :
    ∃ t₂, timestampRun cfg frameType ctx.metaDataOffset t₁
        (tcXdpGenPass build monitor ctx s p).2.reports = some t₂ ∧
      (∀ c, (s.peeked build monitor ctx p).head? = some c →
        c.IsFirst ctx.conf.numFramesPerCycle →
        ∃ b ∈ batchesOf past, b.Contains c.desc.sequenceCounter.toNat ∧
          (t₂.globalStatistics frameType).tx =
            if c.completion.hwTs ≠ 0 then
              (t₁.globalStatistics frameType).afterTx c.completion.hwTs b.txTime
            else (t₁.globalStatistics frameType).tx) ∧
      ((∀ c, (s.peeked build monitor ctx p).head? = some c →
          ¬ c.IsFirst ctx.conf.numFramesPerCycle) →
        (t₂.globalStatistics frameType).tx = (t₁.globalStatistics frameType).tx) := by
  have hframes : cfg.framesPerCycle frameType = ctx.conf.numFramesPerCycle :=
    congrArg TrafficClassConfig.numFramesPerCycle hcfg
  have hen : cfg.txHwtstampEnabled frameType = true := by
    rw [StatConfig.txHwtstampEnabled, hcfg]
    exact (Bool.and_eq_true_iff.mp hmode).2
  have hn' : 0 < (cfg.framesPerCycle frameType).toNat := hframes ▸ hn
  have hfit : SentBatch.Fits ⟨s.gen.sequenceCounter, ctx.conf.numFramesPerCycle, p.sentNow 0⟩
      (cfg.stampStep frameType) := by
    rw [stampStep_hw hen, hframes]
    exact .of_aligned hn h.aligned rfl hp.counter_lt
  -- the send report comes last and leaves the Tx statistics alone
  have hlast : ∀ past' t, SendTimes cfg frameType past' t →
      ∃ t₂, timestampRun cfg frameType ctx.metaDataOffset t
          (if (xdpSubmitFrames build monitor ctx s p).2 then
            [.sent s.gen.sequenceCounter ctx.conf.numFramesPerCycle (p.sentNow 0)] else []) =
          some t₂ ∧
        (t₂.globalStatistics frameType).tx = (t.globalStatistics frameType).tx := by
    intro past' t ht'
    split
    · obtain ⟨t₂, ht₂, -, htx⟩ := ht'.sent hn' hopt hfit
      exact ⟨t₂, by rw [timestampRun, List.foldlM_cons, ht₂]; rfl, htx⟩
    · exact ⟨t, rfl, rfl⟩
  rw [pass_reports hmode hsends]
  cases hpeeked : s.peeked build monitor ctx p with
  | nil =>
    obtain ⟨t₂, ht₂, htx⟩ := hlast past t₁ ht
    refine ⟨t₂, ht₂, ?_, fun _ => htx⟩
    intro c hc
    cases hc
  | cons c cs =>
    have hhead : (s.peeked build monitor ctx p).head? = some c := by rw [hpeeked, List.head?_cons]
    have hhanded := h.handed hctx hc hx hmode hsends hp hhead
    obtain ⟨hread, hfirst⟩ := h.handed_reading hctx hc hx hmode hsends hp hhead hn
    obtain ⟨t, hstep, ht', hlater, hsome⟩ :=
      @SendTimes.completed cfg t₁ frameType ctx.metaDataOffset past hn' ht c.completion
        (hframes ▸ TxCompletion.framesPerCycle_eq (by omega) _)
    obtain ⟨t₂, ht₂, htx⟩ := hlast _ t ht'
    rw [hframes] at hlater hsome
    refine ⟨t₂, ?_, ?_, ?_⟩
    · rw [timestampRun, List.take_succ_cons, List.take_zero, List.map_singleton,
        List.singleton_append, List.foldlM_cons, hstep]
      exact ht₂
    · intro c' hc' hf
      cases hc'
      obtain ⟨r, b, hr, hhw, hb, hcontains, hreading⟩ := hfirst hf
      obtain ⟨hclock, hsmall⟩ := hp.clocks c hhead hf b hb hcontains
      refine ⟨b, hb, hcontains, ?_⟩
      rw [htx, hsome r b _ hr hen h.increasing ((hread r hr).mpr hf) hreading hclock
        (hhw.symm ▸ hsmall), hhw]
    · intro hnot
      rw [htx]
      apply hlater
      intro r hr
      exact Bool.eq_false_iff.mpr fun hf => hnot c List.head?_cons ((hread r hr).mp hf)

end Report

end RtcTestbench
