import RtcTestbench.TxLatency
import RtcTestbench.XdpTraffic

namespace RtcTestbench
open Buffer Machine Window XskRing
set_option autoImplicit true

/-- The counters `stat_frames_sent_batch` is told. -/
def XdpTraffic.named (t : XdpTraffic) : List UInt64 :=
  t.batch.elim [] fun b => consecutive b.1 b.2

/-- The counters in the frames sent, as a completion finds them. -/
def XdpTraffic.carried (ctx : ThreadContext) (t : XdpTraffic) : List UInt64 :=
  t.sent.map fun frame =>
    getSequenceCounter frame ctx.metaDataOffset ctx.conf.numFramesPerCycle

/-- The completion of a frame that starts a cycle finds `now` in the slot it looks up. -/
def FindsSendTime (n : UInt64) (metaDataOffset : Nat) (sent : List (List UInt8)) (now : UInt64)
    (times : List UInt64) : Prop :=
  ∀ frame ∈ sent, ∀ metadata r,
    (TxCompletion.xdp metadata frame).reading metaDataOffset n = some r → r.isFirst n = true →
      times[(r.cycleSeq n).toNat % times.length]? = some now

def XdpTrafficEvent.isKernel : XdpTrafficEvent → Bool
  | .dma _ _ _ => true
  | .threads (.kernel _) => true
  | _ => false

/-- The passes take turns: no Rx pass finds frames that are still waiting for a Tx pass. -/
def TakesTurns (s : XdpThreads) : XdpTrafficEvent → Prop
  | .dma _ _ _ => True
  | .threads e => NoneWaiting s e

variable {ctx : ThreadContext} {conf : TrafficClassConfig} {s s' : XdpThreads} {e : UInt64}

/-- An expectation that is `m` frames behind catches up by one with each frame. -/
theorem expectedAfter_consecutive (e : UInt64) {m : Nat} (hm : m < 2 ^ 64) (k : Nat) :
    expectedAfter e (consecutive (e + UInt64.ofNat m) k) = e + UInt64.ofNat (k + min m k) := by
  induction k generalizing e m with
  | zero =>
    rw [Nat.min_zero]
    exact (UInt64.add_zero e).symm
  | succ k ih =>
    rw [consecutive, expectedAfter, List.foldl_cons, ← expectedAfter, nextSequenceCounter]
    cases m with
    | zero =>
      have hsame (x : UInt64) : x + UInt64.ofNat 0 = x := UInt64.add_zero x
      have hrest := @ih (e + 1) 0 (by decide)
      rw [hsame, Nat.zero_min, Nat.add_zero] at hrest
      rw [hsame, if_neg (not_not_intro rfl), hrest, Nat.zero_min, Nat.add_zero, add_one_add_ofNat]
    | succ m =>
      have hbehind : e + UInt64.ofNat (m + 1) ≠ e := by
        intro heq
        have hzero : UInt64.ofNat (m + 1) = 0 := UInt64.add_eq_left.mp heq
        have hnat := congrArg UInt64.toNat hzero
        rw [UInt64.toNat_ofNat', Nat.mod_eq_of_lt hm] at hnat
        exact Nat.succ_ne_zero m hnat
      have hnext : e + UInt64.ofNat (m + 1) + 1 = e + 1 + 1 + UInt64.ofNat m := by
        rw [← add_one_add_ofNat, UInt64.add_assoc, UInt64.add_comm (UInt64.ofNat m),
          ← UInt64.add_assoc]
      rw [if_pos hbehind, hnext, ih (e + 1 + 1) (Nat.lt_of_succ_lt hm), add_one_add_ofNat,
        add_one_add_ofNat, Nat.succ_min_succ]
      congr 2
      omega

/-- The range in front of the expectation is the range received exactly if the frames received are
consecutive and no more than their number was lost before them. -/
theorem named_iff_consecutive (e : UInt64) {cs : List UInt64} (hlen : cs.length < 2 ^ 64) :
    consecutive (expectedAfter e cs - UInt64.ofNat cs.length) cs.length = cs ↔
      ∃ lost ≤ cs.length, cs = consecutive (e + UInt64.ofNat lost) cs.length := by
  constructor
  · intro hnamed
    generalize hfirst : expectedAfter e cs - UInt64.ofNat cs.length = first at hnamed
    have hlost : first = e + UInt64.ofNat (first - e).toNat := by
      rw [UInt64.ofNat_toNat, UInt64.add_comm, UInt64.sub_add_cancel]
    have hexp := expectedAfter_consecutive e (first - e).toNat_lt cs.length
    rw [← hlost, hnamed] at hexp
    refine ⟨(first - e).toNat, ?_, by rw [← hlost, hnamed]⟩
    by_contra hmore
    rw [Nat.min_eq_right (by omega), UInt64.ofNat_add, ← UInt64.add_assoc] at hexp
    rw [hexp, UInt64.add_sub_cancel] at hfirst
    apply hmore
    rw [← hfirst, UInt64.add_comm, UInt64.add_sub_cancel, UInt64.toNat_ofNat']
    exact Nat.mod_le _ _
  · rintro ⟨lost, hle, heq⟩
    have hexp := expectedAfter_consecutive e (Nat.lt_of_le_of_lt hle hlen) cs.length
    rw [← heq, Nat.min_eq_left hle, Nat.add_comm, UInt64.ofNat_add, ← UInt64.add_assoc] at hexp
    rw [hexp, UInt64.add_sub_cancel]
    exact heq.symm

theorem TakesTurns.covered {ev : XdpTrafficEvent} (hm : conf.rxMirrorEnabled = true)
    (hcov : s.receivedFrames = s.xsk.tx.reserved.length) (ht : TakesTurns s ev) :
    ((xdpTraffic conf).step s ev).1.receivedFrames =
      ((xdpTraffic conf).step s ev).1.xsk.tx.reserved.length := by
  cases ev with
  | dma i offset bytes =>
    change (kernelWrite s i offset bytes).receivedFrames =
      (kernelWrite s i offset bytes).xsk.tx.reserved.length
    rw [kernelWrite]
    repeat' split
    all_goals exact hcov
  | threads ev =>
    have hstep := xdpThreads_handOver hm s ev
    change ((xdpThreads conf).step s ev).1.receivedFrames = _
    change _ = ((xdpThreads conf).step s ev).1.xsk.tx.reserved.length
    generalize ((xdpThreads conf).step s ev).1 = s', ((xdpThreads conf).step s ev).2 = out
      at hstep ⊢
    cases hstep with
    | kernel k hr hn => rw [hr, hn, hcov]
    | rx p n queued reports logs hr hn =>
      have hnone : s.receivedFrames = 0 := ht
      rw [hr, hn, List.length_append, ← hcov, hnone, Nat.zero_add]
    | tx p batch logs hr hn => rw [hr, hn, List.length_drop, hcov, Nat.sub_self]

theorem xdpTraffic_covered (hm : conf.rxMirrorEnabled = true) {es : List XdpTrafficEvent}
    (hcov : s.receivedFrames = s.xsk.tx.reserved.length)
    (ht : (xdpTraffic conf).Along TakesTurns s es) :
    ((xdpTraffic conf).run s es).1.receivedFrames =
      ((xdpTraffic conf).run s es).1.xsk.tx.reserved.length := by
  induction es generalizing s with
  | nil => exact hcov
  | cons ev es ih => exact ih (TakesTurns.covered hm hcov ht.1) ht.2

/-- What the kernel does between the passes changes neither the frames that wait nor what the
threads know about them. -/
structure Undisturbed (s s' : XdpThreads) : Prop where
  waiting : s'.waiting = s.waiting
  received : s'.receivedFrames = s.receivedFrames
  ctx_eq : s'.ctx = s.ctx

theorem TrafficStep.quiet (h : TrafficStep conf s s' ⟨[], [], batch⟩) : s'.waiting = s.waiting := by
  obtain ⟨mirrored, heq, hnone⟩ := h.moved
  cases hnone
  rw [List.append_nil] at heq
  exact heq.symm

theorem TrafficInv.kernel {ev : XdpTrafficEvent} (h : TrafficInv conf s)
    (hk : ev.isKernel = true) :
    TrafficInv conf ((xdpTraffic conf).step s ev).1 ∧
      Undisturbed s ((xdpTraffic conf).step s ev).1 := by
  cases ev with
  | dma i offset bytes =>
    have hstep := h.dma i offset bytes
    refine ⟨hstep.inv, hstep.quiet, ?_, ?_⟩
    · change (kernelWrite s i offset bytes).receivedFrames = _
      rw [kernelWrite]
      repeat' split
      all_goals rfl
    · change (kernelWrite s i offset bytes).ctx = _
      rw [kernelWrite]
      repeat' split
      all_goals rfl
  | threads ev =>
    cases ev with
    | kernel k =>
      have hstep := h.idle (h.inv.step (.kernel k)) rfl rfl (kernelStep_reserved s.xsk k)
        fun _ _ => rfl
      exact ⟨hstep.inv, hstep.quiet, rfl, rfl⟩
    | rx p => cases hk
    | tx p => cases hk

theorem TrafficInv.kernels {es : List XdpTrafficEvent} (h : TrafficInv conf s)
    (hk : ∀ ev ∈ es, ev.isKernel = true) :
    TrafficInv conf ((xdpTraffic conf).run s es).1 ∧
      Undisturbed s ((xdpTraffic conf).run s es).1 := by
  induction es generalizing s with
  | nil => exact ⟨h, rfl, rfl, rfl⟩
  | cons ev es ih =>
    obtain ⟨hev, hes⟩ := List.forall_mem_cons.mp hk
    obtain ⟨hinv, hstep⟩ := h.kernel hev
    obtain ⟨hinv', hrest⟩ := ih hinv hes
    exact ⟨hinv', hrest.waiting.trans hstep.waiting, hrest.received.trans hstep.received,
      hrest.ctx_eq.trans hstep.ctx_eq⟩

/-- If every frame of a pass is accepted, the expectation follows the counters of all of them. -/
theorem RxPassEffect.accepted_all {out : XdpOutput} (h : RxPassEffect conf s p s' out)
    (hr : s.ctx.VlanReceiver) (hall : ∀ f ∈ s.found p, f.accepted = true) :
    acceptedCounters s.ctx s.umem (s.peek p) =
      (s.found p).map fun f => s.ctx.rxCounter f.bytes := by
  rw [h.found_map] at hall ⊢
  rw [List.map_map, ← List.filterMap_eq_map, acceptedCounters]
  apply List.filterMap_congr
  intro d hd
  have hacc := of_decide_eq_true (hall _ (List.mem_map_of_mem hd))
  rw [if_pos hacc, hr.rxCounter_region hacc]
  rfl

theorem accepted_of_accepts {found : List FoundFrame}
    (h : List.Forall₂ (MirroredFrame ctx) found sent)
    (hall : ∀ f ∈ found, ctx.Accepts f.bytes f.bytes.length) : ∀ f ∈ found, f.accepted = true := by
  induction h with
  | nil => nofun
  | cons hf _ ih =>
    obtain ⟨hhead, htail⟩ := List.forall_mem_cons.mp hall
    apply List.forall_mem_cons.mpr ⟨?_, ih htail⟩
    rw [hf.verdict]
    exact decide_eq_true hhead

/-- A Tx pass that follows an Rx pass of accepted frames: what it sends, and what it says. -/
theorem TrafficInv.report (h : TrafficInv conf s) (hm : conf.rxMirrorEnabled = true)
    (hx : conf.xdpEnabled = true) (hempty : s.xsk.tx.reserved = []) (q : XdpRxPass)
    (hfits : ∀ desc ∈ s.peek q, desc.FitsChunk conf)
    (hall : ∀ f ∈ s.found q, s.ctx.Accepts f.bytes f.bytes.length)
    (hk : ∀ ev ∈ between, ev.isKernel = true) (p : XdpTxPass) :
    let counters := (s.found q).map fun f => s.ctx.rxCounter f.bytes
    let t := ((xdpTraffic conf).step
      ((xdpTraffic conf).run s (.threads (.rx q) :: between)).1 (.threads (.tx p))).2
    t.carried s.ctx = counters ∧ t.batch = if 0 < counters.length then
      some (expectedAfter s.ctx.rxSequenceCounter counters - UInt64.ofNat counters.length,
        counters.length) else none := by
  intro counters t
  have heffect := tcXdpRxPass_effect h hm hx q hfits
  have hstep := h.rxPass hm hx q hfits
  rw [heffect.found_eq] at hstep
  obtain ⟨mirrored, hwaiting, hmirrored⟩ := hstep.moved
  have hnone : s.waiting = [] := by rw [XdpThreads.waiting, hempty]; rfl
  rw [hnone, List.nil_append, List.nil_append] at hwaiting
  have haccepted : List.Forall₂ (fun f sent => getSequenceCounter sent s.ctx.metaDataOffset
      s.ctx.conf.numFramesPerCycle = s.ctx.rxCounter f.bytes) (s.found q) mirrored := by
    have hboth := (List.forall₂_and_left _ _).mpr ⟨hall, hmirrored⟩
    refine hboth.imp fun f sent hf => hf.2.counter ?_
    rw [hf.2.verdict]
    exact decide_eq_true hf.1
  have hexpected := heffect.packets.expected
  rw [heffect.accepted_all h.receiver (accepted_of_accepts hmirrored hall)] at hexpected
  obtain ⟨-, hkernel⟩ := hstep.inv.kernels hk
  have hlast : ((xdpTraffic conf).run s (.threads (.rx q) :: between)).1 =
      ((xdpTraffic conf).run (tcXdpRxPass conf s q).1 between).1 := rfl
  rw [← hlast] at hkernel
  have hcount : counters.length = (s.peek q).length := by
    rw [List.length_map, heffect.found_map, List.length_map]
  have ht : t = _ := congrArg Prod.snd (xdpTraffic_tx hm _ p)
  generalize ((xdpTraffic conf).run s (.threads (.rx q) :: between)).1 = last at hkernel ht
  have hreceived : last.receivedFrames = counters.length := by
    rw [hkernel.received, heffect.waiting, hcount]
  have hsent : t.sent = mirrored := by
    have hlength : mirrored.length = counters.length := by
      rw [← hmirrored.length_eq, List.length_map]
    rw [ht, List.map_take, hreceived, ← hlength]
    change last.waiting.take mirrored.length = mirrored
    rw [hkernel.waiting, ← hwaiting, List.take_length]
  have hbatch : t.batch = (tcXdpMirrorPass last p).2.batch := by rw [ht]
  constructor
  · rw [XdpTraffic.carried, hsent]
    exact (map_eq_of_forall₂ haccepted fun _ _ h => h.symm).symm
  · rw [hbatch, tcXdpMirrorPass, XdpOutput.batch, hreceived, hkernel.ctx_eq, hexpected]

/-- A batch that names the frames sent puts its time where their completions look. -/
theorem findsSendTime_of_named {cfg : StatConfig} {stat : StatState} {frameType : StatFrameType}
    {times : List UInt64} {sent : List (List UInt8)} {first : UInt64} {k metaDataOffset : Nat}
    (hmode : cfg.logStatUserSelected ≠ .mirror) (hen : cfg.txHwtstampEnabled frameType = true)
    (hn : 0 < (cfg.framesPerCycle frameType).toNat)
    (hwhole : (cfg.framesPerCycle frameType).toNat < 2 ^ 32)
    (hnamed : ∀ frame ∈ sent, getSequenceCounter frame metaDataOffset
      (cfg.framesPerCycle frameType) ∈ consecutive first k)
    (hk : k ≤ 1024) (hwrap : first.toNat + k + (cfg.framesPerCycle frameType).toNat ≤ 2 ^ 64)
    (h : (stat.roundTripContexts frameType).Holds times)
    (hlen : times.length = 1024 * (cfg.framesPerCycle frameType).toNat) (now : UInt64) :
    ∃ stat' times', statFramesSentBatch cfg stat frameType first (UInt64.ofNat k) now =
        some stat' ∧
      (stat'.roundTripContexts frameType).Holds times' ∧ times'.length = times.length ∧
      FindsSendTime (cfg.framesPerCycle frameType) metaDataOffset sent now times' := by
  generalize hstep : (cfg.framesPerCycle frameType).toNat = n at hn hwrap hlen
  have hcount : (UInt64.ofNat k).toNat = k := by
    rw [UInt64.toNat_ofNat']
    exact Nat.mod_eq_of_lt (by omega)
  let b : SentBatch := ⟨first, UInt64.ofNat k, now⟩
  have hspec (c : Nat) : b.Contains c ↔ first.toNat ≤ c ∧ c < first.toNat + k := by
    rw [SentBatch.Contains, hcount]
  have hfit : b.Fits (cfg.stampStep frameType) := by
    rw [stampStep_hw hen, hstep, SentBatch.Fits, hcount]
    have hround := Nat.div_mul_le_self (first.toNat + k + n - 1) n
    change (first.toNat + k + n - 1) / n * n < 2 ^ 64
    omega
  obtain ⟨stat', hstat', hholds, -, -⟩ :=
    statFramesSentBatch_holds hmode (by rw [hstep]; exact hn) h hfit
  refine ⟨stat', _, hstat', hholds, length_foldl_record _ _, ?_⟩
  intro frame hframe metadata r hr hfirst
  rw [TxCompletion.reading, xdpFramesPerCycle_eq hwhole] at hr
  split at hr
  · cases hr
    have hcontains : b.Contains
        (getSequenceCounter frame metaDataOffset (cfg.framesPerCycle frameType)).toNat := by
      obtain ⟨g, hg, heq⟩ := mem_consecutive.mp (hnamed frame hframe)
      have hsum : (UInt64.ofNat g).toNat = g := by
        rw [UInt64.toNat_ofNat']
        exact Nat.mod_eq_of_lt (by omega)
      rw [hspec, heq, UInt64.toNat_add, hsum, Nat.mod_eq_of_lt (by omega)]
      omega
    have hdvd := Nat.dvd_of_mod_eq_zero ((isFirst_iff _ _).mp hfirst)
    have hslot := @getElem?_writes times b [b] _ _
      (StatConfig.stampStep_pos (by rw [hstep]; exact hn))
      h.pos (List.pairwise_singleton _ _) (List.mem_singleton_self b) hcontains
      (by rw [stampStep_hw hen]; exact hdvd) (by
        intro b' hb' d hd
        rw [List.mem_singleton.mp hb', hspec] at hd
        rw [hspec] at hcontains
        rw [hlen]
        omega)
    rw [List.flatMap_singleton] at hslot
    rw [length_foldl_record, TxReading.cycleSeq, toNat_cycleStart, Nat.div_mul_cancel hdvd]
    exact hslot
  · cases hr

/-- A Tx pass that sends what an Rx pass found and accepted names the right frames exactly if they
are consecutive and no more frames than that were lost right before them. Then each completion that
starts a cycle looks up the slot that holds the time of the pass. What was received before, and what
was refused, does not matter. -/
theorem mirror_names_sent (h : MirrorsInPlace ctx umem) (build : BuildConfig)
    (past between : List XdpTrafficEvent) (q : XdpRxPass) (p : XdpTxPass)
    (hin : (xdpTraffic ctx.conf).Along (InChunk ctx.conf) (XdpThreads.start build ctx umem)
      (past ++ [.threads (.rx q)]))
    (hturns : (xdpTraffic ctx.conf).Along TakesTurns (XdpThreads.start build ctx umem)
      (past ++ [.threads (.rx q)]))
    (hbetween : ∀ ev ∈ between, ev.isKernel = true) :
    let traffic := xdpTraffic ctx.conf
    let s := (traffic.run (XdpThreads.start build ctx umem) past).1
    let counters := (s.found q).map fun f => ctx.rxCounter f.bytes
    let t := (traffic.step (traffic.run s (.threads (.rx q) :: between)).1 (.threads (.tx p))).2
    (∀ f ∈ s.found q, ctx.Accepts f.bytes f.bytes.length) →
      (t.named = t.carried ctx ↔ ∃ lost ≤ counters.length,
        counters = consecutive (s.ctx.rxSequenceCounter + UInt64.ofNat lost) counters.length) ∧
      ∀ first k, t.batch = some (first, k) → t.named = t.carried ctx →
        ∀ cfg stat frameType times now, cfg.logStatUserSelected ≠ .mirror →
          cfg.txHwtstampEnabled frameType = true →
          cfg.framesPerCycle frameType = ctx.conf.numFramesPerCycle →
          0 < ctx.conf.numFramesPerCycle.toNat →
          ctx.conf.numFramesPerCycle.toNat < 2 ^ 32 →
          first.toNat + k + ctx.conf.numFramesPerCycle.toNat ≤ 2 ^ 64 →
          (stat.roundTripContexts frameType).Holds times →
          times.length = 1024 * ctx.conf.numFramesPerCycle.toNat →
          ∃ stat' times', statFramesSentBatch cfg stat frameType first (UInt64.ofNat k) now =
              some stat' ∧
            (stat'.roundTripContexts frameType).Holds times' ∧ times'.length = times.length ∧
            FindsSendTime ctx.conf.numFramesPerCycle ctx.metaDataOffset t.sent now times' := by
  intro traffic s counters t hall
  obtain ⟨hpast, hfits, -⟩ := (System.along_append _ _ _ _).mp hin
  obtain ⟨hpastTurns, hnone, -⟩ := (System.along_append _ _ _ _).mp hturns
  have hrun := xdpTraffic_run h.mirror h.xdp past (h.start build) hpast
  have hsame : ctx.SameClass s.ctx := hrun.same
  have hempty : s.xsk.tx.reserved = [] := by
    have hcovered := xdpTraffic_covered h.mirror rfl hpastTurns
    exact List.eq_nil_of_length_eq_zero (hcovered.symm.trans hnone)
  obtain ⟨hcarried, hbatch⟩ := hrun.inv.report h.mirror h.xdp hempty q hfits
    (fun f hf => (hsame.accepts _ _).mpr (hall f hf)) hbetween p
  have hcounters : ((s.found q).map fun f => s.ctx.rxCounter f.bytes) = counters :=
    List.map_congr_left fun f _ => hsame.rxCounter f.bytes
  change t.carried s.ctx = _ at hcarried
  change t.batch = _ at hbatch
  rw [XdpTraffic.carried, hsame.metaDataOffset_eq, hsame.conf_eq, ← XdpTraffic.carried] at hcarried
  rw [hcounters] at hcarried hbatch
  have hsize : counters.length ≤ xdpBatchSize := by
    rw [List.length_map]
    exact s.length_found_le q
  have hnamed : t.named = consecutive (expectedAfter s.ctx.rxSequenceCounter counters -
      UInt64.ofNat counters.length) counters.length := by
    rw [XdpTraffic.named, hbatch]
    split
    · rfl
    · rename_i hz
      rw [Nat.eq_zero_of_not_pos hz]
      rfl
  refine ⟨?_, ?_⟩
  · rw [hnamed, hcarried]
    exact named_iff_consecutive _ (Nat.lt_of_le_of_lt hsize (by decide))
  · intro first k hfirst heq cfg stat frameType times now hmode hen hframes hn hwhole hwrap hholds
      hlen
    have hk : k ≤ 1024 := by
      rw [hbatch] at hfirst
      split at hfirst
      · cases hfirst
        exact Nat.le_trans hsize (by decide)
      · cases hfirst
    rw [← hframes] at hn hwhole hwrap hlen
    have hfinds := @findsSendTime_of_named cfg stat frameType times t.sent first k
      ctx.metaDataOffset hmode hen hn hwhole (fun frame hframe => ?_) hk hwrap hholds hlen now
    · rwa [hframes] at hfinds
    · have hmem : getSequenceCounter frame ctx.metaDataOffset ctx.conf.numFramesPerCycle ∈
          t.carried ctx := List.mem_map_of_mem hframe
      rw [← heq, XdpTraffic.named, hfirst] at hmem
      rw [hframes]
      exact hmem

/-- What the mirror sends and says when its first Rx pass finds one frame. -/
def firstTurn (frame : List UInt8) : XdpTraffic :=
  let traffic := xdpTraffic l2Mirror.conf
  let s := (traffic.run (XdpThreads.start fullBuild l2Mirror l2Umem) (arrival frame)).1
  (traffic.step (traffic.run s [.threads (.rx plainRxPass)]).1 (.threads (.tx plainTxPass))).2

/-- The first frame of a stream arrives and goes back. -/
theorem mirror_names_sent_first :
    (firstTurn (l2Frame 0)).named = (firstTurn (l2Frame 0)).carried l2Mirror ∧
    (firstTurn (l2Frame 0)).batch = some (0, 1) ∧
    ∃ stat stat' times, statInit ⟨fullBuild, l2MirrorConfig, .txTimestamps⟩ = some stat ∧
      statFramesSentBatch ⟨fullBuild, l2MirrorConfig, .txTimestamps⟩ stat .genericL2 0 1 1000000 =
        some stat' ∧
      (stat'.roundTripContexts .genericL2).Holds times ∧
      FindsSendTime 1 18 (firstTurn (l2Frame 0)).sent 1000000 times := by
  let cfg : StatConfig := ⟨fullBuild, l2MirrorConfig, .txTimestamps⟩
  have hsome : (statInit cfg).isSome = true := by decide +kernel
  obtain ⟨stat, hstat⟩ := Option.isSome_iff_exists.mp hsome
  have hholds : (stat.roundTripContexts .genericL2).Holds
      (List.replicate (1024 * (cfg.framesPerCycle .genericL2).toNat) 0) :=
    (statInit_tracked (by decide) (by decide) (by decide) hstat).1.holds
  have hframes : l2Mirror.conf.numFramesPerCycle = 1 := by decide +kernel
  have hoffset : l2Mirror.metaDataOffset = 18 := by decide +kernel
  have hbatch : (firstTurn (l2Frame 0)).batch = some (0, 1) := by decide +kernel
  obtain ⟨hiff, hstamp⟩ := mirror_names_sent l2Mirror_mirrors fullBuild (arrival (l2Frame 0)) []
    plainRxPass plainTxPass arrival_inChunk
    ((System.along_append _ _ _ _).mpr ⟨⟨trivial, trivial, trivial, trivial⟩, by
      change XdpThreads.receivedFrames _ = 0
      decide +kernel, trivial⟩)
    nofun (by decide +kernel)
  have hnamed : (firstTurn (l2Frame 0)).named = (firstTurn (l2Frame 0)).carried l2Mirror :=
    hiff.mpr ⟨0, Nat.zero_le _, by decide +kernel⟩
  obtain ⟨stat', times, hstat', hholds', -, hfinds⟩ :=
    hstamp 0 1 hbatch hnamed cfg stat .genericL2 _
    1000000 (by decide) (by decide) (by rw [hframes]; decide) (by rw [hframes]; decide)
    (by rw [hframes]; decide) (by rw [hframes]; decide) hholds
    (by rw [List.length_replicate, hframes]; decide)
  rw [hframes, hoffset] at hfinds
  exact ⟨hnamed, hbatch, stat, stat', times, hstat, hstat', hholds', hfinds⟩

/-- Frames 0 and 1 are lost before the first pass: it names frame 1 and sends frame 2. -/
theorem mirror_names_sent_two_lost :
    configSanityCheck fullBuild l2MirrorConfig = true ∧
    threadsCreate chachaInit l2MirrorConfig .genericL2 defaultDestination = some l2Mirror ∧
    (firstTurn (l2Frame 2)).named = [1] ∧ (firstTurn (l2Frame 2)).carried l2Mirror = [2] :=
  ⟨by decide, l2Mirror_created, by decide +kernel, by decide +kernel⟩

end RtcTestbench
