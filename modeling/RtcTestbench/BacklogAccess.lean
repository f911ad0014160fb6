import RtcTestbench.RxTimestamp
import RtcTestbench.RoundTripTime

namespace RtcTestbench
open Function
set_option autoImplicit true

/-- The mode the two programs start the statistics in. -/
def tbStartupMode (isMirror : Bool) (app : AppConfig) : LogStatOption :=
  if isMirror then
    if statFrameTypes.any fun t => (app.classes t).txHwtstampEnabled then .txTimestamps else .mirror
  else .reference

/-- Whether an AF_XDP mirror asks for the send time of a frame with counter `seq`; `none` for a
division by zero. -/
def xdpMirrorWantsTimestamp (fpc seq : UInt64) : Option Bool :=
  if fpc = 0 then none else some (seq % fpc = 0 || seq % fpc = fpc - 1)

/-- What the threads of a class and the signal handler call; `mirror` is what `xdp_receive_frames`
looks up in a frame it puts into the Tx ring. -/
inductive ThreadCall where
  | report (frameType : StatFrameType) (metaDataOffset : Nat) (e : TimestampEvent)
  | mirror (frameType : StatFrameType) (metaDataOffset : Nat) (packet : List UInt8)
  | workload (frameType : StatFrameType) (id : Fin workloadMax) (startTime now : UInt64)
  | workloadOutlier (frameType : StatFrameType) (id : Fin workloadMax)
  | update (now : UInt64)
  | resetRequest

section Calls
variable (cfg : StatConfig)

def threadCall (s : StatState) : ThreadCall → Option StatState
  | .report frameType metaDataOffset e => timestampCall cfg frameType metaDataOffset s e
  | .mirror frameType metaDataOffset packet =>
    let fpc := xdpFramesPerCycle (cfg.framesPerCycle frameType)
    (xdpMirrorWantsTimestamp fpc (getSequenceCounter packet metaDataOffset fpc)).map fun _ => s
  | .workload frameType id startTime now => some
      (statFrameWorkload cfg s frameType id startTime now)
  | .workloadOutlier frameType id => some (statIncWorkloadOutlier cfg s frameType id)
  | .update now => some (statUpdate cfg s now)
  | .resetRequest => some { s with resetStats := true }

def threadStep (s : StatState) (call : ThreadCall) : Option StatState :=
  if s.exited then some s else threadCall cfg s call

/-- The class has threads, and these use Tx hardware time stamps. -/
def StampsTx (frameType : StatFrameType) : Prop :=
  configIsTcActive cfg.app frameType = true ∧ cfg.build.txTimestamp = true ∧
    cfg.txHwtstampEnabled frameType = true

/-- The class sends on AF_XDP what it receives there, and wants to know when. -/
def XdpMirrors (frameType : StatFrameType) : Prop :=
  StampsTx cfg frameType ∧ (cfg.app.classes frameType).xdpEnabled = true ∧
    (cfg.app.classes frameType).rxMirrorEnabled = true

/-- Only active classes have threads, and these look for completions only if the build and the class
have Tx hardware time stamps. On AF_XDP a thread that generates its frames has none to complete
unless a cycle fits into the Tx ring. -/
def ThreadCall.MadeByActive : ThreadCall → Prop
  | .report frameType _ (.completed (.xdp _ _)) =>
    XdpMirrors cfg frameType ∨
      StampsTx cfg frameType ∧ (cfg.framesPerCycle frameType).toNat ≤ xskRingProdDefaultNumDescs
  | .report frameType _ (.completed (.packet _ _)) => StampsTx cfg frameType
  | .report frameType _ _ => configIsTcActive cfg.app frameType = true
  | .mirror frameType _ _ => XdpMirrors cfg frameType
  | _ => True

/-- At most `k` iterations of the loop in `stat_frames_sent_batch`. -/
def stampPrefix (first stop step txTime : UInt64) :
    Nat → UInt64 → RoundTripContext → Option RoundTripContext
  | 0, _, rtt => some rtt
  | k + 1, c, rtt =>
    if c < stop then
      (stampSlot first txTime c rtt).bind (stampPrefix first stop step txTime k (c + step))
    else some rtt

def recordPrefix (frameType : StatFrameType) (cycleNumber frameCount txTime : UInt64) (k : Nat)
    (rtt : RoundTripContext) : Option RoundTripContext :=
  if cfg.logStatUserSelected ≠ .mirror ∧ rtt.backlog.isSome then
    let stop := cycleNumber + frameCount
    if cfg.txHwtstampEnabled frameType then do
      let base ← firstFrameInCycle cfg frameType cycleNumber
      stampPrefix cycleNumber stop (cfg.framesPerCycle frameType) txTime k base rtt
    else stampPrefix cycleNumber stop 1 txTime k cycleNumber rtt
  else some rtt

/-- No access of the call goes to a null pointer or outside of a backlog, and nothing is divided by
zero. The loop over a batch need not end for that. -/
def Defined (s : StatState) : ThreadCall → Prop
  | .report frameType _ (.sent cycleNumber frameCount now) =>
    ∀ k, (recordPrefix cfg frameType cycleNumber frameCount now k
      (s.roundTripContexts frameType)).isSome = true
  | call => (threadCall cfg s call).isSome = true

end Calls

/-- Whether there is a backlog, its length and the length that is kept next to it. -/
def RoundTripContext.shape (rtt : RoundTripContext) : Option Nat × UInt64 :=
  (rtt.backlog.map List.length, rtt.backlogLen)

/-- The backlogs and the histograms stay where they were allocated. -/
structure KeepsShape (s s' : StatState) : Prop where
  shape_eq : ∀ t, (s'.roundTripContexts t).shape = (s.roundTripContexts t).shape
  complete : ∀ t, (s.histograms t).Complete → (s'.histograms t).Complete

/-- Every backlog the mode needs is there, and the histograms are complete. -/
structure BacklogsAllocated (cfg : StatConfig) (s : StatState) : Prop where
  shape_eq : ∀ t, (s.roundTripContexts t).shape = if needsBacklog cfg t then
    (some (1024 * (cfg.framesPerCycle t).toNat), statMaxBacklog * cfg.framesPerCycle t) else
    (none, 0)
  complete : ∀ t, (s.histograms t).Complete

variable {cfg : StatConfig} {s s' s₁ : StatState} {t frameType : StatFrameType}
  {rtt rtt' : RoundTripContext} {first stop step txTime c now : UInt64} {len : Nat}

theorem modify_shape (h : rtt.modify idx f = some rtt') : rtt'.shape = rtt.shape := by
  simp only [RoundTripContext.modify, Option.bind_eq_bind, Option.bind_eq_some_iff,
    Option.pure_def, Option.some.injEq] at h
  obtain ⟨backlog, hbacklog, e, -, rfl⟩ := h
  simp only [RoundTripContext.shape, hbacklog, Option.map_some, List.length_set]

theorem stampSlot_shape (h : stampSlot first txTime c rtt = some rtt') :
    rtt'.shape = rtt.shape := by
  rw [stampSlot] at h
  split at h
  · cases h
    rfl
  · obtain ⟨idx, -, h⟩ := Option.bind_eq_some_iff.mp h
    exact modify_shape h

theorem stampPrefix_shape (h : stampPrefix first stop step txTime k c rtt = some rtt') :
    rtt'.shape = rtt.shape := by
  induction k generalizing c rtt with
  | zero =>
    cases h
    rfl
  | succ k ih =>
    rw [stampPrefix] at h
    split at h
    · obtain ⟨rtt₁, hslot, h⟩ := Option.bind_eq_some_iff.mp h
      exact (ih h).trans (stampSlot_shape hslot)
    · cases h
      rfl

/-- A loop that ends is one of its prefixes. -/
theorem stampSlots_prefix (h : stampSlots first stop step txTime k c rtt = some rtt') :
    stampPrefix first stop step txTime k c rtt = some rtt' := by
  induction k generalizing c rtt with
  | zero => cases h
  | succ k ih =>
    rw [stampSlots] at h
    rw [stampPrefix]
    split at h
    · rename_i hlt
      obtain ⟨rtt₁, hslot, h⟩ := Option.bind_eq_some_iff.mp h
      rw [if_pos hlt, hslot, Option.bind_some]
      exact ih h
    · rename_i hge
      rw [if_neg hge]
      exact h

theorem recordTxTime_front (h : recordTxTime cfg t c frameCount txTime rtt = some rtt') :
    recordPrefix cfg t c frameCount txTime (2 ^ 64) rtt = some rtt' := by
  rw [recordTxTime] at h
  rw [recordPrefix]
  split at h
  · rename_i hrec
    rw [if_pos hrec]
    dsimp only at h ⊢
    split at h
    · rename_i hhw
      obtain ⟨base, hbase, h⟩ := Option.bind_eq_some_iff.mp h
      rw [if_pos hhw, hbase, Option.bind_eq_bind, Option.bind_some]
      exact stampSlots_prefix h
    · rename_i hhw
      rw [if_neg hhw]
      exact stampSlots_prefix h
  · rename_i hrec
    rw [if_neg hrec]
    exact h

theorem recordPrefix_shape (h : recordPrefix cfg t c frameCount txTime k rtt = some rtt') :
    rtt'.shape = rtt.shape := by
  rw [recordPrefix] at h
  split at h
  · dsimp only at h
    split at h
    · obtain ⟨base, -, h⟩ := Option.bind_eq_some_iff.mp h
      exact stampPrefix_shape h
    · exact stampPrefix_shape h
  · cases h
    rfl

theorem KeepsShape.refl (s : StatState) : KeepsShape s s := ⟨fun _ => rfl, fun _ => id⟩

theorem KeepsShape.trans (h : KeepsShape s s₁) (h' : KeepsShape s₁ s') : KeepsShape s s' :=
  ⟨fun t => (h'.shape_eq t).trans (h.shape_eq t), fun t hc => h'.complete t (h.complete t hc)⟩

theorem keepsShape_setRoundTrip (h : rtt.shape = (s.roundTripContexts t).shape) :
    KeepsShape s (s.setRoundTrip t rtt) := by
  refine ⟨?_, fun _ => id⟩
  intro t'
  change (update s.roundTripContexts t rtt t').shape = _
  by_cases ht : t' = t
  · subst ht
    rw [update_self, h]
  · rw [update_of_ne ht]

theorem keepsShape_updateBoth (s : StatState) (t : StatFrameType)
    (global period : Statistics → Statistics) : KeepsShape s (s.updateBoth t global period) :=
  ⟨fun _ => rfl, fun _ => id⟩

theorem statFramesSentBatch_keepsShape
    (h : statFramesSentBatch cfg s t c frameCount now = some s') : KeepsShape s s' := by
  simp only [statFramesSentBatch, Option.bind_eq_bind, Option.bind_eq_some_iff, Option.pure_def,
    Option.some.injEq] at h
  obtain ⟨rtt, hrec, rfl⟩ := h
  have hshape := recordPrefix_shape (recordTxTime_front hrec)
  exact (keepsShape_setRoundTrip hshape).trans ⟨fun _ => rfl, fun _ => id⟩

theorem statFrameSentLatency_keepsShape (h : statFrameSentLatency cfg s t seq = some s') :
    KeepsShape s s' := by
  rcases statFrameSentLatency_cases h with rfl | ⟨latency, idx, rtt, hm, rfl⟩ | rfl
  · exact .refl s'
  · exact (keepsShape_updateBoth s t _ _).trans (keepsShape_setRoundTrip (modify_shape hm))
  · exact keepsShape_updateBoth s t _ _

theorem statProcFirstLatency_keepsShape
    (h : statProcFirstLatency cfg s t cycleNumber txHwTimestamp = some s') : KeepsShape s s' := by
  rcases statProcFirstLatency_cases h with rfl | ⟨latency, rfl⟩
  · exact .refl s'
  · exact keepsShape_updateBoth s t _ _

theorem statProcBatchLatency_keepsShape
    (h : statProcBatchLatency cfg s t cycleNumber lastTxHwTimestamp = some s') :
    KeepsShape s s' := by
  obtain ⟨idx, rtt, hm, h⟩ := statProcBatchLatency_cases h
  have hkeep : KeepsShape s (s.setRoundTrip t rtt) := keepsShape_setRoundTrip (modify_shape hm)
  rcases h with rfl | ⟨latency, rfl⟩
  · exact hkeep
  · exact hkeep.trans (keepsShape_updateBoth _ t _ _)

theorem storeRxHwTimestamp_shape (h : storeRxHwTimestamp cfg s t r = some rtt) :
    rtt.shape = (s.roundTripContexts t).shape := by
  rw [storeRxHwTimestamp] at h
  split at h
  · split at h
    · cases h
    · split at h
      · obtain ⟨idx, -, h⟩ := Option.bind_eq_some_iff.mp h
        exact modify_shape h
      · cases h
        rfl
  · cases h
    rfl

theorem statFrameReceived_keepsShape (h : statFrameReceived cfg s t r now = some s') :
    KeepsShape s s' := by
  simp only [statFrameReceived, Option.bind_eq_bind, Option.bind_eq_some_iff, Option.pure_def,
    Option.some.injEq] at h
  obtain ⟨rtt, hstore, rtTime, -, hist, hhist, rfl⟩ := h
  refine (keepsShape_setRoundTrip (storeRxHwTimestamp_shape hstore)).trans ⟨fun _ => rfl, ?_⟩
  intro t' hc
  change (update s.histograms t hist t').Complete
  by_cases ht : t' = t
  · subst ht
    obtain ⟨hist', hrec, hcomplete⟩ := @recordHistogram_complete cfg (s.setRoundTrip t' rtt) t'
      hc rtTime
    cases hhist.symm.trans hrec
    rw [update_self]
    exact hcomplete
  · rw [update_of_ne ht]
    exact hc

theorem txLatencyOfCompletion_keepsShape
    (h : txLatencyOfCompletion cfg s t idx cycleSeq hwTs = some s') : KeepsShape s s' := by
  simp only [txLatencyOfCompletion, Option.bind_eq_bind, Option.bind_eq_some_iff] at h
  obtain ⟨rtt, hm, h⟩ := h
  exact (keepsShape_setRoundTrip (modify_shape hm)).trans (statFrameSentLatency_keepsShape h)

theorem procOfCompletion_keepsShape
    (h : procOfCompletion cfg s t fpc frameInCycle cycleSeq swTs hwTs = some s') :
    KeepsShape s s' := by
  rw [procOfCompletion] at h
  split at h
  · split at h
    · exact statProcFirstLatency_keepsShape h
    · split at h
      · exact statProcBatchLatency_keepsShape h
      · cases h
        exact .refl s
  · cases h
    exact .refl s

theorem processTxCompletion_keepsShape (h : processTxCompletion cfg s t fpc seq hwTs = some s') :
    KeepsShape s s' := by
  simp only [processTxCompletion, Option.bind_eq_bind, Option.bind_eq_some_iff,
    Option.pure_def] at h
  obtain ⟨cycleSeq, -, idx, -, e, -, h⟩ := h
  split at h
  · split at h
    · obtain ⟨s₁, hlatency, h⟩ := Option.bind_eq_some_iff.mp h
      exact (txLatencyOfCompletion_keepsShape hlatency).trans (procOfCompletion_keepsShape h)
    · exact procOfCompletion_keepsShape h
  · cases h
    exact .refl s

theorem statUpdate_keepsShape (s : StatState) (now : UInt64) :
    KeepsShape s (statUpdate cfg s now) := by
  refine ⟨?_, ?_⟩
  · intro t
    rw [statUpdate_roundTripContexts]
  · intro t hc
    rw [statUpdate_histograms]
    exact hc

theorem threadStep_keepsShape (h : threadStep cfg s call = some s') : KeepsShape s s' := by
  rw [threadStep] at h
  split at h
  · cases h
    exact .refl s
  · cases call with
    | report t metaDataOffset e =>
      cases e with
      | sent cycleNumber frameCount now => exact statFramesSentBatch_keepsShape h
      | received r now => exact statFrameReceived_keepsShape h
      | completed c =>
        rcases handleTxCompletion_cases h with ⟨-, rfl⟩ | ⟨r, -, h⟩
        · exact .refl s'
        · exact processTxCompletion_keepsShape h
    | mirror t metaDataOffset packet =>
      obtain ⟨_, -, rfl⟩ := Option.map_eq_some_iff.mp h
      exact .refl s
    | workload t workloadId startTime now =>
      cases h
      exact ⟨fun _ => rfl, fun _ => id⟩
    | workloadOutlier t workloadId =>
      cases h
      exact ⟨fun _ => rfl, fun _ => id⟩
    | update now =>
      cases h
      exact statUpdate_keepsShape s now
    | resetRequest =>
      cases h
      exact ⟨fun _ => rfl, fun _ => id⟩

theorem BacklogsAllocated.keep (h : BacklogsAllocated cfg s) (hk : KeepsShape s s') :
    BacklogsAllocated cfg s' :=
  ⟨fun t => (hk.shape_eq t).trans (h.shape_eq t), fun t => hk.complete t (h.complete t)⟩

theorem threadRun_allocated {calls : List ThreadCall} (h : BacklogsAllocated cfg s)
    (hr : calls.foldlM (threadStep cfg) s = some s') : BacklogsAllocated cfg s' := by
  induction calls generalizing s with
  | nil =>
    cases hr
    exact h
  | cons call calls ih =>
    rw [List.foldlM_cons] at hr
    obtain ⟨s₁, hstep, hr⟩ := Option.bind_eq_some_iff.mp hr
    exact ih (h.keep (threadStep_keepsShape hstep)) hr

theorem toNat_backlogLen {n : UInt64} (hn : n.toNat < 2 ^ 54) :
    (statMaxBacklog * n).toNat = 1024 * n.toNat := by
  rw [UInt64.toNat_mul]
  exact Nat.mod_eq_of_lt (show 1024 * _ < 2 ^ 64 by omega)

theorem statInit_allocated (hn : ∀ t, (cfg.framesPerCycle t).toNat < 2 ^ 54)
    (hi : statInit cfg = some s) : BacklogsAllocated cfg s := by
  rw [statInit] at hi
  split at hi
  · cases hi
  · rename_i hany
    cases hi
    refine ⟨?_, fun _ => histogramInit_complete cfg⟩
    intro t
    change (roundTripContextInit cfg t).shape = _
    by_cases hneeds : needsBacklog cfg t = true
    · have hsome : (roundTripContextInit cfg t).backlog.isNone = false := by
        by_contra hnone
        refine hany (List.any_eq_true.mpr ⟨t, by cases t <;> decide, ?_⟩)
        rw [Bool.and_eq_true]
        exact ⟨hneeds, Bool.not_eq_false _ ▸ hnone⟩
      simp only [roundTripContextInit, if_pos hneeds, callocArray] at hsome ⊢
      split at hsome
      · rename_i hle
        rw [if_pos hle, RoundTripContext.shape, Option.map_some, List.length_replicate,
          toNat_backlogLen (hn t)]
      · cases hsome
    · rw [roundTripContextInit, if_neg hneeds, if_neg hneeds]
      rfl

theorem BacklogsAllocated.has (h : BacklogsAllocated cfg s)
    (hn : ∀ t, (cfg.framesPerCycle t).toNat < 2 ^ 54) (hneeds : needsBacklog cfg t = true) :
    ∃ tab, (s.roundTripContexts t).Has tab ∧ tab.length = 1024 * (cfg.framesPerCycle t).toNat := by
  have hshape := h.shape_eq t
  rw [if_pos hneeds, RoundTripContext.shape, Prod.mk.injEq] at hshape
  obtain ⟨tab, htab, hlen⟩ := Option.map_eq_some_iff.mp hshape.1
  refine ⟨tab, ⟨htab, ?_⟩, hlen⟩
  rw [hshape.2, toNat_backlogLen (hn t), hlen]

theorem BacklogsAllocated.none (h : BacklogsAllocated cfg s)
    (hneeds : ¬ needsBacklog cfg t = true) :
    (s.roundTripContexts t).backlog = none := by
  have hshape := h.shape_eq t
  rw [if_neg hneeds, RoundTripContext.shape, Prod.mk.injEq] at hshape
  exact Option.map_eq_none_iff.mp hshape.1

theorem stampSlot_defined (h : rtt.Has tab) (hpos : 0 < tab.length) (first txTime c : UInt64) :
    ∃ rtt' tab', stampSlot first txTime c rtt = some rtt' ∧ rtt'.Has tab' ∧
      tab'.length = tab.length := by
  rw [stampSlot]
  split
  · exact ⟨rtt, tab, rfl, h, rfl⟩
  · have hlt := Nat.mod_lt c.toNat hpos
    obtain ⟨rtt', hm, hhas⟩ := h.modify (List.getElem?_eq_getElem hlt)
      fun e => { e with swTs := txTime }
    refine ⟨rtt', _, ?_, hhas, List.length_set⟩
    rw [h.index hpos, Option.bind_eq_bind, Option.bind_some, hm]

theorem stampPrefix_defined (h : rtt.Has tab) (hpos : 0 < tab.length)
    (first stop step txTime : UInt64) (k : Nat) (c : UInt64) :
    (stampPrefix first stop step txTime k c rtt).isSome = true := by
  induction k generalizing rtt tab c with
  | zero => rfl
  | succ k ih =>
    rw [stampPrefix]
    split
    · obtain ⟨rtt', tab', hslot, hhas, hlen⟩ := stampSlot_defined h hpos first txTime c
      rw [hslot, Option.bind_some]
      exact ih hhas (hlen ▸ hpos) (c + step)
    · rfl

section Completed
variable (hpos : 0 < (cfg.framesPerCycle t).toNat) (h : (s.roundTripContexts t).Has tab)
  (hlen : 0 < tab.length)
include hpos h hlen

theorem getFirstFrameBacklogIdx_defined (c : UInt64) :
    ∃ idx, getFirstFrameBacklogIdx cfg s t c = some idx ∧ idx < tab.length := by
  rw [getFirstFrameBacklogIdx, firstFrameInCycle_eq hpos, Option.bind_eq_bind, Option.bind_some,
    h.index hlen]
  exact ⟨_, rfl, Nat.mod_lt _ hlen⟩

theorem procOfCompletion_defined (fpc frameInCycle cycleSeq swTs hwTs : UInt64) :
    (procOfCompletion cfg s t fpc frameInCycle cycleSeq swTs hwTs).isSome = true := by
  obtain ⟨idx, hidx, hlt⟩ := getFirstFrameBacklogIdx_defined hpos h hlen cycleSeq
  rw [procOfCompletion, Option.isSome_iff_exists]
  split
  · split
    · obtain ⟨s', hs', -⟩ :=
        statProcFirstLatency_leads h hidx (List.getElem?_eq_getElem hlt) hwTs
      exact ⟨s', hs'⟩
    · split
      · obtain ⟨s', hs', -⟩ :=
          statProcBatchLatency_leads h hidx (List.getElem?_eq_getElem hlt) hwTs
        exact ⟨s', hs'⟩
      · exact ⟨s, rfl⟩
  · exact ⟨s, rfl⟩

/-- A completion can be handled with any number of frames per cycle but 0. -/
theorem processTxCompletion_defined {fpc : UInt64} (hfpc : 0 < fpc.toNat) (seq hwTs : UInt64) :
    (processTxCompletion cfg s t fpc seq hwTs).isSome = true := by
  have hlt := Nat.mod_lt (seq / fpc * fpc).toNat hlen
  have he := List.getElem?_eq_getElem hlt
  rw [processTxCompletion, cycleStart_eq hfpc]
  simp only [Option.bind_eq_bind, Option.bind_some, Option.pure_def, h.index hlen, h.entry, he]
  split
  · split
    · obtain ⟨s₁, hs₁, h₁⟩ := @txLatencyOfCompletion_leads cfg s _ _ _ _ _ h hlen rfl he hwTs
      rw [hs₁, Option.bind_some]
      exact procOfCompletion_defined hpos h₁.has (by rw [List.length_set]; exact hlen) _ _ _ _ _
    · exact procOfCompletion_defined hpos h hlen _ _ _ _ _
  · rfl

theorem handleTxCompletion_defined {c : TxCompletion}
    (hfpc : 0 < (c.framesPerCycle (cfg.framesPerCycle t)).toNat) (metaDataOffset : Nat) :
    (handleTxCompletion cfg s t metaDataOffset c).isSome = true := by
  cases c with
  | xdp metadata data =>
    rw [handleTxCompletion, xdpProcessTxTimestamp]
    split
    · exact processTxCompletion_defined hpos h hlen hfpc _ _
    · change 0 < (xdpFramesPerCycle (cfg.framesPerCycle t)).toNat at hfpc
      rw [cycleStart_eq hfpc, Option.bind_eq_bind, Option.bind_some, h.index hlen]
      rfl
  | packet hwTs frame =>
    rw [handleTxCompletion, packetProcessTxCompletion]
    split
    · rfl
    · exact processTxCompletion_defined hpos h hlen hfpc _ _

end Completed

section Allocated
variable (ha : BacklogsAllocated cfg s) (hn : ∀ t, (cfg.framesPerCycle t).toNat < 2 ^ 54)
  (hpos : 0 < (cfg.framesPerCycle t).toNat)
include ha hn hpos

theorem recordPrefix_defined (c frameCount txTime : UInt64) (k : Nat) :
    (recordPrefix cfg t c frameCount txTime k (s.roundTripContexts t)).isSome = true := by
  by_cases hneeds : needsBacklog cfg t = true
  · obtain ⟨tab, hhas, hlen⟩ := ha.has hn hneeds
    have htab : 0 < tab.length := by omega
    rw [recordPrefix]
    split
    · dsimp only
      split
      · rw [firstFrameInCycle_eq hpos, Option.bind_eq_bind, Option.bind_some]
        exact stampPrefix_defined hhas htab _ _ _ _ k _
      · exact stampPrefix_defined hhas htab _ _ _ _ k _
    · rfl
  · have hnone : ¬ (cfg.logStatUserSelected ≠ .mirror ∧
        (s.roundTripContexts t).backlog.isSome = true) := by
      rw [ha.none hneeds]
      exact fun h => Bool.false_ne_true h.2
    rw [recordPrefix, if_neg hnone]
    rfl

theorem storeRxHwTimestamp_defined (r : RxReport) :
    (storeRxHwTimestamp cfg s t r).isSome = true := by
  rw [storeRxHwTimestamp]
  split
  · rename_i hstore
    have hneeds : needsBacklog cfg t = true := by
      rw [needsBacklog, hstore.1, hstore.2.1]
      rfl
    obtain ⟨tab, hhas, hlen⟩ := ha.has hn hneeds
    rw [if_neg (ne_zero_of_toNat_pos hpos)]
    split
    · obtain ⟨idx, hidx, hlt⟩ :=
        getFirstFrameBacklogIdx_defined hpos hhas (by omega) r.sequenceCounter
      obtain ⟨rtt', hm, -⟩ := hhas.modify (List.getElem?_eq_getElem hlt)
        fun e => { e with rxHwTs := r.rxHwTimestamp }
      rw [hidx, Option.bind_eq_bind, Option.bind_some, hm]
      rfl
    · rfl
  · rfl

theorem rtTimeOf_defined (c now : UInt64) : ∃ rtTime, rtTimeOf cfg s t c now = some rtTime := by
  rw [rtTimeOf]
  split
  · rename_i href
    have hneeds : needsBacklog cfg t = true := by
      rw [needsBacklog, href]
      rfl
    obtain ⟨tab, hhas, hlen⟩ := ha.has hn hneeds
    have htab : 0 < tab.length := by omega
    have hidx : ∃ idx, txTimeIdx cfg s t c = some idx ∧ idx < tab.length := by
      rw [txTimeIdx]
      split
      · exact getFirstFrameBacklogIdx_defined hpos hhas htab c
      · exact ⟨_, hhas.index htab c, Nat.mod_lt _ htab⟩
    obtain ⟨idx, hidx, hlt⟩ := hidx
    rw [roundTripTime, hidx, Option.bind_eq_bind, Option.bind_some, hhas.entry,
      List.getElem?_eq_getElem hlt]
    exact ⟨_, rfl⟩
  · exact ⟨0, rfl⟩

theorem statFrameReceived_defined (r : RxReport) (now : UInt64) :
    (statFrameReceived cfg s t r now).isSome = true := by
  obtain ⟨rtt, hstore⟩ := Option.isSome_iff_exists.mp (storeRxHwTimestamp_defined ha hn hpos r)
  have ha' : BacklogsAllocated cfg (s.setRoundTrip t rtt) :=
    ha.keep (keepsShape_setRoundTrip (storeRxHwTimestamp_shape hstore))
  obtain ⟨rtTime, hrt⟩ := rtTimeOf_defined ha' hn hpos r.sequenceCounter now
  obtain ⟨hist, hhist, -⟩ := @recordHistogram_complete cfg (s.setRoundTrip t rtt) t
    (ha'.complete t) rtTime
  simp only [statFrameReceived, hstore, hrt, hhist, Option.bind_eq_bind, Option.bind_some]
  rfl

end Allocated

theorem defined_mirror (s : StatState) (metaDataOffset : Nat) (packet : List UInt8) :
    Defined cfg s (.mirror t metaDataOffset packet) ↔
      0 < (xdpFramesPerCycle (cfg.framesPerCycle t)).toNat := by
  change (threadCall cfg s (.mirror t metaDataOffset packet)).isSome = true ↔ _
  rw [threadCall, Option.isSome_map, xdpMirrorWantsTimestamp]
  split
  · rename_i hzero
    rw [hzero]
    decide
  · rename_i hne
    exact iff_of_true rfl (UInt64.pos_iff_ne_zero.mpr hne)

theorem tbStartupMode_needsBacklog {build : BuildConfig} {app : AppConfig} (isMirror : Bool)
    (hhw : (app.classes t).txHwtstampEnabled = true) :
    needsBacklog ⟨build, app, tbStartupMode isMirror app⟩ t = true := by
  have hany : (statFrameTypes.any fun t => (app.classes t).txHwtstampEnabled) = true :=
    List.any_eq_true.mpr ⟨t, by cases t <;> decide, hhw⟩
  cases isMirror with
  | true => simp [needsBacklog, tbStartupMode, hany, StatConfig.txHwtstampEnabled, hhw]
  | false => simp [needsBacklog, tbStartupMode]

/-- Whatever the threads of active classes call, in either program, finds the backlog it uses; and
it divides by zero only where an AF_XDP mirror keeps no bit of the number of frames per cycle. -/
theorem backlog_accesses_defined (build : BuildConfig) (app : AppConfig) (isMirror : Bool)
    (hn : ∀ t, (app.classes t).numFramesPerCycle.toNat < 2 ^ 54) (s : StatState)
    (hi : statInit ⟨build, app, tbStartupMode isMirror app⟩ = some s) (calls : List ThreadCall)
    (s' : StatState)
    (hr : calls.foldlM (threadStep ⟨build, app, tbStartupMode isMirror app⟩) s = some s') :
    (∀ t backlog, (s'.roundTripContexts t).backlog = some backlog →
      backlog.length = 1024 * (app.classes t).numFramesPerCycle.toNat ∧
        (s'.roundTripContexts t).backlogLen.toNat = backlog.length) ∧
    ((∀ call, ThreadCall.MadeByActive ⟨build, app, tbStartupMode isMirror app⟩ call →
        Defined ⟨build, app, tbStartupMode isMirror app⟩ s' call) ↔
      ∀ t, XdpMirrors ⟨build, app, tbStartupMode isMirror app⟩ t →
        (app.classes t).numFramesPerCycle.toNat % 2 ^ 32 ≠ 0) := by
  generalize hcfg : (⟨build, app, tbStartupMode isMirror app⟩ : StatConfig) = cfg at hi hr ⊢
  have hn : ∀ t, (cfg.framesPerCycle t).toNat < 2 ^ 54 := by
    rw [← hcfg]
    exact hn
  have ha : BacklogsAllocated cfg s' := threadRun_allocated (statInit_allocated hn hi) hr
  have hactive : ∀ t, configIsTcActive cfg.app t = true → 0 < (cfg.framesPerCycle t).toNat := by
    intro t h
    exact configIsTcActive_pos h
  have hcopy (t : StatFrameType) : (app.classes t).numFramesPerCycle.toNat % 2 ^ 32 ≠ 0 ↔
      0 < (xdpFramesPerCycle (cfg.framesPerCycle t)).toNat := by
    rw [toNat_xdpFramesPerCycle, ← hcfg]
    exact Nat.pos_iff_ne_zero.symm
  refine ⟨?_, ?_, ?_⟩
  · intro t backlog hbacklog
    have hneeds : needsBacklog cfg t = true := by
      by_contra hneeds
      rw [ha.none hneeds] at hbacklog
      cases hbacklog
    obtain ⟨tab, hhas, hlen⟩ := ha.has hn hneeds
    cases hhas.backlog_eq.symm.trans hbacklog
    rw [← hcfg] at hlen
    exact ⟨hlen, hhas.length_eq⟩
  · intro hall t ht
    exact (hcopy t).mpr ((defined_mirror s' 0 []).mp (hall (.mirror t 0 []) ht))
  · intro hcond call hcall
    -- the copy of the frames per cycle is whole unless an AF_XDP mirror has cut it
    have hcompleted (t : StatFrameType) (ht : StampsTx cfg t) (metaDataOffset : Nat)
        (c : TxCompletion) (hfpc : 0 < (c.framesPerCycle (cfg.framesPerCycle t)).toNat) :
        (handleTxCompletion cfg s' t metaDataOffset c).isSome = true := by
      have hpos := hactive t ht.1
      have hneeds : needsBacklog cfg t = true := by
        rw [← hcfg] at ht ⊢
        exact tbStartupMode_needsBacklog isMirror ht.2.2
      obtain ⟨tab, hhas, hlen⟩ := ha.has hn hneeds
      exact handleTxCompletion_defined hpos hhas (by omega) hfpc metaDataOffset
    cases call with
    | report t metaDataOffset e =>
      cases e with
      | sent cycleNumber frameCount now =>
        intro k
        exact recordPrefix_defined ha hn (hactive t hcall) _ _ _ k
      | received r now => exact statFrameReceived_defined ha hn (hactive t hcall) r now
      | completed c =>
        cases c with
        | xdp metadata data =>
          rcases hcall with hmirror | ⟨hstamps, hring⟩
          · exact hcompleted t hmirror.1 metaDataOffset (.xdp metadata data)
              ((hcopy t).mp (hcond t hmirror))
          · have hpos := hactive t hstamps.1
            have hsize : xskRingProdDefaultNumDescs = 4096 := rfl
            refine hcompleted t hstamps metaDataOffset (.xdp metadata data) ?_
            rw [TxCompletion.framesPerCycle, xdpFramesPerCycle_eq (by omega)]
            exact hpos
        | packet hwTs frame =>
          exact hcompleted t hcall metaDataOffset (.packet hwTs frame) (hactive t hcall.1)
    | mirror t metaDataOffset packet =>
      exact (defined_mirror s' metaDataOffset packet).mpr ((hcopy t).mp (hcond t hcall))
    | workload t id startTime now => rfl
    | workloadOutlier t id => rfl
    | update now => rfl
    | resetRequest => rfl

def stampedMirror (numFramesPerCycle : UInt64) : AppConfig :=
  (configSetDefaults true).setClass .genericL2 fun c =>
    { c with enabled := true, xdpEnabled := true, numFramesPerCycle, txHwtstampEnabled := true }

def stampedMirrorStat (numFramesPerCycle : UInt64) : StatConfig :=
  ⟨fullBuild, stampedMirror numFramesPerCycle,
    tbStartupMode true (stampedMirror numFramesPerCycle)⟩

theorem xdpMirrors_genericL2 (hn : configIsTcActive (stampedMirror n) .genericL2 = true) :
    XdpMirrors (stampedMirrorStat n) .genericL2 := ⟨⟨hn, rfl, rfl⟩, rfl, rfl⟩

/-- The first frame of a mirrored cycle has been sent, and its completion arrives. -/
theorem backlog_accesses_defined_mirror :
    ∃ s s', statInit (stampedMirrorStat 2) = some s ∧
      [ThreadCall.report .genericL2 18 (.sent 0 2 1000000)].foldlM
        (threadStep (stampedMirrorStat 2)) s = some s' ∧
      Defined (stampedMirrorStat 2) s' (.report .genericL2 18
        (.completed (sentFrame 2 0 2000000))) := by
  have hrun : ((statInit (stampedMirrorStat 2)).bind fun s =>
      ([ThreadCall.report .genericL2 18 (.sent 0 2 1000000)].foldlM
        (threadStep (stampedMirrorStat 2)) s)).isSome = true := by
    decide +kernel
  obtain ⟨s', hrun⟩ := Option.isSome_iff_exists.mp hrun
  obtain ⟨s, hi, hr⟩ := Option.bind_eq_some_iff.mp hrun
  refine ⟨s, s', hi, hr, ?_⟩
  apply (backlog_accesses_defined fullBuild (stampedMirror 2) true ?_ s hi _ s' hr).2.mpr
  · intro t ht
    cases t with
    | genericL2 => decide
    | _ => exact absurd ht.1.1 (by decide)
  · exact .inl (xdpMirrors_genericL2 (by decide))
  · intro t
    cases t <;> decide

/-- With 2³² frames per cycle the socket keeps 0 of them, and the first frame that is mirrored, or
completed, is the end of the program. -/
theorem backlog_accesses_defined_cut :
    configSanityCheck fullBuild (stampedMirror 4294967296) = true ∧
    (∀ t, ((stampedMirror 4294967296).classes t).numFramesPerCycle.toNat < 2 ^ 54) ∧
    ∃ s, statInit (stampedMirrorStat 4294967296) = some s ∧ s.exited = false ∧
      ∀ packet metadata,
        (ThreadCall.mirror .genericL2 18 packet).MadeByActive (stampedMirrorStat 4294967296) ∧
        threadStep (stampedMirrorStat 4294967296) s (.mirror .genericL2 18 packet) = none ∧
        threadStep (stampedMirrorStat 4294967296) s
          (.report .genericL2 18 (.completed (.xdp metadata packet))) = none := by
  refine ⟨by decide, fun t => by cases t <;> decide, ?_⟩
  obtain ⟨s, hs⟩ := @statInit_isSome (stampedMirrorStat 4294967296) (by decide)
  have hlive : s.exited = false := by
    rw [statInit] at hs
    split at hs
    · cases hs
    · cases hs
      rfl
  have hzero : xdpFramesPerCycle ((stampedMirrorStat 4294967296).framesPerCycle .genericL2) =
      0 := by
    decide
  refine ⟨s, hs, hlive, fun packet metadata => ⟨xdpMirrors_genericL2 (by decide), ?_, ?_⟩⟩
  · rw [threadStep, hlive, if_neg Bool.false_ne_true, threadCall, hzero]
    rfl
  · rw [threadStep, hlive, if_neg Bool.false_ne_true, threadCall, timestampCall,
      handleTxCompletion, xdpProcessTxTimestamp, hzero]
    split <;> rfl

end RtcTestbench
