import RtcTestbench.Lib.Window
import RtcTestbench.StatFold

namespace RtcTestbench
open Function Window
set_option autoImplicit true

/-- A call of `stat_frames_sent_batch` with the clock it read. -/
structure SentBatch where
  cycleNumber : UInt64
  frameCount : UInt64
  txTime : UInt64
  deriving DecidableEq

def SentBatch.Contains (b : SentBatch) (c : Nat) : Prop :=
  b.cycleNumber.toNat ≤ c ∧ c < b.cycleNumber.toNat + b.frameCount.toNat

def sentBatch? (frameType : StatFrameType) : StatCall → Option SentBatch
  | .framesSentBatch t cycleNumber frameCount now =>
    if t = frameType then some ⟨cycleNumber, frameCount, now⟩ else none
  | .frameSent t cycleNumber now => if t = frameType then some ⟨cycleNumber, 1, now⟩ else none
  | _ => none

def sentBatches (frameType : StatFrameType) (calls : List StatCall) : List SentBatch :=
  calls.filterMap (sentBatch? frameType)

/-- The batches cover increasing, disjoint ranges. -/
def Increasing (bs : List SentBatch) : Prop :=
  bs.Pairwise fun a b => ∀ c d, a.Contains c → b.Contains d → c < d

/-- One send time per frame or, with Tx hardware time stamps, per cycle. -/
def StatConfig.stampStep (cfg : StatConfig) (frameType : StatFrameType) : Nat :=
  if cfg.txHwtstampEnabled frameType then (cfg.framesPerCycle frameType).toNat else 1

/-- The counter whose slot holds the send time of frame `s`. -/
def StatConfig.stampOf (cfg : StatConfig) (frameType : StatFrameType) (s : Nat) : Nat :=
  s / cfg.stampStep frameType * cfg.stampStep frameType

/-- The loop counters of `stat_frames_sent_batch` stay within 64 bits up to the end of the batch. -/
def SentBatch.Fits (b : SentBatch) (step : Nat) : Prop :=
  (b.cycleNumber.toNat + b.frameCount.toNat + step - 1) / step * step < 2 ^ 64

def SentBatch.stamps (b : SentBatch) (step : Nat) : List Nat :=
  let stop := b.cycleNumber.toNat + b.frameCount.toNat
  let cycle := b.cycleNumber.toNat / step
  (List.range' (cycle * step) ((stop + step - 1) / step - cycle) step).filter
    (b.cycleNumber.toNat ≤ ·)

def SentBatch.writes (b : SentBatch) (step : Nat) : List (Nat × UInt64) :=
  (b.stamps step).map (·, b.txTime)

def RoundTripContext.times (rtt : RoundTripContext) : Option (List UInt64) :=
  rtt.backlog.map (List.map RttEntry.swTs)

structure RoundTripContext.Holds (rtt : RoundTripContext) (tab : List UInt64) : Prop where
  times_eq : rtt.times = some tab
  length_eq : rtt.backlogLen.toNat = tab.length
  pos : 0 < tab.length

variable {rtt rtt' : RoundTripContext} {tab : List UInt64} {idx : Nat} {f : RttEntry → RttEntry}
  {first stop step txTime c : UInt64} {b : SentBatch}

theorem RoundTripContext.Holds.index (h : rtt.Holds tab) (c : UInt64) :
    rtt.index c = some (c.toNat % tab.length) := by
  have hne : rtt.backlogLen ≠ 0 := ne_zero_of_toNat_pos (h.length_eq ▸ h.pos)
  rw [RoundTripContext.index, if_neg hne, UInt64.toNat_mod, h.length_eq]

theorem RoundTripContext.Holds.entry (h : rtt.Holds tab) (hi : idx < tab.length) :
    ∃ e, rtt.entry idx = some e ∧ tab[idx]? = some e.swTs := by
  obtain ⟨entries, hentries, rfl⟩ := Option.map_eq_some_iff.mp h.times_eq
  rw [List.length_map] at hi
  refine ⟨entries[idx], ?_, ?_⟩
  · rw [RoundTripContext.entry, hentries, Option.bind_some, List.getElem?_eq_getElem hi]
  · rw [List.getElem?_map, List.getElem?_eq_getElem hi, Option.map_some]

theorem RoundTripContext.Holds.modify_other (h : rtt.Holds tab) (hf : ∀ e, (f e).swTs = e.swTs)
    (hm : rtt.modify idx f = some rtt') : rtt'.Holds tab := by
  obtain ⟨entries, hentries, rfl⟩ := Option.map_eq_some_iff.mp h.times_eq
  simp only [RoundTripContext.modify, hentries, Option.bind_eq_bind, Option.bind_some,
    Option.bind_eq_some_iff, Option.pure_def, Option.some.injEq] at hm
  obtain ⟨e, he, rfl⟩ := hm
  have hslot : (entries.map RttEntry.swTs)[idx]? = some e.swTs := by
    rw [List.getElem?_map, he, Option.map_some]
  obtain ⟨_, hslot⟩ := List.getElem?_eq_some_iff.mp hslot
  refine ⟨?_, h.length_eq, h.pos⟩
  rw [RoundTripContext.times, Option.map_some, List.map_set, hf, ← hslot, List.set_getElem_self]

theorem RoundTripContext.Holds.modify_time (h : rtt.Holds tab) (hi : idx < tab.length)
    (txTime : UInt64) :
    ∃ rtt', (rtt.modify idx fun e => { e with swTs := txTime }) = some rtt' ∧
      rtt'.Holds (tab.set idx txTime) := by
  obtain ⟨entries, hentries, rfl⟩ := Option.map_eq_some_iff.mp h.times_eq
  rw [List.length_map] at hi
  simp only [RoundTripContext.modify, hentries, Option.bind_eq_bind, Option.bind_some,
    List.getElem?_eq_getElem hi, Option.pure_def, Option.some.injEq, exists_eq_left']
  refine ⟨?_, ?_, ?_⟩
  · rw [RoundTripContext.times, Option.map_some, List.map_set]
  · rw [List.length_set]
    exact h.length_eq
  · rw [List.length_set]
    exact h.pos

/-- The send time of counter `c` into its slot. -/
def stampAt (txTime : UInt64) (rtt : RoundTripContext) (c : Nat) : Option RoundTripContext := do
  let idx ← rtt.index (UInt64.ofNat c)
  rtt.modify idx fun e => { e with swTs := txTime }

theorem stampSlot_eq (first txTime c : UInt64) (rtt : RoundTripContext) :
    stampSlot first txTime c rtt =
      if first.toNat ≤ c.toNat then stampAt txTime rtt c.toNat else some rtt := by
  rw [stampSlot, stampAt, UInt64.ofNat_toNat]
  by_cases hc : c < first
  · rw [if_pos hc, if_neg (Nat.not_le.mpr (UInt64.lt_iff_toNat_lt.mp hc))]
  · rw [if_neg hc, if_pos (Nat.not_lt.mp fun hlt => hc (UInt64.lt_iff_toNat_lt.mpr hlt))]

/-- The loop goes through the counters one after the other and passes over those before the
batch. -/
theorem stampSlots_eq (hfuel : m < fuel) (hlt : ∀ k < m, c.toNat + k * step.toNat < stop.toNat)
    (hge : stop.toNat ≤ c.toNat + m * step.toNat) (hw : c.toNat + m * step.toNat < 2 ^ 64) :
    stampSlots first stop step txTime fuel c rtt =
      ((List.range' c.toNat m step.toNat).filter (first.toNat ≤ ·)).foldlM (stampAt txTime)
        rtt := by
  induction m generalizing c rtt fuel with
  | zero =>
    obtain ⟨fuel, rfl⟩ : ∃ k, fuel = k + 1 := ⟨fuel - 1, by omega⟩
    rw [stampSlots, if_neg]
    · rfl
    · rw [UInt64.lt_iff_toNat_lt]
      omega
  | succ m ih =>
    obtain ⟨fuel, rfl⟩ : ∃ k, fuel = k + 1 := ⟨fuel - 1, by omega⟩
    have hc := hlt 0 (by omega)
    rw [Nat.succ_mul] at hge hw
    have hnext : (c + step).toNat = c.toNat + step.toNat := by
      rw [UInt64.toNat_add]
      exact Nat.mod_eq_of_lt (by omega)
    have hlt' : ∀ k < m, (c + step).toNat + k * step.toNat < stop.toNat := by
      intro k hk
      have hk' := hlt (k + 1) (by omega)
      rw [Nat.succ_mul] at hk'
      omega
    have hslots (rtt : RoundTripContext) :
        stampSlots first stop step txTime fuel (c + step) rtt = _ :=
      ih (show m < fuel by omega) hlt' (by omega) (by omega)
    rw [stampSlots, if_pos (UInt64.lt_iff_toNat_lt.mpr (by omega)), stampSlot_eq,
      List.range'_succ, List.filter_cons, ← hnext]
    by_cases hf : first.toNat ≤ c.toNat
    · rw [if_pos hf, if_pos (decide_eq_true hf), List.foldlM_cons]
      exact congrArg _ (funext hslots)
    · rw [if_neg hf, if_neg (by simpa using hf), Option.bind_some]
      exact hslots rtt

theorem stampAt_spec {c : Nat} (h : rtt.Holds tab) (hc : c < 2 ^ 64) (txTime : UInt64) :
    ∃ rtt', stampAt txTime rtt c = some rtt' ∧ rtt'.Holds (record tab (c, txTime)) := by
  rw [stampAt, h.index, UInt64.toNat_ofNat', Nat.mod_eq_of_lt hc]
  exact h.modify_time (Nat.mod_lt _ h.pos) txTime

theorem stampAt_foldlM (h : rtt.Holds tab) {cs : List Nat} (hcs : ∀ c ∈ cs, c < 2 ^ 64)
    (txTime : UInt64) :
    ∃ rtt', cs.foldlM (stampAt txTime) rtt = some rtt' ∧
      rtt'.Holds ((cs.map (·, txTime)).foldl record tab) := by
  induction cs generalizing rtt tab with
  | nil => exact ⟨rtt, rfl, h⟩
  | cons c cs ih =>
    obtain ⟨hc, hcs⟩ := List.forall_mem_cons.mp hcs
    obtain ⟨rtt₁, hstamp, h₁⟩ := stampAt_spec h hc txTime
    obtain ⟨rtt', hrest, h'⟩ := ih h₁ hcs
    refine ⟨rtt', ?_, h'⟩
    rw [List.foldlM_cons, hstamp]
    exact hrest

theorem mul_lt_iff_lt_ceil {step e q : Nat} (hs : 0 < step) :
    q * step < e ↔ q < (e + step - 1) / step := by
  rw [← Nat.succ_le_iff, ← Nat.succ_le_iff, Nat.le_div_iff_mul_le hs, Nat.succ_mul]
  omega

theorem SentBatch.mem_stamps {step c : Nat} (hs : 0 < step) :
    c ∈ b.stamps step ↔ b.Contains c ∧ step ∣ c := by
  rw [SentBatch.stamps, List.mem_filter, List.mem_range', SentBatch.Contains, decide_eq_true_eq]
  constructor
  · rintro ⟨⟨i, hi, rfl⟩, hge⟩
    have heq : b.cycleNumber.toNat / step * step + step * i =
        (b.cycleNumber.toNat / step + i) * step := by ring
    refine ⟨⟨hge, ?_⟩, ?_⟩
    · rw [heq, mul_lt_iff_lt_ceil hs]
      omega
    · rw [heq]
      exact Nat.dvd_mul_left _ _
  · rintro ⟨⟨hge, hlt⟩, q, rfl⟩
    rw [Nat.mul_comm, mul_lt_iff_lt_ceil hs] at hlt
    have hq : b.cycleNumber.toNat / step ≤ q := Nat.div_le_of_le_mul hge
    refine ⟨⟨q - b.cycleNumber.toNat / step, by omega, ?_⟩, hge⟩
    rw [Nat.mul_comm step (q - _), ← Nat.add_mul, Nat.add_sub_cancel' hq, Nat.mul_comm]

theorem SentBatch.stamps_increasing {step : Nat} (hs : 0 < step) :
    (b.stamps step).Pairwise (· < ·) :=
  (List.pairwise_lt_range' step hs).filter _

theorem SentBatch.Fits.lt {step : Nat} (h : b.Fits step) (hs : 0 < step) :
    b.cycleNumber.toNat + b.frameCount.toNat < 2 ^ 64 := by
  by_contra hge
  have hle : b.cycleNumber.toNat + b.frameCount.toNat ≤
      (b.cycleNumber.toNat + b.frameCount.toNat + step - 1) / step * step := by
    rw [← Nat.not_lt, mul_lt_iff_lt_ceil hs]
    exact Nat.lt_irrefl _
  rw [SentBatch.Fits] at h
  omega

/-- A batch stamps its counters in increasing order. -/
theorem stampSlots_stamps (step : UInt64) (hs : 0 < step.toNat) (hfit : b.Fits step.toNat)
    {base : UInt64} (hbase : base.toNat = b.cycleNumber.toNat / step.toNat * step.toNat)
    (rtt : RoundTripContext) :
    stampSlots b.cycleNumber (b.cycleNumber + b.frameCount) step b.txTime (2 ^ 64) base rtt =
      (b.stamps step.toNat).foldlM (stampAt b.txTime) rtt := by
  have hstop : (b.cycleNumber + b.frameCount).toNat =
      b.cycleNumber.toNat + b.frameCount.toNat := by
    rw [UInt64.toNat_add]
    exact Nat.mod_eq_of_lt (hfit.lt hs)
  rw [SentBatch.Fits] at hfit
  rw [SentBatch.stamps]
  generalize hceil : (b.cycleNumber.toNat + b.frameCount.toNat + step.toNat - 1) / step.toNat = ceil
    at hfit ⊢
  have hq : b.cycleNumber.toNat / step.toNat ≤ ceil := by
    rw [← hceil]
    exact Nat.div_le_div_right (by omega)
  have hend : base.toNat + (ceil - b.cycleNumber.toNat / step.toNat) * step.toNat =
      ceil * step.toNat := by
    rw [hbase, ← Nat.add_mul, Nat.add_sub_cancel' hq]
  have hsmall : ceil - b.cycleNumber.toNat / step.toNat < 2 ^ 64 :=
    Nat.lt_of_le_of_lt (Nat.le_trans (Nat.sub_le _ _) (Nat.le_mul_of_pos_right _ hs)) hfit
  rw [← hbase]
  apply stampSlots_eq hsmall
  · intro k hk
    rw [hbase, ← Nat.add_mul, hstop, mul_lt_iff_lt_ceil hs, hceil]
    omega
  · rw [hend, hstop, ← Nat.not_lt, mul_lt_iff_lt_ceil hs, hceil]
    exact Nat.lt_irrefl _
  · rw [hend]
    exact hfit

variable {cfg : StatConfig} {frameType : StatFrameType}

theorem StatConfig.stampStep_pos (hn : 0 < (cfg.framesPerCycle frameType).toNat) :
    0 < cfg.stampStep frameType := by
  rw [StatConfig.stampStep]
  split
  · exact hn
  · exact Nat.one_pos

theorem StatConfig.stampStep_le (hn : 0 < (cfg.framesPerCycle frameType).toNat) :
    cfg.stampStep frameType ≤ (cfg.framesPerCycle frameType).toNat := by
  rw [StatConfig.stampStep]
  split
  · exact Nat.le_refl _
  · exact hn

/-- In the modes that keep send times a batch stamps its counters. -/
theorem recordTxTime_stamps (hmode : cfg.logStatUserSelected ≠ .mirror)
    (hn : 0 < (cfg.framesPerCycle frameType).toNat) (hrtt : rtt.backlog.isSome = true)
    (hfit : b.Fits (cfg.stampStep frameType)) :
    recordTxTime cfg frameType b.cycleNumber b.frameCount b.txTime rtt =
      (b.stamps (cfg.stampStep frameType)).foldlM (stampAt b.txTime) rtt := by
  rw [recordTxTime, if_pos ⟨hmode, hrtt⟩]
  rw [StatConfig.stampStep] at hfit ⊢
  cases hhw : cfg.txHwtstampEnabled frameType with
  | true =>
    simp only [hhw, ↓reduceIte] at hfit ⊢
    have hne : cfg.framesPerCycle frameType ≠ 0 := ne_zero_of_toNat_pos hn
    rw [firstFrameInCycle]
    simp only [if_neg hne]
    refine stampSlots_stamps _ hn hfit ?_ rtt
    rw [UInt64.toNat_mul, UInt64.toNat_div]
    exact Nat.mod_eq_of_lt (Nat.lt_of_le_of_lt (Nat.div_mul_le_self _ _) b.cycleNumber.toNat_lt)
  | false =>
    simp only [hhw, Bool.false_eq_true, ↓reduceIte] at hfit ⊢
    exact stampSlots_stamps 1 Nat.one_pos hfit (by simp) rtt

theorem recordTxTime_spec (hmode : cfg.logStatUserSelected ≠ .mirror)
    (hn : 0 < (cfg.framesPerCycle frameType).toNat) (h : rtt.Holds tab)
    (hfit : b.Fits (cfg.stampStep frameType)) :
    ∃ rtt', recordTxTime cfg frameType b.cycleNumber b.frameCount b.txTime rtt = some rtt' ∧
      rtt'.Holds ((b.writes (cfg.stampStep frameType)).foldl record tab) := by
  have hsome : rtt.backlog.isSome = true := by
    obtain ⟨entries, hentries, -⟩ := Option.map_eq_some_iff.mp h.times_eq
    rw [hentries]
    rfl
  have hpos := StatConfig.stampStep_pos hn
  have hlt := hfit.lt hpos
  rw [recordTxTime_stamps hmode hn hsome hfit]
  refine stampAt_foldlM h (fun c hc => ?_) b.txTime
  obtain ⟨⟨-, hc⟩, -⟩ := (SentBatch.mem_stamps hpos).mp hc
  omega

def Histogram.Complete (hist : Histogram) : Prop := hist.data.length = (hist.max - hist.min).toNat

/-- The backlog of the class holds these send times, and its histogram is as it was allocated. -/
structure Tracked (frameType : StatFrameType) (tab : List UInt64) (s : StatState) : Prop where
  holds : (s.roundTripContexts frameType).Holds tab
  histogram : (s.histograms frameType).Complete

variable {s s' : StatState} {t : StatFrameType}

theorem Tracked.congr (h : Tracked frameType tab s)
    (hrtt : s'.roundTripContexts = s.roundTripContexts) (hhist : s'.histograms = s.histograms) :
    Tracked frameType tab s' := by
  refine ⟨?_, ?_⟩
  · rw [hrtt]
    exact h.holds
  · rw [hhist]
    exact h.histogram

theorem Tracked.modify_other (h : Tracked frameType tab s)
    (hm : (s.roundTripContexts t).modify idx f = some rtt') (hf : ∀ e, (f e).swTs = e.swTs) :
    Tracked frameType tab (s.setRoundTrip t rtt') := by
  refine ⟨?_, h.histogram⟩
  change (update s.roundTripContexts t rtt' frameType).Holds tab
  by_cases ht : frameType = t
  · subst ht
    rw [update_self]
    exact h.holds.modify_other hf hm
  · rw [update_of_ne ht]
    exact h.holds

theorem statFrameSentLatency_tracked (ht : Tracked frameType tab s)
    (h : statFrameSentLatency cfg s t seq = some s') : Tracked frameType tab s' := by
  rcases statFrameSentLatency_cases h with rfl | ⟨latency, idx, rtt, hm, rfl⟩ | rfl
  · exact ht
  · exact (ht.modify_other hm fun _ => rfl).congr rfl rfl
  · exact ht.congr rfl rfl

theorem statProcFirstLatency_tracked (ht : Tracked frameType tab s)
    (h : statProcFirstLatency cfg s t cycleNumber txHwTimestamp = some s') :
    Tracked frameType tab s' := by
  rcases statProcFirstLatency_cases h with rfl | ⟨latency, rfl⟩
  · exact ht
  · exact ht.congr rfl rfl

theorem statProcBatchLatency_tracked (ht : Tracked frameType tab s)
    (h : statProcBatchLatency cfg s t cycleNumber lastTxHwTimestamp = some s') :
    Tracked frameType tab s' := by
  obtain ⟨idx, rtt, hm, h⟩ := statProcBatchLatency_cases h
  have hkeep := ht.modify_other hm fun _ => rfl
  rcases h with rfl | ⟨latency, rfl⟩
  · exact hkeep
  · exact hkeep.congr rfl rfl

theorem statUpdate_roundTripContexts (cfg : StatConfig) (s : StatState) (now : UInt64) :
    (statUpdate cfg s now).roundTripContexts = s.roundTripContexts := by
  simp only [statUpdate]
  split <;> (try split) <;> (try split) <;> rfl

theorem statUpdate_histograms (cfg : StatConfig) (s : StatState) (now : UInt64) :
    (statUpdate cfg s now).histograms = s.histograms := by
  simp only [statUpdate]
  split <;> (try split) <;> (try split) <;> rfl

theorem statUpdate_tracked (ht : Tracked frameType tab s) (now : UInt64) :
    Tracked frameType tab (statUpdate cfg s now) :=
  ht.congr (statUpdate_roundTripContexts cfg s now) (statUpdate_histograms cfg s now)

theorem histogramUpdate_complete {hist : Histogram} (h : hist.Complete) (us : UInt64) :
    ∃ hist', histogramUpdate hist us = some hist' ∧ hist'.Complete := by
  rw [histogramUpdate]
  split
  · exact ⟨_, rfl, h⟩
  · rename_i hmax
    split
    · exact ⟨_, rfl, h⟩
    · rename_i hmin
      have hlt : (us - hist.min).toNat < hist.data.length := by
        have hle := UInt64.le_iff_toNat_le.mp (UInt64.not_lt.mp hmin)
        have hlt := UInt64.lt_iff_toNat_lt.mp (UInt64.not_le.mp hmax)
        rw [h, UInt64.toNat_sub_of_le _ _ (UInt64.le_iff_toNat_le.mpr hle),
          UInt64.toNat_sub_of_le _ _ (UInt64.le_iff_toNat_le.mpr (by omega))]
        omega
      rw [List.getElem?_eq_getElem hlt, Option.map_some]
      exact ⟨_, rfl, List.length_set.trans h⟩

theorem recordHistogram_complete (h : (s.histograms t).Complete) (us : UInt64) :
    ∃ hist', recordHistogram cfg s t us = some hist' ∧ hist'.Complete := by
  rw [recordHistogram]
  split
  · exact histogramUpdate_complete h us
  · exact ⟨_, rfl, h⟩

theorem statFrameReceived_tracked (href : cfg.logStatUserSelected = .reference)
    (ht : Tracked frameType tab s) (h : statFrameReceived cfg s t r now = some s') :
    Tracked frameType tab s' := by
  simp only [statFrameReceived, storeRxHwTimestamp_reference href, Option.bind_eq_bind,
    Option.bind_some, Option.bind_eq_some_iff, Option.pure_def, Option.some.injEq] at h
  obtain ⟨rtTime, -, hist, hhist, rfl⟩ := h
  refine ⟨?_, ?_⟩
  · change (update s.roundTripContexts t (s.roundTripContexts t) frameType).Holds tab
    rw [update_eq_self]
    exact ht.holds
  · change (update s.histograms t hist frameType).Complete
    by_cases hft : frameType = t
    · subst hft
      obtain ⟨hist', hrec, hcomplete⟩ := @recordHistogram_complete cfg
        (s.setRoundTrip frameType (s.roundTripContexts frameType)) frameType ht.histogram rtTime
      rw [update_self]
      cases hhist.symm.trans hrec
      exact hcomplete
    · rw [update_of_ne hft]
      exact ht.histogram

def callWrites (cfg : StatConfig) (frameType : StatFrameType) (call : StatCall) :
    List (Nat × UInt64) :=
  ((sentBatch? frameType call).map (·.writes (cfg.stampStep frameType))).getD []

theorem ne_mirror (href : cfg.logStatUserSelected = .reference) :
    cfg.logStatUserSelected ≠ .mirror := by
  rw [href]
  decide

theorem statFramesSentBatch_other (hne : frameType ≠ t) (ht : Tracked frameType tab s)
    (h : statFramesSentBatch cfg s t cycleNumber frameCount now = some s') :
    Tracked frameType tab s' := by
  simp only [statFramesSentBatch, Option.bind_eq_bind, Option.bind_eq_some_iff, Option.pure_def,
    Option.some.injEq] at h
  obtain ⟨rtt, -, rfl⟩ := h
  refine ⟨?_, ht.histogram⟩
  change (update s.roundTripContexts t rtt frameType).Holds tab
  rw [update_of_ne hne]
  exact ht.holds

/-- A reported batch: its time stands in its slots, and its frames are counted. -/
theorem statFramesSentBatch_holds (hmode : cfg.logStatUserSelected ≠ .mirror)
    (hn : 0 < (cfg.framesPerCycle frameType).toNat)
    (h : (s.roundTripContexts frameType).Holds tab) (hfit : b.Fits (cfg.stampStep frameType)) :
    ∃ s', statFramesSentBatch cfg s frameType b.cycleNumber b.frameCount b.txTime = some s' ∧
      (s'.roundTripContexts frameType).Holds
        ((b.writes (cfg.stampStep frameType)).foldl record tab) ∧
      s'.exited = s.exited ∧ s'.histograms = s.histograms ∧
      s'.globalStatistics frameType = { s.globalStatistics frameType with
        framesSent := (s.globalStatistics frameType).framesSent + b.frameCount } := by
  obtain ⟨rtt, hrec, hholds⟩ := recordTxTime_spec hmode hn h hfit
  rw [statFramesSentBatch, hrec]
  refine ⟨_, rfl, ?_, rfl, rfl, update_self _ _ _⟩
  change (update s.roundTripContexts frameType rtt frameType).Holds _
  rw [update_self]
  exact hholds

theorem statFramesSentBatch_tracked (hmode : cfg.logStatUserSelected ≠ .mirror)
    (hn : 0 < (cfg.framesPerCycle frameType).toNat) (ht : Tracked frameType tab s)
    (hfit : b.Fits (cfg.stampStep frameType)) :
    ∃ s', statFramesSentBatch cfg s frameType b.cycleNumber b.frameCount b.txTime = some s' ∧
      Tracked frameType ((b.writes (cfg.stampStep frameType)).foldl record tab) s' ∧
      s'.exited = s.exited := by
  obtain ⟨s', hs', hholds, hexited, hhist, -⟩ := statFramesSentBatch_holds hmode hn ht.holds hfit
  exact ⟨s', hs', ⟨hholds, hhist ▸ ht.histogram⟩, hexited⟩

theorem statCall_sent (h : sentBatch? frameType call = some b) :
    statCall cfg s call =
      statFramesSentBatch cfg s frameType b.cycleNumber b.frameCount b.txTime := by
  cases call with
  | frameSent t cycleNumber now =>
    simp only [sentBatch?, Option.ite_none_right_eq_some, Option.some.injEq] at h
    obtain ⟨rfl, rfl⟩ := h
    rfl
  | framesSentBatch t cycleNumber frameCount now =>
    simp only [sentBatch?, Option.ite_none_right_eq_some, Option.some.injEq] at h
    obtain ⟨rfl, rfl⟩ := h
    rfl
  | _ => cases h

/-- Whatever is called, the send times change by what the call records. -/
theorem statCall_tracked (href : cfg.logStatUserSelected = .reference)
    (hn : 0 < (cfg.framesPerCycle frameType).toNat) (ht : Tracked frameType tab s)
    (hfit : ∀ b, sentBatch? frameType call = some b → b.Fits (cfg.stampStep frameType))
    (h : statCall cfg s call = some s') :
    Tracked frameType ((callWrites cfg frameType call).foldl record tab) s' := by
  cases hb : sentBatch? frameType call with
  | some b =>
    obtain ⟨s₁, hs₁, htracked, -⟩ := statFramesSentBatch_tracked (ne_mirror href) hn ht (hfit b hb)
    rw [statCall_sent hb] at h
    cases hs₁.symm.trans h
    rw [callWrites, hb]
    exact htracked
  | none =>
    rw [callWrites, hb]
    change Tracked frameType tab s'
    cases call with
    | frameSent t cycleNumber now =>
      refine statFramesSentBatch_other (fun hft => ?_) ht h
      simp [sentBatch?, hft] at hb
    | framesSentBatch t cycleNumber frameCount now =>
      refine statFramesSentBatch_other (fun hft => ?_) ht h
      simp [sentBatch?, hft] at hb
    | frameReceived t r now => exact statFrameReceived_tracked href ht h
    | frameSentLatency t seq =>
      rw [statCall] at h
      split at h
      · exact statFrameSentLatency_tracked ht h
      · cases h
    | procFirstLatency t cycleNumber txHwTimestamp =>
      rw [statCall] at h
      split at h
      · exact statProcFirstLatency_tracked ht h
      · cases h
    | procBatchLatency t cycleNumber lastTxHwTimestamp =>
      rw [statCall] at h
      split at h
      · exact statProcBatchLatency_tracked ht h
      · cases h
    | frameWorkload t id startTime now =>
      cases h
      exact ht.congr rfl rfl
    | incWorkloadOutlier t id =>
      cases h
      exact ht.congr rfl rfl
    | update now =>
      cases h
      exact statUpdate_tracked ht now
    | resetRequest =>
      cases h
      exact ht.congr rfl rfl
    | txHwTimestamp t idx hwTs =>
      simp only [statCall, Option.bind_eq_bind, Option.bind_eq_some_iff, Option.pure_def,
        Option.some.injEq] at h
      obtain ⟨rtt, hm, rfl⟩ := h
      exact ht.modify_other hm fun _ => rfl

theorem statStep_exited (hs : s.exited = true) (calls : List StatCall) :
    calls.foldlM (statStep cfg) s = some s := by
  induction calls with
  | nil => rfl
  | cons call calls ih => rw [List.foldlM_cons, statStep, if_pos hs, Option.bind_eq_bind,
      Option.bind_some, ih]

def historyWrites (cfg : StatConfig) (frameType : StatFrameType) (calls : List StatCall) :
    List (Nat × UInt64) :=
  (sentBatches frameType calls).flatMap (·.writes (cfg.stampStep frameType))

theorem historyWrites_cons (call : StatCall) (calls : List StatCall) :
    historyWrites cfg frameType (call :: calls) =
      callWrites cfg frameType call ++ historyWrites cfg frameType calls := by
  rw [historyWrites, sentBatches, callWrites, List.filterMap_cons]
  cases sentBatch? frameType call with
  | none => rfl
  | some b => rfl

theorem sentBatches_cons_fit {calls : List StatCall} {step : Nat}
    (h : ∀ b ∈ sentBatches frameType (call :: calls), b.Fits step) :
    (∀ b, sentBatch? frameType call = some b → b.Fits step) ∧
      ∀ b ∈ sentBatches frameType calls, b.Fits step := by
  constructor
  · intro b hb
    exact h b (List.mem_filterMap.mpr ⟨call, List.mem_cons_self, hb⟩)
  · intro b hb
    obtain ⟨call', hcall, hb⟩ := List.mem_filterMap.mp hb
    exact h b (List.mem_filterMap.mpr ⟨call', List.mem_cons_of_mem _ hcall, hb⟩)

/-- As long as the program runs, the backlog holds what the batches of the class recorded. -/
theorem history_tracked (href : cfg.logStatUserSelected = .reference)
    (hn : 0 < (cfg.framesPerCycle frameType).toNat) (ht : Tracked frameType tab s)
    {calls : List StatCall}
    (hfit : ∀ b ∈ sentBatches frameType calls, b.Fits (cfg.stampStep frameType))
    (h : calls.foldlM (statStep cfg) s = some s') (hlive : s'.exited = false) :
    Tracked frameType ((historyWrites cfg frameType calls).foldl record tab) s' := by
  induction calls generalizing s tab with
  | nil =>
    cases h
    exact ht
  | cons call calls ih =>
    obtain ⟨hfirst, hrest⟩ := sentBatches_cons_fit hfit
    by_cases hs : s.exited = true
    · cases (statStep_exited hs (call :: calls)).symm.trans h
      rw [hs] at hlive
      cases hlive
    · rw [List.foldlM_cons, statStep, if_neg hs, Option.bind_eq_bind] at h
      obtain ⟨s₁, hs₁, h⟩ := Option.bind_eq_some_iff.mp h
      rw [historyWrites_cons, List.foldl_append]
      exact ih (statCall_tracked href hn ht hfirst hs₁) hrest h

theorem history_returns (href : cfg.logStatUserSelected = .reference)
    (hn : 0 < (cfg.framesPerCycle frameType).toNat) (ht : Tracked frameType tab s)
    (hlive : s.exited = false) {calls : List StatCall}
    (hfit : ∀ b ∈ sentBatches frameType calls, b.Fits (cfg.stampStep frameType))
    (hsent : ∀ call ∈ calls, (sentBatch? frameType call).isSome = true) :
    ∃ s', calls.foldlM (statStep cfg) s = some s' ∧ s'.exited = false := by
  induction calls generalizing s tab with
  | nil => exact ⟨s, rfl, hlive⟩
  | cons call calls ih =>
    obtain ⟨hfirst, hrest⟩ := sentBatches_cons_fit hfit
    obtain ⟨hcall, hsent⟩ := List.forall_mem_cons.mp hsent
    obtain ⟨b, hb⟩ := Option.isSome_iff_exists.mp hcall
    obtain ⟨s₁, hs₁, ht₁, hexited⟩ := statFramesSentBatch_tracked (ne_mirror href) hn ht
      (hfirst b hb)
    rw [List.foldlM_cons, statStep, if_neg (by rw [hlive]; exact Bool.false_ne_true),
      statCall_sent hb, hs₁]
    exact ih ht₁ (hexited.trans hlive) hrest hsent

theorem writes_increasing {bs : List SentBatch} {step : Nat} (hs : 0 < step)
    (hinc : Increasing bs) :
    (bs.flatMap (·.writes step)).Pairwise fun a b => a.1 < b.1 := by
  rw [List.pairwise_flatMap]
  constructor
  · intro b _
    rw [SentBatch.writes, List.pairwise_map]
    exact b.stamps_increasing hs
  · refine hinc.imp fun {a b} hab x hx y hy => ?_
    obtain ⟨c, hc, rfl⟩ := List.mem_map.mp hx
    obtain ⟨d, hd, rfl⟩ := List.mem_map.mp hy
    exact hab c d ((SentBatch.mem_stamps hs).mp hc).1 ((SentBatch.mem_stamps hs).mp hd).1

/-- The slot of a counter holds the time of its batch until a batch reaches a whole backlog
further. -/
theorem getElem?_writes {bs : List SentBatch} {step c : Nat} (hs : 0 < step) (hpos : 0 < tab.length)
    (hinc : Increasing bs) (hb : b ∈ bs) (hsent : b.Contains c) (hdvd : step ∣ c)
    (hwindow : ∀ b' ∈ bs, ∀ d, b'.Contains d → d < c + tab.length) :
    ((bs.flatMap (·.writes step)).foldl record tab)[c % tab.length]? = some b.txTime := by
  apply getElem?_foldl_record tab hpos (writes_increasing hs hinc)
  · apply List.mem_flatMap.mpr ⟨b, hb, ?_⟩
    exact List.mem_map.mpr ⟨c, (SentBatch.mem_stamps hs).mpr ⟨hsent, hdvd⟩, rfl⟩
  · intro w hw
    obtain ⟨b', hb', hw⟩ := List.mem_flatMap.mp hw
    obtain ⟨d, hd, rfl⟩ := List.mem_map.mp hw
    exact hwindow b' hb' d ((SentBatch.mem_stamps hs).mp hd).1

theorem histogramInit_complete (cfg : StatConfig) : (histogramInit cfg).Complete := by
  rw [histogramInit]
  split
  · exact List.length_replicate
  · rfl

theorem roundTripContextInit_holds (hneeds : needsBacklog cfg frameType = true)
    (hn : 0 < (cfg.framesPerCycle frameType).toNat)
    (hn' : (cfg.framesPerCycle frameType).toNat < 2 ^ 54)
    (hsome : (roundTripContextInit cfg frameType).backlog.isNone = false) :
    (roundTripContextInit cfg frameType).Holds
      (List.replicate (1024 * (cfg.framesPerCycle frameType).toNat) 0) := by
  have hlen : (statMaxBacklog * cfg.framesPerCycle frameType).toNat =
      1024 * (cfg.framesPerCycle frameType).toNat := by
    rw [UInt64.toNat_mul]
    exact Nat.mod_eq_of_lt (show 1024 * _ < 2 ^ 64 by omega)
  simp only [roundTripContextInit, if_pos hneeds, callocArray] at hsome ⊢
  split at hsome
  · rename_i hle
    rw [if_pos hle]
    refine ⟨?_, ?_, ?_⟩
    · rw [RoundTripContext.times, Option.map_some, List.map_replicate, hlen]
    · rw [List.length_replicate]
      exact hlen
    · rw [List.length_replicate]
      omega
  · cases hsome

theorem statInit_tracked (hneeds : needsBacklog cfg frameType = true)
    (hn : 0 < (cfg.framesPerCycle frameType).toNat)
    (hn' : (cfg.framesPerCycle frameType).toNat < 2 ^ 54) (hi : statInit cfg = some s) :
    Tracked frameType (List.replicate (1024 * (cfg.framesPerCycle frameType).toNat) 0) s ∧
      s.exited = false := by
  rw [statInit] at hi
  split at hi
  · cases hi
  · rename_i hany
    cases hi
    refine ⟨⟨roundTripContextInit_holds hneeds hn hn' ?_, histogramInit_complete cfg⟩, rfl⟩
    by_contra hnone
    refine hany (List.any_eq_true.mpr ⟨frameType, by cases frameType <;> decide, ?_⟩)
    rw [Bool.and_eq_true]
    exact ⟨hneeds, Bool.not_eq_false _ ▸ hnone⟩

/-- Reader and writer agree on the slot of a frame. -/
theorem txTimeIdx_eq (hn : 0 < (cfg.framesPerCycle frameType).toNat)
    (h : (s.roundTripContexts frameType).Holds tab) (c : UInt64) :
    txTimeIdx cfg s frameType c = some (cfg.stampOf frameType c.toNat % tab.length) := by
  rw [txTimeIdx, StatConfig.stampOf, StatConfig.stampStep]
  cases cfg.txHwtstampEnabled frameType with
  | true =>
    have hne : cfg.framesPerCycle frameType ≠ 0 := ne_zero_of_toNat_pos hn
    have hfirst : (c / cfg.framesPerCycle frameType * cfg.framesPerCycle frameType).toNat =
        c.toNat / (cfg.framesPerCycle frameType).toNat * (cfg.framesPerCycle frameType).toNat := by
      rw [UInt64.toNat_mul, UInt64.toNat_div]
      exact Nat.mod_eq_of_lt (Nat.lt_of_le_of_lt (Nat.div_mul_le_self _ _) c.toNat_lt)
    rw [if_pos rfl, if_pos rfl, getFirstFrameBacklogIdx, firstFrameInCycle]
    simp only [if_neg hne, Option.bind_eq_bind, Option.bind_some]
    rw [h.index, hfirst]
  | false =>
    rw [if_neg Bool.false_ne_true, if_neg Bool.false_ne_true, h.index, Nat.div_one, Nat.mul_one]

theorem statFrameReceived_sample (href : cfg.logStatUserSelected = .reference)
    (hn : 0 < (cfg.framesPerCycle frameType).toNat) (ht : Tracked frameType tab s) (r : RxReport)
    (now : UInt64) {sent : UInt64}
    (hslot : tab[cfg.stampOf frameType r.sequenceCounter.toNat % tab.length]? = some sent) :
    ∃ s' times, statCall cfg s (.frameReceived frameType r now) = some s' ∧
      times.rtTime = (if sent ≠ 0 then (now - sent) / 1000 else 0) ∧
      s'.globalStatistics frameType =
        (statFrameReceivedCommon cfg frameType times r (s.globalStatistics frameType)).1 ∧
      s'.statisticsPerPeriod frameType =
        statFrameReceivedPerPeriod cfg frameType now times r (s.statisticsPerPeriod frameType) := by
  obtain ⟨e, hentry, htime⟩ := ht.holds.entry (Nat.mod_lt _ ht.holds.pos)
  cases hslot.symm.trans htime
  have hrt : rtTimeOf cfg s frameType r.sequenceCounter now =
      some (if e.swTs ≠ 0 then (now - e.swTs) / 1000 else 0) := by
    rw [rtTimeOf, if_pos href, roundTripTime, txTimeIdx_eq hn ht.holds]
    simp only [Option.bind_eq_bind, Option.bind_some, hentry, Option.pure_def]
  obtain ⟨hist, hhist, -⟩ := @recordHistogram_complete cfg s frameType ht.histogram
    (if e.swTs ≠ 0 then (now - e.swTs) / 1000 else 0)
  rw [statCall, statFrameReceived, storeRxHwTimestamp_reference href]
  simp only [Option.bind_eq_bind, Option.bind_some, s.setRoundTrip_self, hrt, hhist,
    Option.pure_def]
  refine ⟨_, rxTimesOf (if e.swTs ≠ 0 then (now - e.swTs) / 1000 else 0) r now, rfl, ?_, ?_, ?_⟩
  · rw [rxTimesOf]
    split <;> rfl
  · exact update_self _ _ _
  · exact update_self _ _ _

theorem StatConfig.base_le_stampOf (cfg : StatConfig) (frameType : StatFrameType) (c : Nat) :
    c - c % (cfg.framesPerCycle frameType).toNat ≤ cfg.stampOf frameType c := by
  rw [StatConfig.stampOf, StatConfig.stampStep]
  split
  · have hdm := Nat.div_add_mod' c (cfg.framesPerCycle frameType).toNat
    omega
  · rw [Nat.div_one, Nat.mul_one]
    exact Nat.sub_le _ _

/-- In a history of batches over increasing ranges that end before the 64 bit counter does, a
received frame is measured against the batch that contained it or, with Tx hardware time stamps,
the first frame of its cycle. Other calls in between make no difference. -/
theorem round_trip_correlation (href : cfg.logStatUserSelected = .reference)
    (hn : 1 ≤ (cfg.framesPerCycle frameType).toNat)
    (hn' : (cfg.framesPerCycle frameType).toNat < 2 ^ 54) (hi : statInit cfg = some s)
    (calls : List StatCall) (hinc : Increasing (sentBatches frameType calls))
    (hfit : ∀ b ∈ sentBatches frameType calls, b.Fits (cfg.stampStep frameType))
    (r : RxReport) (now : UInt64) (hb : b ∈ sentBatches frameType calls)
    (hsent : b.Contains (cfg.stampOf frameType r.sequenceCounter.toNat))
    (hwindow : ∀ b' ∈ sentBatches frameType calls, ∀ c, b'.Contains c →
      c < r.sequenceCounter.toNat - r.sequenceCounter.toNat % (cfg.framesPerCycle frameType).toNat +
        1024 * (cfg.framesPerCycle frameType).toNat)
    (hclock : b.txTime ≠ 0) (hmono : b.txTime ≤ now) :
    ((∀ call ∈ calls, (sentBatch? frameType call).isSome = true) →
      ∃ s₁, calls.foldlM (statStep cfg) s = some s₁ ∧ s₁.exited = false) ∧
    ∀ s₁, calls.foldlM (statStep cfg) s = some s₁ → s₁.exited = false →
      ∃ s₂ times, statCall cfg s₁ (.frameReceived frameType r now) = some s₂ ∧
        times.rtTime.toNat = (now.toNat - b.txTime.toNat) / 1000 ∧
        s₂.globalStatistics frameType =
          (statFrameReceivedCommon cfg frameType times r (s₁.globalStatistics frameType)).1 ∧
        s₂.statisticsPerPeriod frameType =
          statFrameReceivedPerPeriod cfg frameType now times r
            (s₁.statisticsPerPeriod frameType) := by
  have hneeds : needsBacklog cfg frameType = true := by
    rw [needsBacklog, href]
    rfl
  obtain ⟨ht, hlive⟩ := statInit_tracked hneeds hn hn' hi
  refine ⟨history_returns href hn ht hlive hfit, fun s₁ hrun hlive₁ => ?_⟩
  have hs := StatConfig.stampStep_pos hn
  have ht₁ := history_tracked href hn ht hfit hrun hlive₁
  generalize htab : List.replicate (1024 * (cfg.framesPerCycle frameType).toNat) (0 : UInt64) = tab
    at ht₁
  have hlen : tab.length = 1024 * (cfg.framesPerCycle frameType).toNat := by
    rw [← htab, List.length_replicate]
  have hwin : ∀ b' ∈ sentBatches frameType calls, ∀ c, b'.Contains c →
      c < cfg.stampOf frameType r.sequenceCounter.toNat + tab.length := by
    intro b' hb' c hc
    have hlt := hwindow b' hb' c hc
    have hle := cfg.base_le_stampOf frameType r.sequenceCounter.toNat
    omega
  have hslot : ((historyWrites cfg frameType calls).foldl record tab)[
      cfg.stampOf frameType r.sequenceCounter.toNat % tab.length]? = some b.txTime :=
    getElem?_writes hs (by omega) hinc hb hsent (Nat.dvd_mul_left _ _) hwin
  rw [← length_foldl_record tab (historyWrites cfg frameType calls)] at hslot
  obtain ⟨s₂, times, hcall, htime, hglobal, hperiod⟩ :=
    statFrameReceived_sample href hn ht₁ r now hslot
  refine ⟨s₂, times, hcall, ?_, hglobal, hperiod⟩
  rw [htime, if_pos hclock, UInt64.toNat_div, UInt64.toNat_sub_of_le _ _ hmono]
  rfl

def hwtstampConfig : StatConfig :=
  ⟨fullBuild, (configSetDefaults false).setClass .genericL2 fun c =>
    { c with enabled := true, numFramesPerCycle := 4, txHwtstampEnabled := true }, .reference⟩

theorem statInit_isSome (h : (statFrameTypes.any fun frameType => needsBacklog cfg frameType &&
    (roundTripContextInit cfg frameType).backlog.isNone) = false) :
    ∃ s, statInit cfg = some s := by
  rw [statInit, h]
  exact ⟨_, rfl⟩

def cleanReport (sequenceCounter : UInt64) : RxReport :=
  ⟨sequenceCounter, false, false, false, 0, 0, 0⟩

/-- The second batch starts in the middle of cycle 1 and covers cycle 2 as a whole, so frame 9 is
measured against it. -/
theorem round_trip_correlation_hwtstamp :
    let calls := [StatCall.framesSentBatch .genericL2 0 6 1000000,
      .framesSentBatch .genericL2 6 6 2000000]
    ∃ s s₁ s₂ times, statInit hwtstampConfig = some s ∧
      calls.foldlM (statStep hwtstampConfig) s = some s₁ ∧
      statCall hwtstampConfig s₁ (.frameReceived .genericL2 (cleanReport 9) 2345678) = some s₂ ∧
      times.rtTime.toNat = 345 ∧
      s₂.globalStatistics .genericL2 = (statFrameReceivedCommon hwtstampConfig .genericL2 times
        (cleanReport 9) (s₁.globalStatistics .genericL2)).1 := by
  intro calls
  obtain ⟨s, hs⟩ := @statInit_isSome hwtstampConfig (by decide)
  have hbatches : sentBatches .genericL2 calls = [⟨0, 6, 1000000⟩, ⟨6, 6, 2000000⟩] := rfl
  have hinc : Increasing (sentBatches .genericL2 calls) := by
    rw [hbatches, Increasing, List.pairwise_pair]
    rintro c d ⟨-, hc⟩ ⟨hd, -⟩
    exact Nat.lt_of_lt_of_le hc hd
  have hfit : ∀ b ∈ sentBatches .genericL2 calls, b.Fits (hwtstampConfig.stampStep .genericL2) := by
    rw [hbatches]
    simp only [SentBatch.Fits]
    decide
  have hsent : SentBatch.Contains ⟨6, 6, 2000000⟩ (hwtstampConfig.stampOf .genericL2 9) := by
    rw [SentBatch.Contains]
    decide
  have hwindow : ∀ b ∈ sentBatches .genericL2 calls, ∀ c, b.Contains c → c < 8 + 1024 * 4 := by
    rw [hbatches]
    simp only [List.forall_mem_cons, SentBatch.Contains]
    exact ⟨fun c hc => Nat.lt_trans hc.2 (by decide),
      fun c hc => Nat.lt_trans hc.2 (by decide), nofun⟩
  obtain ⟨hreturns, hsample⟩ := round_trip_correlation rfl (by decide) (by decide) hs calls
    hinc hfit
    (cleanReport 9) 2345678 (hbatches ▸ List.mem_cons_of_mem _ List.mem_cons_self) hsent hwindow
    (by decide) (by decide)
  obtain ⟨s₁, hrun, hlive⟩ := hreturns (by decide)
  obtain ⟨s₂, times, hcall, htime, hglobal, -⟩ := hsample s₁ hrun hlive
  exact ⟨s, s₁, s₂, times, hs, hrun, hcall, htime, hglobal⟩

/-- The last counter is sent and nothing notes when: the end of the range wraps to zero. The sample
is 0 where 5 ms have passed. -/
theorem round_trip_correlation_wrap :
    ∃ s s₁ s₂, statInit referenceConfig = some s ∧
      statCall referenceConfig s (.framesSentBatch .genericL2 0xffffffffffffffff 1 1000000) =
        some s₁ ∧
      statCall referenceConfig s₁
        (.frameReceived .genericL2 (cleanReport 0xffffffffffffffff) 6000000) = some s₂ ∧
      (s₂.globalStatistics .genericL2).roundTripCount = 1 ∧
      (s₂.globalStatistics .genericL2).roundTripMax = 0 := by
  have hsome : ((statInit referenceConfig).bind fun s =>
      (statCall referenceConfig s (.framesSentBatch .genericL2 0xffffffffffffffff 1 1000000)).bind
        fun s => statCall referenceConfig s
          (.frameReceived .genericL2 (cleanReport 0xffffffffffffffff) 6000000)).map (fun s =>
        ((s.globalStatistics .genericL2).roundTripCount,
          (s.globalStatistics .genericL2).roundTripMax)) = some (1, 0) := by
    decide +kernel
  obtain ⟨s₂, hrun, hx⟩ := Option.map_eq_some_iff.mp hsome
  obtain ⟨s, hi, hrun⟩ := Option.bind_eq_some_iff.mp hrun
  obtain ⟨s₁, hbatch, hreceived⟩ := Option.bind_eq_some_iff.mp hrun
  rw [Prod.mk.injEq] at hx
  exact ⟨s, s₁, s₂, hi, hbatch, hreceived, hx.1, hx.2⟩

end RtcTestbench
