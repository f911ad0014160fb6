import RtcTestbench.RoundTripTime
import RtcTestbench.Lib.Bins

namespace RtcTestbench
open Function Bins
set_option autoImplicit true

/-- What `histogram_write` prints: a line for each round trip time that occurred, with the counts of
all classes. -/
structure HistogramFile where
  rows : List (UInt64 × List UInt64)
  overflow : List UInt64
  underflow : List UInt64

def histogramRow (s : StatState) (rtt : UInt64) : Option (UInt64 × List UInt64) := do
  let counts ← statFrameTypes.mapM fun t =>
    (s.histograms t).data[(rtt - (s.histograms t).min).toNat]?
  return (rtt, counts)

/-- `histogram_write`; the loop runs over the range of the first histogram. -/
def histogramWrite (cfg : StatConfig) (s : StatState) : Option (Option HistogramFile) :=
  if !cfg.app.statsHistogramEnabled then some none
  else do
    let first := s.histograms .tsnHigh
    let rows ← (List.range (first.max.toNat - first.min.toNat)).mapM fun i =>
      histogramRow s (first.min + UInt64.ofNat i)
    return some {
      rows := rows.filter fun row => row.2.any (· ≠ 0)
      overflow := statFrameTypes.map fun t => (s.histograms t).overflow
      underflow := statFrameTypes.map fun t => (s.histograms t).underflow }

/-- The round trip time a call computes for a frame of the class. -/
def StatState.sample (cfg : StatConfig) (s : StatState) (t : StatFrameType) :
    StatCall → Option UInt64
  | .frameReceived frameType r now =>
    if frameType = t then rtTimeOf cfg s t r.sequenceCounter now else none
  | _ => none

/-- The samples of the class in the order of a run. -/
def samplesOf (cfg : StatConfig) (t : StatFrameType) : StatState → List StatCall → List Nat
  | _, [] => []
  | s, call :: calls =>
    ((if s.exited then none else s.sample cfg t call).map UInt64.toNat).toList ++
      (statStep cfg s call).elim [] fun s' => samplesOf cfg t s' calls

/-- The histogram that counts these samples. -/
def Histogram.ofSamples (min max : UInt64) (xs : List Nat) : Histogram where
  data := (bins min.toNat max.toNat xs).map UInt64.ofNat
  min
  max
  underflow := UInt64.ofNat (below min.toNat xs)
  overflow := UInt64.ofNat (above max.toNat xs)

variable {cfg : StatConfig} {s s' : StatState} {t : StatFrameType} {call : StatCall}
  {min max : UInt64} {xs : List Nat}

theorem div_mono {a b c : UInt64} (h : a ≤ b) : a / c ≤ b / c := by
  rw [UInt64.le_iff_toNat_le, UInt64.toNat_div, UInt64.toNat_div]
  exact Nat.div_le_div_right (UInt64.le_iff_toNat_le.mp h)

theorem ofNat_succ (k : Nat) : UInt64.ofNat (k + 1) = UInt64.ofNat k + 1 := UInt64.ofNat_add k 1

/-- Counting one more sample; no access is outside of the array. -/
theorem histogramUpdate_ofSamples (h : min ≤ max) (xs : List Nat) (x : UInt64) :
    histogramUpdate (.ofSamples min max xs) x = some (.ofSamples min max (xs ++ [x.toNat])) := by
  have hle := UInt64.le_iff_toNat_le.mp h
  by_cases hmax : max ≤ x
  · have hhigh := UInt64.le_iff_toNat_le.mp hmax
    refine (if_pos hmax).trans ?_
    simp only [Histogram.ofSamples, bins_outside (.inr hhigh), above_inside hhigh,
      below_outside (hle.trans hhigh), ofNat_succ]
  · have hlt := UInt64.lt_iff_toNat_lt.mp (UInt64.not_le.mp hmax)
    refine (if_neg hmax).trans ?_
    by_cases hmin : x < min
    · have hlow := UInt64.lt_iff_toNat_lt.mp hmin
      refine (if_pos hmin).trans ?_
      simp only [Histogram.ofSamples, bins_outside (.inl hlow), above_outside hlt,
        below_inside hlow, ofNat_succ]
    · have hlow := UInt64.le_iff_toNat_le.mp (UInt64.not_lt.mp hmin)
      have hsample : (x - min).toNat = x.toNat - min.toNat :=
        UInt64.toNat_sub_of_le _ _ (UInt64.not_lt.mp hmin)
      have hbin : (bins min.toNat max.toNat xs)[x.toNat - min.toNat]? =
          some (xs.count x.toNat) := by
        rw [getElem?_bins (by omega), Nat.add_sub_cancel' hlow]
      refine (if_neg hmin).trans ?_
      simp only [Histogram.ofSamples, hsample, List.getElem?_map, hbin, Option.map_some,
        bins_inside hlow, List.map_set, above_outside hlt, below_outside hlow, ofNat_succ]

/-- The call concerns neither the histograms nor the number of round trips. -/
structure KeepsSamples (s s' : StatState) : Prop where
  histograms_eq : s'.histograms = s.histograms
  reset_eq : s'.resetStats = s.resetStats
  count_eq : ∀ t, (s'.globalStatistics t).roundTripCount = (s.globalStatistics t).roundTripCount

theorem KeepsSamples.refl (s : StatState) : KeepsSamples s s := ⟨rfl, rfl, fun _ => rfl⟩

theorem KeepsSamples.trans {s₁ s₂ s₃ : StatState} (h : KeepsSamples s₁ s₂)
    (h' : KeepsSamples s₂ s₃) : KeepsSamples s₁ s₃ :=
  ⟨h'.histograms_eq.trans h.histograms_eq, h'.reset_eq.trans h.reset_eq,
    fun t => (h'.count_eq t).trans (h.count_eq t)⟩

theorem keepsSamples_setRoundTrip (s : StatState) (frameType : StatFrameType)
    (rtt : RoundTripContext) : KeepsSamples s (s.setRoundTrip frameType rtt) :=
  ⟨rfl, rfl, fun _ => rfl⟩

theorem keepsSamples_updateBoth (s : StatState) (frameType : StatFrameType)
    {global : Statistics → Statistics} (period : Statistics → Statistics)
    (h : ∀ stat : Statistics, (global stat).roundTripCount = stat.roundTripCount) :
    KeepsSamples s (s.updateBoth frameType global period) := by
  refine ⟨rfl, rfl, ?_⟩
  intro t
  change (update s.globalStatistics frameType _ t).roundTripCount = _
  by_cases ht : t = frameType
  · subst ht
    rw [update_self, h]
  · rw [update_of_ne ht]

theorem statFramesSentBatch_keepsSamples
    (h : statFramesSentBatch cfg s t cycleNumber frameCount now = some s') :
    KeepsSamples s s' := by
  simp only [statFramesSentBatch, Option.bind_eq_bind, Option.bind_eq_some_iff, Option.pure_def,
    Option.some.injEq] at h
  obtain ⟨rtt, -, rfl⟩ := h
  refine ⟨rfl, rfl, ?_⟩
  intro t'
  change (update s.globalStatistics t _ t').roundTripCount = _
  by_cases ht : t' = t
  · subst ht
    rw [update_self]
  · rw [update_of_ne ht]

theorem statFrameSentLatency_keepsSamples (h : statFrameSentLatency cfg s t seq = some s') :
    KeepsSamples s s' := by
  rcases statFrameSentLatency_cases h with rfl | ⟨latency, idx, rtt, -, rfl⟩ | rfl
  · exact .refl s'
  · refine KeepsSamples.trans ?_ (keepsSamples_setRoundTrip _ _ _)
    exact keepsSamples_updateBoth s t _ fun _ => rfl
  · exact keepsSamples_updateBoth s t _ fun _ => rfl

theorem statProcFirstLatency_keepsSamples
    (h : statProcFirstLatency cfg s t cycleNumber txHwTimestamp = some s') :
    KeepsSamples s s' := by
  rcases statProcFirstLatency_cases h with rfl | ⟨latency, rfl⟩
  · exact .refl s'
  · exact keepsSamples_updateBoth s t _ fun _ => rfl

theorem statProcBatchLatency_keepsSamples
    (h : statProcBatchLatency cfg s t cycleNumber lastTxHwTimestamp = some s') :
    KeepsSamples s s' := by
  obtain ⟨idx, rtt, -, h⟩ := statProcBatchLatency_cases h
  have hkeep := keepsSamples_setRoundTrip s t rtt
  rcases h with rfl | ⟨latency, rfl⟩
  · exact hkeep
  · exact hkeep.trans (keepsSamples_updateBoth _ t _ fun _ => rfl)

theorem statUpdate_keepsSamples (hreset : s.resetStats = false) (now : UInt64) :
    KeepsSamples s (statUpdate cfg s now) := by
  refine ⟨statUpdate_histograms cfg s now, ?_, ?_⟩
  · rw [statUpdate]
    split
    · rfl
    · split <;> simp [hreset]
  · intro t
    rw [statUpdate]
    split
    · rfl
    · split <;> simp [hreset]

/-- Apart from the reception of frames and the reset nothing touches the histogram or the number of
round trips. -/
theorem statCall_keepsSamples (hreset : s.resetStats = false) (hcall : call ≠ .resetRequest)
    (hrx : ∀ frameType r now, call ≠ .frameReceived frameType r now)
    (h : statCall cfg s call = some s') : KeepsSamples s s' := by
  cases call with
  | frameSent t cycleNumber now => exact statFramesSentBatch_keepsSamples h
  | framesSentBatch t cycleNumber frameCount now => exact statFramesSentBatch_keepsSamples h
  | frameReceived t r now => exact absurd rfl (hrx t r now)
  | frameSentLatency t seq =>
    rw [statCall, Option.ite_none_right_eq_some] at h
    exact statFrameSentLatency_keepsSamples h.2
  | procFirstLatency t cycleNumber txHwTimestamp =>
    rw [statCall, Option.ite_none_right_eq_some] at h
    exact statProcFirstLatency_keepsSamples h.2
  | procBatchLatency t cycleNumber lastTxHwTimestamp =>
    rw [statCall, Option.ite_none_right_eq_some] at h
    exact statProcBatchLatency_keepsSamples h.2
  | frameWorkload t id startTime now =>
    cases h
    rw [statFrameWorkload]
    exact keepsSamples_updateBoth s t _ fun _ => rfl
  | incWorkloadOutlier t id =>
    cases h
    refine keepsSamples_updateBoth s t _ fun stat => ?_
    dsimp only
    split
    · rfl
    · rfl
  | update now =>
    cases h
    exact statUpdate_keepsSamples hreset now
  | resetRequest => exact absurd rfl hcall
  | txHwTimestamp t idx hwTs =>
    simp only [statCall, Option.bind_eq_bind, Option.bind_eq_some_iff, Option.pure_def,
      Option.some.injEq] at h
    obtain ⟨rtt, -, rfl⟩ := h
    exact keepsSamples_setRoundTrip s t rtt

theorem roundTripCount_received (href : cfg.logStatUserSelected = .reference) (times : RxTimes)
    (r : RxReport) (stat : Statistics) :
    (statFrameReceivedCommon cfg t times r stat).1.roundTripCount = stat.roundTripCount + 1 := by
  have hrx : ∀ stat : Statistics, (recordRx times stat).roundTripCount = stat.roundTripCount := by
    intro stat
    rw [recordRx]
    split
    · rfl
    · rfl
  rw [statFrameReceivedCommon]
  dsimp only
  rw [hrx, recordOneway, recordRoundTrip, if_pos href]

/-- The histogram of the class counts these samples, and there are as many as round trips. -/
structure CountsSamples (cfg : StatConfig) (t : StatFrameType) (xs : List Nat) (s : StatState) :
    Prop where
  histogram_eq : s.histograms t = .ofSamples (cfg.app.statsHistogramMinimumNs / 1000)
    (cfg.app.statsHistogramMaximumNs / 1000) xs
  count_eq : (s.globalStatistics t).roundTripCount = UInt64.ofNat xs.length
  reset_eq : s.resetStats = false

theorem CountsSamples.keep (h : CountsSamples cfg t xs s) (hk : KeepsSamples s s') :
    CountsSamples cfg t xs s' := by
  refine ⟨?_, ?_, hk.reset_eq.trans h.reset_eq⟩
  · rw [hk.histograms_eq]
    exact h.histogram_eq
  · rw [hk.count_eq]
    exact h.count_eq

theorem statFrameReceived_countsSamples (href : cfg.logStatUserSelected = .reference)
    (hen : cfg.app.statsHistogramEnabled = true)
    (hrange : cfg.app.statsHistogramMinimumNs ≤ cfg.app.statsHistogramMaximumNs)
    (hc : CountsSamples cfg t xs s) (h : statFrameReceived cfg s frameType r now = some s') :
    CountsSamples cfg t
      (xs ++ ((s.sample cfg t (.frameReceived frameType r now)).map UInt64.toNat).toList) s' := by
  simp only [statFrameReceived, storeRxHwTimestamp_reference href, s.setRoundTrip_self,
    Option.bind_eq_bind, Option.bind_some, Option.bind_eq_some_iff, Option.pure_def,
    Option.some.injEq] at h
  obtain ⟨rtTime, hrt, hist, hhist, rfl⟩ := h
  rw [StatState.sample]
  by_cases ht : frameType = t
  · subst ht
    rw [if_pos rfl, hrt]
    rw [recordHistogram, if_pos ⟨href, hen⟩, hc.histogram_eq,
      histogramUpdate_ofSamples (div_mono hrange)] at hhist
    cases hhist
    refine ⟨update_self _ _ _, ?_, hc.reset_eq⟩
    change (update s.globalStatistics frameType _ frameType).roundTripCount = _
    rw [update_self, roundTripCount_received href, hc.count_eq, List.length_append, ← ofNat_succ]
    rfl
  · rw [if_neg ht]
    refine ⟨?_, ?_, hc.reset_eq⟩
    · change update s.histograms frameType hist t = _
      rw [update_of_ne (Ne.symm ht), hc.histogram_eq]
      exact congrArg _ (List.append_nil xs).symm
    · change (update s.globalStatistics frameType _ t).roundTripCount = _
      rw [update_of_ne (Ne.symm ht), hc.count_eq]
      exact congrArg (fun ys => UInt64.ofNat (List.length ys)) (List.append_nil xs).symm

theorem statCall_countsSamples (href : cfg.logStatUserSelected = .reference)
    (hen : cfg.app.statsHistogramEnabled = true)
    (hrange : cfg.app.statsHistogramMinimumNs ≤ cfg.app.statsHistogramMaximumNs)
    (hc : CountsSamples cfg t xs s) (hcall : call ≠ .resetRequest)
    (h : statCall cfg s call = some s') :
    CountsSamples cfg t (xs ++ ((s.sample cfg t call).map UInt64.toNat).toList) s' := by
  by_cases hrx : ∃ frameType r now, call = .frameReceived frameType r now
  · obtain ⟨frameType, r, now, rfl⟩ := hrx
    exact statFrameReceived_countsSamples href hen hrange hc h
  · have hne : ∀ frameType r now, call ≠ .frameReceived frameType r now :=
      fun frameType r now heq => hrx ⟨frameType, r, now, heq⟩
    have hnone : s.sample cfg t call = none := by
      cases call with
      | frameReceived frameType r now => exact absurd rfl (hne frameType r now)
      | _ => rfl
    rw [hnone, Option.map_none, Option.toList_none, List.append_nil]
    exact hc.keep (statCall_keepsSamples hc.reset_eq hcall hne h)

/-- Along a run without reset the histogram counts the samples of the run. -/
theorem history_countsSamples (href : cfg.logStatUserSelected = .reference)
    (hen : cfg.app.statsHistogramEnabled = true)
    (hrange : cfg.app.statsHistogramMinimumNs ≤ cfg.app.statsHistogramMaximumNs)
    {calls : List StatCall} (hreset : .resetRequest ∉ calls)
    (hc : CountsSamples cfg t xs s) (h : calls.foldlM (statStep cfg) s = some s') :
    CountsSamples cfg t (xs ++ samplesOf cfg t s calls) s' := by
  induction calls generalizing s xs with
  | nil =>
    cases h
    rw [samplesOf, List.append_nil]
    exact hc
  | cons call calls ih =>
    rw [List.mem_cons, not_or] at hreset
    rw [List.foldlM_cons, Option.bind_eq_bind] at h
    obtain ⟨s₁, hs₁, h⟩ := Option.bind_eq_some_iff.mp h
    rw [samplesOf, hs₁, ← List.append_assoc]
    refine ih hreset.2 ?_ h
    rw [statStep] at hs₁
    by_cases hex : s.exited = true
    · rw [if_pos hex] at hs₁ ⊢
      cases hs₁
      rw [Option.map_none, Option.toList_none, List.append_nil]
      exact hc
    · rw [if_neg hex] at hs₁ ⊢
      exact statCall_countsSamples href hen hrange hc (Ne.symm hreset.1) hs₁

theorem statInit_countsSamples (hen : cfg.app.statsHistogramEnabled = true)
    (hrange : cfg.app.statsHistogramMinimumNs ≤ cfg.app.statsHistogramMaximumNs)
    (hi : statInit cfg = some s) (t : StatFrameType) : CountsSamples cfg t [] s := by
  rw [statInit] at hi
  split at hi
  · cases hi
  · cases hi
    refine ⟨?_, rfl, rfl⟩
    rw [histogramInit, if_pos hen, Histogram.ofSamples, bins_nil, List.map_replicate,
      UInt64.toNat_sub_of_le _ _ (div_mono hrange)]
    rfl

theorem sum_map_ofNat (ks : List Nat) : (ks.map UInt64.ofNat).sum = UInt64.ofNat ks.sum := by
  induction ks with
  | nil => rfl
  | cons k ks ih => rw [List.map_cons, List.sum_cons, List.sum_cons, ih, UInt64.ofNat_add]

theorem mapM_isSome {f : α → Option β} {l : List α} (h : ∀ a ∈ l, (f a).isSome = true) :
    (l.mapM f).isSome = true := by
  induction l with
  | nil => rfl
  | cons a l ih =>
    obtain ⟨ha, hl⟩ := List.forall_mem_cons.mp h
    obtain ⟨b, hb⟩ := Option.isSome_iff_exists.mp ha
    obtain ⟨bs, hbs⟩ := Option.isSome_iff_exists.mp (ih hl)
    rw [List.mapM_cons, hb, hbs]
    rfl

/-- The histograms of all classes have the same range, so the loop over one reads none of the others
beyond its end. -/
theorem histogramWrite_isSome (hen : cfg.app.statsHistogramEnabled = true)
    (h : ∀ t, ∃ xs, CountsSamples cfg t xs s) : (histogramWrite cfg s).isSome = true := by
  have hrow : ∀ i ∈ List.range ((s.histograms .tsnHigh).max.toNat -
      (s.histograms .tsnHigh).min.toNat),
      (histogramRow s ((s.histograms .tsnHigh).min + UInt64.ofNat i)).isSome = true := by
    intro i hi
    have hi := List.mem_range.mp hi
    obtain ⟨xs, hfirst⟩ := h .tsnHigh
    have hcounts : (statFrameTypes.mapM fun t =>
      (s.histograms t).data[((s.histograms .tsnHigh).min +
        UInt64.ofNat i - (s.histograms t).min).toNat]?).isSome = true := by
      apply mapM_isSome
      intro t _
      obtain ⟨ys, ht⟩ := h t
      rw [hfirst.histogram_eq] at hi ⊢
      rw [ht.histogram_eq]
      dsimp only [Histogram.ofSamples] at hi ⊢
      have hoff : (UInt64.ofNat i).toNat = i := by
        have hlt := (cfg.app.statsHistogramMaximumNs / 1000).toNat_lt
        exact UInt64.toNat_ofNat_of_lt' (show i < 2 ^ 64 by omega)
      rw [UInt64.add_comm, UInt64.add_sub_cancel, hoff, List.getElem?_map, getElem?_bins hi]
      rfl
    obtain ⟨counts, hcounts⟩ := Option.isSome_iff_exists.mp hcounts
    rw [histogramRow, hcounts]
    rfl
  obtain ⟨rows, hrows⟩ := Option.isSome_iff_exists.mp (mapM_isSome hrow)
  rw [histogramWrite, hen]
  simp only [Bool.not_true, Bool.false_eq_true, ↓reduceIte, hrows]
  rfl

/-- Every sample of a run is counted once, in its own bin or outside of the range, and no access
goes beyond the bins. -/
theorem histogram_exact (cfg : StatConfig) (href : cfg.logStatUserSelected = .reference)
    (hen : cfg.app.statsHistogramEnabled = true)
    (hrange : cfg.app.statsHistogramMinimumNs ≤ cfg.app.statsHistogramMaximumNs) (s : StatState)
    (hi : statInit cfg = some s) (calls : List StatCall) (hreset : .resetRequest ∉ calls)
    (s' : StatState) (h : calls.foldlM (statStep cfg) s = some s') (t : StatFrameType) :
    let lo := cfg.app.statsHistogramMinimumNs.toNat / 1000
    let hi := cfg.app.statsHistogramMaximumNs.toNat / 1000
    let samples := samplesOf cfg t s calls
    let hist := s'.histograms t
    hist.data.length = hi - lo ∧
      (∀ rtt, (histogramUpdate hist rtt).isSome = true) ∧
      (histogramWrite cfg s').isSome = true ∧
      (∀ i < hi - lo, ∃ k, hist.data[i]? = some k ∧ k.toNat = samples.count (lo + i) % 2 ^ 64) ∧
      hist.underflow.toNat = samples.countP (· < lo) % 2 ^ 64 ∧
      hist.overflow.toNat = samples.countP (hi ≤ ·) % 2 ^ 64 ∧
      hist.data.sum + hist.underflow + hist.overflow =
        (s'.globalStatistics t).roundTripCount := by
  intro lo hi' samples hist
  have hcounts : ∀ t, CountsSamples cfg t (samplesOf cfg t s calls) s' := fun t =>
    history_countsSamples href hen hrange hreset (statInit_countsSamples hen hrange hi t) h
  have hlo : (cfg.app.statsHistogramMinimumNs / 1000).toNat = lo := UInt64.toNat_div _ _
  have hhi : (cfg.app.statsHistogramMaximumNs / 1000).toNat = hi' := UInt64.toNat_div _ _
  have hle : lo ≤ hi' := Nat.div_le_div_right (UInt64.le_iff_toNat_le.mp hrange)
  have hhist : hist = .ofSamples (cfg.app.statsHistogramMinimumNs / 1000)
    (cfg.app.statsHistogramMaximumNs / 1000) samples := (hcounts t).histogram_eq
  have hdata : hist.data = (bins lo hi' samples).map UInt64.ofNat := by
    rw [hhist, Histogram.ofSamples, hlo, hhi]
  have hunder : hist.underflow = UInt64.ofNat (below lo samples) := by
    rw [hhist, Histogram.ofSamples, hlo]
  have hover : hist.overflow = UInt64.ofNat (above hi' samples) := by
    rw [hhist, Histogram.ofSamples, hhi]
  refine ⟨?_, ?_, histogramWrite_isSome hen fun t => ⟨_, hcounts t⟩, ?_, ?_, ?_, ?_⟩
  · rw [hdata, List.length_map, length_bins]
  · intro rtt
    rw [hhist, histogramUpdate_ofSamples (div_mono hrange)]
    rfl
  · intro i hlt
    refine ⟨UInt64.ofNat (samples.count (lo + i)), ?_, UInt64.toNat_ofNat'⟩
    rw [hdata, List.getElem?_map, getElem?_bins hlt, Option.map_some]
  · rw [hunder]
    exact UInt64.toNat_ofNat'
  · rw [hover]
    exact UInt64.toNat_ofNat'
  · rw [hdata, sum_map_ofNat, hunder, hover, ← UInt64.ofNat_add, ← UInt64.ofNat_add, total hle]
    exact (hcounts t).count_eq.symm

def histogramConfig : StatConfig :=
  ⟨fullBuild, { configSetDefaults false with
    statsHistogramEnabled := true
    statsHistogramMinimumNs := 300000
    statsHistogramMaximumNs := 302999 }, .reference⟩

/-- With bins for 300 and 301 microseconds the round trip of 500 is above the range. -/
theorem histogram_exact_two_bins :
    ∃ s s', statInit histogramConfig = some s ∧
      referenceCalls.foldlM (statStep histogramConfig) s = some s' ∧
      samplesOf histogramConfig .tsnHigh s referenceCalls = [500, 300] ∧
      (s'.histograms .tsnHigh).data = [1, 0] ∧ (s'.histograms .tsnHigh).overflow = 1 ∧
      (s'.histograms .tsnHigh).data.sum + (s'.histograms .tsnHigh).underflow +
        (s'.histograms .tsnHigh).overflow = (s'.globalStatistics .tsnHigh).roundTripCount := by
  have hrun : ((statInit histogramConfig).bind fun s =>
      (referenceCalls.foldlM (statStep histogramConfig) s).map fun s' =>
        (samplesOf histogramConfig .tsnHigh s referenceCalls, (s'.histograms .tsnHigh).data,
          (s'.histograms .tsnHigh).overflow)) = some ([500, 300], [1, 0], 1) := by
    decide +kernel
  obtain ⟨s, hi, hrun⟩ := Option.bind_eq_some_iff.mp hrun
  obtain ⟨s', h, hx⟩ := Option.map_eq_some_iff.mp hrun
  simp only [Prod.mk.injEq] at hx
  obtain ⟨-, -, -, -, -, -, hsum⟩ := histogram_exact histogramConfig rfl rfl (by decide) s hi
    referenceCalls (by simp [referenceCalls]) s' h .tsnHigh
  exact ⟨s, s', hi, h, hx.1, hx.2.1, hx.2.2, hsum⟩

end RtcTestbench
