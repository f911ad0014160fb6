import RtcTestbench.StatFold

namespace RtcTestbench
open Function Tally
set_option autoImplicit true

section Samples
variable (cfg : StatConfig) (frameType : StatFrameType)

def recordSamples (samples : List UInt64) (w : WorkloadStatistics) : WorkloadStatistics :=
  samples.foldl (fun w x => workloadRecord cfg frameType x w) w

/-- The samples a copy takes in, counted from a given number of earlier ones on. -/
def takenSamples (count : UInt64) : List UInt64 → List UInt64
  | [] => []
  | x :: xs =>
    if count > (cfg.app.classes frameType).rxWorkloadSkipCount then
      x :: takenSamples (count + 1) xs
    else takenSamples (count + 1) xs

def WorkloadStatistics.addOutliers (w : WorkloadStatistics) (k : Nat) : WorkloadStatistics :=
  { w with rxWorkloadOutliers := w.rxWorkloadOutliers + UInt64.ofNat k }

theorem recordSamples_addOutliers (samples : List UInt64) (w : WorkloadStatistics) (k : Nat) :
    recordSamples cfg frameType samples (w.addOutliers k) =
      (recordSamples cfg frameType samples w).addOutliers k := by
  induction samples generalizing w with
  | nil => rfl
  | cons x xs ih => exact ih (workloadRecord cfg frameType x w)

/-- What a copy holds after some samples. -/
theorem recordSamples_eq (samples : List UInt64) (w : WorkloadStatistics) :
    recordSamples cfg frameType samples w =
      ⟨(takenSamples cfg frameType w.rxWorkloadCount samples).foldl (pick (· < ·)) w.rxWorkloadMin,
        (takenSamples cfg frameType w.rxWorkloadCount samples).foldl (pick (· > ·)) w.rxWorkloadMax,
        w.rxWorkloadCount + UInt64.ofNat samples.length, w.rxWorkloadOutliers⟩ := by
  induction samples generalizing w with
  | nil =>
    change w = ⟨w.rxWorkloadMin, w.rxWorkloadMax, w.rxWorkloadCount + 0, w.rxWorkloadOutliers⟩
    rw [UInt64.add_zero]
  | cons x xs ih =>
    change recordSamples cfg frameType xs (workloadRecord cfg frameType x w) = _
    have hcount : w.rxWorkloadCount + UInt64.ofNat (xs.length + 1) =
        w.rxWorkloadCount + 1 + UInt64.ofNat xs.length := by
      rw [UInt64.ofNat_add, UInt64.add_assoc, UInt64.add_comm (UInt64.ofNat _)]
      rfl
    rw [ih, takenSamples, List.length_cons, hcount]
    simp only [workloadRecord, statUpdateMinMax]
    split <;> rfl

end Samples

/-- The workload times and the clock readings of received frames, period by period, and the
outliers that were counted. -/
structure WorkloadHistory where
  snapshots : List (StatFrameType → Statistics)
  received : StatFrameType → Books UInt64
  samples : StatFrameType → Fin workloadMax → Books UInt64
  outliers : StatFrameType → Fin workloadMax → Nat

def WorkloadHistory.empty : WorkloadHistory :=
  ⟨[], fun _ => .empty, fun _ _ => .empty, fun _ _ => 0⟩

def StatCall.received (t : StatFrameType) : StatCall → List UInt64
  | .frameReceived frameType _ now => if frameType = t then [now] else []
  | _ => []

def StatCall.workloadTimes (t : StatFrameType) (id : Fin workloadMax) : StatCall → List UInt64
  | .frameWorkload frameType id' startTime now =>
    if frameType = t ∧ id' = id then [(now - startTime) / 1000] else []
  | _ => []

def StatCall.workloadOutliers (cfg : StatConfig) (s : StatState) (t : StatFrameType)
    (id : Fin workloadMax) : StatCall → Nat
  | .incWorkloadOutlier frameType id' =>
    if (frameType = t ∧ id' = id) ∧ ((s.globalStatistics t).workload id).rxWorkloadCount >
        (cfg.app.classes t).rxWorkloadSkipCount then 1 else 0
  | _ => 0

def WorkloadHistory.step (cfg : StatConfig) (s : StatState) (call : StatCall)
    (h : WorkloadHistory) : WorkloadHistory :=
  if s.exited then h
  else match call with
    | .update now =>
      if collectionDue cfg s now then
        ⟨h.snapshots ++ [s.statisticsPerPeriod], fun t => (h.received t).close,
          fun t id => (h.samples t id).close, h.outliers⟩
      else h
    | call =>
      ⟨h.snapshots, fun t => (h.received t).record (call.received t),
        fun t id => (h.samples t id).record (call.workloadTimes t id),
        fun t id => h.outliers t id + call.workloadOutliers cfg s t id⟩

def workloadRun (cfg : StatConfig) :
    List StatCall → StatState × WorkloadHistory → Option (StatState × WorkloadHistory)
  | [], x => some x
  | call :: calls, x =>
    (statStep cfg x.1 call).bind fun s' => workloadRun cfg calls (s', x.2.step cfg x.1 call)

/-- What a call does to the workload statistics and the time stamps of a class. -/
structure WorkloadEffect (cfg : StatConfig) (s s' : StatState) (call : StatCall)
    (t : StatFrameType) (id : Fin workloadMax) : Prop where
  global : (s'.globalStatistics t).workload id =
    (recordSamples cfg t (call.workloadTimes t id) ((s.globalStatistics t).workload id)).addOutliers
      (call.workloadOutliers cfg s t id)
  period : (s'.statisticsPerPeriod t).workload id =
    recordSamples cfg t (call.workloadTimes t id) ((s.statisticsPerPeriod t).workload id)
  globalTime : (s'.globalStatistics t).timeStamp = (s.globalStatistics t).timeStamp
  periodTime : (s'.statisticsPerPeriod t).timeStamp =
    (call.received t).getLastD (s.statisticsPerPeriod t).timeStamp
  resetStats : s'.resetStats = s.resetStats

/-- Changes that concern neither the workload nor the time stamp. -/
structure Aside (a b : Statistics) : Prop where
  workload : b.workload = a.workload
  timeStamp : b.timeStamp = a.timeStamp

structure Beside (s s' : StatState) (t : StatFrameType) : Prop where
  global : Aside (s.globalStatistics t) (s'.globalStatistics t)
  period : Aside (s.statisticsPerPeriod t) (s'.statisticsPerPeriod t)
  resetStats : s'.resetStats = s.resetStats

theorem Beside.refl (s : StatState) (t : StatFrameType) : Beside s s t :=
  ⟨⟨rfl, rfl⟩, ⟨rfl, rfl⟩, rfl⟩

theorem Beside.trans (h : Beside s s' t) (h' : Beside s' s'' t) : Beside s s'' t where
  global := ⟨h'.global.workload.trans h.global.workload,
    h'.global.timeStamp.trans h.global.timeStamp⟩
  period := ⟨h'.period.workload.trans h.period.workload,
    h'.period.timeStamp.trans h.period.timeStamp⟩
  resetStats := h'.resetStats.trans h.resetStats

theorem beside_setRoundTrip (s : StatState) (frameType t : StatFrameType) (rtt : RoundTripContext) :
    Beside s (s.setRoundTrip frameType rtt) t :=
  ⟨⟨rfl, rfl⟩, ⟨rfl, rfl⟩, rfl⟩

theorem WorkloadStatistics.addOutliers_zero (w : WorkloadStatistics) : w.addOutliers 0 = w := by
  change { w with rxWorkloadOutliers := w.rxWorkloadOutliers + 0 } = w
  rw [UInt64.add_zero]

variable {cfg : StatConfig} {s s' : StatState} {frameType t : StatFrameType} {call : StatCall}
  {id : Fin workloadMax}

theorem Beside.workloadEffect (h : Beside s s' t) (hr : call.received t = [])
    (hw : call.workloadTimes t id = []) (ho : call.workloadOutliers cfg s t id = 0) :
    WorkloadEffect cfg s s' call t id := by
  refine ⟨?_, ?_, h.global.timeStamp, ?_, h.resetStats⟩
  · rw [hw, ho, h.global.workload]
    exact (WorkloadStatistics.addOutliers_zero _).symm
  · rw [hw, h.period.workload]
    rfl
  · rw [hr, h.period.timeStamp]
    rfl

theorem aside_update (table : StatFrameType → Statistics) (h : Aside (table frameType) stat)
    (t : StatFrameType) : Aside (table t) (update table frameType stat t) := by
  by_cases ht : t = frameType
  · subst ht
    rw [update_self]
    exact h
  · rw [update_of_ne ht]
    exact ⟨rfl, rfl⟩

theorem aside_other (table : StatFrameType → Statistics) (ht : frameType ≠ t) (stat : Statistics) :
    Aside (table t) (update table frameType stat t) := by
  rw [update_of_ne (Ne.symm ht)]
  exact ⟨rfl, rfl⟩

theorem aside_statFrameReceivedCommon (cfg : StatConfig) (frameType : StatFrameType)
    (times : RxTimes) (r : RxReport) (stat : Statistics) :
    Aside stat (statFrameReceivedCommon cfg frameType times r stat).1 := by
  have hrt (stat : Statistics) : Aside stat (recordRoundTrip cfg frameType times.rtTime
      stat).1 := by
    rw [recordRoundTrip]
    split <;> exact ⟨rfl, rfl⟩
  have hrx (stat : Statistics) : Aside stat (recordRx times stat) := by
    rw [recordRx]
    split <;> exact ⟨rfl, rfl⟩
  have how (stat : Statistics) : Aside stat (recordOneway cfg frameType times.onewayTime stat).1 :=
    ⟨rfl, rfl⟩
  exact ⟨(hrx _).workload.trans ((how _).workload.trans (hrt stat).workload),
    (hrx _).timeStamp.trans ((how _).timeStamp.trans (hrt stat).timeStamp)⟩

theorem aside_perPeriod {f : Statistics → Statistics} (h : ∀ stat, Aside stat (f stat))
    (stat : Statistics) : Aside stat (perPeriod cfg f stat) := by
  rw [perPeriod]
  split
  · exact h stat
  · exact ⟨rfl, rfl⟩

theorem statFramesSentBatch_beside (hm : cfg.build.withMqtt = true)
    (h : statFramesSentBatch cfg s frameType cycleNumber frameCount now = some s')
    (t : StatFrameType) : Beside s s' t := by
  simp only [statFramesSentBatch, Option.bind_eq_bind, Option.bind_eq_some_iff, Option.pure_def,
    Option.some.injEq] at h
  obtain ⟨rtt, -, rfl⟩ := h
  refine ⟨?_, ?_, rfl⟩
  · apply aside_update
    exact ⟨rfl, rfl⟩
  · apply aside_update
    rw [statFrameSentPerPeriod, perPeriod_mqtt hm, repeat_framesSent]
    exact ⟨rfl, rfl⟩

theorem beside_updateBoth {g p : Statistics → Statistics} (hg : ∀ stat, Aside stat (g stat))
    (hp : ∀ stat, Aside stat (p stat)) (s : StatState) (frameType t : StatFrameType) :
    Beside s (s.updateBoth frameType g p) t :=
  ⟨aside_update _ (hg _) t, aside_update _ (hp _) t, rfl⟩

/-- The same update of both copies, as far as the build has the second one. -/
theorem beside_common {f : Statistics → Statistics} (s : StatState) (frameType t : StatFrameType)
    (hf : ∀ stat, Aside stat (f stat)) : Beside s (s.updateBoth frameType f (perPeriod cfg f)) t :=
  beside_updateBoth hf (aside_perPeriod hf) s frameType t

theorem statFrameSentLatency_beside (h : statFrameSentLatency cfg s frameType seq = some s')
    (t : StatFrameType) : Beside s s' t := by
  rcases statFrameSentLatency_cases h with rfl | ⟨latency, idx, rtt, -, rfl⟩ | rfl
  · exact .refl s' t
  · apply Beside.trans _ (beside_setRoundTrip _ frameType t rtt)
    exact beside_common s frameType t fun _ => ⟨rfl, rfl⟩
  · apply beside_updateBoth
    all_goals exact fun _ => ⟨rfl, rfl⟩

theorem statProcFirstLatency_beside
    (h : statProcFirstLatency cfg s frameType cycleNumber txHwTimestamp = some s')
    (t : StatFrameType) : Beside s s' t := by
  rcases statProcFirstLatency_cases h with rfl | ⟨latency, rfl⟩
  · exact .refl s' t
  · exact beside_common s frameType t fun _ => ⟨rfl, rfl⟩

theorem statProcBatchLatency_beside
    (h : statProcBatchLatency cfg s frameType cycleNumber lastTxHwTimestamp = some s')
    (t : StatFrameType) : Beside s s' t := by
  obtain ⟨idx, rtt, -, h⟩ := statProcBatchLatency_cases h
  rcases h with rfl | ⟨latency, rfl⟩
  · exact beside_setRoundTrip s frameType t rtt
  · apply (beside_setRoundTrip s frameType t rtt).trans
    exact beside_common _ frameType t fun _ => ⟨rfl, rfl⟩

/-- Only the per-period copy gets the time stamp. -/
theorem statFrameReceived_workload (hm : cfg.build.withMqtt = true)
    (h : statFrameReceived cfg s frameType r now = some s') :
    WorkloadEffect cfg s s' (.frameReceived frameType r now) t id := by
  simp only [statFrameReceived, Option.bind_eq_bind, Option.bind_eq_some_iff, Option.pure_def,
    Option.some.injEq] at h
  obtain ⟨rtt, -, rtTime, -, hist, -, rfl⟩ := h
  by_cases ht : frameType = t
  · subst ht
    have hg := aside_update s.globalStatistics
      (aside_statFrameReceivedCommon cfg frameType (rxTimesOf rtTime r now) r
        (s.globalStatistics frameType)) frameType
    have hp : Aside { s.statisticsPerPeriod frameType with timeStamp := now }
        (statFrameReceivedPerPeriod cfg frameType now (rxTimesOf rtTime r now) r
          (s.statisticsPerPeriod frameType)) := by
      rw [statFrameReceivedPerPeriod, perPeriod_mqtt hm]
      exact aside_statFrameReceivedCommon ..
    have hself : update s.statisticsPerPeriod frameType
      (statFrameReceivedPerPeriod cfg frameType now
        (rxTimesOf rtTime r now) r (s.statisticsPerPeriod frameType)) frameType =
        statFrameReceivedPerPeriod cfg frameType now (rxTimesOf rtTime r now) r
          (s.statisticsPerPeriod frameType) := update_self ..
    have hlast : (StatCall.frameReceived frameType r now).received frameType = [now] := if_pos rfl
    refine ⟨(congrFun hg.workload id).trans (WorkloadStatistics.addOutliers_zero _).symm, ?_,
      hg.timeStamp, ?_, rfl⟩
    · exact (congrArg (·.workload id) hself).trans (congrFun hp.workload id)
    · rw [hlast]
      exact (congrArg (·.timeStamp) hself).trans hp.timeStamp
  · exact Beside.workloadEffect ⟨aside_other _ ht _, aside_other _ ht _, rfl⟩ (if_neg ht) rfl rfl

theorem statFrameWorkload_workload (hm : cfg.build.withMqtt = true) :
    WorkloadEffect cfg s (statFrameWorkload cfg s frameType id' startTime now)
      (.frameWorkload frameType id' startTime now) t id := by
  by_cases ht : frameType = t
  · subst ht
    simp only [statFrameWorkload, StatState.updateBoth, perPeriod_mqtt hm]
    refine ⟨?_, ?_, ?_, ?_, rfl⟩
    · simp only [update_self, StatCall.workloadTimes, StatCall.workloadOutliers, true_and,
        WorkloadStatistics.addOutliers_zero]
      by_cases hid : id' = id
      · subst hid
        rw [update_self, if_pos rfl]
        rfl
      · rw [update_of_ne (Ne.symm hid), if_neg hid]
        rfl
    · simp only [update_self, StatCall.workloadTimes, true_and]
      by_cases hid : id' = id
      · subst hid
        rw [update_self, if_pos rfl]
        rfl
      · rw [update_of_ne (Ne.symm hid), if_neg hid]
        rfl
    · simp only [update_self]
    · simp only [update_self]
      rfl
  · have hother : Beside s (statFrameWorkload cfg s frameType id' startTime now) t :=
      ⟨aside_other _ ht _, aside_other _ ht _, rfl⟩
    exact hother.workloadEffect rfl (if_neg fun h => ht h.1) rfl

/-- Only the global copy counts the outlier. -/
theorem statIncWorkloadOutlier_workload :
    WorkloadEffect cfg s (statIncWorkloadOutlier cfg s frameType id')
      (.incWorkloadOutlier frameType id') t id := by
  by_cases ht : frameType = t
  · subst ht
    simp only [statIncWorkloadOutlier, StatState.updateBoth]
    refine ⟨?_, ?_, ?_, ?_, rfl⟩
    · simp only [update_self, StatCall.workloadTimes, StatCall.workloadOutliers, true_and]
      by_cases hid : id' = id
      · subst hid
        split
        · rename_i hcount
          rw [if_pos ⟨rfl, hcount⟩]
          simp only [update_self]
          rfl
        · rename_i hcount
          rw [if_neg fun h => hcount h.2]
          exact (WorkloadStatistics.addOutliers_zero _).symm
      · have hnone : ¬ (id' = id ∧ ((s.globalStatistics frameType).workload id).rxWorkloadCount >
            (cfg.app.classes frameType).rxWorkloadSkipCount) := fun h => hid h.1
        rw [if_neg hnone, WorkloadStatistics.addOutliers_zero]
        split
        · dsimp only
          rw [update_of_ne (Ne.symm hid)]
          rfl
        · rfl
    · simp only [update_self]
      rfl
    · simp only [update_self]
      split <;> rfl
    · simp only [update_self]
      rfl
  · have hother : Beside s (statIncWorkloadOutlier cfg s frameType id') t :=
      ⟨aside_other _ ht _, aside_other _ ht _, rfl⟩
    exact hother.workloadEffect rfl rfl (if_neg fun h => ht h.1.1)

theorem statCall_workload (hm : cfg.build.withMqtt = true) (h : statCall cfg s call = some s')
    (hu : ∀ now, call ≠ .update now) (hreset : call ≠ .resetRequest) :
    WorkloadEffect cfg s s' call t id := by
  cases call with
  | frameSent frameType cycleNumber now =>
    exact (statFramesSentBatch_beside hm h t).workloadEffect rfl rfl rfl
  | framesSentBatch frameType cycleNumber frameCount now =>
    exact (statFramesSentBatch_beside hm h t).workloadEffect rfl rfl rfl
  | frameReceived frameType r now => exact statFrameReceived_workload hm h
  | frameSentLatency frameType seq =>
    rw [statCall] at h
    split at h
    · exact (statFrameSentLatency_beside h t).workloadEffect rfl rfl rfl
    · cases h
  | procFirstLatency frameType cycleNumber txHwTimestamp =>
    rw [statCall] at h
    split at h
    · exact (statProcFirstLatency_beside h t).workloadEffect rfl rfl rfl
    · cases h
  | procBatchLatency frameType cycleNumber lastTxHwTimestamp =>
    rw [statCall] at h
    split at h
    · exact (statProcBatchLatency_beside h t).workloadEffect rfl rfl rfl
    · cases h
  | frameWorkload frameType id' startTime now =>
    cases h
    exact statFrameWorkload_workload hm
  | incWorkloadOutlier frameType id' =>
    cases h
    exact statIncWorkloadOutlier_workload
  | update now => exact absurd rfl (hu now)
  | resetRequest => exact absurd rfl hreset
  | txHwTimestamp frameType idx hwTs =>
    obtain ⟨rtt, -, h⟩ := Option.bind_eq_some_iff.mp h
    cases h
    exact (beside_setRoundTrip s frameType t rtt).workloadEffect rfl rfl rfl

def workloadReset : WorkloadStatistics := ⟨uint64Max, 0, 0, 0⟩

/-- What both copies and the snapshots hold for a class and a workload, in terms of the history. -/
structure WorkloadKept (cfg : StatConfig) (s : StatState) (hist : WorkloadHistory)
    (t : StatFrameType) (id : Fin workloadMax) : Prop where
  global : (s.globalStatistics t).workload id =
    (recordSamples cfg t (hist.samples t id).total workloadReset).addOutliers (hist.outliers t id)
  period : (s.statisticsPerPeriod t).workload id =
    recordSamples cfg t (hist.samples t id).current workloadReset
  closed : List.Forall₂ (fun p xs => (p t).workload id = recordSamples cfg t xs workloadReset)
    hist.snapshots (hist.samples t id).closed
  globalTime : (s.globalStatistics t).timeStamp = 0
  periodTime : (s.statisticsPerPeriod t).timeStamp = (hist.received t).current.getLastD 0
  closedTime : List.Forall₂ (fun p xs => (p t).timeStamp = xs.getLastD 0) hist.snapshots
    (hist.received t).closed
  bounded : ∀ x ∈ (hist.samples t id).total, x < uint64Max
  resetStats : s.resetStats = false

/-- A time in microseconds is less than all that a counter of nanoseconds can hold. -/
theorem workloadTimes_lt (hx : x ∈ call.workloadTimes t id) : x < uint64Max := by
  cases call with
  | frameWorkload frameType id' startTime now =>
    rw [StatCall.workloadTimes] at hx
    split at hx
    · rw [List.mem_singleton] at hx
      subst hx
      have hlt := (now - startTime).toNat_lt
      have hmax : uint64Max.toNat = 2 ^ 64 - 1 := rfl
      rw [UInt64.lt_iff_toNat_lt, UInt64.toNat_div, hmax]
      change _ / 1000 < _
      omega
    · cases hx
  | _ => cases hx

theorem addOutliers_addOutliers (w : WorkloadStatistics) (k l : Nat) :
    (w.addOutliers k).addOutliers l = w.addOutliers (k + l) := by
  simp only [WorkloadStatistics.addOutliers, UInt64.ofNat_add, UInt64.add_assoc]

theorem getLastD_append (xs ys : List α) (a : α) :
    (xs ++ ys).getLastD a = ys.getLastD (xs.getLastD a) := by
  simp only [List.getLastD_eq_getLast?, List.getLast?_append]
  cases ys.getLast? <;> rfl

theorem WorkloadEffect.kept (h : WorkloadKept cfg s hist t id)
    (he : WorkloadEffect cfg s s' call t id) :
    WorkloadKept cfg s' ⟨hist.snapshots, fun t => (hist.received t).record (call.received t),
      fun t id => (hist.samples t id).record (call.workloadTimes t id),
      fun t id => hist.outliers t id + call.workloadOutliers cfg s t id⟩ t id where
  global := by
    rw [he.global, h.global, recordSamples_addOutliers, addOutliers_addOutliers,
      Books.total_record]
    simp only [recordSamples, List.foldl_append]
  period := by
    rw [he.period, h.period]
    simp only [recordSamples, Books.record, List.foldl_append]
  closed := h.closed
  globalTime := he.globalTime.trans h.globalTime
  periodTime := by
    rw [he.periodTime, h.periodTime]
    exact (getLastD_append _ _ _).symm
  closedTime := h.closedTime
  bounded := by
    intro x hx
    rw [Books.total_record] at hx
    rcases List.mem_append.mp hx with hx | hx
    · exact h.bounded x hx
    · exact workloadTimes_lt hx
  resetStats := he.resetStats.trans h.resetStats

theorem statUpdate_workloadKept (hm : cfg.build.withMqtt = true) (now : UInt64)
    (hs : s.exited = false) (h : WorkloadKept cfg s hist t id) :
    WorkloadKept cfg (statUpdate cfg s now) (hist.step cfg s (.update now)) t id := by
  rw [WorkloadHistory.step, hs, if_neg Bool.false_ne_true]
  by_cases hdue : collectionDue cfg s now = true
  · have hu : (statUpdate cfg s now).globalStatistics = s.globalStatistics ∧
        (statUpdate cfg s now).statisticsPerPeriod t = statReset ∧
        (statUpdate cfg s now).resetStats = false := by
      simp [statUpdate, hdue, hm, h.resetStats]
    simp only [hdue, if_true]
    refine ⟨?_, ?_, ?_, ?_, ?_, ?_, ?_, hu.2.2⟩
    · rw [hu.1, Books.total_close]
      exact h.global
    · rw [hu.2.1]
      rfl
    · exact List.rel_append h.closed (.cons h.period .nil)
    · rw [hu.1]
      exact h.globalTime
    · rw [hu.2.1]
      rfl
    · exact List.rel_append h.closedTime (.cons h.periodTime .nil)
    · rw [Books.total_close]
      exact h.bounded
  · have hu : statUpdate cfg s now = { s with lastTs := startTs s now } := by
      simp [statUpdate, hdue]
    simp only [hdue, hu]
    exact ⟨h.global, h.period, h.closed, h.globalTime, h.periodTime, h.closedTime,
      h.bounded, h.resetStats⟩

theorem WorkloadHistory.step_exited (hs : s.exited = true) :
    WorkloadHistory.step cfg s call hist = hist := by
  simp only [step, hs, ↓reduceIte]

theorem WorkloadHistory.step_call (hs : ¬ s.exited = true) (hu : ∀ now, call ≠ .update now) :
    WorkloadHistory.step cfg s call hist =
      ⟨hist.snapshots, fun t => (hist.received t).record (call.received t),
        fun t id => (hist.samples t id).record (call.workloadTimes t id),
        fun t id => hist.outliers t id + call.workloadOutliers cfg s t id⟩ := by
  cases call with
  | update now => exact absurd rfl (hu now)
  | _ => simp only [step, hs, ↓reduceIte, Bool.false_eq_true]

theorem statStep_workloadKept (hm : cfg.build.withMqtt = true) (hs : statStep cfg s call = some s')
    (hreset : call ≠ .resetRequest) (h : WorkloadKept cfg s hist t id) :
    WorkloadKept cfg s' (hist.step cfg s call) t id := by
  rw [statStep] at hs
  by_cases hex : s.exited = true
  · rw [if_pos hex] at hs
    cases hs
    rw [WorkloadHistory.step_exited hex]
    exact h
  · rw [if_neg hex] at hs
    by_cases hu : ∃ now, call = .update now
    · obtain ⟨now, rfl⟩ := hu
      cases hs
      exact statUpdate_workloadKept hm now (Bool.eq_false_iff.mpr hex) h
    · have hu' : ∀ now, call ≠ .update now := fun now hn => hu ⟨now, hn⟩
      rw [WorkloadHistory.step_call hex hu']
      exact (statCall_workload hm hs hu' hreset).kept h

theorem workloadRun_kept (hm : cfg.build.withMqtt = true)
    (hr : workloadRun cfg calls (s, hist) = some (s', hist'))
    (hreset : ∀ call ∈ calls, call ≠ .resetRequest) (h : WorkloadKept cfg s hist t id) :
    WorkloadKept cfg s' hist' t id := by
  induction calls generalizing s hist with
  | nil =>
    cases hr
    exact h
  | cons call calls ih =>
    obtain ⟨next, hs, hr⟩ := Option.bind_eq_some_iff.mp hr
    obtain ⟨hcall, hreset⟩ := List.forall_mem_cons.mp hreset
    exact ih hr hreset (statStep_workloadKept hm hs hcall h)

theorem statInit_workloadKept (h : statInit cfg = some s) (t : StatFrameType)
    (id : Fin workloadMax) : WorkloadKept cfg s .empty t id := by
  rw [statInit] at h
  split at h
  · cases h
  · cases h
    exact ⟨rfl, rfl, .nil, rfl, rfl, .nil, List.forall_mem_nil _, rfl⟩

/-- All statistics of a class that the global copy should be the sum of. -/
def periodPieces (s : StatState) (hist : WorkloadHistory) (t : StatFrameType) : List Statistics :=
  hist.snapshots.map (fun p => p t) ++ [s.statisticsPerPeriod t]

/-- The workload statistics and the time stamps of both copies tell the same. -/
structure WorkloadInStep (s : StatState) (hist : WorkloadHistory) (t : StatFrameType)
    (id : Fin workloadMax) : Prop where
  count : ((s.globalStatistics t).workload id).rxWorkloadCount =
    ((periodPieces s hist t).map fun p => (p.workload id).rxWorkloadCount).sum
  outliers : ((s.globalStatistics t).workload id).rxWorkloadOutliers =
    ((periodPieces s hist t).map fun p => (p.workload id).rxWorkloadOutliers).sum
  least : Extreme (· < ·) uint64Max ((s.globalStatistics t).workload id).rxWorkloadMin
    ((periodPieces s hist t).map fun p => (p.workload id).rxWorkloadMin)
  greatest : Extreme (· > ·) 0 ((s.globalStatistics t).workload id).rxWorkloadMax
    ((periodPieces s hist t).map fun p => (p.workload id).rxWorkloadMax)
  globalTime : ∀ now ∈ (hist.received t).total.getLast?, (s.globalStatistics t).timeStamp = now
  periodTime : List.Forall₂ (fun p xs => ∀ now ∈ List.getLast? xs, p.timeStamp = now)
    (periodPieces s hist t) ((hist.received t).closed ++ [(hist.received t).current])

/-- The samples the period copies take in: each skips the first ones of its period. -/
def takenByPeriods (cfg : StatConfig) (hist : WorkloadHistory) (t : StatFrameType)
    (id : Fin workloadMax) : List UInt64 :=
  ((hist.samples t id).closed ++ [(hist.samples t id).current]).flatMap (takenSamples cfg t 0)

theorem takenSamples_subset (count : UInt64) (xs : List UInt64) :
    takenSamples cfg t count xs ⊆ xs := by
  induction xs generalizing count with
  | nil => exact List.Subset.refl _
  | cons x xs ih =>
    rw [takenSamples]
    split
    · exact List.cons_subset_cons x (ih _)
    · exact List.subset_cons_of_subset x (ih _)

theorem ofNat_length_flatten (xss : List (List α)) :
    UInt64.ofNat xss.flatten.length = (xss.map fun xs => UInt64.ofNat xs.length).sum := by
  induction xss with
  | nil => rfl
  | cons xs xss ih =>
    rw [List.flatten_cons, List.length_append, UInt64.ofNat_add, ih, List.map_cons, List.sum_cons]

theorem sum_map_zero (xs : List α) : (xs.map fun _ => (0 : UInt64)).sum = 0 := by
  induction xs with
  | nil => rfl
  | cons x xs ih => rw [List.map_cons, List.sum_cons, ih, UInt64.zero_add]

section Kept
variable (h : WorkloadKept cfg s hist t id)
include h

theorem WorkloadKept.pieces : List.Forall₂
    (fun p xs => p.workload id = recordSamples cfg t xs workloadReset) (periodPieces s hist t)
    ((hist.samples t id).closed ++ [(hist.samples t id).current]) :=
  List.rel_append (List.forall₂_map_left_iff.mpr h.closed) (.cons h.period .nil)

theorem WorkloadKept.map_pieces (read : WorkloadStatistics → UInt64) :
    (periodPieces s hist t).map (fun p => read (p.workload id)) =
      ((hist.samples t id).closed ++ [(hist.samples t id).current]).map fun xs =>
        read (recordSamples cfg t xs workloadReset) :=
  map_eq_of_forall₂ h.pieces fun _ _ hp => congrArg read hp

theorem WorkloadKept.count : ((s.globalStatistics t).workload id).rxWorkloadCount =
    ((periodPieces s hist t).map fun p => (p.workload id).rxWorkloadCount).sum := by
  rw [h.map_pieces (·.rxWorkloadCount), h.global]
  simp only [WorkloadStatistics.addOutliers, recordSamples_eq, workloadReset, UInt64.zero_add,
    Books.total_eq_flatten, ofNat_length_flatten]

theorem WorkloadKept.outliers_iff : ((s.globalStatistics t).workload id).rxWorkloadOutliers =
    ((periodPieces s hist t).map fun p => (p.workload id).rxWorkloadOutliers).sum ↔
      UInt64.ofNat (hist.outliers t id) = 0 := by
  rw [h.map_pieces (·.rxWorkloadOutliers), h.global]
  simp only [WorkloadStatistics.addOutliers, recordSamples_eq, workloadReset, UInt64.zero_add,
    sum_map_zero]

theorem WorkloadKept.least_iff : Extreme (· < ·) uint64Max
    ((s.globalStatistics t).workload id).rxWorkloadMin
      ((periodPieces s hist t).map fun p => (p.workload id).rxWorkloadMin) ↔
    (takenSamples cfg t 0 (hist.samples t id).total).foldl (pick (· < ·)) uint64Max =
      (takenByPeriods cfg hist t id).foldl (pick (· < ·)) uint64Max := by
  have := pick_lawfulIdentity (· < ·) not_uint64Max_lt
  rw [h.map_pieces (·.rxWorkloadMin), h.global, extreme_iff _ not_uint64Max_lt, takenByPeriods,
    List.flatMap_def, foldl_flatten, List.map_map]
  simp only [WorkloadStatistics.addOutliers, recordSamples_eq, workloadReset, comp_def]

theorem WorkloadKept.greatest_iff : Extreme (· > ·) 0
    ((s.globalStatistics t).workload id).rxWorkloadMax
      ((periodPieces s hist t).map fun p => (p.workload id).rxWorkloadMax) ↔
    (takenSamples cfg t 0 (hist.samples t id).total).foldl (pick (· > ·)) 0 =
      (takenByPeriods cfg hist t id).foldl (pick (· > ·)) 0 := by
  have := pick_lawfulIdentity (· > ·) not_lt_zero
  rw [h.map_pieces (·.rxWorkloadMax), h.global, extreme_iff _ not_lt_zero, takenByPeriods,
    List.flatMap_def, foldl_flatten, List.map_map]
  simp only [WorkloadStatistics.addOutliers, recordSamples_eq, workloadReset, comp_def]

theorem WorkloadKept.periodTimes :
    List.Forall₂ (fun p xs => ∀ now ∈ List.getLast? xs, p.timeStamp = now) (periodPieces s hist t)
      ((hist.received t).closed ++ [(hist.received t).current]) := by
  have htimes : List.Forall₂ (fun (p : Statistics) xs => p.timeStamp = xs.getLastD 0)
      (periodPieces s hist t) ((hist.received t).closed ++ [(hist.received t).current]) :=
    List.rel_append (List.forall₂_map_left_iff.mpr h.closedTime) (.cons h.periodTime .nil)
  apply htimes.imp
  intro p xs hp now hnow
  rw [hp, List.getLastD_eq_getLast?, hnow]
  rfl

theorem WorkloadKept.bounded_global :
    ∀ x ∈ takenSamples cfg t 0 (hist.samples t id).total, x < uint64Max :=
  fun x hx => h.bounded x (takenSamples_subset _ _ hx)

theorem WorkloadKept.bounded_periods : ∀ x ∈ takenByPeriods cfg hist t id, x < uint64Max := by
  intro x hx
  obtain ⟨xs, hxs, hx⟩ := List.mem_flatMap.mp hx
  apply h.bounded
  rw [Books.total_eq_flatten]
  exact List.mem_flatten.mpr ⟨xs, hxs, takenSamples_subset _ _ hx⟩

end Kept

theorem eq_nil_of_least {xs : List UInt64} (hxs : ∀ x ∈ xs, x < uint64Max)
    (h : xs.foldl (pick (· < ·)) uint64Max = uint64Max) : xs = [] := by
  rcases foldl_pick_extreme (· < ·) not_uint64Max_lt xs with ⟨hnil, -⟩ | ⟨hmem, -⟩
  · exact hnil
  · have hlt := hxs _ hmem
    rw [h] at hlt
    exact absurd hlt (UInt64.lt_irrefl _)

/-- Least and greatest values agree exactly if neither list goes beyond the other. -/
theorem extremes_eq_iff {xs ys : List UInt64} (hxs : ∀ x ∈ xs, x < uint64Max)
    (hys : ∀ y ∈ ys, y < uint64Max) :
    xs.foldl (pick (· < ·)) uint64Max = ys.foldl (pick (· < ·)) uint64Max ∧
        xs.foldl (pick (· > ·)) 0 = ys.foldl (pick (· > ·)) 0 ↔
      SameExtreme (· < ·) xs ys ∧ SameExtreme (· > ·) xs ys := by
  constructor
  · rintro ⟨hleast, hgreatest⟩
    have hnil : xs = [] ↔ ys = [] := by
      constructor
      · rintro rfl
        exact eq_nil_of_least hys hleast.symm
      · rintro rfl
        exact eq_nil_of_least hxs hleast
    exact ⟨(foldl_pick_eq_iff _ not_uint64Max_lt hnil).mp hleast,
      (foldl_pick_eq_iff _ not_lt_zero hnil).mp hgreatest⟩
  · rintro ⟨hleast, hgreatest⟩
    exact ⟨(foldl_pick_eq_iff _ not_uint64Max_lt hleast.nil_iff).mpr hleast,
      (foldl_pick_eq_iff _ not_lt_zero hleast.nil_iff).mpr hgreatest⟩

/-- The two copies tell the same about the workload and the last frame exactly if no outlier has
been counted, no frame has been received at a clock reading other than zero and no sample that only
the global copy takes in lies beyond those of the period copies. -/
theorem workload_in_step (hm : cfg.build.withMqtt = true) (hi : statInit cfg = some s)
    (hreset : ∀ call ∈ calls, call ≠ .resetRequest)
    (hr : workloadRun cfg calls (s, .empty) = some (s', hist)) (t : StatFrameType)
    (id : Fin workloadMax) :
    WorkloadInStep s' hist t id ↔
      UInt64.ofNat (hist.outliers t id) = 0 ∧
      (∀ now ∈ (hist.received t).total.getLast?, now = 0) ∧
      SameExtreme (· < ·) (takenSamples cfg t 0 (hist.samples t id).total)
        (takenByPeriods cfg hist t id) ∧
      SameExtreme (· > ·) (takenSamples cfg t 0 (hist.samples t id).total)
        (takenByPeriods cfg hist t id) := by
  have h := workloadRun_kept hm hr hreset (statInit_workloadKept hi t id)
  have hextremes := extremes_eq_iff h.bounded_global h.bounded_periods
  rw [← h.least_iff, ← h.greatest_iff] at hextremes
  rw [← h.outliers_iff, ← hextremes]
  constructor
  · intro hstep
    refine ⟨hstep.outliers, fun now hnow => ?_, hstep.least, hstep.greatest⟩
    rw [← hstep.globalTime now hnow]
    exact h.globalTime
  · rintro ⟨houtliers, htime, hleast, hgreatest⟩
    refine ⟨h.count, houtliers, hleast, hgreatest, fun now hnow => ?_, h.periodTimes⟩
    rw [htime now hnow]
    exact h.globalTime

instance : NeZero workloadMax := ⟨nofun⟩

def workloadConfig : StatConfig := ⟨fullBuild, configSetDefaults true, .mirror⟩

/-- Workloads of 50, 100 and 200 microseconds, a collection, and one of a given length. -/
def workloadCalls (lastEnd : UInt64) : List StatCall :=
  [.frameWorkload .tsnHigh 0 0 50000, .frameWorkload .tsnHigh 0 0 100000,
    .frameWorkload .tsnHigh 0 0 200000, .update 1, .update 1000000001,
    .frameWorkload .tsnHigh 0 0 lastEnd]

theorem workload_in_step_within : ∃ s s' hist, statInit workloadConfig = some s ∧
    workloadRun workloadConfig (workloadCalls 150000) (s, .empty) = some (s', hist) ∧
    ((s'.globalStatistics .tsnHigh).workload 0).rxWorkloadCount = 4 ∧
    WorkloadInStep s' hist .tsnHigh 0 := by
  have hsome : ((statInit workloadConfig).bind fun s =>
      workloadRun workloadConfig (workloadCalls 150000) (s, .empty)).map (fun x =>
        (((x.1.globalStatistics .tsnHigh).workload 0).rxWorkloadCount, x.2.outliers .tsnHigh 0,
          (x.2.received .tsnHigh).total,
          takenSamples workloadConfig .tsnHigh 0 (x.2.samples .tsnHigh 0).total,
          takenByPeriods workloadConfig x.2 .tsnHigh 0)) =
      some (4, 0, [], [100, 200, 150], [100, 200]) := by
    decide +kernel
  obtain ⟨⟨s', hist⟩, hrun, hx⟩ := Option.map_eq_some_iff.mp hsome
  obtain ⟨s, hi, hr⟩ := Option.bind_eq_some_iff.mp hrun
  simp only [Prod.mk.injEq] at hx
  obtain ⟨hcount, houtliers, hreceived, hglobal, hperiods⟩ := hx
  refine ⟨s, s', hist, hi, hr, hcount,
    (workload_in_step rfl hi ?_ hr .tsnHigh 0).mpr ⟨?_, ?_, ?_, ?_⟩⟩
  · simp [workloadCalls]
  · rw [houtliers]
    rfl
  · rw [hreceived]
    nofun
  · rw [hglobal, hperiods]
    simp [SameExtreme]
  · rw [hglobal, hperiods]
    simp [SameExtreme]

/-- A counted outlier, a received frame and a short workload at the begin of a period: the copies
disagree about all three. -/
theorem workload_out_of_step : ∃ s s' hist, statInit workloadConfig = some s ∧
    workloadRun workloadConfig (workloadCalls 10000 ++ [.incWorkloadOutlier .tsnHigh 0,
      .frameReceived .tsnHigh ⟨0, false, false, false, 1000000, 0, 0⟩ 1500000]) (s, .empty) =
        some (s', hist) ∧
    (s'.globalStatistics .tsnHigh).timeStamp = 0 ∧
    (s'.statisticsPerPeriod .tsnHigh).timeStamp = 1500000 ∧
    ((s'.globalStatistics .tsnHigh).workload 0).rxWorkloadOutliers = 1 ∧
    ((periodPieces s' hist .tsnHigh).map fun p => (p.workload 0).rxWorkloadOutliers) = [0, 0] ∧
    ((s'.globalStatistics .tsnHigh).workload 0).rxWorkloadMin = 10 ∧
    ((periodPieces s' hist .tsnHigh).map fun p => (p.workload 0).rxWorkloadMin) =
      [100, uint64Max] ∧
    ¬ WorkloadInStep s' hist .tsnHigh 0 := by
  have hsome : ((statInit workloadConfig).bind fun s =>
      workloadRun workloadConfig (workloadCalls 10000 ++ [.incWorkloadOutlier .tsnHigh 0,
        .frameReceived .tsnHigh ⟨0, false, false, false, 1000000, 0, 0⟩ 1500000]) (s, .empty)).map
        (fun x => ((x.1.globalStatistics .tsnHigh).timeStamp,
          (x.1.statisticsPerPeriod .tsnHigh).timeStamp,
          ((x.1.globalStatistics .tsnHigh).workload 0).rxWorkloadOutliers,
          ((periodPieces x.1 x.2 .tsnHigh).map fun p => (p.workload 0).rxWorkloadOutliers),
          ((x.1.globalStatistics .tsnHigh).workload 0).rxWorkloadMin,
          ((periodPieces x.1 x.2 .tsnHigh).map fun p => (p.workload 0).rxWorkloadMin))) =
      some (0, 1500000, 1, [0, 0], 10, [100, uint64Max]) := by
    decide +kernel
  obtain ⟨⟨s', hist⟩, hrun, hx⟩ := Option.map_eq_some_iff.mp hsome
  obtain ⟨s, hi, hr⟩ := Option.bind_eq_some_iff.mp hrun
  simp only [Prod.mk.injEq] at hx
  obtain ⟨hglobal, hperiod, houtliers, hpieces, hmin, hmins⟩ := hx
  refine ⟨s, s', hist, hi, hr, hglobal, hperiod, houtliers, hpieces, hmin, hmins, ?_⟩
  intro hstep
  have hsum := hstep.outliers
  rw [houtliers, hpieces] at hsum
  revert hsum
  decide

end RtcTestbench
