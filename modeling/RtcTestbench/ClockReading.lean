import RtcTestbench.RxLatency
import RtcTestbench.Timespec
import RtcTestbench.WorkloadStat

namespace RtcTestbench
open Function Tally
set_option autoImplicit true

/-- `app_clock_get` for what `clock_gettime` gives; a failure reads as zero. -/
def appClockGet (clockGettime : Option Timespec) : Timespec := clockGettime.getD ⟨0, 0⟩

def clockReading (clockGettime : Option Timespec) : UInt64 :=
  (tsToNs (appClockGet clockGettime)).toUInt64

/-- The reading a latency is computed with. -/
def StatCall.reading : StatCall → UInt64
  | .frameReceived _ _ now | .frameWorkload _ _ _ now => now
  | _ => 0

/-- The send time a round trip is computed from. -/
def sendTime (cfg : StatConfig) (s : StatState) (t : StatFrameType) (cycleNumber : UInt64) :
    Option UInt64 := do
  let idx ← txTimeIdx cfg s t cycleNumber
  let e ← (s.roundTripContexts t).entry idx
  return e.swTs

/-- The difference does not go below zero, or so little is left below `2^64` that it stays within
the microsecond of the reading. -/
def NotAhead (start now : UInt64) : Prop :=
  start ≤ now ∨ 2 ^ 64 + now.toNat % 1000 < start.toNat + 1000

instance (start now : UInt64) : Decidable (NotAhead start now) :=
  inferInstanceAs (Decidable (_ ∨ _))

/-- The time a latency starts at is not ahead of the reading it ends with. -/
def ClockInOrder (cfg : StatConfig) (s : StatState) : StatCall → Prop
  | .frameReceived t r now =>
    cfg.logStatUserSelected = .reference →
      ∀ start ∈ sendTime cfg s t r.sequenceCounter, NotAhead start now
  | .frameWorkload _ _ startTime now => NotAhead startTime now
  | _ => True

instance (cfg : StatConfig) (s : StatState) :
    (call : StatCall) → Decidable (ClockInOrder cfg s call)
  | .frameReceived t r now =>
    decidable_of_iff (cfg.logStatUserSelected = .reference →
      (sendTime cfg s t r.sequenceCounter).all (fun start => decide (NotAhead start now)) = true)
      (by simp only [Option.all_eq_true, decide_eq_true_eq, ClockInOrder, Option.mem_def])
  | .frameWorkload _ _ _ _ => inferInstanceAs (Decidable (NotAhead _ _))
  | .frameSent _ _ _ | .framesSentBatch _ _ _ _ | .frameSentLatency _ _ | .procFirstLatency _ _ _
  | .procBatchLatency _ _ _ | .incWorkloadOutlier _ _ | .update _ | .resetRequest
  | .txHwTimestamp _ _ _ => .isTrue trivial

/-- The round trip and workload times a call records are not beyond its clock reading. -/
def LatenciesBounded (cfg : StatConfig) (s : StatState) (call : StatCall) : Prop :=
  ∀ t id, ∀ x ∈ samples .roundTrip (recorded cfg s call t) ++ call.workloadTimes t id,
    x ≤ call.reading / 1000

section Step
variable {cfg : StatConfig} {s s' : StatState} {call : StatCall} {calls : List StatCall}
  {t : StatFrameType}

theorem difference_le_iff (start now : UInt64) :
    (now - start) / 1000 ≤ now / 1000 ↔ NotAhead start now := by
  rw [NotAhead, UInt64.le_iff_toNat_le, UInt64.toNat_div, UInt64.toNat_div, UInt64.le_iff_toNat_le]
  have hstart := start.toNat_lt
  have hnow := now.toNat_lt
  change (now - start).toNat / 1000 ≤ now.toNat / 1000 ↔ _
  by_cases hle : start ≤ now
  · have hle' := UInt64.le_iff_toNat_le.mp hle
    rw [UInt64.toNat_sub_of_le _ _ hle]
    omega
  · have hlt := UInt64.lt_iff_toNat_lt.mp (UInt64.not_le.mp hle)
    have hwrap : (now - start).toNat = 2 ^ 64 + now.toNat - start.toNat := by
      rw [UInt64.toNat_sub]
      omega
    rw [hwrap]
    omega

theorem roundTripTime_le_iff (h : roundTripTime cfg s t cycleNumber now = some x) :
    x ≤ now / 1000 ↔ ∀ start ∈ sendTime cfg s t cycleNumber, NotAhead start now := by
  simp only [roundTripTime, Option.bind_eq_bind, Option.bind_eq_some_iff, Option.pure_def,
    Option.some.injEq] at h
  obtain ⟨idx, hidx, e, he, rfl⟩ := h
  have hsend : sendTime cfg s t cycleNumber = some e.swTs := by
    simp only [sendTime, hidx, he, Option.bind_eq_bind, Option.bind_some, Option.pure_def]
  rw [hsend]
  simp only [Option.mem_def, Option.some.injEq, forall_eq']
  split
  · exact difference_le_iff e.swTs now
  · rename_i hzero
    rw [not_not.mp hzero]
    exact iff_of_true UInt64.zero_le (.inl UInt64.zero_le)

theorem samples_roundTrip_received (times : RxTimes) (r : RxReport) :
    samples .roundTrip (receivedRecords cfg t times r) =
      if cfg.logStatUserSelected = .reference then [times.rtTime] else [] := by
  have hrt : samples .roundTrip (roundTripRecords cfg t times.rtTime) =
      if cfg.logStatUserSelected = .reference then [times.rtTime] else [] := by
    rw [roundTripRecords, countIf]
    repeat' split
    all_goals rfl
  have how : samples .roundTrip (onewayRecords cfg t times.onewayTime) = [] := by
    rw [onewayRecords, countIf]
    split <;> rfl
  have hrx : samples .roundTrip (rxRecords times) = [] := by
    rw [rxRecords]
    split <;> rfl
  rw [receivedRecords, samples_append, samples_append, samples_append, hrt, how, hrx,
    List.append_nil, List.append_nil]
  exact List.append_nil _

theorem samples_roundTrip_other
    (hrx : ∀ frameType r now, call ≠ .frameReceived frameType r now) :
    samples .roundTrip (recorded cfg s call t) = [] := by
  apply List.filterMap_eq_nil_iff.mpr
  intro x hx
  have hsender := List.all_eq_true.mp (recorded_ofSender hrx) x hx
  cases x with
  | count | oneway => rfl
  | sample l us => cases l <;> first | rfl | cases hsender

theorem rxTimesOf_rtTime (rtTime : UInt64) (r : RxReport) (now : UInt64) :
    (rxTimesOf rtTime r now).rtTime = rtTime := by
  rw [rxTimesOf]
  split <;> rfl

theorem latenciesBounded_received
    (h : statCall cfg s (.frameReceived frameType r now) = some s') :
    LatenciesBounded cfg s (.frameReceived frameType r now) ↔
      ClockInOrder cfg s (.frameReceived frameType r now) := by
  obtain ⟨rtTime, hrt⟩ := rtTimeOf_received h
  have hsamples (t : StatFrameType) :
      samples .roundTrip (recorded cfg s (.frameReceived frameType r now) t) =
        if t = frameType ∧ cfg.logStatUserSelected = .reference then [rtTime] else [] := by
    rw [recorded, hrt, Option.map_some, Option.getD_some, only]
    by_cases ht : t = frameType
    · rw [if_pos ht, samples_roundTrip_received, rxTimesOf_rtTime]
      simp only [ht, true_and]
    · rw [if_neg ht, if_neg fun h => ht h.1]
      rfl
  rw [LatenciesBounded, ClockInOrder]
  constructor
  · intro hbound href
    rw [rtTimeOf, if_pos href] at hrt
    apply (roundTripTime_le_iff hrt).mp
    apply hbound frameType 0
    rw [hsamples, if_pos ⟨rfl, href⟩]
    exact List.mem_cons_self
  · intro horder t id x hx
    have hnone : (StatCall.frameReceived frameType r now).workloadTimes t id = [] := rfl
    rw [hsamples, hnone, List.append_nil] at hx
    split at hx
    · rename_i href
      rw [rtTimeOf, if_pos href.2] at hrt
      rw [List.mem_singleton.mp hx]
      exact (roundTripTime_le_iff hrt).mpr (horder href.2)
    · cases hx

theorem latenciesBounded_workload {id : Fin workloadMax} :
    LatenciesBounded cfg s (.frameWorkload frameType id startTime now) ↔
      ClockInOrder cfg s (.frameWorkload frameType id startTime now) := by
  have htimes (t : StatFrameType) (id' : Fin workloadMax) :
      samples .roundTrip (recorded cfg s (.frameWorkload frameType id startTime now) t) ++
        (StatCall.frameWorkload frameType id startTime now).workloadTimes t id' =
      if frameType = t ∧ id = id' then [(now - startTime) / 1000] else [] := rfl
  rw [LatenciesBounded, ClockInOrder, ← difference_le_iff]
  constructor
  · intro hbound
    apply hbound frameType id
    rw [htimes, if_pos ⟨rfl, rfl⟩]
    exact List.mem_cons_self
  · intro hle t id' x hx
    rw [htimes] at hx
    split at hx
    · rw [List.mem_singleton.mp hx]
      exact hle
    · cases hx

theorem latenciesBounded_iff (h : statCall cfg s call = some s') :
    LatenciesBounded cfg s call ↔ ClockInOrder cfg s call := by
  have hother (hrx : ∀ frameType r now, call ≠ .frameReceived frameType r now)
      (hw : ∀ t id, call.workloadTimes t id = []) : LatenciesBounded cfg s call := by
    intro t id x hx
    rw [samples_roundTrip_other hrx, hw] at hx
    cases hx
  cases call with
  | frameReceived frameType r now => exact latenciesBounded_received h
  | frameWorkload frameType id startTime now => exact latenciesBounded_workload
  | _ => exact iff_of_true (hother (fun _ _ _ h => StatCall.noConfusion h) fun _ _ => rfl) trivial

end Step

/-- The states and calls a run goes through. -/
def stepsOf (cfg : StatConfig) : StatState → List StatCall → List (StatState × StatCall) :=
  alongRun cfg fun s call => [(s, call)]

theorem statCall_of_mem_stepsOf {cfg : StatConfig} (h : calls.foldlM (statStep cfg) s = some s')
    (hstep : step ∈ stepsOf cfg s calls) : ∃ s₁, statCall cfg step.1 step.2 = some s₁ := by
  induction calls generalizing s with
  | nil => cases hstep
  | cons call calls ih =>
    obtain ⟨s₁, hs₁, hrest⟩ := run_cons h
    rw [stepsOf, alongRun] at hstep
    split at hstep
    · cases hstep
    · rename_i hex
      rw [hs₁, Option.elim_some] at hstep
      obtain hstep | hstep := List.mem_append.mp hstep
      · rw [List.mem_singleton.mp hstep]
        exact ⟨s₁, (statStep_running hex).symm.trans hs₁⟩
      · exact ih hrest hstep

/-- No latency of a run is beyond its clock reading exactly if no time it starts at is ahead of
it. -/
theorem latencies_bounded_iff (cfg : StatConfig) (s : StatState) (calls : List StatCall)
    (s' : StatState) (h : calls.foldlM (statStep cfg) s = some s') :
    (∀ step ∈ stepsOf cfg s calls, LatenciesBounded cfg step.1 step.2) ↔
      ∀ step ∈ stepsOf cfg s calls, ClockInOrder cfg step.1 step.2 := by
  apply forall₂_congr
  intro step hstep
  obtain ⟨s₁, hs₁⟩ := statCall_of_mem_stepsOf h hstep
  exact latenciesBounded_iff hs₁

/-- A frame sent at a millisecond comes back, and a workload that starts at two milliseconds
ends. -/
def roundTripAndWorkload (receivedAt endedAt : Option Timespec) : List StatCall :=
  [.framesSentBatch .tsnHigh 0 1 (clockReading (some ⟨0, 1000000⟩)),
    .frameReceived .tsnHigh ⟨0, false, false, false, 1000000, 0, 0⟩ (clockReading receivedAt),
    .frameWorkload .tsnHigh 0 (clockReading (some ⟨0, 2000000⟩)) (clockReading (some ⟨0, 2000000⟩)),
    .frameWorkload .tsnHigh 0 (clockReading (some ⟨0, 2000000⟩)) (clockReading endedAt)]

theorem latencies_bounded_forward :
    let calls := roundTripAndWorkload (some ⟨0, 1500000⟩) (some ⟨0, 2100000⟩)
    ∃ s s', statInit referenceConfig = some s ∧
      calls.foldlM (statStep referenceConfig) s = some s' ∧
      (s'.globalStatistics .tsnHigh).roundTripMax = 500 ∧
      ((s'.globalStatistics .tsnHigh).workload 0).rxWorkloadMax = 100 ∧
      ∀ step ∈ stepsOf referenceConfig s calls, LatenciesBounded referenceConfig step.1 step.2 := by
  intro calls
  have hsome : ((statInit referenceConfig).bind fun s =>
      (calls.foldlM (statStep referenceConfig) s).map fun s' =>
        ((s'.globalStatistics .tsnHigh).roundTripMax,
          ((s'.globalStatistics .tsnHigh).workload 0).rxWorkloadMax,
          decide (∀ step ∈ stepsOf referenceConfig s calls,
            ClockInOrder referenceConfig step.1 step.2))) = some (500, 100, true) := by
    decide +kernel
  obtain ⟨s, hi, hrun⟩ := Option.bind_eq_some_iff.mp hsome
  obtain ⟨s', hs', hx⟩ := Option.map_eq_some_iff.mp hrun
  simp only [Prod.mk.injEq, decide_eq_true_eq] at hx
  exact ⟨s, s', hi, hs', hx.1, hx.2.1,
    (latencies_bounded_iff referenceConfig s calls s' hs').mpr hx.2.2⟩

/-- The clock cannot be read when the frame comes back, and it is set back by a millisecond while
the workload runs. -/
theorem latencies_wrap :
    let calls := roundTripAndWorkload none (some ⟨0, 1000000⟩)
    ∃ s s', statInit referenceConfig = some s ∧
      calls.foldlM (statStep referenceConfig) s = some s' ∧
      (s'.globalStatistics .tsnHigh).roundTripMax = 18446744073708551 ∧
      ((s'.globalStatistics .tsnHigh).workload 0).rxWorkloadMax = 18446744073708551 ∧
      ¬ ∀ step ∈ stepsOf referenceConfig s calls,
        LatenciesBounded referenceConfig step.1 step.2 := by
  intro calls
  have hsome : ((statInit referenceConfig).bind fun s =>
      (calls.foldlM (statStep referenceConfig) s).map fun s' =>
        ((s'.globalStatistics .tsnHigh).roundTripMax,
          ((s'.globalStatistics .tsnHigh).workload 0).rxWorkloadMax,
          decide (∀ step ∈ stepsOf referenceConfig s calls,
            ClockInOrder referenceConfig step.1 step.2))) =
      some (18446744073708551, 18446744073708551, false) := by
    decide +kernel
  obtain ⟨s, hi, hrun⟩ := Option.bind_eq_some_iff.mp hsome
  obtain ⟨s', hs', hx⟩ := Option.map_eq_some_iff.mp hrun
  simp only [Prod.mk.injEq, decide_eq_false_iff_not] at hx
  refine ⟨s, s', hi, hs', hx.1, hx.2.1, fun hbounded => hx.2.2 ?_⟩
  intro step hstep
  obtain ⟨s₁, hs₁⟩ := statCall_of_mem_stepsOf hs' hstep
  exact (latenciesBounded_iff hs₁).mp (hbounded step hstep)

end RtcTestbench
