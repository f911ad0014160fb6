import Mathlib
import RtcTestbench.Lib.Tally
import RtcTestbench.Stat

namespace RtcTestbench
open Function Tally
set_option autoImplicit true

inductive FrameCounter where
  | framesSent | framesReceived | outOfOrderErrors | frameIdErrors | payloadErrors
  | roundTripCount | roundTripOutliers | onewayCount | onewayOutliers
  | procFirstCount | procFirstOutliers | procBatchCount | procBatchOutliers
  | rxCount | txCount | txHwTimestampMissing
  deriving DecidableEq

def Statistics.counter (stat : Statistics) : FrameCounter → UInt64
  | .framesSent => stat.framesSent
  | .framesReceived => stat.framesReceived
  | .outOfOrderErrors => stat.outOfOrderErrors
  | .frameIdErrors => stat.frameIdErrors
  | .payloadErrors => stat.payloadErrors
  | .roundTripCount => stat.roundTripCount
  | .roundTripOutliers => stat.roundTripOutliers
  | .onewayCount => stat.onewayCount
  | .onewayOutliers => stat.onewayOutliers
  | .procFirstCount => stat.procFirstCount
  | .procFirstOutliers => stat.procFirstOutliers
  | .procBatchCount => stat.procBatchCount
  | .procBatchOutliers => stat.procBatchOutliers
  | .rxCount => stat.rxCount
  | .txCount => stat.txCount
  | .txHwTimestampMissing => stat.txHwTimestampMissing

inductive Latency where
  | roundTrip | procFirst | procBatch | rx | rxHw2sw | rxSw2app | tx
  deriving DecidableEq

def Statistics.least (stat : Statistics) : Latency → UInt64
  | .roundTrip => stat.roundTripMin
  | .procFirst => stat.procFirstMin
  | .procBatch => stat.procBatchMin
  | .rx => stat.rxMin
  | .rxHw2sw => stat.rxHw2swMin
  | .rxSw2app => stat.rxSw2appMin
  | .tx => stat.txMin

def Statistics.greatest (stat : Statistics) : Latency → UInt64
  | .roundTrip => stat.roundTripMax
  | .procFirst => stat.procFirstMax
  | .procBatch => stat.procBatchMax
  | .rx => stat.rxMax
  | .rxHw2sw => stat.rxHw2swMax
  | .rxSw2app => stat.rxSw2appMax
  | .tx => stat.txMax

/-- What an event contributes to the statistics of its class. -/
inductive StatRecord where
  | count (c : FrameCounter) (k : UInt64)
  | sample (l : Latency) (us : UInt64)
  | oneway (us : Int64)

def StatRecord.count? (c : FrameCounter) : StatRecord → Option UInt64
  | .count c' k => if c' = c then some k else none
  | _ => none

def StatRecord.sample? (l : Latency) : StatRecord → Option UInt64
  | .sample l' us => if l' = l then some us else none
  | _ => none

def StatRecord.oneway? : StatRecord → Option Int64
  | .oneway us => some us
  | _ => none

def samples (l : Latency) (rs : List StatRecord) : List UInt64 :=
  rs.filterMap (StatRecord.sample? l)

def counts (c : FrameCounter) (rs : List StatRecord) : List UInt64 :=
  rs.filterMap (StatRecord.count? c)

def onewaySamples (rs : List StatRecord) : List Int64 := rs.filterMap StatRecord.oneway?

/-- Recording `rs` turns the frame-level statistics `a` into `b`. -/
structure Recorded (a b : Statistics) (rs : List StatRecord) : Prop where
  counter : ∀ c, b.counter c = (counts c rs).foldl (· + ·) (a.counter c)
  least : ∀ l, b.least l = (samples l rs).foldl (pick (· < ·)) (a.least l)
  greatest : ∀ l, b.greatest l = (samples l rs).foldl (pick (· > ·)) (a.greatest l)
  onewayMin : b.onewayMin = (onewaySamples rs).foldl (pick (· < ·)) a.onewayMin
  onewayMax : b.onewayMax = (onewaySamples rs).foldl (pick (· > ·)) a.onewayMax

theorem Recorded.refl (a : Statistics) : Recorded a a [] :=
  ⟨fun _ => rfl, fun _ => rfl, fun _ => rfl, rfl, rfl⟩

theorem counts_append (c : FrameCounter) (rs rs' : List StatRecord) :
    counts c (rs ++ rs') = counts c rs ++ counts c rs' := List.filterMap_append

theorem samples_append (l : Latency) (rs rs' : List StatRecord) :
    samples l (rs ++ rs') = samples l rs ++ samples l rs' := List.filterMap_append

theorem onewaySamples_append (rs rs' : List StatRecord) :
    onewaySamples (rs ++ rs') = onewaySamples rs ++ onewaySamples rs' := List.filterMap_append

theorem Recorded.trans (h : Recorded a b rs) (h' : Recorded b c rs') :
    Recorded a c (rs ++ rs') := by
  refine ⟨fun x => ?_, fun l => ?_, fun l => ?_, ?_, ?_⟩
  · rw [counts_append, List.foldl_append, ← h.counter, h'.counter]
  · rw [samples_append, List.foldl_append, ← h.least, h'.least]
  · rw [samples_append, List.foldl_append, ← h.greatest, h'.greatest]
  · rw [onewaySamples_append, List.foldl_append, ← h.onewayMin, h'.onewayMin]
  · rw [onewaySamples_append, List.foldl_append, ← h.onewayMax, h'.onewayMax]

section Records
variable (cfg : StatConfig) (frameType : StatFrameType)

def countIf (p : Bool) (c : FrameCounter) : List StatRecord := if p then [.count c 1] else []

def roundTripRecords (rtTime : UInt64) : List StatRecord :=
  if cfg.logStatUserSelected = .reference then
    .sample .roundTrip rtTime :: .count .roundTripCount 1 ::
      countIf (statFrameTypeIsRealTime frameType && decide (rtTime > cfg.rttExpectedRtLimit))
        .roundTripOutliers
  else []

def onewayRecords (onewayTime : Int64) : List StatRecord :=
  .oneway onewayTime :: .count .onewayCount 1 ::
    countIf (statFrameTypeIsRealTime frameType &&
      decide (onewayTime > (cfg.rttExpectedRtLimit / 2).toInt64)) .onewayOutliers

def rxRecords (times : RxTimes) : List StatRecord :=
  if times.rxHw2appTime ≠ 0 ∧ times.rxHw2swTime ≠ 0 ∧ times.rxSw2appTime ≠ 0 then
    [.count .rxCount 1, .sample .rx times.rxHw2appTime, .sample .rxHw2sw times.rxHw2swTime,
      .sample .rxSw2app times.rxSw2appTime]
  else []

def frameRecords (r : RxReport) : List StatRecord :=
  [.count .framesReceived 1, .count .outOfOrderErrors r.outOfOrder.toUInt64,
    .count .payloadErrors r.payloadMismatch.toUInt64,
    .count .frameIdErrors r.frameIdMismatch.toUInt64]

def receivedRecords (times : RxTimes) (r : RxReport) : List StatRecord :=
  roundTripRecords cfg frameType times.rtTime ++ onewayRecords cfg frameType times.onewayTime ++
    rxRecords times ++ frameRecords r

theorem recordRoundTrip_recorded (rtTime : UInt64) (stat : Statistics) :
    Recorded stat (recordRoundTrip cfg frameType rtTime stat).1
      (roundTripRecords cfg frameType rtTime) := by
  unfold recordRoundTrip roundTripRecords countIf
  split
  · dsimp only
    split
    · exact ⟨fun c => by cases c <;> rfl, fun l => by cases l <;> rfl,
        fun l => by cases l <;> rfl, rfl, rfl⟩
    · exact ⟨fun c => by cases c <;> rfl, fun l => by cases l <;> rfl,
        fun l => by cases l <;> rfl, rfl, rfl⟩
  · exact .refl stat

theorem recordOneway_recorded (onewayTime : Int64) (stat : Statistics) :
    Recorded stat (recordOneway cfg frameType onewayTime stat).1
      (onewayRecords cfg frameType onewayTime) := by
  unfold recordOneway onewayRecords countIf
  dsimp only
  split
  · exact ⟨fun c => by cases c <;> rfl, fun l => by cases l <;> rfl,
      fun l => by cases l <;> rfl, rfl, rfl⟩
  · exact ⟨fun c => by cases c <;> rfl, fun l => by cases l <;> rfl,
      fun l => by cases l <;> rfl, rfl, rfl⟩

theorem recordRx_recorded (times : RxTimes) (stat : Statistics) :
    Recorded stat (recordRx times stat) (rxRecords times) := by
  unfold recordRx rxRecords
  split
  · exact ⟨fun c => by cases c <;> rfl, fun l => by cases l <;> rfl,
      fun l => by cases l <;> rfl, rfl, rfl⟩
  · exact .refl stat

theorem statFrameReceivedCommon_recorded (times : RxTimes) (r : RxReport) (stat : Statistics) :
    Recorded stat (statFrameReceivedCommon cfg frameType times r stat).1
      (receivedRecords cfg frameType times r) := by
  have hrt := recordRoundTrip_recorded cfg frameType times.rtTime stat
  have how := recordOneway_recorded cfg frameType times.onewayTime
    (recordRoundTrip cfg frameType times.rtTime stat).1
  have hrx := recordRx_recorded times (recordOneway cfg frameType times.onewayTime
    (recordRoundTrip cfg frameType times.rtTime stat).1).1
  refine ((hrt.trans how).trans hrx).trans ?_
  exact ⟨fun c => by cases c <;> rfl, fun l => by cases l <;> rfl,
    fun l => by cases l <;> rfl, rfl, rfl⟩

theorem statFrameSentLatencyCommon_recorded (latency : UInt64) (stat : Statistics) :
    Recorded stat (statFrameSentLatencyCommon latency stat)
      [.sample .tx latency, .count .txCount 1] :=
  ⟨fun c => by cases c <;> rfl, fun l => by cases l <;> rfl, fun l => by cases l <;> rfl, rfl, rfl⟩

def procFirstRecords (latency : UInt64) : List StatRecord :=
  .sample .procFirst latency :: .count .procFirstCount 1 ::
    countIf (cfg.procOutlier latency) .procFirstOutliers

def procBatchRecords (latency : UInt64) : List StatRecord :=
  .sample .procBatch latency :: .count .procBatchCount 1 ::
    countIf (cfg.procOutlier latency) .procBatchOutliers

theorem statFrameProcFirstCommon_recorded (latency : UInt64) (stat : Statistics) :
    Recorded stat (statFrameProcFirstCommon cfg latency stat) (procFirstRecords cfg latency) := by
  unfold statFrameProcFirstCommon procFirstRecords countIf
  dsimp only
  split
  · exact ⟨fun c => by cases c <;> rfl, fun l => by cases l <;> rfl,
      fun l => by cases l <;> rfl, rfl, rfl⟩
  · exact ⟨fun c => by cases c <;> rfl, fun l => by cases l <;> rfl,
      fun l => by cases l <;> rfl, rfl, rfl⟩

theorem statFrameProcBatchCommon_recorded (latency : UInt64) (stat : Statistics) :
    Recorded stat (statFrameProcBatchCommon cfg latency stat) (procBatchRecords cfg latency) := by
  unfold statFrameProcBatchCommon procBatchRecords countIf
  dsimp only
  split
  · exact ⟨fun c => by cases c <;> rfl, fun l => by cases l <;> rfl,
      fun l => by cases l <;> rfl, rfl, rfl⟩
  · exact ⟨fun c => by cases c <;> rfl, fun l => by cases l <;> rfl,
      fun l => by cases l <;> rfl, rfl, rfl⟩

def only (rs : List StatRecord) : StatFrameType → List StatRecord :=
  fun t => if t = frameType then rs else []

end Records

def txLatencyRecords (cfg : StatConfig) (frameType : StatFrameType) (e : RttEntry) :
    List StatRecord :=
  if !cfg.txHwtstampEnabled frameType then []
  else if e.swTs ≠ 0 ∧ e.hwTs = 0 then []
  else if e.hwTs > e.swTs then
    [.sample .tx ((e.hwTs - e.swTs).toInt64 / 1000).toUInt64, .count .txCount 1]
  else [.count .txHwTimestampMissing 1]

def entryAt (s : StatState) (frameType : StatFrameType) (idx : Option Nat) : Option RttEntry :=
  idx.bind (s.roundTripContexts frameType).entry

def recorded (cfg : StatConfig) (s : StatState) : StatCall → StatFrameType → List StatRecord
  | .frameSent frameType _ _ => only frameType [.count .framesSent 1]
  | .framesSentBatch frameType _ frameCount _ => only frameType [.count .framesSent frameCount]
  | .frameReceived frameType r now =>
    only frameType (((rtTimeOf cfg s frameType r.sequenceCounter now).map fun rtTime =>
      receivedRecords cfg frameType (rxTimesOf rtTime r now) r).getD [])
  | .frameSentLatency frameType seq =>
    only frameType ((entryAt s frameType ((s.roundTripContexts frameType).index seq)).elim []
      (txLatencyRecords cfg frameType))
  | .procFirstLatency frameType cycleNumber txHwTimestamp =>
    only frameType
      ((entryAt s frameType (getFirstFrameBacklogIdx cfg s frameType cycleNumber)).elim []
        fun e => (procLatency cfg frameType e.rxHwTs txHwTimestamp).elim []
          (procFirstRecords cfg))
  | .procBatchLatency frameType cycleNumber lastTxHwTimestamp =>
    only frameType
      ((entryAt s frameType (getFirstFrameBacklogIdx cfg s frameType cycleNumber)).elim []
        fun e => (procLatency cfg frameType e.rxHwTs lastTxHwTimestamp).elim []
          (procBatchRecords cfg))
  | .frameWorkload _ _ _ _ | .incWorkloadOutlier _ _ | .update _ | .resetRequest
  | .txHwTimestamp _ _ _ => fun _ => []

/-- Both copies of every class have taken in the same records. -/
def BothRecorded (s s' : StatState) (rs : StatFrameType → List StatRecord) : Prop :=
  ∀ t, Recorded (s.globalStatistics t) (s'.globalStatistics t) (rs t) ∧
    Recorded (s.statisticsPerPeriod t) (s'.statisticsPerPeriod t) (rs t)

/-- The same in a build that may lack the copy of the period. -/
def CallRecorded (cfg : StatConfig) (s s' : StatState) (rs : StatFrameType → List StatRecord) :
    Prop :=
  ∀ t, Recorded (s.globalStatistics t) (s'.globalStatistics t) (rs t) ∧
    (cfg.build.withMqtt = true →
      Recorded (s.statisticsPerPeriod t) (s'.statisticsPerPeriod t) (rs t))

variable {cfg : StatConfig} {s s' : StatState} {frameType : StatFrameType}

theorem callRecorded_nothing (hg : s'.globalStatistics = s.globalStatistics)
    (hp : s'.statisticsPerPeriod = s.statisticsPerPeriod) :
    CallRecorded cfg s s' fun _ => [] := by
  intro t
  rw [hg, hp]
  exact ⟨.refl _, fun _ => .refl _⟩

theorem only_nil (frameType : StatFrameType) : only frameType [] = fun _ => [] := by
  funext t
  simp only [only, ite_self]

theorem callRecorded_update {rs : List StatRecord}
    (hg : s'.globalStatistics = update s.globalStatistics frameType g)
    (hp : s'.statisticsPerPeriod = update s.statisticsPerPeriod frameType p)
    (hrg : Recorded (s.globalStatistics frameType) g rs)
    (hrp : cfg.build.withMqtt = true → Recorded (s.statisticsPerPeriod frameType) p rs) :
    CallRecorded cfg s s' (only frameType rs) := by
  intro t
  rw [hg, hp, only]
  by_cases ht : t = frameType
  · subst ht
    rw [update_self, update_self, if_pos rfl]
    exact ⟨hrg, hrp⟩
  · rw [update_of_ne ht, update_of_ne ht, if_neg ht]
    exact ⟨.refl _, fun _ => .refl _⟩

theorem perPeriod_mqtt (hm : cfg.build.withMqtt = true) (f : Statistics → Statistics) :
    perPeriod cfg f = f := by
  funext stat
  rw [perPeriod, if_pos hm]

theorem repeat_framesSent (k : Nat) (stat : Statistics) :
    Nat.repeat (fun stat : Statistics => { stat with framesSent := stat.framesSent + 1 }) k stat =
      { stat with framesSent := stat.framesSent + UInt64.ofNat k } := by
  induction k with
  | zero =>
    change stat = { stat with framesSent := stat.framesSent + 0 }
    rw [UInt64.add_zero]
  | succ k ih =>
    rw [Nat.repeat, ih]
    dsimp only
    rw [UInt64.ofNat_add, ← UInt64.add_assoc]
    rfl

theorem framesSent_recorded (k : UInt64) (stat : Statistics) :
    Recorded stat { stat with framesSent := stat.framesSent + k } [.count .framesSent k] :=
  ⟨fun c => by cases c <;> rfl, fun l => by cases l <;> rfl, fun l => by cases l <;> rfl, rfl, rfl⟩

theorem statFramesSentBatch_recorded
    (h : statFramesSentBatch cfg s frameType cycleNumber frameCount now = some s') :
    CallRecorded cfg s s' (only frameType [.count .framesSent frameCount]) := by
  simp only [statFramesSentBatch, Option.bind_eq_bind, Option.bind_eq_some_iff, Option.pure_def,
    Option.some.injEq] at h
  obtain ⟨rtt, -, rfl⟩ := h
  refine callRecorded_update rfl rfl (framesSent_recorded _ _) ?_
  intro hm
  rw [statFrameSentPerPeriod, perPeriod_mqtt hm, repeat_framesSent, UInt64.ofNat_toNat]
  exact framesSent_recorded _ _

theorem StatState.setRoundTrip_self (s : StatState) (frameType : StatFrameType) :
    s.setRoundTrip frameType (s.roundTripContexts frameType) = s := by
  rw [StatState.setRoundTrip, update_eq_self]

/-- In reference mode a received frame leaves the backlogs alone. -/
theorem storeRxHwTimestamp_reference (href : cfg.logStatUserSelected = .reference) (r : RxReport) :
    storeRxHwTimestamp cfg s t r = some (s.roundTripContexts t) := by
  have hne : ¬ (cfg.logStatUserSelected = .txTimestamps ∧ cfg.txHwtstampEnabled t = true ∧
      cfg.build.rxTimestamp = true ∧ r.rxHwTimestamp ≠ 0 ∧
      (s.roundTripContexts t).backlog.isSome = true) := by
    rintro ⟨htx, -⟩
    rw [href] at htx
    cases htx
  rw [storeRxHwTimestamp, if_neg hne]

/-- Keeping the receive time stamp does not change what the round trip is computed from. -/
theorem rtTimeOf_store (h : storeRxHwTimestamp cfg s frameType r = some rtt)
    (cycleNumber now : UInt64) :
    rtTimeOf cfg (s.setRoundTrip frameType rtt) frameType cycleNumber now =
      rtTimeOf cfg s frameType cycleNumber now := by
  unfold rtTimeOf
  split
  · rename_i href
    rw [storeRxHwTimestamp_reference href] at h
    cases h
    rw [s.setRoundTrip_self]
  · rfl

theorem timeStamp_recorded (now : UInt64) (stat : Statistics) :
    Recorded stat { stat with timeStamp := now } [] :=
  ⟨fun c => by cases c <;> rfl, fun l => by cases l <;> rfl, fun l => by cases l <;> rfl, rfl, rfl⟩

theorem statFrameReceived_recorded (h : statFrameReceived cfg s frameType r now = some s') :
    CallRecorded cfg s s' (recorded cfg s (.frameReceived frameType r now)) := by
  simp only [statFrameReceived, Option.bind_eq_bind, Option.bind_eq_some_iff, Option.pure_def,
    Option.some.injEq] at h
  obtain ⟨rtt, hrtt, rtTime, hrt, hist, -, rfl⟩ := h
  rw [rtTimeOf_store hrtt] at hrt
  rw [recorded, hrt]
  refine callRecorded_update rfl rfl (statFrameReceivedCommon_recorded _ _ _ _ _) ?_
  intro hm
  rw [statFrameReceivedPerPeriod, perPeriod_mqtt hm]
  exact (timeStamp_recorded now _).trans (statFrameReceivedCommon_recorded _ _ _ _ _)

theorem txHwTimestampMissing_recorded (stat : Statistics) :
    Recorded stat { stat with txHwTimestampMissing := stat.txHwTimestampMissing + 1 }
      [.count .txHwTimestampMissing 1] :=
  ⟨fun c => by cases c <;> rfl, fun l => by cases l <;> rfl, fun l => by cases l <;> rfl, rfl, rfl⟩

theorem entryAt_eq (hidx : idx? = some idx)
    (he : (s.roundTripContexts frameType).entry idx = some e) :
    entryAt s frameType idx? = some e := by
  rw [entryAt, hidx]
  exact he

/-- What the call for a transmit time stamp can do: nothing, take the time stamp out of the backlog
as a sample, or count it as missing. -/
theorem statFrameSentLatency_cases (h : statFrameSentLatency cfg s frameType seq = some s') :
    s' = s ∨
    (∃ latency idx rtt,
      (s.roundTripContexts frameType).modify idx (fun e => { e with hwTs := 0 }) = some rtt ∧
      s' = (s.updateBoth frameType (statFrameSentLatencyCommon latency)
        (statFrameSentLatencyPerPeriod cfg latency)).setRoundTrip frameType rtt) ∨
    s' = s.updateBoth frameType
      (fun stat => { stat with txHwTimestampMissing := stat.txHwTimestampMissing + 1 })
      (fun stat => { stat with txHwTimestampMissing := stat.txHwTimestampMissing + 1 }) := by
  simp only [statFrameSentLatency, Option.bind_eq_bind, Option.bind_eq_some_iff,
    Option.pure_def] at h
  obtain ⟨idx, -, e, -, h⟩ := h
  split at h
  · exact .inl (Option.some.inj h).symm
  · split at h
    · exact .inl (Option.some.inj h).symm
    · split at h
      · obtain ⟨rtt, hm, h⟩ := Option.bind_eq_some_iff.mp h
        exact .inr (.inl ⟨_, idx, rtt, hm, (Option.some.inj h).symm⟩)
      · exact .inr (.inr (Option.some.inj h).symm)

theorem statProcFirstLatency_cases
    (h : statProcFirstLatency cfg s frameType cycleNumber txHwTimestamp = some s') :
    s' = s ∨ ∃ latency, s' = s.updateBoth frameType (statFrameProcFirstCommon cfg latency)
      (statFrameProcFirstPerPeriod cfg latency) := by
  simp only [statProcFirstLatency, Option.bind_eq_bind, Option.bind_eq_some_iff,
    Option.pure_def] at h
  obtain ⟨idx, -, e, -, h⟩ := h
  split at h
  · exact .inl (Option.some.inj h).symm
  · exact .inr ⟨_, (Option.some.inj h).symm⟩

/-- The receive time stamp leaves the backlog in any case. -/
theorem statProcBatchLatency_cases
    (h : statProcBatchLatency cfg s frameType cycleNumber lastTxHwTimestamp = some s') :
    ∃ idx rtt,
      (s.roundTripContexts frameType).modify idx (fun e => { e with rxHwTs := 0 }) = some rtt ∧
      (s' = s.setRoundTrip frameType rtt ∨
        ∃ latency, s' = (s.setRoundTrip frameType rtt).updateBoth frameType
          (statFrameProcBatchCommon cfg latency) (statFrameProcBatchPerPeriod cfg latency)) := by
  simp only [statProcBatchLatency, Option.bind_eq_bind, Option.bind_eq_some_iff,
    Option.pure_def] at h
  obtain ⟨idx, -, e, -, rtt, hm, h⟩ := h
  refine ⟨idx, rtt, hm, ?_⟩
  split at h
  · exact .inl (Option.some.inj h).symm
  · exact .inr ⟨_, (Option.some.inj h).symm⟩

theorem statFrameSentLatency_recorded (h : statFrameSentLatency cfg s frameType seq = some s') :
    CallRecorded cfg s s' (recorded cfg s (.frameSentLatency frameType seq)) := by
  simp only [statFrameSentLatency, Option.bind_eq_bind, Option.bind_eq_some_iff,
    Option.pure_def] at h
  obtain ⟨idx, hidx, e, he, h⟩ := h
  rw [recorded, entryAt_eq hidx he, Option.elim_some, txLatencyRecords]
  split at h
  · cases h
    rename_i hoff
    rw [if_pos hoff, only_nil]
    exact callRecorded_nothing rfl rfl
  · rename_i hoff
    rw [if_neg hoff]
    split at h
    · cases h
      rename_i hdone
      rw [if_pos hdone, only_nil]
      exact callRecorded_nothing rfl rfl
    · rename_i hdone
      rw [if_neg hdone]
      split at h
      · rename_i hlt
        rw [if_pos hlt]
        obtain ⟨rtt, -, h⟩ := Option.bind_eq_some_iff.mp h
        cases h
        refine callRecorded_update rfl rfl (statFrameSentLatencyCommon_recorded _ _) ?_
        intro hm
        rw [statFrameSentLatencyPerPeriod, perPeriod_mqtt hm]
        exact statFrameSentLatencyCommon_recorded _ _
      · rename_i hge
        cases h
        rw [if_neg hge]
        exact callRecorded_update rfl rfl (txHwTimestampMissing_recorded _)
          fun _ => txHwTimestampMissing_recorded _

theorem statProcFirstLatency_recorded
    (h : statProcFirstLatency cfg s frameType cycleNumber txHwTimestamp = some s') :
    CallRecorded cfg s s'
      (recorded cfg s (.procFirstLatency frameType cycleNumber txHwTimestamp)) := by
  simp only [statProcFirstLatency, Option.bind_eq_bind, Option.bind_eq_some_iff,
    Option.pure_def] at h
  obtain ⟨idx, hidx, e, he, h⟩ := h
  rw [recorded, entryAt_eq hidx he, Option.elim_some]
  cases hp : procLatency cfg frameType e.rxHwTs txHwTimestamp with
  | none =>
    rw [hp] at h
    cases h
    rw [Option.elim_none, only_nil]
    exact callRecorded_nothing rfl rfl
  | some latency =>
    rw [hp] at h
    cases h
    refine callRecorded_update rfl rfl (statFrameProcFirstCommon_recorded _ _ _) ?_
    intro hm
    rw [statFrameProcFirstPerPeriod, perPeriod_mqtt hm]
    exact statFrameProcFirstCommon_recorded _ _ _

theorem statProcBatchLatency_recorded
    (h : statProcBatchLatency cfg s frameType cycleNumber lastTxHwTimestamp = some s') :
    CallRecorded cfg s s'
      (recorded cfg s (.procBatchLatency frameType cycleNumber lastTxHwTimestamp)) := by
  simp only [statProcBatchLatency, Option.bind_eq_bind, Option.bind_eq_some_iff,
    Option.pure_def] at h
  obtain ⟨idx, hidx, e, he, rtt, -, h⟩ := h
  rw [recorded, entryAt_eq hidx he, Option.elim_some]
  cases hp : procLatency cfg frameType e.rxHwTs lastTxHwTimestamp with
  | none =>
    rw [hp] at h
    cases h
    rw [Option.elim_none, only_nil]
    exact callRecorded_nothing rfl rfl
  | some latency =>
    rw [hp] at h
    cases h
    refine callRecorded_update rfl rfl (statFrameProcBatchCommon_recorded _ _ _) ?_
    intro hm
    rw [statFrameProcBatchPerPeriod, perPeriod_mqtt hm]
    exact statFrameProcBatchCommon_recorded _ _ _

theorem workload_recorded (w : Fin workloadMax → WorkloadStatistics) (stat : Statistics) :
    Recorded stat { stat with workload := w } [] :=
  ⟨fun c => by cases c <;> rfl, fun l => by cases l <;> rfl, fun l => by cases l <;> rfl, rfl, rfl⟩

/-- Every call but `stat_update` feeds both copies alike. -/
theorem statCall_callRecorded (h : statCall cfg s call = some s')
    (hu : ∀ now, call ≠ .update now) : CallRecorded cfg s s' (recorded cfg s call) := by
  cases call with
  | frameSent frameType cycleNumber now => exact statFramesSentBatch_recorded h
  | framesSentBatch frameType cycleNumber frameCount now =>
    exact statFramesSentBatch_recorded h
  | frameReceived frameType r now => exact statFrameReceived_recorded h
  | frameSentLatency frameType seq =>
    rw [statCall] at h
    split at h
    · exact statFrameSentLatency_recorded h
    · cases h
  | procFirstLatency frameType cycleNumber txHwTimestamp =>
    rw [statCall] at h
    split at h
    · exact statProcFirstLatency_recorded h
    · cases h
  | procBatchLatency frameType cycleNumber lastTxHwTimestamp =>
    rw [statCall] at h
    split at h
    · exact statProcBatchLatency_recorded h
    · cases h
  | frameWorkload frameType id startTime now =>
    cases h
    rw [recorded, ← only_nil frameType]
    refine callRecorded_update rfl rfl (workload_recorded _ _) ?_
    intro hm
    rw [perPeriod_mqtt hm]
    exact workload_recorded _ _
  | incWorkloadOutlier frameType id =>
    cases h
    rw [recorded, ← only_nil frameType]
    refine callRecorded_update rfl rfl ?_ fun _ => .refl _
    dsimp only
    split
    · exact workload_recorded _ _
    · exact .refl _
  | update now => exact absurd rfl (hu now)
  | resetRequest =>
    cases h
    exact callRecorded_nothing rfl rfl
  | txHwTimestamp frameType idx hwTs =>
    obtain ⟨rtt, -, h⟩ := Option.bind_eq_some_iff.mp h
    cases h
    exact callRecorded_nothing rfl rfl

theorem statCall_recorded (hm : cfg.build.withMqtt = true) (h : statCall cfg s call = some s')
    (hu : ∀ now, call ≠ .update now) : BothRecorded s s' (recorded cfg s call) := by
  intro t
  obtain ⟨hglobal, hperiod⟩ := statCall_callRecorded h hu t
  exact ⟨hglobal, hperiod hm⟩

end RtcTestbench
