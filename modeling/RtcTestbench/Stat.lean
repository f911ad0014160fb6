import Mathlib
import RtcTestbench.RxFrame

namespace RtcTestbench
open Function
set_option autoImplicit true

inductive LogStatOption where
  | reference | mirror | txTimestamps
  deriving DecidableEq, Repr

/-- `struct workload_statistics` without its floating-point members. -/
structure WorkloadStatistics where
  rxWorkloadMin : UInt64
  rxWorkloadMax : UInt64
  rxWorkloadCount : UInt64
  rxWorkloadOutliers : UInt64
  deriving DecidableEq

def workloadMax : Nat := 32

/-- `struct statistics` without its floating-point members. -/
structure Statistics where
  timeStamp : UInt64
  framesSent : UInt64
  framesReceived : UInt64
  outOfOrderErrors : UInt64
  frameIdErrors : UInt64
  payloadErrors : UInt64
  roundTripMin : UInt64
  roundTripMax : UInt64
  roundTripCount : UInt64
  roundTripOutliers : UInt64
  onewayMin : Int64
  onewayMax : Int64
  onewayCount : UInt64
  onewayOutliers : UInt64
  procFirstMin : UInt64
  procFirstMax : UInt64
  procFirstCount : UInt64
  procFirstOutliers : UInt64
  procBatchMin : UInt64
  procBatchMax : UInt64
  procBatchCount : UInt64
  procBatchOutliers : UInt64
  rxMin : UInt64
  rxMax : UInt64
  rxCount : UInt64
  rxHw2swMin : UInt64
  rxHw2swMax : UInt64
  rxSw2appMin : UInt64
  rxSw2appMax : UInt64
  workload : Fin workloadMax → WorkloadStatistics
  txMin : UInt64
  txMax : UInt64
  txCount : UInt64
  txHwTimestampMissing : UInt64

def uint64Max : UInt64 := 0xffffffffffffffff

def statZero : Statistics where
  timeStamp := 0
  framesSent := 0
  framesReceived := 0
  outOfOrderErrors := 0
  frameIdErrors := 0
  payloadErrors := 0
  roundTripMin := 0
  roundTripMax := 0
  roundTripCount := 0
  roundTripOutliers := 0
  onewayMin := 0
  onewayMax := 0
  onewayCount := 0
  onewayOutliers := 0
  procFirstMin := 0
  procFirstMax := 0
  procFirstCount := 0
  procFirstOutliers := 0
  procBatchMin := 0
  procBatchMax := 0
  procBatchCount := 0
  procBatchOutliers := 0
  rxMin := 0
  rxMax := 0
  rxCount := 0
  rxHw2swMin := 0
  rxHw2swMax := 0
  rxSw2appMin := 0
  rxSw2appMax := 0
  workload := fun _ => ⟨0, 0, 0, 0⟩
  txMin := 0
  txMax := 0
  txCount := 0
  txHwTimestampMissing := 0

def statReset : Statistics :=
  { statZero with
    roundTripMin := uint64Max
    onewayMin := Int64.maxValue
    onewayMax := Int64.minValue
    rxMin := uint64Max
    rxHw2swMin := uint64Max
    rxSw2appMin := uint64Max
    workload := fun _ => ⟨uint64Max, 0, 0, 0⟩
    txMin := uint64Max
    procFirstMin := uint64Max
    procBatchMin := uint64Max }

structure RttEntry where
  swTs : UInt64
  hwTs : UInt64
  rxHwTs : UInt64
  deriving DecidableEq, Repr

/-- `struct round_trip_context`; a null pointer is `none`. -/
structure RoundTripContext where
  backlog : Option (List RttEntry)
  backlogLen : UInt64

structure Histogram where
  data : List UInt64
  min : UInt64
  max : UInt64
  underflow : UInt64
  overflow : UInt64

/-- The variables of `stat.c` and `hist.c`; `exited` after the tracing of outliers has ended the
program. -/
structure StatState where
  globalStatistics : StatFrameType → Statistics
  globalStatisticsForLog : StatFrameType → Statistics
  statisticsPerPeriod : StatFrameType → Statistics
  statisticsPerPeriodForLog : StatFrameType → Statistics
  roundTripContexts : StatFrameType → RoundTripContext
  histograms : StatFrameType → Histogram
  lastTs : UInt64
  resetStats : Bool
  exited : Bool

/-- What the statistics code reads of the build, the configuration and the mode. -/
structure StatConfig where
  build : BuildConfig
  app : AppConfig
  logStatUserSelected : LogStatOption

def StatConfig.rttExpectedRtLimit (cfg : StatConfig) : UInt64 :=
  cfg.app.applicationBaseCycleTimeNs * 2 / 1000

def StatConfig.framesPerCycle (cfg : StatConfig) (frameType : StatFrameType) : UInt64 :=
  (cfg.app.classes frameType).numFramesPerCycle

def StatConfig.txHwtstampEnabled (cfg : StatConfig) (frameType : StatFrameType) : Bool :=
  (cfg.app.classes frameType).txHwtstampEnabled

def statFrameTypeIsRealTime : StatFrameType → Bool
  | .tsnHigh | .tsnLow | .rtc | .genericL2 => true
  | _ => false

def statMaxBacklog : UInt64 := 1024

def callocArray (nmemb size : Nat) (zero : α) : Option (List α) :=
  if nmemb * size ≤ ptrdiffMax then some (List.replicate nmemb zero) else none

def needsBacklog (cfg : StatConfig) (frameType : StatFrameType) : Bool :=
  cfg.logStatUserSelected = .reference ||
    (cfg.logStatUserSelected = .txTimestamps && cfg.txHwtstampEnabled frameType)

/-- The backlog a class gets; a null pointer where the allocation failed. -/
def roundTripContextInit (cfg : StatConfig) (frameType : StatFrameType) : RoundTripContext :=
  if needsBacklog cfg frameType then
    let backlogLen := statMaxBacklog * cfg.framesPerCycle frameType
    ⟨callocArray backlogLen.toNat 24 ⟨0, 0, 0⟩, backlogLen⟩
  else ⟨none, 0⟩

def statFrameTypes : List StatFrameType :=
  [.tsnHigh, .tsnLow, .rtc, .rta, .dcp, .lldp, .udpHigh, .udpLow, .genericL2]

/-- The part of `histogram_init` that does not concern the file; without histogram nothing is
allocated and nothing is used. -/
def histogramInit (cfg : StatConfig) : Histogram :=
  let min := cfg.app.statsHistogramMinimumNs / 1000
  let max := cfg.app.statsHistogramMaximumNs / 1000
  if cfg.app.statsHistogramEnabled then ⟨List.replicate (max - min).toNat 0, min, max, 0, 0⟩
  else ⟨[], 0, 0, 0, 0⟩

/-- `stat_init`; `none` when a backlog cannot be allocated. -/
def statInit (cfg : StatConfig) : Option StatState :=
  if statFrameTypes.any fun frameType =>
      needsBacklog cfg frameType && (roundTripContextInit cfg frameType).backlog.isNone then none
  else some {
    globalStatistics := fun _ => statReset
    globalStatisticsForLog := fun _ => statZero
    statisticsPerPeriod := fun _ => statReset
    statisticsPerPeriodForLog := fun _ => statZero
    roundTripContexts := roundTripContextInit cfg
    histograms := fun _ => histogramInit cfg
    lastTs := 0
    resetStats := false
    exited := false }

/-- `stat_update_min_max` and its signed twin: the new minimum and the new maximum. -/
def statUpdateMinMax [LT α] [DecidableLT α] (newValue min max : α) : α × α :=
  (if newValue < min then newValue else min, if newValue > max then newValue else max)

/-- The times `stat_frame_received` derives from the clock and its arguments, in microseconds. -/
structure RxTimes where
  rtTime : UInt64
  onewayTime : Int64
  rxHw2appTime : UInt64
  rxHw2swTime : UInt64
  rxSw2appTime : UInt64

section Common
variable (cfg : StatConfig) (frameType : StatFrameType)

/-- The round trip part of `stat_frame_received_common`, and whether it saw an outlier. -/
def recordRoundTrip (rtTime : UInt64) (stat : Statistics) : Statistics × Bool :=
  if cfg.logStatUserSelected = .reference then
    let outlier := statFrameTypeIsRealTime frameType && decide (rtTime > cfg.rttExpectedRtLimit)
    let minMax := statUpdateMinMax rtTime stat.roundTripMin stat.roundTripMax
    ({ stat with
      roundTripOutliers := if outlier then stat.roundTripOutliers + 1 else stat.roundTripOutliers
      roundTripMin := minMax.1
      roundTripMax := minMax.2
      roundTripCount := stat.roundTripCount + 1 }, outlier)
  else (stat, false)

def recordOneway (onewayTime : Int64) (stat : Statistics) : Statistics × Bool :=
  let outlier := statFrameTypeIsRealTime frameType &&
    decide (onewayTime > (cfg.rttExpectedRtLimit / 2).toInt64)
  let minMax := statUpdateMinMax onewayTime stat.onewayMin stat.onewayMax
  ({ stat with
    onewayMin := minMax.1
    onewayMax := minMax.2
    onewayOutliers := if outlier then stat.onewayOutliers + 1 else stat.onewayOutliers
    onewayCount := stat.onewayCount + 1 }, outlier)

/-- The receive latencies count only if none of them is zero. -/
def recordRx (times : RxTimes) (stat : Statistics) : Statistics :=
  if times.rxHw2appTime ≠ 0 ∧ times.rxHw2swTime ≠ 0 ∧ times.rxSw2appTime ≠ 0 then
    let rx := statUpdateMinMax times.rxHw2appTime stat.rxMin stat.rxMax
    let hw2sw := statUpdateMinMax times.rxHw2swTime stat.rxHw2swMin stat.rxHw2swMax
    let sw2app := statUpdateMinMax times.rxSw2appTime stat.rxSw2appMin stat.rxSw2appMax
    { stat with
      rxCount := stat.rxCount + 1
      rxMin := rx.1
      rxMax := rx.2
      rxHw2swMin := hw2sw.1
      rxHw2swMax := hw2sw.2
      rxSw2appMin := sw2app.1
      rxSw2appMax := sw2app.2 }
  else stat

def statFrameReceivedCommon (times : RxTimes) (r : RxReport) (stat : Statistics) :
    Statistics × Bool :=
  let roundTrip := recordRoundTrip cfg frameType times.rtTime stat
  let oneway := recordOneway cfg frameType times.onewayTime roundTrip.1
  let rx := recordRx times oneway.1
  ({ rx with
    framesReceived := rx.framesReceived + 1
    outOfOrderErrors := rx.outOfOrderErrors + r.outOfOrder.toUInt64
    payloadErrors := rx.payloadErrors + r.payloadMismatch.toUInt64
    frameIdErrors := rx.frameIdErrors + r.frameIdMismatch.toUInt64 },
    roundTrip.2 || oneway.2)

def statFrameSentLatencyCommon (txLatencyUs : UInt64) (stat : Statistics) : Statistics :=
  let minMax := statUpdateMinMax txLatencyUs stat.txMin stat.txMax
  { stat with txMin := minMax.1, txMax := minMax.2, txCount := stat.txCount + 1 }

def StatConfig.procOutlier (latencyUs : UInt64) : Bool :=
  decide (latencyUs > cfg.app.applicationBaseCycleTimeNs / 1000)

def statFrameProcFirstCommon (procFirstUs : UInt64) (stat : Statistics) : Statistics :=
  let minMax := statUpdateMinMax procFirstUs stat.procFirstMin stat.procFirstMax
  { stat with
    procFirstOutliers := if cfg.procOutlier procFirstUs then stat.procFirstOutliers + 1
      else stat.procFirstOutliers
    procFirstMin := minMax.1
    procFirstMax := minMax.2
    procFirstCount := stat.procFirstCount + 1 }

def statFrameProcBatchCommon (procBatchUs : UInt64) (stat : Statistics) : Statistics :=
  let minMax := statUpdateMinMax procBatchUs stat.procBatchMin stat.procBatchMax
  { stat with
    procBatchOutliers := if cfg.procOutlier procBatchUs then stat.procBatchOutliers + 1
      else stat.procBatchOutliers
    procBatchMin := minMax.1
    procBatchMax := minMax.2
    procBatchCount := stat.procBatchCount + 1 }

/-- The per-period functions do nothing in a build without MQTT. -/
def perPeriod (f : Statistics → Statistics) (stat : Statistics) : Statistics :=
  if cfg.build.withMqtt then f stat else stat

def statFrameReceivedPerPeriod (currTime : UInt64) (times : RxTimes) (r : RxReport) :
    Statistics → Statistics :=
  perPeriod cfg fun stat =>
    (statFrameReceivedCommon cfg frameType times r { stat with timeStamp := currTime }).1

def statFrameSentPerPeriod : Statistics → Statistics :=
  perPeriod cfg fun stat => { stat with framesSent := stat.framesSent + 1 }

def statFrameSentLatencyPerPeriod (txLatencyUs : UInt64) : Statistics → Statistics :=
  perPeriod cfg (statFrameSentLatencyCommon txLatencyUs)

def statFrameProcFirstPerPeriod (procFirstUs : UInt64) : Statistics → Statistics :=
  perPeriod cfg (statFrameProcFirstCommon cfg procFirstUs)

def statFrameProcBatchPerPeriod (procBatchUs : UInt64) : Statistics → Statistics :=
  perPeriod cfg (statFrameProcBatchCommon cfg procBatchUs)

/-- The body `stat_frame_workload` and its per-period twin share. -/
def workloadRecord (workloadTime : UInt64) (w : WorkloadStatistics) : WorkloadStatistics :=
  let minMax := statUpdateMinMax workloadTime w.rxWorkloadMin w.rxWorkloadMax
  let counts := w.rxWorkloadCount > (cfg.app.classes frameType).rxWorkloadSkipCount
  { w with
    rxWorkloadMin := if counts then minMax.1 else w.rxWorkloadMin
    rxWorkloadMax := if counts then minMax.2 else w.rxWorkloadMax
    rxWorkloadCount := w.rxWorkloadCount + 1 }

end Common

/-- `c % backlog_len`; the division traps on an empty backlog. -/
def RoundTripContext.index (rtt : RoundTripContext) (c : UInt64) : Option Nat :=
  if rtt.backlogLen = 0 then none else some (c % rtt.backlogLen).toNat

/-- `none` for a null pointer or an index outside of the backlog. -/
def RoundTripContext.entry (rtt : RoundTripContext) (idx : Nat) : Option RttEntry :=
  rtt.backlog.bind fun backlog => backlog[idx]?

def RoundTripContext.modify (rtt : RoundTripContext) (idx : Nat) (f : RttEntry → RttEntry) :
    Option RoundTripContext := do
  let backlog ← rtt.backlog
  let e ← backlog[idx]?
  return { rtt with backlog := some (backlog.set idx (f e)) }

section Functions
variable (cfg : StatConfig) (s : StatState) (frameType : StatFrameType)

def firstFrameInCycle (cycleNumber : UInt64) : Option UInt64 :=
  let framesPerCycle := cfg.framesPerCycle frameType
  if framesPerCycle = 0 then none else some (cycleNumber / framesPerCycle * framesPerCycle)

def getFirstFrameBacklogIdx (cycleNumber : UInt64) : Option Nat := do
  let first ← firstFrameInCycle cfg frameType cycleNumber
  (s.roundTripContexts frameType).index first

/-- One iteration of the loops in `stat_frames_sent_batch`: slots of frames before `first` have
been written by an earlier batch. -/
def stampSlot (first txTime c : UInt64) (rtt : RoundTripContext) : Option RoundTripContext :=
  if c < first then some rtt
  else do
    let idx ← rtt.index c
    rtt.modify idx fun e => { e with swTs := txTime }

/-- `for (; c < stop; c += step)`. As many iterations as there are counters without reaching the
end means that there is none. -/
def stampSlots (first stop step txTime : UInt64) :
    Nat → UInt64 → RoundTripContext → Option RoundTripContext
  | 0, _, _ => none
  | fuel + 1, c, rtt =>
    if c < stop then
      (stampSlot first txTime c rtt).bind (stampSlots first stop step txTime fuel (c + step))
    else some rtt

def recordTxTime (cycleNumber frameCount txTime : UInt64) (rtt : RoundTripContext) :
    Option RoundTripContext :=
  if cfg.logStatUserSelected ≠ .mirror ∧ rtt.backlog.isSome then
    let stop := cycleNumber + frameCount
    if cfg.txHwtstampEnabled frameType then do
      let base ← firstFrameInCycle cfg frameType cycleNumber
      stampSlots cycleNumber stop (cfg.framesPerCycle frameType) txTime (2 ^ 64) base rtt
    else stampSlots cycleNumber stop 1 txTime (2 ^ 64) cycleNumber rtt
  else some rtt

def statFramesSentBatch (cycleNumber frameCount now : UInt64) : Option StatState := do
  let rtt ← recordTxTime cfg frameType cycleNumber frameCount now (s.roundTripContexts frameType)
  let stat := s.globalStatistics frameType
  return { s with
    roundTripContexts := update s.roundTripContexts frameType rtt
    statisticsPerPeriod := update s.statisticsPerPeriod frameType
      (Nat.repeat (statFrameSentPerPeriod cfg) frameCount.toNat (s.statisticsPerPeriod frameType))
    globalStatistics := update s.globalStatistics frameType
      { stat with framesSent := stat.framesSent + frameCount } }

def statFrameSent (cycleNumber now : UInt64) : Option StatState :=
  statFramesSentBatch cfg s frameType cycleNumber 1 now

def StatState.updateBoth (global period : Statistics → Statistics) : StatState :=
  { s with
    globalStatistics := update s.globalStatistics frameType
      (global (s.globalStatistics frameType))
    statisticsPerPeriod := update s.statisticsPerPeriod frameType
      (period (s.statisticsPerPeriod frameType)) }

def StatState.setRoundTrip (rtt : RoundTripContext) : StatState :=
  { s with roundTripContexts := update s.roundTripContexts frameType rtt }

def statFrameSentLatency (seq : UInt64) : Option StatState := do
  let rtt := s.roundTripContexts frameType
  let idx ← rtt.index seq
  let e ← rtt.entry idx
  if !cfg.txHwtstampEnabled frameType then return s
  -- already processed
  else if e.swTs ≠ 0 ∧ e.hwTs = 0 then return s
  else if e.hwTs > e.swTs then
    let latency := ((e.hwTs - e.swTs).toInt64 / 1000).toUInt64
    let rtt ← rtt.modify idx fun e => { e with hwTs := 0 }
    return (s.updateBoth frameType (statFrameSentLatencyCommon latency)
      (statFrameSentLatencyPerPeriod cfg latency)).setRoundTrip frameType rtt
  else
    let missing := fun stat : Statistics =>
      { stat with txHwTimestampMissing := stat.txHwTimestampMissing + 1 }
    return s.updateBoth frameType missing missing

/-- Keep the hardware time stamp of the first frame of a cycle for the mirror. -/
def storeRxHwTimestamp (r : RxReport) : Option RoundTripContext :=
  let rtt := s.roundTripContexts frameType
  if cfg.logStatUserSelected = .txTimestamps ∧ cfg.txHwtstampEnabled frameType ∧
      cfg.build.rxTimestamp ∧ r.rxHwTimestamp ≠ 0 ∧ rtt.backlog.isSome then
    if cfg.framesPerCycle frameType = 0 then none
    else if r.sequenceCounter % cfg.framesPerCycle frameType = 0 then do
      let idx ← getFirstFrameBacklogIdx cfg s frameType r.sequenceCounter
      rtt.modify idx fun e => { e with rxHwTs := r.rxHwTimestamp }
    else some rtt
  else some rtt

def txTimeIdx (cycleNumber : UInt64) : Option Nat :=
  if cfg.txHwtstampEnabled frameType then getFirstFrameBacklogIdx cfg s frameType cycleNumber
  else (s.roundTripContexts frameType).index cycleNumber

def roundTripTime (cycleNumber currTime : UInt64) : Option UInt64 := do
  let idx ← txTimeIdx cfg s frameType cycleNumber
  let e ← (s.roundTripContexts frameType).entry idx
  return if e.swTs ≠ 0 then (currTime - e.swTs) / 1000 else 0

def rtTimeOf (cycleNumber currTime : UInt64) : Option UInt64 :=
  if cfg.logStatUserSelected = .reference then roundTripTime cfg s frameType cycleNumber currTime
  else some 0

def histogramUpdate (hist : Histogram) (rtt : UInt64) : Option Histogram :=
  let sample := (rtt - hist.min).toNat
  if rtt ≥ hist.max then some { hist with overflow := hist.overflow + 1 }
  else if rtt < hist.min then some { hist with underflow := hist.underflow + 1 }
  else (hist.data[sample]?).map fun k => { hist with data := hist.data.set sample (k + 1) }

def recordHistogram (rtTime : UInt64) : Option Histogram :=
  if cfg.logStatUserSelected = .reference ∧ cfg.app.statsHistogramEnabled then
    histogramUpdate (s.histograms frameType) rtTime
  else some (s.histograms frameType)

def rxTimesOf (rtTime : UInt64) (r : RxReport) (currTime : UInt64) : RxTimes :=
  let onewayTime := (currTime.toInt64 - r.txTimestamp.toInt64) / 1000
  if r.rxHwTimestamp ≠ 0 ∧ r.rxSwTimestamp ≠ 0 ∧ r.rxHwTimestamp ≤ r.rxSwTimestamp ∧
      r.rxSwTimestamp ≤ currTime then
    ⟨rtTime, onewayTime, (currTime - r.rxHwTimestamp) / 1000,
      (r.rxSwTimestamp - r.rxHwTimestamp) / 1000, (currTime - r.rxSwTimestamp) / 1000⟩
  else ⟨rtTime, onewayTime, 0, 0, 0⟩

def statFrameReceived (r : RxReport) (currTime : UInt64) : Option StatState := do
  let rtt ← storeRxHwTimestamp cfg s frameType r
  let s := s.setRoundTrip frameType rtt
  let rtTime ← rtTimeOf cfg s frameType r.sequenceCounter currTime
  let hist ← recordHistogram cfg s frameType rtTime
  let times := rxTimesOf rtTime r currTime
  let outlier := (statFrameReceivedCommon cfg frameType times r
    (s.globalStatistics frameType)).2
  return { s.updateBoth frameType (fun stat =>
    (statFrameReceivedCommon cfg frameType times r stat).1)
      (statFrameReceivedPerPeriod cfg frameType currTime times r) with
    histograms := update s.histograms frameType hist
    exited := cfg.app.debugStopTraceOnOutlier && outlier }

/-- Whether a pair of hardware time stamps gives a processing time, and which. -/
def procLatency (rxHwTs txHwTimestamp : UInt64) : Option UInt64 :=
  if !cfg.build.rxTimestamp || !cfg.txHwtstampEnabled frameType then none
  else if rxHwTs = 0 ∨ txHwTimestamp = 0 then none
  else if txHwTimestamp > rxHwTs then some ((txHwTimestamp - rxHwTs) / 1000)
  else none

def statProcFirstLatency (cycleNumber txHwTimestamp : UInt64) : Option StatState := do
  let idx ← getFirstFrameBacklogIdx cfg s frameType cycleNumber
  let e ← (s.roundTripContexts frameType).entry idx
  match procLatency cfg frameType e.rxHwTs txHwTimestamp with
  | none => return s
  | some latency =>
    return s.updateBoth frameType (statFrameProcFirstCommon cfg latency)
      (statFrameProcFirstPerPeriod cfg latency)

/-- The receive time stamp is used up whether or not it gives a sample. -/
def statProcBatchLatency (cycleNumber lastTxHwTimestamp : UInt64) : Option StatState := do
  let rtt := s.roundTripContexts frameType
  let idx ← getFirstFrameBacklogIdx cfg s frameType cycleNumber
  let e ← rtt.entry idx
  let rtt ← rtt.modify idx fun e => { e with rxHwTs := 0 }
  let s := s.setRoundTrip frameType rtt
  match procLatency cfg frameType e.rxHwTs lastTxHwTimestamp with
  | none => return s
  | some latency =>
    return s.updateBoth frameType (statFrameProcBatchCommon cfg latency)
      (statFrameProcBatchPerPeriod cfg latency)

def statFrameWorkload (id : Fin workloadMax) (startTime currTime : UInt64) : StatState :=
  let workloadTime := (currTime - startTime) / 1000
  let record := fun stat : Statistics =>
    { stat with
      workload := update stat.workload id
        (workloadRecord cfg frameType workloadTime (stat.workload id)) }
  s.updateBoth frameType record (perPeriod cfg record)

/-- Only the global copy is touched. -/
def statIncWorkloadOutlier (id : Fin workloadMax) : StatState :=
  s.updateBoth frameType (fun stat =>
    let w := stat.workload id
    if w.rxWorkloadCount > (cfg.app.classes frameType).rxWorkloadSkipCount then
      { stat with
        workload := update stat.workload id
          { w with rxWorkloadOutliers := w.rxWorkloadOutliers + 1 } }
    else stat) fun stat => stat

def startTs (currTime : UInt64) : UInt64 := if s.lastTs = 0 then currTime else s.lastTs

def collectionDue (currTime : UInt64) : Bool :=
  decide (currTime - startTs s currTime ≥ cfg.app.statsCollectionIntervalNs)

def statUpdate (currTime : UInt64) : StatState :=
  if !collectionDue cfg s currTime then { s with lastTs := startTs s currTime }
  else
    let s := { s with lastTs := currTime, globalStatisticsForLog := s.globalStatistics }
    let s := if cfg.build.withMqtt then
        { s with
          statisticsPerPeriodForLog := s.statisticsPerPeriod
          statisticsPerPeriod := fun _ => statReset }
      else s
    if s.resetStats then { s with globalStatistics := fun _ => statReset, resetStats := false }
    else s

end Functions

/-- What happens to the statistics. Next to the functions of `stat.c` these are the request to
reset, which a signal handler makes, and the hardware time stamp a completion brings. -/
inductive StatCall where
  | frameSent (frameType : StatFrameType) (cycleNumber now : UInt64)
  | framesSentBatch (frameType : StatFrameType) (cycleNumber frameCount now : UInt64)
  | frameReceived (frameType : StatFrameType) (r : RxReport) (now : UInt64)
  | frameSentLatency (frameType : StatFrameType) (seq : UInt64)
  | procFirstLatency (frameType : StatFrameType) (cycleNumber txHwTimestamp : UInt64)
  | procBatchLatency (frameType : StatFrameType) (cycleNumber lastTxHwTimestamp : UInt64)
  | frameWorkload (frameType : StatFrameType) (id : Fin workloadMax) (startTime now : UInt64)
  | incWorkloadOutlier (frameType : StatFrameType) (id : Fin workloadMax)
  | update (now : UInt64)
  | resetRequest
  | txHwTimestamp (frameType : StatFrameType) (idx : Nat) (hwTs : UInt64)

/-- One call; `none` when it traps or never returns, or when the build does not have it. -/
def statCall (cfg : StatConfig) (s : StatState) : StatCall → Option StatState
  | .frameSent frameType cycleNumber now => statFrameSent cfg s frameType cycleNumber now
  | .framesSentBatch frameType cycleNumber frameCount now =>
    statFramesSentBatch cfg s frameType cycleNumber frameCount now
  | .frameReceived frameType r now => statFrameReceived cfg s frameType r now
  | .frameSentLatency frameType seq =>
    if cfg.build.txTimestamp then statFrameSentLatency cfg s frameType seq else none
  | .procFirstLatency frameType cycleNumber txHwTimestamp =>
    if cfg.build.txTimestamp then
      statProcFirstLatency cfg s frameType cycleNumber txHwTimestamp
    else none
  | .procBatchLatency frameType cycleNumber lastTxHwTimestamp =>
    if cfg.build.txTimestamp then
      statProcBatchLatency cfg s frameType cycleNumber lastTxHwTimestamp
    else none
  | .frameWorkload frameType id startTime now =>
    some (statFrameWorkload cfg s frameType id startTime now)
  | .incWorkloadOutlier frameType id => some (statIncWorkloadOutlier cfg s frameType id)
  | .update now => some (statUpdate cfg s now)
  | .resetRequest => some { s with resetStats := true }
  | .txHwTimestamp frameType idx hwTs => do
    let rtt ← (s.roundTripContexts frameType).modify idx fun e => { e with hwTs }
    return s.setRoundTrip frameType rtt

/-- After the exit nothing runs any more. -/
def statStep (cfg : StatConfig) (s : StatState) (call : StatCall) : Option StatState :=
  if s.exited then some s else statCall cfg s call

end RtcTestbench
