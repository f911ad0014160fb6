import RtcTestbench.Histogram

namespace RtcTestbench
open Function Tally
set_option autoImplicit true

/-- What the steps of a run contribute, up to the exit of the program. -/
def alongRun (cfg : StatConfig) (f : StatState → StatCall → List α) :
    StatState → List StatCall → List α
  | _, [] => []
  | s, call :: calls =>
    if s.exited then []
    else f s call ++ (statStep cfg s call).elim [] fun s' => alongRun cfg f s' calls

/-- A reception whose time stamps are there and in order. -/
structure StampedFrame where
  hw : UInt64
  sw : UInt64
  now : UInt64
  valid : 0 < hw ∧ hw ≤ sw ∧ sw ≤ now

namespace StampedFrame
variable (f : StampedFrame)

def hw2app : UInt64 := (f.now - f.hw) / 1000

def hw2sw : UInt64 := (f.sw - f.hw) / 1000

def sw2app : UInt64 := (f.now - f.sw) / 1000

/-- Neither part of the way took less than a microsecond. -/
def TakesTime : Prop := 1000 ≤ f.sw - f.hw ∧ 1000 ≤ f.now - f.sw

instance : Decidable f.TakesTime := inferInstanceAs (Decidable (_ ∧ _))

end StampedFrame

def StatCall.stamped (t : StatFrameType) : StatCall → List StampedFrame
  | .frameReceived frameType r now =>
    if h : frameType = t ∧ 0 < r.rxHwTimestamp ∧ r.rxHwTimestamp ≤ r.rxSwTimestamp ∧
        r.rxSwTimestamp ≤ now then
      [⟨r.rxHwTimestamp, r.rxSwTimestamp, now, h.2⟩]
    else []
  | _ => []

def stampedFrames (cfg : StatConfig) (t : StatFrameType) : StatState → List StatCall →
    List StampedFrame :=
  alongRun cfg fun _ call => call.stamped t

/-- The receive latencies in the statistics are those of exactly these frames. -/
structure RxSummary (stat : Statistics) (frames : List StampedFrame) : Prop where
  count : stat.rxCount = UInt64.ofNat frames.length
  min : Extreme (· < ·) uint64Max stat.rxMin (frames.map (·.hw2app))
  max : Extreme (· > ·) 0 stat.rxMax (frames.map (·.hw2app))
  hw2swMin : Extreme (· < ·) uint64Max stat.rxHw2swMin (frames.map (·.hw2sw))
  hw2swMax : Extreme (· > ·) 0 stat.rxHw2swMax (frames.map (·.hw2sw))
  sw2appMin : Extreme (· < ·) uint64Max stat.rxSw2appMin (frames.map (·.sw2app))
  sw2appMax : Extreme (· > ·) 0 stat.rxSw2appMax (frames.map (·.sw2app))

section Runs
variable {cfg : StatConfig} {s s' : StatState} {call : StatCall} {calls : List StatCall}

theorem run_cons (h : (call :: calls).foldlM (statStep cfg) s = some s') :
    ∃ s₁, statStep cfg s call = some s₁ ∧ calls.foldlM (statStep cfg) s₁ = some s' := by
  rw [List.foldlM_cons, Option.bind_eq_bind] at h
  exact Option.bind_eq_some_iff.mp h

theorem statStep_running (hex : ¬ s.exited = true) : statStep cfg s call = statCall cfg s call :=
  if_neg hex

theorem run_exited (hex : s.exited = true) (h : calls.foldlM (statStep cfg) s = some s') :
    s' = s := Option.some.inj (h.symm.trans (statStep_exited hex calls))

theorem alongRun_exited (f : StatState → StatCall → List α) (hex : s.exited = true)
    (calls : List StatCall) : alongRun cfg f s calls = [] := by
  cases calls with
  | nil => rfl
  | cons call calls => exact if_pos hex

theorem alongRun_append (f : StatState → StatCall → List α)
    (h : calls.foldlM (statStep cfg) s = some s') (rest : List StatCall) :
    alongRun cfg f s (calls ++ rest) = alongRun cfg f s calls ++ alongRun cfg f s' rest := by
  induction calls generalizing s with
  | nil =>
    cases h
    rfl
  | cons call calls ih =>
    by_cases hex : s.exited = true
    · rw [run_exited hex h, alongRun_exited f hex, alongRun_exited f hex, alongRun_exited f hex,
        List.append_nil]
    · obtain ⟨s₁, hstep, hrest⟩ := run_cons h
      rw [List.cons_append, alongRun, alongRun, if_neg hex, if_neg hex, hstep, Option.elim_some,
        Option.elim_some, ih hrest, List.append_assoc]

/-- A function that respects concatenation can be applied step by step. -/
theorem map_alongRun (g : List α → List β) (hnil : g [] = [])
    (happend : ∀ xs ys, g (xs ++ ys) = g xs ++ g ys)
    {f : StatState → StatCall → List α} {f' : StatState → StatCall → List β}
    (hstep : ∀ s call s', statCall cfg s call = some s' → g (f s call) = f' s call)
    (h : calls.foldlM (statStep cfg) s = some s') :
    g (alongRun cfg f s calls) = alongRun cfg f' s calls := by
  induction calls generalizing s with
  | nil => exact hnil
  | cons call calls ih =>
    obtain ⟨s₁, hs₁, hrest⟩ := run_cons h
    rw [alongRun, alongRun]
    by_cases hex : s.exited = true
    · rw [if_pos hex, if_pos hex, hnil]
    · have hcall := (statStep_running hex).symm.trans hs₁
      rw [if_neg hex, if_neg hex, happend, hstep s call s₁ hcall, hs₁, Option.elim_some,
        Option.elim_some, ih hrest]

theorem statUpdate_global (hreset : s.resetStats = false) (now : UInt64) :
    (statUpdate cfg s now).globalStatistics = s.globalStatistics := by
  rw [statUpdate]
  split
  · rfl
  · split <;> simp [hreset]

/-- Nothing but a request makes the next collection a reset. -/
theorem statCall_resetStats (hreset : s.resetStats = false) (hcall : call ≠ .resetRequest)
    (h : statCall cfg s call = some s') : s'.resetStats = false := by
  by_cases hrx : ∃ frameType r now, call = .frameReceived frameType r now
  · obtain ⟨frameType, r, now, rfl⟩ := hrx
    simp only [statCall, statFrameReceived, Option.bind_eq_bind, Option.bind_eq_some_iff,
      Option.pure_def, Option.some.injEq] at h
    obtain ⟨rtt, -, rtTime, -, hist, -, rfl⟩ := h
    exact hreset
  · have hne : ∀ frameType r now, call ≠ .frameReceived frameType r now :=
      fun frameType r now heq => hrx ⟨frameType, r, now, heq⟩
    exact (statCall_keepsSamples hreset hcall hne h).reset_eq.trans hreset

theorem statCall_global (hreset : s.resetStats = false) (h : statCall cfg s call = some s')
    (t : StatFrameType) :
    Recorded (s.globalStatistics t) (s'.globalStatistics t) (recorded cfg s call t) := by
  by_cases hu : ∃ now, call = .update now
  · obtain ⟨now, rfl⟩ := hu
    cases h
    rw [statUpdate_global hreset]
    exact .refl _
  · exact (statCall_callRecorded h (fun now heq => hu ⟨now, heq⟩) t).1

/-- Without a reset the global statistics take in everything a run records. -/
theorem run_recorded (hcalls : .resetRequest ∉ calls) (hreset : s.resetStats = false)
    (h : calls.foldlM (statStep cfg) s = some s') (t : StatFrameType) :
    Recorded (s.globalStatistics t) (s'.globalStatistics t)
      (alongRun cfg (fun s call => recorded cfg s call t) s calls) := by
  induction calls generalizing s with
  | nil =>
    cases h
    exact .refl _
  | cons call calls ih =>
    obtain ⟨s₁, hs₁, hrest⟩ := run_cons h
    rw [List.mem_cons, not_or] at hcalls
    rw [alongRun]
    by_cases hex : s.exited = true
    · rw [run_exited hex h, if_pos hex]
      exact .refl _
    · have hcall := (statStep_running hex).symm.trans hs₁
      have hreset₁ := statCall_resetStats hreset (Ne.symm hcalls.1) hcall
      rw [if_neg hex, hs₁, Option.elim_some]
      exact (statCall_global hreset hcall t).trans (ih hcalls.2 hreset₁ hrest)

end Runs

section Samples
variable {cfg : StatConfig} {s s' : StatState} {call : StatCall} {calls : List StatCall}
  {t : StatFrameType}

theorem div_thousand_ne_zero {x : UInt64} : x / 1000 ≠ 0 ↔ 1000 ≤ x := by
  rw [Ne, ← UInt64.toNat_inj, UInt64.toNat_div, UInt64.le_iff_toNat_le]
  exact Nat.div_ne_zero_iff.trans (and_iff_right (by decide))

theorem StampedFrame.takesTime_iff (f : StampedFrame) :
    f.hw2app ≠ 0 ∧ f.hw2sw ≠ 0 ∧ f.sw2app ≠ 0 ↔ f.TakesTime := by
  rw [hw2app, hw2sw, sw2app, div_thousand_ne_zero, div_thousand_ne_zero, div_thousand_ne_zero,
    TakesTime]
  apply and_iff_right_of_imp
  rintro ⟨hhw, -⟩
  obtain ⟨-, hle, hle'⟩ := f.valid
  apply UInt64.le_trans hhw
  rw [UInt64.le_iff_toNat_le, UInt64.toNat_sub_of_le _ _ hle,
    UInt64.toNat_sub_of_le _ _ (UInt64.le_trans hle hle')]
  exact Nat.sub_le_sub_right (UInt64.le_iff_toNat_le.mp hle') _

/-- The records of the receive latencies of a frame. -/
def StampedFrame.records (f : StampedFrame) : List StatRecord :=
  [.count .rxCount 1, .sample .rx f.hw2app, .sample .rxHw2sw f.hw2sw, .sample .rxSw2app f.sw2app]

def StatRecord.isRx : StatRecord → Bool
  | .count .rxCount _ | .sample .rx _ | .sample .rxHw2sw _ | .sample .rxSw2app _ => true
  | _ => false

theorem filter_isRx_received (times : RxTimes) (r : RxReport) :
    (receivedRecords cfg t times r).filter StatRecord.isRx = rxRecords times := by
  have hrt (x : UInt64) : (roundTripRecords cfg t x).filter StatRecord.isRx = [] := by
    rw [roundTripRecords, countIf]
    repeat' split
    all_goals rfl
  have how (x : Int64) : (onewayRecords cfg t x).filter StatRecord.isRx = [] := by
    rw [onewayRecords, countIf]
    split <;> rfl
  have hrx : (rxRecords times).filter StatRecord.isRx = rxRecords times := by
    rw [rxRecords]
    split <;> rfl
  rw [receivedRecords, List.filter_append, List.filter_append, List.filter_append, hrt, how, hrx]
  exact List.append_nil _

theorem filter_only (frameType : StatFrameType) (rs : List StatRecord) (p : StatRecord → Bool) :
    (only frameType rs t).filter p = if t = frameType then rs.filter p else [] := by
  rw [only]
  split <;> rfl

theorem all_only {p : StatRecord → Bool} (h : rs.all p = true) :
    (only frameType rs t).all p = true := by
  rw [only]
  split
  · exact h
  · rfl

theorem all_elim {p : StatRecord → Bool} {o : Option α} {f : α → List StatRecord}
    (h : ∀ a, (f a).all p = true) : (o.elim [] f).all p = true := by
  cases o with
  | none => rfl
  | some a => exact h a

/-- The records of the sending side. -/
def StatRecord.ofSender : StatRecord → Bool
  | .count .framesSent _ | .count .txCount _ | .count .txHwTimestampMissing _ | .sample .tx _
  | .count .procFirstCount _ | .count .procFirstOutliers _ | .sample .procFirst _
  | .count .procBatchCount _ | .count .procBatchOutliers _ | .sample .procBatch _ => true
  | _ => false

/-- Only a reception records anything about received frames. -/
theorem recorded_ofSender (hrx : ∀ frameType r now, call ≠ .frameReceived frameType r now) :
    (recorded cfg s call t).all StatRecord.ofSender = true := by
  cases call with
  | frameSent | framesSentBatch => exact all_only rfl
  | frameReceived frameType r now => exact absurd rfl (hrx frameType r now)
  | frameSentLatency frameType seq =>
    apply all_only
    apply all_elim
    intro e
    rw [txLatencyRecords]
    repeat' split
    all_goals rfl
  | procFirstLatency frameType cycleNumber txHwTimestamp =>
    apply all_only
    apply all_elim
    intro e
    apply all_elim
    intro us
    rw [procFirstRecords, countIf]
    split <;> rfl
  | procBatchLatency frameType cycleNumber lastTxHwTimestamp =>
    apply all_only
    apply all_elim
    intro e
    apply all_elim
    intro us
    rw [procBatchRecords, countIf]
    split <;> rfl
  | frameWorkload | incWorkloadOutlier | update | resetRequest | txHwTimestamp => rfl

theorem isRx_of_ofSender (h : StatRecord.ofSender x = true) : x.isRx = false := by
  cases x with
  | count c k => cases c <;> first | rfl | cases h
  | sample l us => cases l <;> first | rfl | cases h
  | oneway us => cases h

theorem stamps_valid_iff (hw sw now : UInt64) :
    hw ≠ 0 ∧ sw ≠ 0 ∧ hw ≤ sw ∧ sw ≤ now ↔ 0 < hw ∧ hw ≤ sw ∧ sw ≤ now := by
  rw [UInt64.pos_iff_ne_zero]
  constructor
  · rintro ⟨hhw, -, hle⟩
    exact ⟨hhw, hle⟩
  · rintro ⟨hhw, hle, hnow⟩
    have hsw : 0 < sw := UInt64.lt_of_lt_of_le (UInt64.pos_iff_ne_zero.mpr hhw) hle
    exact ⟨hhw, UInt64.pos_iff_ne_zero.mp hsw, hle, hnow⟩

theorem flatMap_records_singleton (f : StampedFrame) :
    ([f].filter fun f => f.TakesTime).flatMap StampedFrame.records =
      if f.TakesTime then f.records else [] := by
  by_cases h : f.TakesTime <;> simp [h]

theorem rxRecords_stamped (rtTime : UInt64) (r : RxReport) (now : UInt64) :
    rxRecords (rxTimesOf rtTime r now) =
      (((StatCall.frameReceived t r now).stamped t).filter fun f => f.TakesTime).flatMap
        StampedFrame.records := by
  rw [StatCall.stamped, rxTimesOf]
  by_cases hvalid : 0 < r.rxHwTimestamp ∧ r.rxHwTimestamp ≤ r.rxSwTimestamp ∧
      r.rxSwTimestamp ≤ now
  · have htimes := (StampedFrame.mk _ _ _ hvalid).takesTime_iff
    rw [if_pos ((stamps_valid_iff _ _ _).mpr hvalid), dif_pos ⟨rfl, hvalid⟩, rxRecords]
    rw [flatMap_records_singleton]
    exact if_congr htimes rfl rfl
  · rw [if_neg fun h => hvalid ((stamps_valid_iff _ _ _).mp h), dif_neg fun h => hvalid h.2]
    rfl

theorem rtTimeOf_received (h : statCall cfg s (.frameReceived frameType r now) = some s') :
    ∃ rtTime, rtTimeOf cfg s frameType r.sequenceCounter now = some rtTime := by
  simp only [statCall, statFrameReceived, Option.bind_eq_bind, Option.bind_eq_some_iff] at h
  obtain ⟨rtt, hrtt, rtTime, hrt, -⟩ := h
  rw [rtTimeOf_store hrtt] at hrt
  exact ⟨rtTime, hrt⟩

/-- What a call records of the receive latencies: those of its frame, if it takes time. -/
theorem filter_isRx_recorded (h : statCall cfg s call = some s') :
    (recorded cfg s call t).filter StatRecord.isRx =
      ((call.stamped t).filter fun f => f.TakesTime).flatMap StampedFrame.records := by
  by_cases hrx : ∃ frameType r now, call = .frameReceived frameType r now
  · obtain ⟨frameType, r, now, rfl⟩ := hrx
    rw [recorded, filter_only]
    by_cases ht : t = frameType
    · subst ht
      obtain ⟨rtTime, hrt⟩ := rtTimeOf_received h
      rw [if_pos rfl, hrt, Option.map_some, Option.getD_some, filter_isRx_received,
        rxRecords_stamped]
    · rw [if_neg ht, StatCall.stamped, dif_neg fun h => ht h.1.symm]
      rfl
  · have hne : ∀ frameType r now, call ≠ .frameReceived frameType r now :=
      fun frameType r now heq => hrx ⟨frameType, r, now, heq⟩
    have hnone : call.stamped t = [] := by
      cases call with
      | frameReceived frameType r now => exact absurd rfl (hne frameType r now)
      | _ => rfl
    rw [hnone, List.filter_eq_nil_iff.mpr]
    · rfl
    · intro x hx
      rw [isRx_of_ofSender (List.all_eq_true.mp (recorded_ofSender hne) x hx)]
      exact Bool.false_ne_true

theorem samples_records {l : Latency} {us : StampedFrame → UInt64}
    (h : ∀ f : StampedFrame, samples l f.records = [us f]) (frames : List StampedFrame) :
    samples l (frames.flatMap StampedFrame.records) = frames.map us := by
  induction frames with
  | nil => rfl
  | cons f frames ih => rw [List.flatMap_cons, samples_append, h, ih, List.map_cons]; rfl

theorem counts_records (frames : List StampedFrame) :
    (counts .rxCount (frames.flatMap StampedFrame.records)).sum = UInt64.ofNat frames.length := by
  induction frames with
  | nil => rfl
  | cons f frames ih =>
    rw [List.flatMap_cons, counts_append, List.sum_append, ih, List.length_cons, ofNat_succ,
      UInt64.add_comm]
    rfl

/-- The receive latencies a run records are those of the frames that take time. -/
theorem run_filter_isRx (h : calls.foldlM (statStep cfg) s = some s') :
    (alongRun cfg (fun s call => recorded cfg s call t) s calls).filter StatRecord.isRx =
      ((stampedFrames cfg t s calls).filter fun f => f.TakesTime).flatMap
        StampedFrame.records := by
  rw [stampedFrames]
  apply (map_alongRun (List.filter StatRecord.isRx) rfl (fun _ _ => List.filter_append ..)
    (fun _ _ _ hcall => filter_isRx_recorded hcall) h).trans
  symm
  exact map_alongRun (fun fs => (fs.filter fun f => f.TakesTime).flatMap StampedFrame.records) rfl
    (fun _ _ => by rw [List.filter_append, List.flatMap_append]) (fun _ _ _ _ => rfl) h

theorem run_rxSummary (hi : statInit cfg = some s) (hcalls : .resetRequest ∉ calls)
    (h : calls.foldlM (statStep cfg) s = some s') :
    RxSummary (s'.globalStatistics t)
      ((stampedFrames cfg t s calls).filter fun f => f.TakesTime) := by
  have hinit : s.resetStats = false ∧ s.globalStatistics t = statReset := by
    rw [statInit] at hi
    split at hi
    · cases hi
    · cases hi
      exact ⟨rfl, rfl⟩
  have hrec := run_recorded hcalls hinit.1 h t
  rw [hinit.2] at hrec
  have hsum := hrec.summarises
  have hsamples (l : Latency) (hl : ∀ us, StatRecord.isRx (.sample l us) = true) :
      samples l (alongRun cfg (fun s call => recorded cfg s call t) s calls) =
        samples l (((stampedFrames cfg t s calls).filter fun f => f.TakesTime).flatMap
          StampedFrame.records) := by
    rw [← run_filter_isRx h]
    exact (filterMap_filter_of (sample?_eq_none hl) _).symm
  have hrx := (hsamples .rx fun _ => rfl).trans (samples_records (fun _ => rfl) _)
  have hhw2sw := (hsamples .rxHw2sw fun _ => rfl).trans (samples_records (fun _ => rfl) _)
  have hsw2app := (hsamples .rxSw2app fun _ => rfl).trans (samples_records (fun _ => rfl) _)
  refine ⟨?_, hrx ▸ hsum.least .rx, hrx ▸ hsum.greatest .rx, hhw2sw ▸ hsum.least .rxHw2sw,
    hhw2sw ▸ hsum.greatest .rxHw2sw, hsw2app ▸ hsum.least .rxSw2app,
    hsw2app ▸ hsum.greatest .rxSw2app⟩
  have hcounts : counts .rxCount (alongRun cfg (fun s call => recorded cfg s call t) s calls) =
      counts .rxCount (((stampedFrames cfg t s calls).filter fun f => f.TakesTime).flatMap
        StampedFrame.records) := by
    rw [← run_filter_isRx h]
    have hrxCount : ∀ m, StatRecord.isRx (.count .rxCount m) = true := fun _ => rfl
    exact (filterMap_filter_of (count?_eq_none hrxCount) _).symm
  have hcount := hsum.counter .rxCount
  rw [hcounts, counts_records] at hcount
  exact hcount

end Samples

theorem length_stamped_le (call : StatCall) (t : StatFrameType) :
    (call.stamped t).length ≤ 1 := by
  cases call with
  | frameReceived frameType r now =>
    rw [StatCall.stamped]
    split
    · exact le_rfl
    · exact Nat.zero_le 1
  | _ => exact Nat.zero_le 1

theorem length_stampedFrames_single (cfg : StatConfig) (s : StatState) (call : StatCall)
    (t : StatFrameType) : (stampedFrames cfg t s [call]).length ≤ 1 := by
  have hnothing (r : Option StatState) :
      (r.elim [] fun s' => alongRun cfg (fun _ call => call.stamped t) s' []) = [] := by
    cases r <;> rfl
  rw [stampedFrames, alongRun, hnothing, List.append_nil]
  split
  · exact Nat.zero_le 1
  · exact length_stamped_le call t

theorem ofNat_inj_of_le_one {m n : Nat} (hm : m ≤ 1) (hn : n ≤ 1)
    (h : UInt64.ofNat m = UInt64.ofNat n) : m = n := by
  have hlt : 1 < 2 ^ 64 := by decide
  have hval := congrArg UInt64.toNat h
  rw [UInt64.toNat_ofNat_of_lt' (hm.trans_lt hlt),
    UInt64.toNat_ofNat_of_lt' (hn.trans_lt hlt)] at hval
  exact hval

/-- The receive latencies of every validly stamped frame are in the statistics, at every moment of
a run without reset, exactly if no such frame took less than a microsecond on a part of its way. -/
theorem rx_statistics_complete_iff (cfg : StatConfig) (s : StatState)
    (hi : statInit cfg = some s) (calls : List StatCall) (hcalls : .resetRequest ∉ calls)
    (s' : StatState) (h : calls.foldlM (statStep cfg) s = some s') (t : StatFrameType) :
    (∀ past mid, past <+: calls → past.foldlM (statStep cfg) s = some mid →
      RxSummary (mid.globalStatistics t) (stampedFrames cfg t s past)) ↔
      ∀ f ∈ stampedFrames cfg t s calls, f.TakesTime := by
  constructor
  · intro hall
    induction calls using List.reverseRecOn generalizing s' with
    | nil => exact nofun
    | append_singleton past call ih =>
      rw [List.foldlM_append, Option.bind_eq_bind] at h
      obtain ⟨mid, hmid, hlast⟩ := Option.bind_eq_some_iff.mp h
      have hpast := ih (fun hin => hcalls (List.mem_append_left _ hin)) mid hmid
        fun past' mid' hstart => hall past' mid' (hstart.trans (List.prefix_append _ _))
      have hrun : (past ++ [call]).foldlM (statStep cfg) s = some s' := by
        rw [List.foldlM_append, hmid]
        exact hlast
      -- the frames of the last call are counted because those before them are
      have hcount := (hall _ _ List.prefix_rfl hrun).count.symm.trans
        (run_rxSummary hi hcalls hrun).count
      rw [stampedFrames, alongRun_append _ hmid] at hcount ⊢
      change UInt64.ofNat (stampedFrames cfg t s past ++ stampedFrames cfg t mid [call]).length =
        UInt64.ofNat ((stampedFrames cfg t s past ++ stampedFrames cfg t mid [call]).filter
          fun f => f.TakesTime).length at hcount
      have hkept : (stampedFrames cfg t s past).filter (fun f => f.TakesTime) =
          stampedFrames cfg t s past := by
        rw [List.filter_eq_self]
        intro f hf
        exact decide_eq_true (hpast f hf)
      rw [List.filter_append, hkept, List.length_append, List.length_append, UInt64.ofNat_add,
        UInt64.ofNat_add, UInt64.add_right_inj] at hcount
      have hone := length_stampedFrames_single cfg mid call t
      have hlen := ofNat_inj_of_le_one hone ((List.length_filter_le _ _).trans hone) hcount
      intro f hf
      obtain hf | hf := List.mem_append.mp hf
      · exact hpast f hf
      · exact of_decide_eq_true (List.length_filter_eq_length_iff.mp hlen.symm f hf)
  · intro htakes past mid hprefix hmid
    obtain ⟨rest, rfl⟩ := hprefix
    have hsummary := run_rxSummary (t := t) hi (fun hin => hcalls (List.mem_append_left _ hin)) hmid
    rw [List.filter_eq_self.mpr] at hsummary
    · exact hsummary
    · intro f hf
      apply decide_eq_true
      apply htakes f
      rw [stampedFrames, alongRun_append _ hmid]
      exact List.mem_append_left _ hf

/-- A frame that is received `sw2app` nanoseconds before the statistics see it and needed `hw2sw`
from the wire. -/
def receptionAfter (hw2sw sw2app : UInt64) : StatCall :=
  .frameReceived .tsnHigh ⟨0, false, false, false, 900000, 1000000, 1000000 + hw2sw⟩
    (1000000 + hw2sw + sw2app)

theorem rx_statistics_complete_slow :
    ∃ s s', statInit referenceConfig = some s ∧
      [receptionAfter 2000 3000].foldlM (statStep referenceConfig) s = some s' ∧
      RxSummary (s'.globalStatistics .tsnHigh)
        (stampedFrames referenceConfig .tsnHigh s [receptionAfter 2000 3000]) ∧
      (s'.globalStatistics .tsnHigh).rxCount = 1 ∧
      (s'.globalStatistics .tsnHigh).rxHw2swMin = 2 := by
  have hsome : ((statInit referenceConfig).bind fun s =>
      ([receptionAfter 2000 3000].foldlM (statStep referenceConfig) s).map fun s' =>
        ((s'.globalStatistics .tsnHigh).rxCount, (s'.globalStatistics .tsnHigh).rxHw2swMin,
          decide (∀ f ∈ stampedFrames referenceConfig .tsnHigh s [receptionAfter 2000 3000],
            f.TakesTime))) = some (1, 2, true) := by
    decide +kernel
  obtain ⟨s, hi, hrun⟩ := Option.bind_eq_some_iff.mp hsome
  obtain ⟨s', hs', hx⟩ := Option.map_eq_some_iff.mp hrun
  simp only [Prod.mk.injEq, decide_eq_true_eq] at hx
  have hcomplete := (rx_statistics_complete_iff referenceConfig s hi [receptionAfter 2000 3000]
    (by simp [receptionAfter]) s' hs' .tsnHigh).mpr hx.2.2
  exact ⟨s, s', hi, hs', hcomplete _ s' List.prefix_rfl hs', hx.1, hx.2.1⟩

/-- A frame that needs half a microsecond from the wire to the driver does not count. -/
theorem rx_statistics_incomplete :
    ∃ s s', statInit referenceConfig = some s ∧
      [receptionAfter 500 3000].foldlM (statStep referenceConfig) s = some s' ∧
      (stampedFrames referenceConfig .tsnHigh s [receptionAfter 500 3000]).length = 1 ∧
      (s'.globalStatistics .tsnHigh).framesReceived = 1 ∧
      (s'.globalStatistics .tsnHigh).rxCount = 0 ∧
      ¬ RxSummary (s'.globalStatistics .tsnHigh)
        (stampedFrames referenceConfig .tsnHigh s [receptionAfter 500 3000]) := by
  have hsome : ((statInit referenceConfig).bind fun s =>
      ([receptionAfter 500 3000].foldlM (statStep referenceConfig) s).map fun s' =>
        ((stampedFrames referenceConfig .tsnHigh s [receptionAfter 500 3000]).length,
          (s'.globalStatistics .tsnHigh).framesReceived,
          (s'.globalStatistics .tsnHigh).rxCount)) = some (1, 1, 0) := by
    decide +kernel
  obtain ⟨s, hi, hrun⟩ := Option.bind_eq_some_iff.mp hsome
  obtain ⟨s', hs', hx⟩ := Option.map_eq_some_iff.mp hrun
  simp only [Prod.mk.injEq] at hx
  refine ⟨s, s', hi, hs', hx.1, hx.2.1, hx.2.2, fun hsummary => ?_⟩
  have hcount := hsummary.count
  rw [hx.1, hx.2.2] at hcount
  exact absurd hcount (by decide)

end RtcTestbench
