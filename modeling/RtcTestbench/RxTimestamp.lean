import RtcTestbench.ProcLatency

namespace RtcTestbench
open Function Machine Cells
set_option autoImplicit true

/-- What the threads of a class report to its statistics. -/
inductive TimestampEvent where
  | sent (cycleNumber frameCount now : UInt64)
  | received (r : RxReport) (now : UInt64)
  | completed (c : TxCompletion)

section Functions
variable (cfg : StatConfig) (frameType : StatFrameType) (metaDataOffset : Nat)

def timestampCall (s : StatState) : TimestampEvent → Option StatState
  | .sent cycleNumber frameCount now =>
    statFramesSentBatch cfg s frameType cycleNumber frameCount now
  | .received r now => statFrameReceived cfg s frameType r now
  | .completed c => handleTxCompletion cfg s frameType metaDataOffset c

def timestampStep (s : StatState) (e : TimestampEvent) : Option StatState :=
  if s.exited then some s else timestampCall cfg frameType metaDataOffset s e

def timestampRun (s : StatState) (es : List TimestampEvent) : Option StatState :=
  es.foldlM (timestampStep cfg frameType metaDataOffset) s

end Functions

def TxReading.cycle (r : TxReading) (n : UInt64) : Nat := r.seq.toNat / n.toNat

/-- The cycle whose receive time waits in a slot, and the time. -/
abbrev RxPending := Nat → Option (Nat × UInt64)

section History
variable (cfg : StatConfig) (frameType : StatFrameType) (metaDataOffset : Nat)

/-- The cycle whose first frame is received with a hardware time that is kept, and the time. -/
def TimestampEvent.stored? : TimestampEvent → Option (Nat × UInt64)
  | .received r _ =>
    let n := cfg.framesPerCycle frameType
    if cfg.logStatUserSelected = .txTimestamps ∧ cfg.txHwtstampEnabled frameType ∧
        cfg.build.rxTimestamp ∧ r.rxHwTimestamp ≠ 0 ∧ r.sequenceCounter % n = 0 then
      some (r.sequenceCounter.toNat / n.toNat, r.rxHwTimestamp)
    else none
  | _ => none

/-- The hardware time at which the first frame of cycle `k` was last received. -/
def rxTimeOf (es : List TimestampEvent) (k : Nat) : Option UInt64 :=
  (((es.filterMap (·.stored? cfg frameType)).filter (·.1 = k)).getLast?).map Prod.snd

/-- The first or the last frame of a cycle has left after the send time in its slot. -/
def RttEntry.Measures (e : RttEntry) (r : TxReading) : Prop :=
  let n := cfg.framesPerCycle frameType
  (r.hwTs > 0 ∧ e.swTs > 0) ∧ (cfg.logStatUserSelected = .txTimestamps ∧ cfg.build.rxTimestamp ∧
    r.hwTs > e.swTs) ∧ (r.isFirst n ∨ r.isLast n)

instance (e : RttEntry) (r : TxReading) : Decidable (e.Measures cfg frameType r) :=
  inferInstanceAs (Decidable (_ ∧ _))

/-- The slot and the reading of a completion that makes the program look at a receive time. -/
def measured? (s : StatState) (c : TxCompletion) : Option (Nat × TxReading) := do
  let r ← c.reading metaDataOffset (cfg.framesPerCycle frameType)
  let idx ← (s.roundTripContexts frameType).index (r.cycleSeq (cfg.framesPerCycle frameType))
  let e ← (s.roundTripContexts frameType).entry idx
  if s.exited = false ∧ e.Measures cfg frameType r then some (idx, r) else none

/-- The processing time the completion is worth. -/
def procSample? (s : StatState) (c : TxCompletion) : Option (TxReading × UInt64) := do
  let (idx, r) ← measured? cfg frameType metaDataOffset s c
  let e ← (s.roundTripContexts frameType).entry idx
  let latency ← procLatency cfg frameType e.rxHwTs r.hwTs
  return (r, latency)

def recordSample (sample : Option (TxReading × UInt64)) (stat : Statistics) : Statistics :=
  sample.elim stat fun x =>
    if x.1.isFirst (cfg.framesPerCycle frameType) then statFrameProcFirstCommon cfg x.2 stat
    else statFrameProcBatchCommon cfg x.2 stat

/-- The completion of the last frame of a cycle uses up the receive time, unless the cycle has one
frame only. -/
def usedUp? (s : StatState) : TimestampEvent → Option Nat
  | .completed c => (measured? cfg frameType metaDataOffset s c).bind fun x =>
    if x.2.isFirst (cfg.framesPerCycle frameType) then none else some x.1
  | _ => none

def pendingStep (s : StatState) (p : RxPending) (ev : TimestampEvent) : RxPending :=
  match ev.stored? cfg frameType with
  | some w => update p (w.1 * (cfg.framesPerCycle frameType).toNat %
      (s.roundTripContexts frameType).backlogLen.toNat) (some w)
  | none => (usedUp? cfg frameType metaDataOffset s ev).elim p fun idx => update p idx none

/-- The receive times that wait after a run, by what was received and what was used up. -/
def pendingRun (s : StatState) (p : RxPending) : List TimestampEvent → RxPending
  | [] => p
  | ev :: es => (timestampStep cfg frameType metaDataOffset s ev).elim p fun s' =>
    pendingRun s' (pendingStep cfg frameType metaDataOffset s p ev) es

/-- All the completion records is the time since the first frame of its own cycle was received. -/
def MeasuresOwn (past : List TimestampEvent) (s : StatState) (c : TxCompletion) : Prop :=
  ∀ r latency, procSample? cfg frameType metaDataOffset s c = some (r, latency) →
    ∃ rx, rxTimeOf cfg frameType past (r.cycle (cfg.framesPerCycle frameType)) = some rx ∧
      rx < r.hwTs ∧ latency = (r.hwTs - rx) / 1000

/-- No earlier receive time of another cycle waits in the slot of the completed frame, unless its
own makes the same processing time. -/
def FindsOwn (past : List TimestampEvent) (p : RxPending) (s : StatState) (c : TxCompletion) :
    Prop :=
  ∀ idx r k rx, measured? cfg frameType metaDataOffset s c = some (idx, r) →
    p idx = some (k, rx) → rx < r.hwTs →
      k = r.cycle (cfg.framesPerCycle frameType) ∨
        ∃ own, rxTimeOf cfg frameType past (r.cycle (cfg.framesPerCycle frameType)) = some own ∧
          own < r.hwTs ∧ (r.hwTs - own) / 1000 = (r.hwTs - rx) / 1000

/-- The column of receive times in the backlog holds what waits, and each is the last one of its
cycle. -/
structure Pending (past : List TimestampEvent) (p : RxPending) (col : List UInt64) : Prop where
  held : ∀ i v, col[i]? = some v → v = (p i).elim 0 Prod.snd
  slot : ∀ i w, p i = some w → w.1 * (cfg.framesPerCycle frameType).toNat % col.length = i
  stored : ∀ i w, p i = some w → w.2 ≠ 0 ∧ cfg.MeasuresProc frameType ∧
    rxTimeOf cfg frameType past w.1 = some w.2

/-- What is known about the backlog as long as the program runs. -/
def BacklogInv (past : List TimestampEvent) (p : RxPending) (s : StatState) : Prop :=
  s.exited = true ∨ (s.roundTripContexts frameType).backlog = none ∨
    ∃ tab, (s.roundTripContexts frameType).Has tab ∧
      Pending cfg frameType past p (tab.map RttEntry.rxHwTs)

end History

variable {cfg : StatConfig} {s s' s₁ s₂ : StatState} {frameType : StatFrameType}
  {tab : List RttEntry} {e : RttEntry} {n : UInt64} {metaDataOffset : Nat} {r : TxReading}
  {past : List TimestampEvent} {ev : TimestampEvent} {col : List UInt64} {p : RxPending}
  {c : TxCompletion}

theorem rxTimeOf_none (hs : ev.stored? cfg frameType = none) (k : Nat) :
    rxTimeOf cfg frameType (past ++ [ev]) k = rxTimeOf cfg frameType past k := by
  have hnil : [ev].filterMap (·.stored? cfg frameType) = [] := by simp [hs]
  rw [rxTimeOf, List.filterMap_append, hnil, List.append_nil]
  rfl

theorem rxTimeOf_some (hs : ev.stored? cfg frameType = some w) (k : Nat) :
    rxTimeOf cfg frameType (past ++ [ev]) k =
      if w.1 = k then some w.2 else rxTimeOf cfg frameType past k := by
  have hone : [ev].filterMap (·.stored? cfg frameType) = [w] := by simp [hs]
  rw [rxTimeOf, List.filterMap_append, hone, List.filter_append]
  split
  · rename_i hw
    rw [List.filter_cons_of_pos (by simpa using hw), List.filter_nil, List.getLast?_concat]
    rfl
  · rename_i hw
    rw [List.filter_cons_of_neg (by simpa using hw), List.filter_nil, List.append_nil]
    rfl

theorem Pending.other (h : Pending cfg frameType past p col)
    (hs : ev.stored? cfg frameType = none) : Pending cfg frameType (past ++ [ev]) p col := by
  refine ⟨h.held, h.slot, fun i w hw => ?_⟩
  rw [rxTimeOf_none hs]
  exact h.stored i w hw

theorem held_set (h : ∀ i v, col[i]? = some v → v = (p i).elim 0 Prod.snd) (i : Nat)
    (w : Option (Nat × UInt64)) (j : Nat) (v : UInt64)
    (hj : (col.set i (w.elim 0 Prod.snd))[j]? = some v) : v = (update p i w j).elim 0 Prod.snd := by
  by_cases heq : i = j
  · subst heq
    rw [List.getElem?_set_self'] at hj
    obtain ⟨-, -, rfl⟩ := Option.map_eq_some_iff.mp hj
    rw [update_self]
    rfl
  · rw [List.getElem?_set_ne heq] at hj
    rw [update_of_ne (Ne.symm heq)]
    exact h j v hj

theorem Pending.store (h : Pending cfg frameType past p col)
    (hs : ev.stored? cfg frameType = some (k, v)) (hv : v ≠ 0) (hm : cfg.MeasuresProc frameType)
    (hi : k * (cfg.framesPerCycle frameType).toNat % col.length = i) :
    Pending cfg frameType (past ++ [ev]) (update p i (some (k, v))) (col.set i v) := by
  refine ⟨held_set h.held i (some (k, v)), fun j w hj => ?_, fun j w hj => ?_⟩
  · rw [List.length_set]
    by_cases heq : j = i
    · rw [heq, update_self, Option.some.injEq] at hj
      rw [heq, ← hj]
      exact hi
    · rw [update_of_ne heq] at hj
      exact h.slot j w hj
  · rw [rxTimeOf_some hs]
    by_cases heq : j = i
    · rw [heq, update_self, Option.some.injEq] at hj
      rw [← hj]
      exact ⟨hv, hm, if_pos rfl⟩
    · rw [update_of_ne heq] at hj
      -- a time of the same cycle would wait in the same slot
      have hother : ¬ k = w.1 := by
        rintro rfl
        exact heq ((h.slot j w hj).symm.trans hi)
      rw [if_neg hother]
      exact h.stored j w hj

theorem Pending.clear (h : Pending cfg frameType past p col) (i : Nat) :
    Pending cfg frameType past (update p i none) (col.set i 0) := by
  have hkeep (j : Nat) (w : Nat × UInt64) (hj : update p i none j = some w) : p j = some w := by
    by_cases heq : j = i
    · rw [heq, update_self] at hj
      cases hj
    · rwa [update_of_ne heq] at hj
  refine ⟨held_set h.held i none, fun j w hj => ?_, fun j w hj => h.stored j w (hkeep j w hj)⟩
  rw [List.length_set]
  exact h.slot j w (hkeep j w hj)

theorem map_set_rx (e' : RttEntry) (idx : Nat) :
    (tab.set idx e').map RttEntry.rxHwTs = (tab.map RttEntry.rxHwTs).set idx e'.rxHwTs :=
  List.map_set

theorem set_rx_self (he : tab[idx]? = some e) (h : e'.rxHwTs = e.rxHwTs) :
    (tab.set idx e').map RttEntry.rxHwTs = tab.map RttEntry.rxHwTs := by
  rw [map_set_rx, h, ← map_set_rx, set_same he]

theorem stampSlots_column {rtt rtt' : RoundTripContext} {c : UInt64} (h : rtt.Has tab)
    (hs : stampSlots first stop step txTime fuel c rtt = some rtt') :
    ∃ tab', rtt'.Has tab' ∧ tab'.map RttEntry.rxHwTs = tab.map RttEntry.rxHwTs := by
  induction fuel generalizing c rtt tab with
  | zero => cases hs
  | succ fuel ih =>
    rw [stampSlots] at hs
    split at hs
    · obtain ⟨rtt₁, hslot, hs⟩ := Option.bind_eq_some_iff.mp hs
      rw [stampSlot] at hslot
      split at hslot
      · cases hslot
        exact ih h hs
      · simp only [Option.bind_eq_bind, Option.bind_eq_some_iff] at hslot
        obtain ⟨idx, -, hm⟩ := hslot
        cases he : tab[idx]? with
        | none => simp [RoundTripContext.modify, h.backlog_eq, he] at hm
        | some e =>
          obtain ⟨rtt₂, hm₂, h₂⟩ := h.modify he fun e => { e with swTs := txTime }
          cases hm₂.symm.trans hm
          obtain ⟨tab', h', hcol⟩ := ih h₂ hs
          refine ⟨tab', h', hcol.trans ?_⟩
          exact set_rx_self he rfl
    · cases hs
      exact ⟨tab, h, rfl⟩

theorem statFramesSentBatch_column (h : (s.roundTripContexts frameType).Has tab)
    (hs : statFramesSentBatch cfg s frameType cycleNumber frameCount now = some s') :
    ∃ tab', (s'.roundTripContexts frameType).Has tab' ∧
      tab'.map RttEntry.rxHwTs = tab.map RttEntry.rxHwTs := by
  simp only [statFramesSentBatch, Option.bind_eq_bind, Option.bind_eq_some_iff, Option.pure_def,
    Option.some.injEq] at hs
  obtain ⟨rtt, hrec, rfl⟩ := hs
  dsimp only
  rw [update_self]
  rw [recordTxTime] at hrec
  split at hrec
  · split at hrec
    · simp only [Option.bind_eq_bind, Option.bind_eq_some_iff] at hrec
      obtain ⟨base, -, hrec⟩ := hrec
      exact stampSlots_column h hrec
    · exact stampSlots_column h hrec
  · cases hrec
    exact ⟨tab, h, rfl⟩

theorem storeRxHwTimestamp_cases {rep : RxReport} {rtt : RoundTripContext}
    (hn : 0 < (cfg.framesPerCycle frameType).toNat)
    (h : (s.roundTripContexts frameType).Has tab)
    (hs : storeRxHwTimestamp cfg s frameType rep = some rtt) (now : UInt64) :
    (rtt = s.roundTripContexts frameType ∧
        (TimestampEvent.received rep now).stored? cfg frameType = none) ∨
      ∃ k v e, (TimestampEvent.received rep now).stored? cfg frameType = some (k, v) ∧
        v ≠ 0 ∧ cfg.MeasuresProc frameType ∧
        tab[k * (cfg.framesPerCycle frameType).toNat % tab.length]? = some e ∧
        rtt.Has (tab.set (k * (cfg.framesPerCycle frameType).toNat % tab.length)
          { e with rxHwTs := v }) := by
  simp only [storeRxHwTimestamp, h.backlog_eq, Option.isSome_some, and_true,
    if_neg (ne_zero_of_toNat_pos hn)] at hs
  rw [TimestampEvent.stored?]
  split at hs
  · rename_i hon
    obtain ⟨hmode, htx, hrx, hne⟩ := hon
    split at hs
    · rename_i hfirst
      rw [if_pos ⟨hmode, htx, hrx, hne, hfirst⟩]
      simp only [Option.bind_eq_bind, Option.bind_eq_some_iff] at hs
      obtain ⟨idx, hidx, hm⟩ := hs
      rw [getFirstFrameBacklogIdx, firstFrameInCycle_eq hn, Option.bind_eq_bind, Option.bind_some]
        at hidx
      have hpos : 0 < tab.length := by
        rw [RoundTripContext.index] at hidx
        split at hidx
        · cases hidx
        · rename_i hne
          rw [← h.length_eq]
          exact Nat.pos_of_ne_zero fun h0 => hne (UInt64.toNat_inj.mp h0)
      rw [h.index hpos, toNat_cycleStart, Option.some.injEq] at hidx
      have hlt := Nat.mod_lt (rep.sequenceCounter.toNat / (cfg.framesPerCycle frameType).toNat *
        (cfg.framesPerCycle frameType).toNat) hpos
      rw [hidx] at hlt
      obtain ⟨rtt', hm', h'⟩ := h.modify (List.getElem?_eq_getElem hlt) fun e =>
        { e with rxHwTs := rep.rxHwTimestamp }
      cases hm'.symm.trans hm
      refine .inr ⟨_, _, tab[idx], rfl, hne, ⟨hmode, hrx, htx⟩, ?_, ?_⟩
      · rw [hidx]
        exact List.getElem?_eq_getElem hlt
      · rw [hidx]
        exact h'
    · rename_i hlater
      cases hs
      exact .inl ⟨rfl, if_neg fun hc => hlater hc.2.2.2.2⟩
  · rename_i hoff
    cases hs
    exact .inl ⟨rfl, if_neg fun hc => hoff ⟨hc.1, hc.2.1, hc.2.2.1, hc.2.2.2.1⟩⟩

theorem statFrameReceived_context {rep : RxReport} {now : UInt64}
    (h : statFrameReceived cfg s frameType rep now = some s') :
    storeRxHwTimestamp cfg s frameType rep = some (s'.roundTripContexts frameType) := by
  simp only [statFrameReceived, Option.bind_eq_bind, Option.bind_eq_some_iff, Option.pure_def,
    Option.some.injEq] at h
  obtain ⟨rtt, hrtt, rtTime, -, hist, -, rfl⟩ := h
  rw [hrtt]
  exact congrArg some (update_self frameType rtt s.roundTripContexts).symm

/-- A completion needs a backlog. -/
theorem processTxCompletion_pos (h : (s.roundTripContexts frameType).Has tab)
    (hs : processTxCompletion cfg s frameType fpc seq hwTs = some s') : 0 < tab.length := by
  simp only [processTxCompletion, Option.bind_eq_bind, Option.bind_eq_some_iff] at hs
  obtain ⟨cycleSeq, -, idx, -, e, he, -⟩ := hs
  rw [h.entry] at he
  exact Nat.zero_lt_of_lt (List.getElem?_eq_some_iff.mp he).1

theorem processTxCompletion_no_backlog (hnone : (s.roundTripContexts frameType).backlog = none) :
    processTxCompletion cfg s frameType fpc seq hwTs = none := by
  simp only [processTxCompletion, RoundTripContext.entry, hnone, Option.bind_none,
    Option.bind_eq_bind, Option.bind_fun_none]

/-- The records of the processing time a completion is worth. -/
def sampleRecords (cfg : StatConfig) (frameType : StatFrameType) (e : RttEntry) (r : TxReading) :
    List StatRecord :=
  if e.Measures cfg frameType r then
    procRecords cfg frameType (if r.isFirst (cfg.framesPerCycle frameType) then procFirstRecords cfg
      else procBatchRecords cfg) e r.hwTs
  else []

/-- What a completion does to the receive time in its slot, and the processing time it is worth. -/
theorem slotCell_proc (e : RttEntry) (r : TxReading) :
    ((slotCell cfg frameType).step e r).1.rxHwTs =
      (if e.Measures cfg frameType r ∧ ¬ r.isFirst (cfg.framesPerCycle frameType) = true then 0
      else e.rxHwTs) ∧
    ((slotCell cfg frameType).step e r).2.filter StatRecord.isProc =
      (sampleRecords cfg frameType e r).filter StatRecord.isProc := by
  rw [sampleRecords]
  by_cases hvalid : r.hwTs > 0 ∧ e.swTs > 0
  · by_cases hf : r.isFirst (cfg.framesPerCycle frameType) = true
    · rw [if_neg fun h => h.2 hf]
      simp only [slotCell, RttEntry.procCompletion, if_pos hvalid, if_pos hf, sentLatency_swTs,
        List.filter_append, isProc_txLatencyRecords, List.nil_append]
      split
      · rename_i hon
        rw [if_pos ⟨hvalid, hon, .inl hf⟩, procRecords, sentLatency_rxHwTs]
        exact ⟨rfl, rfl⟩
      · rename_i hoff
        rw [if_neg fun h => hoff h.2.1]
        exact ⟨sentLatency_rxHwTs _, rfl⟩
    · simp only [slotCell, RttEntry.procCompletion, if_pos hvalid, if_neg hf]
      split
      · rename_i hon
        split
        · rename_i hl
          have hm : e.Measures cfg frameType r := ⟨hvalid, hon, .inr hl⟩
          rw [if_pos ⟨hm, hf⟩, if_pos hm]
          exact ⟨rfl, rfl⟩
        · rename_i hl
          rw [if_neg fun h => h.1.2.2.elim hf hl, if_neg fun h => h.2.2.elim hf hl]
          exact ⟨rfl, rfl⟩
      · rename_i hoff
        rw [if_neg fun h => hoff h.1.2.1, if_neg fun h => hoff h.2.1]
        exact ⟨rfl, rfl⟩
  · rw [if_neg fun h => hvalid h.1.1, if_neg fun h => hvalid h.1]
    simp only [slotCell, if_neg hvalid, List.filter_nil, and_self]

theorem sampleRecords_recorded (e : RttEntry) (r : TxReading) (stat : Statistics) :
    Recorded stat (recordSample cfg frameType (if e.Measures cfg frameType r then
      (procLatency cfg frameType e.rxHwTs r.hwTs).map fun latency => (r, latency) else none) stat)
      (sampleRecords cfg frameType e r) := by
  rw [sampleRecords]
  split
  · rw [procRecords]
    cases procLatency cfg frameType e.rxHwTs r.hwTs with
    | none => exact .refl stat
    | some latency =>
      rw [Option.map_some, recordSample, Option.elim_some, Option.elim_some]
      dsimp only
      split
      · exact statFrameProcFirstCommon_recorded _ _ _
      · exact statFrameProcBatchCommon_recorded _ _ _
  · exact .refl stat

section Reading
variable (h : (s.roundTripContexts frameType).Has tab) (hlive : ¬ s.exited = true)
  (hr : c.reading metaDataOffset (cfg.framesPerCycle frameType) = some r)
  (he : tab[(r.cycleSeq (cfg.framesPerCycle frameType)).toNat % tab.length]? = some e)
include h hlive hr he

theorem measured?_eq : measured? cfg frameType metaDataOffset s c =
    if e.Measures cfg frameType r then
      some ((r.cycleSeq (cfg.framesPerCycle frameType)).toNat % tab.length, r) else none := by
  have hpos : 0 < tab.length := Nat.zero_lt_of_lt (List.getElem?_eq_some_iff.mp he).1
  simp only [measured?, hr, h.index hpos, h.entry, he, Option.bind_eq_bind, Option.bind_some,
    Bool.not_eq_true _ ▸ hlive, true_and]

theorem procSample?_eq : procSample? cfg frameType metaDataOffset s c =
    if e.Measures cfg frameType r then
      (procLatency cfg frameType e.rxHwTs r.hwTs).map fun latency => (r, latency) else none := by
  rw [procSample?, measured?_eq h hlive hr he]
  split
  · simp only [Option.bind_eq_bind, Option.bind_some, h.entry, he, Option.pure_def,
      Option.map_eq_bind]
    rfl
  · rfl

theorem usedUp?_eq : usedUp? cfg frameType metaDataOffset s (.completed c) =
    if e.Measures cfg frameType r ∧ ¬ r.isFirst (cfg.framesPerCycle frameType) = true then
      some ((r.cycleSeq (cfg.framesPerCycle frameType)).toNat % tab.length) else none := by
  rw [usedUp?, measured?_eq h hlive hr he]
  by_cases hm : e.Measures cfg frameType r
  · by_cases hf : r.isFirst (cfg.framesPerCycle frameType) = true
    · rw [if_pos hm, Option.bind_some, if_pos hf, if_neg fun h => h.2 hf]
    · rw [if_pos hm, Option.bind_some, if_neg hf, if_pos ⟨hm, hf⟩]
  · rw [if_neg hm, if_neg fun h => hm h.1]
    rfl

end Reading

theorem timestampStep_no_backlog (hnone : (s.roundTripContexts frameType).backlog = none)
    (hlive : ¬ s.exited = true)
    (hs : timestampStep cfg frameType metaDataOffset s ev = some s') :
    (s'.roundTripContexts frameType).backlog = none := by
  rw [timestampStep, if_neg hlive] at hs
  cases ev with
  | sent cycleNumber frameCount now =>
    simp only [timestampCall, statFramesSentBatch, recordTxTime, hnone, Option.isSome_none,
      Bool.false_eq_true, and_false, ↓reduceIte, Option.bind_eq_bind, Option.bind_some,
      Option.pure_def, Option.some.injEq] at hs
    subst hs
    dsimp only
    rw [update_self]
    exact hnone
  | received rep now =>
    have hstore := statFrameReceived_context hs
    simp only [storeRxHwTimestamp, hnone, Option.isSome_none, Bool.false_eq_true, and_false,
      ↓reduceIte, Option.some.injEq] at hstore
    rw [← hstore]
    exact hnone
  | completed c =>
    rcases handleTxCompletion_cases hs with ⟨-, rfl⟩ | ⟨r, -, hs⟩
    · exact hnone
    · rw [processTxCompletion_no_backlog hnone] at hs
      cases hs

/-- The frames per cycle of the class have 32 bits if the completion comes from AF_XDP. -/
def TimestampEvent.Whole (n : UInt64) : TimestampEvent → Prop
  | .completed c => c.framesPerCycle n = n
  | _ => True

theorem timestampStep_backlog (hn : 0 < (cfg.framesPerCycle frameType).toNat)
    (h : BacklogInv cfg frameType past p s) (hwhole : ev.Whole (cfg.framesPerCycle frameType))
    (hs : timestampStep cfg frameType metaDataOffset s ev = some s') :
    BacklogInv cfg frameType (past ++ [ev]) (pendingStep cfg frameType metaDataOffset s p ev)
      s' := by
  by_cases hexited : s.exited = true
  · rw [timestampStep, if_pos hexited] at hs
    cases hs
    exact .inl hexited
  rcases h with h | hnone | ⟨tab, h, ho⟩
  · exact absurd h hexited
  · exact .inr (.inl (timestampStep_no_backlog hnone hexited hs))
  · rw [timestampStep, if_neg hexited] at hs
    apply Or.inr
    apply Or.inr
    cases ev with
    | sent cycleNumber frameCount now =>
      obtain ⟨tab', h', hcol⟩ := statFramesSentBatch_column h hs
      refine ⟨tab', h', ?_⟩
      rw [hcol]
      exact ho.other rfl
    | received rep now =>
      rcases storeRxHwTimestamp_cases hn h (statFrameReceived_context hs) now with
        ⟨heq, hother⟩ | ⟨k, v, e, hstored, hv, hm, he, h'⟩
      · rw [heq, pendingStep, hother]
        exact ⟨tab, h, ho.other hother⟩
      · refine ⟨_, h', ?_⟩
        rw [pendingStep, hstored, map_set_rx, h.length_eq]
        exact ho.store hstored hv hm (by rw [List.length_map])
    | completed c =>
      have ho := @Pending.other _ _ _ (.completed c) _ _ ho rfl
      change ∃ tab', _ ∧ Pending cfg frameType _
        ((usedUp? cfg frameType metaDataOffset s (.completed c)).elim p fun idx =>
          update p idx none) _
      rcases handleTxCompletion_cases hs with ⟨hr, rfl⟩ | ⟨r, hr, hs⟩
      · rw [usedUp?, measured?, hr]
        exact ⟨tab, h, ho⟩
      · have hpos := processTxCompletion_pos h hs
        have hlt := Nat.mod_lt (r.cycleSeq (cfg.framesPerCycle frameType)).toNat hpos
        have he := List.getElem?_eq_getElem hlt
        rw [show c.framesPerCycle _ = _ from hwhole] at hs
        obtain ⟨s₁, hs₁, h₁⟩ := processTxCompletion_leads hn h hpos r he
        cases hs₁.symm.trans hs
        refine ⟨_, h₁.has, ?_⟩
        rw [usedUp?_eq h hexited hr he, map_set_rx, (slotCell_proc _ _).1]
        split
        · exact ho.clear _
        · rw [← map_set_rx, set_same he]
          exact ho

theorem timestampRun_backlog (hn : 0 < (cfg.framesPerCycle frameType).toNat)
    (h : BacklogInv cfg frameType past p s) (es : List TimestampEvent)
    (hwhole : ∀ ev ∈ es, ev.Whole (cfg.framesPerCycle frameType))
    (hs : timestampRun cfg frameType metaDataOffset s es = some s') :
    BacklogInv cfg frameType (past ++ es) (pendingRun cfg frameType metaDataOffset s p es) s' := by
  induction es generalizing past s p with
  | nil =>
    cases hs
    rw [List.append_nil]
    exact h
  | cons e es ih =>
    obtain ⟨hhead, htail⟩ := List.forall_mem_cons.mp hwhole
    rw [timestampRun, List.foldlM_cons, Option.bind_eq_bind] at hs
    obtain ⟨s₁, hs₁, hs⟩ := Option.bind_eq_some_iff.mp hs
    have hrest := ih (timestampStep_backlog hn h hhead hs₁) htail hs
    rw [List.append_assoc] at hrest
    rw [pendingRun, hs₁]
    exact hrest

theorem statInit_backlog (hi : statInit cfg = some s) :
    BacklogInv cfg frameType [] (fun _ => none) s := by
  rw [statInit] at hi
  split at hi
  · cases hi
  · cases hi
    apply Or.inr
    change (roundTripContextInit cfg frameType).backlog = none ∨
      ∃ tab, (roundTripContextInit cfg frameType).Has tab ∧ _
    rw [roundTripContextInit]
    split
    · simp only [callocArray]
      split
      · refine .inr ⟨_, ⟨rfl, List.length_replicate.symm⟩, fun i v hi => ?_,
          fun _ _ hw => (by cases hw), fun _ _ hw => (by cases hw)⟩
        rw [List.map_replicate, List.getElem?_replicate] at hi
        split at hi
        · cases hi
          rfl
        · cases hi
      · exact .inl rfl
    · exact .inl rfl

theorem procLatency_eq_some (hm : cfg.MeasuresProc frameType) (hne : rx ≠ 0) (hlt : rx < hwTs) :
    procLatency cfg frameType rx hwTs = some ((hwTs - rx) / 1000) := by
  have hhw : hwTs ≠ 0 := by
    rintro rfl
    exact absurd hlt UInt64.not_lt_zero
  rw [procLatency, hm.rx, hm.tx, if_neg (by decide), if_neg (not_or.mpr ⟨hne, hhw⟩), if_pos hlt]

theorem procLatency_cases (h : procLatency cfg frameType rx hwTs = some latency) :
    rx ≠ 0 ∧ rx < hwTs ∧ latency = (hwTs - rx) / 1000 := by
  rw [procLatency] at h
  split at h
  · cases h
  · split at h
    · cases h
    · rename_i hset
      split at h
      · rename_i hlt
        cases h
        exact ⟨fun h => hset (.inl h), hlt, rfl⟩
      · cases h

/-- A frame of cycle `seq` with one frame per cycle, received with this hardware time stamp. -/
def receivedAt (seq rxHwTimestamp now : UInt64) : TimestampEvent :=
  .received ⟨seq, false, false, false, 0, rxHwTimestamp, 0⟩ now

def mirroredCycle : List TimestampEvent := [receivedAt 0 500000 800000, .sent 0 1 1000000]

end RtcTestbench
