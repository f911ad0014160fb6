import RtcTestbench.Lib.Cells
import RtcTestbench.StatFold

namespace RtcTestbench
open Function Machine Cells
set_option autoImplicit true

/-- The fields of `struct xsk_tx_metadata` that concern time stamps; `timestamp` is the flag
`XDP_TXMD_FLAGS_TIMESTAMP`. -/
structure XskTxMetadata where
  timestamp : Bool
  txTimestamp : UInt64

/-- What the kernel says about a sent frame: the metadata in front of it in the UMEM area, or a
message on the error queue that echoes it, with time 0 if it brings none. -/
inductive TxCompletion where
  | xdp (metadata : XskTxMetadata) (data : List UInt8)
  | packet (hwTs : UInt64) (frame : List UInt8)

/-- `tx_hwts.frames_per_cycle` of the socket, which has 32 bits. -/
def xdpFramesPerCycle (n : UInt64) : UInt64 := n.toUInt32.toUInt64

/-- The frames per cycle a completion is handled with. -/
def TxCompletion.framesPerCycle (n : UInt64) : TxCompletion → UInt64
  | .xdp _ _ => xdpFramesPerCycle n
  | .packet _ _ => n

/-- `(seq / fpc) * fpc`; `none` for a division by zero. -/
def cycleStart (fpc seq : UInt64) : Option UInt64 :=
  if fpc = 0 then none else some (seq / fpc * fpc)

section Functions
variable (cfg : StatConfig) (s : StatState) (frameType : StatFrameType) (metaDataOffset : Nat)

/-- The Tx latency is measured at the first frame of a cycle. -/
def txLatencyOfCompletion (idx : Nat) (cycleSeq hwTs : UInt64) : Option StatState := do
  let rtt ← (s.roundTripContexts frameType).modify idx fun e => { e with hwTs }
  statFrameSentLatency cfg (s.setRoundTrip frameType rtt) frameType cycleSeq

def procOfCompletion (fpc frameInCycle cycleSeq swTs hwTs : UInt64) : Option StatState :=
  if cfg.logStatUserSelected = .txTimestamps ∧ cfg.build.rxTimestamp ∧ hwTs > swTs then
    if frameInCycle = 0 then statProcFirstLatency cfg s frameType cycleSeq hwTs
    else if frameInCycle = fpc - 1 then statProcBatchLatency cfg s frameType cycleSeq hwTs
    else some s
  else some s

/-- What both transports do with a completion after they have read the sequence counter. -/
def processTxCompletion (fpc seq hwTs : UInt64) : Option StatState := do
  let cycleSeq ← cycleStart fpc seq
  let frameInCycle := seq - cycleSeq
  let idx ← (s.roundTripContexts frameType).index cycleSeq
  let e ← (s.roundTripContexts frameType).entry idx
  if hwTs > 0 ∧ e.swTs > 0 then
    let s ← (if frameInCycle = 0 then txLatencyOfCompletion cfg s frameType idx cycleSeq hwTs
      else some s)
    procOfCompletion cfg s frameType fpc frameInCycle cycleSeq e.swTs hwTs
  else return s

/-- A frame without time is looked up as well, for a message. -/
def xdpProcessTxTimestamp (metadata : XskTxMetadata) (data : List UInt8) : Option StatState :=
  let fpc := xdpFramesPerCycle (cfg.framesPerCycle frameType)
  let seq := getSequenceCounter data metaDataOffset fpc
  if metadata.timestamp then processTxCompletion cfg s frameType fpc seq metadata.txTimestamp
  else do
    let cycleSeq ← cycleStart fpc seq
    let _ ← (s.roundTripContexts frameType).index cycleSeq
    return s

/-- The body of the loop in `packet_process_tx_completions`. -/
def packetProcessTxCompletion (hwTs : UInt64) (frame : List UInt8) : Option StatState :=
  if hwTs = 0 ∨ frame.length < metaDataOffset + sizeofReferenceMetaData then some s
  else
    let fpc := cfg.framesPerCycle frameType
    processTxCompletion cfg s frameType fpc (getSequenceCounter frame metaDataOffset fpc) hwTs

def handleTxCompletion : TxCompletion → Option StatState
  | .xdp metadata data => xdpProcessTxTimestamp cfg s frameType metaDataOffset metadata data
  | .packet hwTs frame => packetProcessTxCompletion cfg s frameType metaDataOffset hwTs frame

/-- Completions in the order in which they are found. -/
def handleTxCompletions (cs : List TxCompletion) : Option StatState :=
  cs.foldlM (fun s c => handleTxCompletion cfg s frameType metaDataOffset c) s

end Functions

/-- The hardware send time of a frame, with the sequence counter found in it. -/
structure TxReading where
  seq : UInt64
  hwTs : UInt64
  deriving DecidableEq

/-- What a completion is taken for; `none` if it is passed over. -/
def TxCompletion.reading (metaDataOffset : Nat) (n : UInt64) : TxCompletion → Option TxReading
  | .xdp metadata data =>
    if metadata.timestamp then
      some ⟨getSequenceCounter data metaDataOffset (xdpFramesPerCycle n), metadata.txTimestamp⟩
    else none
  | .packet hwTs frame =>
    if hwTs = 0 ∨ frame.length < metaDataOffset + sizeofReferenceMetaData then none
    else some ⟨getSequenceCounter frame metaDataOffset n, hwTs⟩

def TxReading.cycleSeq (r : TxReading) (n : UInt64) : UInt64 := r.seq / n * n

def TxReading.isFirst (r : TxReading) (n : UInt64) : Bool := r.seq - r.cycleSeq n = 0

def TxReading.isLast (r : TxReading) (n : UInt64) : Bool := r.seq - r.cycleSeq n = n - 1

section Slot
variable (cfg : StatConfig) (frameType : StatFrameType)

/-- `stat_frame_sent_latency` as a change of the slot. -/
def RttEntry.sentLatency (e : RttEntry) : RttEntry :=
  if !cfg.txHwtstampEnabled frameType then e
  else if e.swTs ≠ 0 ∧ e.hwTs = 0 then e
  else if e.hwTs > e.swTs then { e with hwTs := 0 }
  else e

def procRecords (records : UInt64 → List StatRecord) (e : RttEntry) (hwTs : UInt64) :
    List StatRecord :=
  (procLatency cfg frameType e.rxHwTs hwTs).elim [] records

/-- The second half of a completion as a change of the slot. -/
def RttEntry.procCompletion (e : RttEntry) (r : TxReading) : RttEntry × List StatRecord :=
  let n := cfg.framesPerCycle frameType
  if cfg.logStatUserSelected = .txTimestamps ∧ cfg.build.rxTimestamp ∧ r.hwTs > e.swTs then
    if r.isFirst n then (e, procRecords cfg frameType (procFirstRecords cfg) e r.hwTs)
    else if r.isLast n then
      ({ e with rxHwTs := 0 }, procRecords cfg frameType (procBatchRecords cfg) e r.hwTs)
    else (e, [])
  else (e, [])

/-- A slot of the backlog as a machine of its own: what a completion leaves in it and records. -/
def slotCell : System RttEntry TxReading (List StatRecord) where
  step e r :=
    if r.hwTs > 0 ∧ e.swTs > 0 then
      if r.isFirst (cfg.framesPerCycle frameType) then
        let e' := RttEntry.sentLatency cfg frameType { e with hwTs := r.hwTs }
        ((e'.procCompletion cfg frameType r).1,
          txLatencyRecords cfg frameType { e with hwTs := r.hwTs } ++
            (e'.procCompletion cfg frameType r).2)
      else e.procCompletion cfg frameType r
    else (e, [])

end Slot

def TxCompletion.slot (metaDataOffset : Nat) (n : UInt64) (len : Nat) (c : TxCompletion) : Nat :=
  (c.reading metaDataOffset n).elim 0 fun r => (r.cycleSeq n).toNat % len

/-- A completion that is passed over changes nothing. -/
def completionCell (cfg : StatConfig) (frameType : StatFrameType) (metaDataOffset : Nat) :
    System RttEntry TxCompletion (List StatRecord) where
  step e c := (c.reading metaDataOffset (cfg.framesPerCycle frameType)).elim (e, [])
    ((slotCell cfg frameType).step e)

/-- The backlog of a class with `len` slots. -/
def backlogTable (cfg : StatConfig) (frameType : StatFrameType) (metaDataOffset len : Nat) :
    System (List RttEntry) TxCompletion (List StatRecord) :=
  table (·.slot metaDataOffset (cfg.framesPerCycle frameType) len)
    (completionCell cfg frameType metaDataOffset)

structure RoundTripContext.Has (rtt : RoundTripContext) (tab : List RttEntry) : Prop where
  backlog_eq : rtt.backlog = some tab
  length_eq : rtt.backlogLen.toNat = tab.length

/-- From `s` to `s'` the backlog of the class becomes `tab` and its statistics take in `rs`. -/
structure Leads (frameType : StatFrameType) (s s' : StatState) (tab : List RttEntry)
    (rs : List StatRecord) : Prop where
  has : (s'.roundTripContexts frameType).Has tab
  records : Recorded (s.globalStatistics frameType) (s'.globalStatistics frameType) rs
  exited : s'.exited = s.exited

variable {cfg : StatConfig} {s s' s'' : StatState} {frameType : StatFrameType}
  {rtt : RoundTripContext} {tab tab' : List RttEntry} {e : RttEntry} {idx : Nat}
  {seq hwTs n : UInt64}
  {metaDataOffset : Nat}

theorem RoundTripContext.Has.index (h : rtt.Has tab) (hpos : 0 < tab.length) (c : UInt64) :
    rtt.index c = some (c.toNat % tab.length) := by
  have hne : rtt.backlogLen ≠ 0 := ne_zero_of_toNat_pos (h.length_eq ▸ hpos)
  rw [RoundTripContext.index, if_neg hne, UInt64.toNat_mod, h.length_eq]

theorem RoundTripContext.Has.entry (h : rtt.Has tab) (idx : Nat) : rtt.entry idx = tab[idx]? := by
  rw [RoundTripContext.entry, h.backlog_eq]
  rfl

theorem RoundTripContext.Has.modify (h : rtt.Has tab) (he : tab[idx]? = some e)
    (f : RttEntry → RttEntry) :
    ∃ rtt', rtt.modify idx f = some rtt' ∧ rtt'.Has (tab.set idx (f e)) := by
  simp only [RoundTripContext.modify, h.backlog_eq, he, Option.bind_eq_bind, Option.bind_some,
    Option.pure_def, Option.some.injEq, exists_eq_left']
  exact ⟨rfl, h.length_eq.trans List.length_set.symm⟩

theorem set_same (he : tab[idx]? = some e) : tab.set idx e = tab := by
  obtain ⟨hlt, rfl⟩ := List.getElem?_eq_some_iff.mp he
  exact List.set_getElem_self hlt

theorem Leads.refl (h : (s.roundTripContexts frameType).Has tab) : Leads frameType s s tab [] :=
  ⟨h, .refl _, rfl⟩

theorem Leads.trans (h : Leads frameType s s' tab rs) (h' : Leads frameType s' s'' tab' rs') :
    Leads frameType s s'' tab' (rs ++ rs') :=
  ⟨h'.has, h.records.trans h'.records, h'.exited.trans h.exited⟩

theorem leads_setRoundTrip (h : rtt.Has tab) :
    Leads frameType s (s.setRoundTrip frameType rtt) tab [] := by
  refine ⟨?_, .refl _, rfl⟩
  change (update s.roundTripContexts frameType rtt frameType).Has tab
  rw [update_self]
  exact h

theorem leads_updateBoth (h : (s.roundTripContexts frameType).Has tab)
    {global period : Statistics → Statistics}
    (hr : Recorded (s.globalStatistics frameType) (global (s.globalStatistics frameType)) rs) :
    Leads frameType s (s.updateBoth frameType global period) tab rs := by
  refine ⟨h, ?_, rfl⟩
  change Recorded _ (update s.globalStatistics frameType _ frameType) rs
  rw [update_self]
  exact hr

theorem statFrameSentLatency_leads (h : (s.roundTripContexts frameType).Has tab)
    (hidx : (s.roundTripContexts frameType).index seq = some idx) (he : tab[idx]? = some e) :
    ∃ s', statFrameSentLatency cfg s frameType seq = some s' ∧
      Leads frameType s s' (tab.set idx (e.sentLatency cfg frameType))
        (txLatencyRecords cfg frameType e) := by
  have hentry := (h.entry idx).trans he
  have hsame : tab.set idx e = tab := set_same he
  rw [statFrameSentLatency, txLatencyRecords, RttEntry.sentLatency]
  simp only [hidx, hentry, Option.bind_eq_bind, Option.bind_some, Option.pure_def]
  by_cases hoff : (!cfg.txHwtstampEnabled frameType) = true
  · rw [if_pos hoff, if_pos hoff, if_pos hoff, hsame]
    exact ⟨s, rfl, .refl h⟩
  rw [if_neg hoff, if_neg hoff, if_neg hoff]
  by_cases hdone : e.swTs ≠ 0 ∧ e.hwTs = 0
  · rw [if_pos hdone, if_pos hdone, if_pos hdone, hsame]
    exact ⟨s, rfl, .refl h⟩
  rw [if_neg hdone, if_neg hdone, if_neg hdone]
  by_cases hlt : e.hwTs > e.swTs
  · rw [if_pos hlt, if_pos hlt, if_pos hlt]
    obtain ⟨rtt, hm, hhas⟩ := h.modify he fun e => { e with hwTs := 0 }
    rw [hm]
    refine ⟨_, rfl, ?_⟩
    apply (leads_updateBoth h (statFrameSentLatencyCommon_recorded _ _)).trans
    exact leads_setRoundTrip hhas
  · rw [if_neg hlt, if_neg hlt, if_neg hlt, hsame]
    exact ⟨_, rfl, leads_updateBoth h (txHwTimestampMissing_recorded _)⟩

theorem statProcFirstLatency_leads (h : (s.roundTripContexts frameType).Has tab)
    (hidx : getFirstFrameBacklogIdx cfg s frameType seq = some idx) (he : tab[idx]? = some e)
    (hwTs : UInt64) :
    ∃ s', statProcFirstLatency cfg s frameType seq hwTs = some s' ∧
      Leads frameType s s' tab (procRecords cfg frameType (procFirstRecords cfg) e hwTs) := by
  have hentry := (h.entry idx).trans he
  rw [statProcFirstLatency, procRecords]
  simp only [hidx, hentry, Option.bind_eq_bind, Option.bind_some]
  cases procLatency cfg frameType e.rxHwTs hwTs with
  | none => exact ⟨s, rfl, .refl h⟩
  | some latency =>
    exact ⟨_, rfl, leads_updateBoth h (statFrameProcFirstCommon_recorded _ _ _)⟩

theorem statProcBatchLatency_leads (h : (s.roundTripContexts frameType).Has tab)
    (hidx : getFirstFrameBacklogIdx cfg s frameType seq = some idx) (he : tab[idx]? = some e)
    (hwTs : UInt64) :
    ∃ s', statProcBatchLatency cfg s frameType seq hwTs = some s' ∧
      Leads frameType s s' (tab.set idx { e with rxHwTs := 0 })
        (procRecords cfg frameType (procBatchRecords cfg) e hwTs) := by
  have hentry := (h.entry idx).trans he
  obtain ⟨rtt, hm, hhas⟩ := h.modify he fun e => { e with rxHwTs := 0 }
  have hclear := @leads_setRoundTrip s frameType _ _ hhas
  rw [statProcBatchLatency, procRecords]
  simp only [hidx, hentry, hm, Option.bind_eq_bind, Option.bind_some]
  cases procLatency cfg frameType e.rxHwTs hwTs with
  | none => exact ⟨_, rfl, hclear⟩
  | some latency =>
    refine ⟨_, rfl, hclear.trans ?_⟩
    exact leads_updateBoth hclear.has (statFrameProcBatchCommon_recorded _ _ _)

theorem firstFrameInCycle_eq (hn : 0 < (cfg.framesPerCycle frameType).toNat) (c : UInt64) :
    firstFrameInCycle cfg frameType c =
      some (c / cfg.framesPerCycle frameType * cfg.framesPerCycle frameType) := by
  rw [firstFrameInCycle]
  exact if_neg (ne_zero_of_toNat_pos hn)

theorem cycleStart_eq (hn : 0 < n.toNat) (c : UInt64) : cycleStart n c = some (c / n * n) := by
  rw [cycleStart]
  exact if_neg (ne_zero_of_toNat_pos hn)

theorem toNat_xdpFramesPerCycle (n : UInt64) : (xdpFramesPerCycle n).toNat = n.toNat % 2 ^ 32 := by
  rw [xdpFramesPerCycle, UInt32.toNat_toUInt64, UInt64.toNat_toUInt32]

theorem xdpFramesPerCycle_eq (h : n.toNat < 2 ^ 32) : xdpFramesPerCycle n = n := by
  rw [← UInt64.toNat_inj, toNat_xdpFramesPerCycle, Nat.mod_eq_of_lt h]

theorem TxCompletion.framesPerCycle_eq (h : n.toNat < 2 ^ 32) (c : TxCompletion) :
    c.framesPerCycle n = n := by
  cases c with
  | xdp metadata data => exact xdpFramesPerCycle_eq h
  | packet hwTs frame => rfl

theorem toNat_cycleStart (c n : UInt64) : (c / n * n).toNat = c.toNat / n.toNat * n.toNat := by
  rw [UInt64.toNat_mul, UInt64.toNat_div]
  exact Nat.mod_eq_of_lt (Nat.lt_of_le_of_lt (Nat.div_mul_le_self _ _) c.toNat_lt)

/-- Rounding the counter down once more changes nothing. -/
theorem cycleStart_idem (hn : 0 < n.toNat) (c : UInt64) : c / n * n / n * n = c / n * n := by
  rw [← UInt64.toNat_inj, toNat_cycleStart, toNat_cycleStart, Nat.mul_div_cancel _ hn]

theorem txLatencyOfCompletion_leads (h : (s.roundTripContexts frameType).Has tab)
    (hpos : 0 < tab.length) (hidx : seq.toNat % tab.length = idx) (he : tab[idx]? = some e)
    (hwTs : UInt64) :
    ∃ s', txLatencyOfCompletion cfg s frameType idx seq hwTs = some s' ∧
      Leads frameType s s'
        (tab.set idx (RttEntry.sentLatency cfg frameType { e with hwTs := hwTs }))
        (txLatencyRecords cfg frameType { e with hwTs := hwTs }) := by
  obtain ⟨rtt, hm, hhas⟩ := h.modify he fun e => { e with hwTs }
  have hstore := @leads_setRoundTrip s frameType _ _ hhas
  have hpos' : 0 < (tab.set idx { e with hwTs := hwTs }).length := by
    rw [List.length_set]
    exact hpos
  have hindex := hstore.has.index hpos' seq
  rw [List.length_set, hidx] at hindex
  have hself := @List.getElem?_set_self _ tab idx { e with hwTs := hwTs }
    (List.getElem?_eq_some_iff.mp he).1
  obtain ⟨s', hs', hleads⟩ := @statFrameSentLatency_leads cfg _ _ _ _ _ _ hstore.has hindex hself
  rw [List.set_set] at hleads
  rw [txLatencyOfCompletion, hm]
  exact ⟨s', hs', hstore.trans hleads⟩

@[simp] theorem sentLatency_swTs (e : RttEntry) : (e.sentLatency cfg frameType).swTs = e.swTs := by
  rw [RttEntry.sentLatency]
  repeat' split
  all_goals rfl

@[simp] theorem sentLatency_rxHwTs (e : RttEntry) :
    (e.sentLatency cfg frameType).rxHwTs = e.rxHwTs := by
  rw [RttEntry.sentLatency]
  repeat' split
  all_goals rfl

/-- A completion is passed over or processed. -/
theorem handleTxCompletion_cases {c : TxCompletion}
    (hs : handleTxCompletion cfg s frameType metaDataOffset c = some s') :
    c.reading metaDataOffset (cfg.framesPerCycle frameType) = none ∧ s' = s ∨
      ∃ r, c.reading metaDataOffset (cfg.framesPerCycle frameType) = some r ∧
        processTxCompletion cfg s frameType (c.framesPerCycle (cfg.framesPerCycle frameType)) r.seq
          r.hwTs = some s' := by
  cases c with
  | xdp metadata data =>
    rw [handleTxCompletion, xdpProcessTxTimestamp] at hs
    rw [TxCompletion.reading]
    split at hs
    · rename_i hstamp
      rw [if_pos hstamp]
      exact .inr ⟨_, rfl, hs⟩
    · rename_i hstamp
      simp only [Option.bind_eq_bind, Option.bind_eq_some_iff, Option.pure_def,
        Option.some.injEq] at hs
      obtain ⟨_, -, _, -, rfl⟩ := hs
      exact .inl ⟨if_neg hstamp, rfl⟩
  | packet hwTs frame =>
    rw [handleTxCompletion, packetProcessTxCompletion] at hs
    rw [TxCompletion.reading]
    split at hs
    · rename_i hskip
      cases hs
      exact .inl ⟨if_pos hskip, rfl⟩
    · rename_i hskip
      rw [if_neg hskip]
      exact .inr ⟨_, rfl, hs⟩

theorem length_backlogTable_run (len : Nat) (tab : List RttEntry) (cs : List TxCompletion) :
    ((backlogTable cfg frameType metaDataOffset len).run tab cs).1.length = tab.length :=
  length_run tab cs

section Step
variable {c : TxCompletion} (hn : 0 < (cfg.framesPerCycle frameType).toNat)
  (hfpc : c.framesPerCycle (cfg.framesPerCycle frameType) = cfg.framesPerCycle frameType)
  (h : (s.roundTripContexts frameType).Has tab) (hpos : 0 < tab.length)
include hn h hpos

theorem getFirstFrameBacklogIdx_eq (r : TxReading) :
    getFirstFrameBacklogIdx cfg s frameType (r.cycleSeq (cfg.framesPerCycle frameType)) =
      some ((r.cycleSeq (cfg.framesPerCycle frameType)).toNat % tab.length) := by
  rw [getFirstFrameBacklogIdx, firstFrameInCycle_eq hn, TxReading.cycleSeq, cycleStart_idem hn,
    Option.bind_eq_bind, Option.bind_some, h.index hpos]

theorem procOfCompletion_leads (r : TxReading)
    (he : tab[(r.cycleSeq (cfg.framesPerCycle frameType)).toNat % tab.length]? = some e) :
    ∃ s', procOfCompletion cfg s frameType (cfg.framesPerCycle frameType)
        (r.seq - r.cycleSeq (cfg.framesPerCycle frameType))
        (r.cycleSeq (cfg.framesPerCycle frameType)) e.swTs r.hwTs = some s' ∧
      Leads frameType s s'
        (tab.set ((r.cycleSeq (cfg.framesPerCycle frameType)).toNat % tab.length)
          (e.procCompletion cfg frameType r).1)
        (e.procCompletion cfg frameType r).2 := by
  have hidx := getFirstFrameBacklogIdx_eq hn h hpos r
  rw [procOfCompletion, RttEntry.procCompletion]
  simp only [TxReading.isFirst, TxReading.isLast, decide_eq_true_eq]
  split
  · split
    · rw [set_same he]
      exact statProcFirstLatency_leads h hidx he r.hwTs
    · split
      · exact statProcBatchLatency_leads h hidx he r.hwTs
      · rw [set_same he]
        exact ⟨s, rfl, .refl h⟩
  · rw [set_same he]
    exact ⟨s, rfl, .refl h⟩

theorem processTxCompletion_leads (r : TxReading)
    (he : tab[(r.cycleSeq (cfg.framesPerCycle frameType)).toNat % tab.length]? = some e) :
    ∃ s', processTxCompletion cfg s frameType (cfg.framesPerCycle frameType) r.seq r.hwTs =
        some s' ∧
      Leads frameType s s'
        (tab.set ((r.cycleSeq (cfg.framesPerCycle frameType)).toNat % tab.length)
          ((slotCell cfg frameType).step e r).1)
        ((slotCell cfg frameType).step e r).2 := by
  have hindex := h.index hpos (r.cycleSeq (cfg.framesPerCycle frameType))
  have hlt := Nat.mod_lt (r.cycleSeq (cfg.framesPerCycle frameType)).toNat hpos
  have hentry := (h.entry _).trans he
  have hstart : cycleStart (cfg.framesPerCycle frameType) r.seq =
      some (r.cycleSeq (cfg.framesPerCycle frameType)) := cycleStart_eq hn r.seq
  rw [processTxCompletion, hstart]
  simp only [Option.bind_eq_bind, Option.bind_some, Option.pure_def, hindex, hentry, slotCell,
    TxReading.isFirst, decide_eq_true_eq]
  by_cases hvalid : r.hwTs > 0 ∧ e.swTs > 0
  · rw [if_pos hvalid, if_pos hvalid]
    by_cases hf : r.seq - r.cycleSeq (cfg.framesPerCycle frameType) = 0
    · obtain ⟨s₁, hs₁, h₁⟩ := @txLatencyOfCompletion_leads cfg s _ _ _ _ _ h hpos rfl he r.hwTs
      generalize hidx : (r.cycleSeq (cfg.framesPerCycle frameType)).toNat % tab.length = idx at *
      generalize hlater : RttEntry.sentLatency cfg frameType { e with hwTs := r.hwTs } = e' at *
      have hlen : (tab.set idx e').length = tab.length := List.length_set
      have he' : (tab.set idx e')[(r.cycleSeq (cfg.framesPerCycle frameType)).toNat %
          (tab.set idx e').length]? = some e' := by
        rw [hlen, hidx]
        exact List.getElem?_set_self hlt
      obtain ⟨s', hs', h'⟩ := procOfCompletion_leads hn h₁.has (hlen ▸ hpos) r he'
      have hsw : e'.swTs = e.swTs := by
        rw [← hlater]
        exact sentLatency_swTs _
      rw [hlen, hidx, List.set_set] at h'
      rw [hsw] at hs'
      rw [if_pos hf, if_pos hf, hs₁, Option.bind_some]
      exact ⟨s', hs', h₁.trans h'⟩
    · rw [if_neg hf, if_neg hf]
      exact procOfCompletion_leads hn h hpos r he
  · rw [if_neg hvalid, if_neg hvalid, set_same he]
    exact ⟨s, rfl, .refl h⟩

include hfpc in
theorem handleTxCompletion_eq :
    handleTxCompletion cfg s frameType metaDataOffset c =
      (c.reading metaDataOffset (cfg.framesPerCycle frameType)).elim (some s) fun r =>
        processTxCompletion cfg s frameType (cfg.framesPerCycle frameType) r.seq r.hwTs := by
  cases c with
  | xdp metadata data =>
    rw [TxCompletion.framesPerCycle] at hfpc
    rw [handleTxCompletion, xdpProcessTxTimestamp, TxCompletion.reading, hfpc]
    split
    · rfl
    · rw [cycleStart_eq hn, Option.bind_eq_bind, Option.bind_some, h.index hpos]
      rfl
  | packet hwTs frame =>
    rw [handleTxCompletion, packetProcessTxCompletion, TxCompletion.reading]
    split <;> rfl

include hfpc in
/-- A completion of either transport is one step of the backlog table. -/
theorem handleTxCompletion_leads :
    ∃ s', handleTxCompletion cfg s frameType metaDataOffset c = some s' ∧
      Leads frameType s s' ((backlogTable cfg frameType metaDataOffset tab.length).step tab c).1
        ((backlogTable cfg frameType metaDataOffset tab.length).step tab c).2 := by
  have hslot : c.slot metaDataOffset (cfg.framesPerCycle frameType) tab.length < tab.length := by
    rw [TxCompletion.slot]
    cases c.reading metaDataOffset (cfg.framesPerCycle frameType) with
    | none => exact hpos
    | some r => exact Nat.mod_lt _ hpos
  obtain ⟨e, he⟩ : ∃ e, tab[c.slot metaDataOffset (cfg.framesPerCycle frameType) tab.length]? =
      some e := ⟨_, List.getElem?_eq_getElem hslot⟩
  rw [handleTxCompletion_eq hn hfpc h hpos, backlogTable, table_step he]
  simp only [TxCompletion.slot, completionCell] at he ⊢
  cases hr : c.reading metaDataOffset (cfg.framesPerCycle frameType) with
  | none =>
    simp only [hr, Option.elim_none] at he ⊢
    rw [set_same he]
    exact ⟨s, rfl, .refl h⟩
  | some r =>
    simp only [hr, Option.elim_some] at he ⊢
    exact processTxCompletion_leads hn h hpos r he

/-- So are all completions of a run together. -/
theorem handleTxCompletions_lead {cs : List TxCompletion}
    (hfpc : ∀ c ∈ cs, c.framesPerCycle (cfg.framesPerCycle frameType) =
      cfg.framesPerCycle frameType) :
    ∃ s', handleTxCompletions cfg s frameType metaDataOffset cs = some s' ∧
      Leads frameType s s' ((backlogTable cfg frameType metaDataOffset tab.length).run tab cs).1
        ((backlogTable cfg frameType metaDataOffset tab.length).run tab cs).2.flatten := by
  generalize hlen : tab.length = len
  induction cs generalizing s tab with
  | nil => exact ⟨s, rfl, .refl h⟩
  | cons c cs ih =>
    obtain ⟨hfpc, hrest⟩ := List.forall_mem_cons.mp hfpc
    obtain ⟨s₁, hs₁, h₁⟩ := @handleTxCompletion_leads cfg s _ _ metaDataOffset c hn hfpc h hpos
    rw [hlen] at h₁
    have hlen₁ : ((backlogTable cfg frameType metaDataOffset len).step tab c).1.length = len :=
      (length_step tab c).trans hlen
    obtain ⟨s', hs', h'⟩ := ih h₁.has (by rw [hlen₁, ← hlen]; exact hpos) hrest hlen₁
    rw [handleTxCompletions, List.foldlM_cons, hs₁, System.run_cons, List.flatten_cons]
    exact ⟨s', hs', h₁.trans h'⟩

end Step

/-- What a completion records depends on the earlier completions in its slot only. -/
theorem handleTxCompletion_recorded (hn : 0 < (cfg.framesPerCycle frameType).toNat)
    (h : (s.roundTripContexts frameType).Has tab) (he : tab[idx]? = some e) {x : TxCompletion}
    (hx : x.slot metaDataOffset (cfg.framesPerCycle frameType) tab.length = idx)
    {before : List TxCompletion}
    (hfpc : ∀ c ∈ x :: before,
      c.framesPerCycle (cfg.framesPerCycle frameType) = cfg.framesPerCycle frameType)
    (hbefore : handleTxCompletions cfg s frameType metaDataOffset before = some s')
    (hstep : handleTxCompletion cfg s' frameType metaDataOffset x = some s'') :
    Recorded (s'.globalStatistics frameType) (s''.globalStatistics frameType)
      ((completionCell cfg frameType metaDataOffset).step
        ((completionCell cfg frameType metaDataOffset).run e (before.filter fun y =>
          y.slot metaDataOffset (cfg.framesPerCycle frameType) tab.length = idx)).1 x).2 := by
  have hpos : 0 < tab.length := Nat.zero_lt_of_lt (List.getElem?_eq_some_iff.mp he).1
  obtain ⟨hxfpc, hfpc⟩ := List.forall_mem_cons.mp hfpc
  obtain ⟨s₁, hs₁, h₁⟩ :=
    @handleTxCompletions_lead cfg s frameType tab metaDataOffset hn h hpos before hfpc
  cases hs₁.symm.trans hbefore
  have hcell : ((backlogTable cfg frameType metaDataOffset tab.length).run tab before).1[idx]? =
      _ := (run_cell he before).1
  have hlen := @length_backlogTable_run cfg frameType metaDataOffset tab.length tab before
  generalize ((backlogTable cfg frameType metaDataOffset tab.length).run tab before).1 = tab'
    at h₁ hcell hlen
  obtain ⟨s₂, hs₂, h₂⟩ :=
    @handleTxCompletion_leads cfg s' frameType tab' metaDataOffset x hn hxfpc h₁.has (hlen ▸ hpos)
  cases hs₂.symm.trans hstep
  have hrec := h₂.records
  rw [hlen, backlogTable, table_step (by rw [hx]; exact hcell)] at hrec
  exact hrec

end RtcTestbench
