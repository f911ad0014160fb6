import RtcTestbench.RoundTripTime
import RtcTestbench.RxTimestamp

namespace RtcTestbench
open Function Machine Cells Window
set_option autoImplicit true

structure TxStatistics where
  count : UInt64
  min : UInt64
  max : UInt64
  missing : UInt64
  deriving DecidableEq

def Statistics.tx (stat : Statistics) : TxStatistics :=
  ⟨stat.txCount, stat.txMin, stat.txMax, stat.txHwTimestampMissing⟩

/-- What one frame, sent at `swTs` by the software clock and at `hwTs` by the hardware, adds. -/
def Statistics.afterTx (stat : Statistics) (hwTs swTs : UInt64) : TxStatistics :=
  if hwTs > swTs then (statFrameSentLatencyCommon ((hwTs - swTs) / 1000) stat).tx
  else { stat.tx with missing := stat.tx.missing + 1 }

def StatRecord.isTx : StatRecord → Bool
  | .count c _ => c ∈ [.txCount, .txHwTimestampMissing]
  | .sample l _ => l = .tx
  | .oneway _ => false

def TimestampEvent.batch? : TimestampEvent → Option SentBatch
  | .sent cycleNumber frameCount now => some ⟨cycleNumber, frameCount, now⟩
  | _ => none

def batchesOf (es : List TimestampEvent) : List SentBatch := es.filterMap (·.batch?)

def TimestampEvent.isFirstCompletion (metaDataOffset : Nat) (n : UInt64) : TimestampEvent → Bool
  | .completed c => (c.reading metaDataOffset n).any fun r => r.hwTs ≠ 0 && r.isFirst n
  | _ => false

/-- The reading is taken for frame `c` of batch `b`, and no batch so far has reached its slot
again. -/
structure SentReading (n : UInt64) (past : List TimestampEvent) (r : TxReading) (b : SentBatch)
    (c : Nat) : Prop where
  sent : b ∈ batchesOf past
  contains : b.Contains c
  inTime : ∀ b' ∈ batchesOf past, ∀ d, b'.Contains d → d < c / n.toNat * n.toNat + 1024 * n.toNat
  slot : (r.cycleSeq n).toNat % (1024 * n.toNat) = c / n.toNat * n.toNat % (1024 * n.toNat)
  first : r.isFirst n = true ↔ c % n.toNat = 0

/-- The program runs, and the backlog holds the send times of the batches so far. -/
structure SendTimes (cfg : StatConfig) (frameType : StatFrameType) (past : List TimestampEvent)
    (s : StatState) : Prop where
  live : s.exited = false
  holds : (s.roundTripContexts frameType).Holds
    (((batchesOf past).flatMap (·.writes (cfg.stampStep frameType))).foldl record
      (List.replicate (1024 * (cfg.framesPerCycle frameType).toNat) 0))

variable {cfg : StatConfig} {s s' s₁ s₂ : StatState} {frameType : StatFrameType}
  {tab : List RttEntry} {times : List UInt64} {e : RttEntry} {n : UInt64} {metaDataOffset : Nat}
  {r : TxReading} {past es : List TimestampEvent} {ev : TimestampEvent} {b : SentBatch}
  {rtt : RoundTripContext} {a a' a'' : Statistics}

theorem tx_of_perm (h : Recorded a a' rs) (h' : Recorded a a'' rs')
    (hperm : (rs.filter StatRecord.isTx).Perm (rs'.filter StatRecord.isTx)) : a'.tx = a''.tx := by
  obtain ⟨hmin, hmax⟩ := h.extremes_of_perm (l := .tx) h' hperm fun _ => rfl
  rw [Statistics.tx, Statistics.tx, TxStatistics.mk.injEq]
  exact ⟨h.counter_of_perm (k := .txCount) h' hperm fun _ => rfl, hmin, hmax,
    h.counter_of_perm (k := .txHwTimestampMissing) h' hperm fun _ => rfl⟩

theorem isTx_procRecords (records : UInt64 → List StatRecord)
    (h : ∀ us, (records us).filter StatRecord.isTx = []) (e : RttEntry) (hwTs : UInt64) :
    (procRecords cfg frameType records e hwTs).filter StatRecord.isTx = [] := by
  rw [procRecords]
  cases procLatency cfg frameType e.rxHwTs hwTs with
  | none => rfl
  | some us => exact h us

theorem isTx_procFirstRecords (us : UInt64) :
    (procFirstRecords cfg us).filter StatRecord.isTx = [] := by
  rw [procFirstRecords, countIf]
  split <;> rfl

theorem isTx_procBatchRecords (us : UInt64) :
    (procBatchRecords cfg us).filter StatRecord.isTx = [] := by
  rw [procBatchRecords, countIf]
  split <;> rfl

theorem isTx_procCompletion (e : RttEntry) (r : TxReading) :
    (e.procCompletion cfg frameType r).2.filter StatRecord.isTx = [] := by
  rw [RttEntry.procCompletion]
  split
  · split
    · exact isTx_procRecords _ isTx_procFirstRecords e r.hwTs
    · split
      · exact isTx_procRecords _ isTx_procBatchRecords e r.hwTs
      · rfl
  · rfl

theorem slotCell_swTs (e : RttEntry) (r : TxReading) :
    ((slotCell cfg frameType).step e r).1.swTs = e.swTs := by
  simp only [slotCell, RttEntry.procCompletion]
  repeat' split
  all_goals simp

/-- A latency of less than 2^63 ns survives the signed division. -/
theorem toUInt64_div_thousand {x : UInt64} (h : x.toNat < 2 ^ 63) :
    (x.toInt64 / 1000).toUInt64 = x / 1000 := by
  have hmsb : x.toBitVec.msb = false := by
    rw [BitVec.msb_eq_false_iff_two_mul_lt]
    change 2 * x.toNat < 2 ^ 64
    omega
  apply UInt64.eq_of_toBitVec_eq
  change x.toBitVec.sdiv 1000#64 = x.toBitVec / 1000#64
  rw [BitVec.sdiv_eq, hmsb]
  rfl

theorem slotCell_tx_zero (hrec : Recorded a a' ((slotCell cfg frameType).step e r).2)
    (hhw : r.hwTs = 0) : a'.tx = a.tx := by
  apply tx_of_perm hrec (.refl a)
  rw [slotCell]
  dsimp only
  rw [if_neg fun hc => UInt64.pos_iff_ne_zero.mp hc.1 hhw]

theorem slotCell_tx (hen : cfg.txHwtstampEnabled frameType = true)
    (hrec : Recorded a a' ((slotCell cfg frameType).step e r).2) (hsw : e.swTs ≠ 0)
    (hhw : r.hwTs ≠ 0) (hf : r.isFirst (cfg.framesPerCycle frameType) = true)
    (hsmall : r.hwTs.toNat < e.swTs.toNat + 2 ^ 63) : a'.tx = a.afterTx r.hwTs e.swTs := by
  rw [slotCell] at hrec
  dsimp only at hrec
  rw [if_pos ⟨UInt64.pos_iff_ne_zero.mpr hhw, UInt64.pos_iff_ne_zero.mpr hsw⟩, if_pos hf] at hrec
  rw [txLatencyRecords, hen] at hrec
  simp only [Bool.not_true, Bool.false_eq_true, ↓reduceIte, hhw, and_false] at hrec
  rw [Statistics.afterTx]
  split
  · rename_i hlt
    rw [if_pos hlt] at hrec
    have hle : e.swTs ≤ r.hwTs := UInt64.le_of_lt hlt
    rw [toUInt64_div_thousand (by rw [UInt64.toNat_sub_of_le _ _ hle]; omega)] at hrec
    apply tx_of_perm hrec (statFrameSentLatencyCommon_recorded _ a)
    rw [List.filter_append, isTx_procCompletion, List.append_nil]
  · rename_i hge
    rw [if_neg hge] at hrec
    have hmissing := tx_of_perm hrec (txHwTimestampMissing_recorded a) (by
      rw [List.filter_append, isTx_procCompletion, List.append_nil])
    exact hmissing

theorem slotCell_tx_later (hrec : Recorded a a' ((slotCell cfg frameType).step e r).2)
    (hf : r.isFirst (cfg.framesPerCycle frameType) = false) : a'.tx = a.tx := by
  apply tx_of_perm hrec (.refl a)
  rw [slotCell]
  dsimp only
  rw [hf]
  split
  · rw [if_neg Bool.false_ne_true, isTx_procCompletion, List.filter_nil]
  · rfl

theorem RoundTripContext.Has.holds (h : rtt.Has tab) (hpos : 0 < tab.length) :
    rtt.Holds (tab.map RttEntry.swTs) := by
  refine ⟨?_, ?_, ?_⟩
  · rw [RoundTripContext.times, h.backlog_eq, Option.map_some]
  · rw [List.length_map]
    exact h.length_eq
  · rw [List.length_map]
    exact hpos

theorem RoundTripContext.Holds.has (h : rtt.Holds times) :
    ∃ tab, rtt.Has tab ∧ tab.map RttEntry.swTs = times := by
  obtain ⟨tab, htab, rfl⟩ := Option.map_eq_some_iff.mp h.times_eq
  refine ⟨tab, ⟨htab, ?_⟩, rfl⟩
  rw [h.length_eq, List.length_map]

/-- A completion leaves all send times as they are and records by the one in its slot. -/
theorem handleTxCompletion_holds {c : TxCompletion} (hn : 0 < (cfg.framesPerCycle frameType).toNat)
    (hfpc : c.framesPerCycle (cfg.framesPerCycle frameType) = cfg.framesPerCycle frameType)
    (h : (s.roundTripContexts frameType).Holds times) :
    ∃ s', handleTxCompletion cfg s frameType metaDataOffset c = some s' ∧
      (s'.roundTripContexts frameType).Holds times ∧ s'.exited = s.exited ∧
      (c.reading metaDataOffset (cfg.framesPerCycle frameType) = none → s' = s) ∧
      ∀ r, c.reading metaDataOffset (cfg.framesPerCycle frameType) = some r →
        ∃ e : RttEntry, times[(r.cycleSeq (cfg.framesPerCycle frameType)).toNat % times.length]? =
            some e.swTs ∧
          Recorded (s.globalStatistics frameType) (s'.globalStatistics frameType)
            ((slotCell cfg frameType).step e r).2 := by
  obtain ⟨tab, htab, rfl⟩ := h.has
  have hpos := h.pos
  rw [List.length_map] at hpos ⊢
  rw [handleTxCompletion_eq hn hfpc htab hpos]
  cases c.reading metaDataOffset (cfg.framesPerCycle frameType) with
  | none => exact ⟨s, rfl, h, rfl, fun _ => rfl, nofun⟩
  | some r =>
    obtain ⟨e, he⟩ : ∃ e, tab[(r.cycleSeq (cfg.framesPerCycle frameType)).toNat % tab.length]? =
        some e := ⟨_, List.getElem?_eq_getElem (Nat.mod_lt _ hpos)⟩
    generalize hidx : (r.cycleSeq (cfg.framesPerCycle frameType)).toNat % tab.length = idx at he
    obtain ⟨s', hs', hleads⟩ := processTxCompletion_leads hn htab hpos r (hidx ▸ he)
    rw [hidx] at hleads
    have hsame : (tab.set idx ((slotCell cfg frameType).step e r).1).map RttEntry.swTs =
        tab.map RttEntry.swTs := by
      rw [List.map_set, slotCell_swTs, ← List.map_set, set_same he]
    have hholds := hleads.has.holds (by rw [List.length_set]; exact hpos)
    rw [hsame] at hholds
    refine ⟨s', hs', hholds, hleads.exited, nofun, ?_⟩
    intro r' hr'
    cases hr'
    rw [hidx]
    exact ⟨e, by rw [List.getElem?_map, he, Option.map_some], hleads.records⟩

theorem batchesOf_append (es es' : List TimestampEvent) :
    batchesOf (es ++ es') = batchesOf es ++ batchesOf es' := List.filterMap_append

theorem batchesOf_completed (past : List TimestampEvent) (c : TxCompletion) :
    batchesOf (past ++ [.completed c]) = batchesOf past := by
  rw [batchesOf_append]
  exact List.append_nil _

theorem batchesOf_sent (past : List TimestampEvent) (b : SentBatch) :
    batchesOf (past ++ [.sent b.cycleNumber b.frameCount b.txTime]) = batchesOf past ++ [b] :=
  batchesOf_append _ _

theorem stampStep_hw (hen : cfg.txHwtstampEnabled frameType = true) :
    cfg.stampStep frameType = (cfg.framesPerCycle frameType).toNat := if_pos hen

/-- A completion of a frame whose slot has not been reused finds the time its own batch was sent. -/
theorem SendTimes.slot {c : Nat} (hen : cfg.txHwtstampEnabled frameType = true)
    (hn : 0 < (cfg.framesPerCycle frameType).toNat) (hinc : Increasing (batchesOf past))
    (hsent : SentReading (cfg.framesPerCycle frameType) past r b c)
    (hf : r.isFirst (cfg.framesPerCycle frameType) = true) :
    (((batchesOf past).flatMap (·.writes (cfg.stampStep frameType))).foldl record
      (List.replicate (1024 * (cfg.framesPerCycle frameType).toNat) 0))[
        (r.cycleSeq (cfg.framesPerCycle frameType)).toNat %
          (1024 * (cfg.framesPerCycle frameType).toNat)]? = some b.txTime := by
  have hdvd := Nat.dvd_of_mod_eq_zero (hsent.first.mp hf)
  have hin := hsent.inTime
  rw [hsent.slot]
  rw [Nat.div_mul_cancel hdvd] at hin ⊢
  generalize hlen : 1024 * (cfg.framesPerCycle frameType).toNat = len at hin ⊢
  have hslot := @getElem?_writes (List.replicate len 0) b (batchesOf past) _ c
    (StatConfig.stampStep_pos hn) (by rw [List.length_replicate]; omega) hinc hsent.sent
    hsent.contains (by rw [stampStep_hw hen]; exact hdvd)
    (by rw [List.length_replicate]; exact hin)
  rw [List.length_replicate] at hslot
  exact hslot

section Step
variable (hn : 0 < (cfg.framesPerCycle frameType).toNat) (h : SendTimes cfg frameType past s)
include hn h

theorem SendTimes.sent (hmode : cfg.logStatUserSelected ≠ .mirror)
    (hfit : b.Fits (cfg.stampStep frameType)) :
    ∃ s', timestampStep cfg frameType metaDataOffset s
        (.sent b.cycleNumber b.frameCount b.txTime) = some s' ∧
      SendTimes cfg frameType (past ++ [.sent b.cycleNumber b.frameCount b.txTime]) s' ∧
      (s'.globalStatistics frameType).tx = (s.globalStatistics frameType).tx := by
  obtain ⟨s', hs', hholds, hexited, -, hsent⟩ := statFramesSentBatch_holds hmode hn h.holds hfit
  have htx : (s'.globalStatistics frameType).tx = (s.globalStatistics frameType).tx := by
    rw [hsent]
    rfl
  rw [timestampStep, h.live, if_neg Bool.false_ne_true, timestampCall]
  refine ⟨s', hs', ⟨hexited.trans h.live, ?_⟩, htx⟩
  rw [batchesOf_sent, List.flatMap_append, List.foldl_append, List.flatMap_singleton]
  exact hholds

theorem SendTimes.completed {c : TxCompletion}
    (hfpc : c.framesPerCycle (cfg.framesPerCycle frameType) = cfg.framesPerCycle frameType) :
    ∃ s', timestampStep cfg frameType metaDataOffset s (.completed c) = some s' ∧
      SendTimes cfg frameType (past ++ [.completed c]) s' ∧
      ((∀ r, c.reading metaDataOffset (cfg.framesPerCycle frameType) = some r →
          r.isFirst (cfg.framesPerCycle frameType) = false) →
        (s'.globalStatistics frameType).tx = (s.globalStatistics frameType).tx) ∧
      ∀ r b i, c.reading metaDataOffset (cfg.framesPerCycle frameType) = some r →
        cfg.txHwtstampEnabled frameType = true → Increasing (batchesOf past) →
        r.isFirst (cfg.framesPerCycle frameType) = true →
        SentReading (cfg.framesPerCycle frameType) past r b i → b.txTime ≠ 0 →
        r.hwTs.toNat < b.txTime.toNat + 2 ^ 63 →
        (s'.globalStatistics frameType).tx =
          if r.hwTs ≠ 0 then (s.globalStatistics frameType).afterTx r.hwTs b.txTime
          else (s.globalStatistics frameType).tx := by
  obtain ⟨s', hs', hholds, hexited, hnone, hsome⟩ :=
    @handleTxCompletion_holds cfg s frameType _ metaDataOffset c hn hfpc h.holds
  rw [timestampStep, h.live, if_neg Bool.false_ne_true, timestampCall]
  refine ⟨s', hs', ⟨hexited.trans h.live, ?_⟩, ?_, ?_⟩
  · rw [batchesOf_completed]
    exact hholds
  · intro hlater
    cases hr : c.reading metaDataOffset (cfg.framesPerCycle frameType) with
    | none => rw [hnone hr]
    | some r =>
      obtain ⟨e, -, hrec⟩ := hsome r hr
      exact slotCell_tx_later hrec (hlater r hr)
  · intro r b i hr hen hinc hf hsent hclock hsmall
    obtain ⟨e, he, hrec⟩ := hsome r hr
    rw [length_foldl_record, List.length_replicate] at he
    by_cases hhw : r.hwTs = 0
    · rw [if_neg (not_not.mpr hhw)]
      exact slotCell_tx_zero hrec hhw
    · rw [SendTimes.slot hen hn hinc hsent hf, Option.some.injEq] at he
      rw [he] at hclock hsmall ⊢
      rw [if_pos hhw]
      exact slotCell_tx hen hrec hclock hhw hf hsmall

end Step

/-- What an event of the Tx thread has to be after `past`: a send, or a completion that, if it is
that of the first frame of a cycle, is found before its slot is used again. -/
def InTime (cfg : StatConfig) (frameType : StatFrameType) (metaDataOffset : Nat)
    (past : List TimestampEvent) : TimestampEvent → Prop
  | .sent cycleNumber frameCount now =>
    (SentBatch.mk cycleNumber frameCount now).Fits (cfg.stampStep frameType)
  | .received _ _ => False
  | .completed c => c.framesPerCycle (cfg.framesPerCycle frameType) = cfg.framesPerCycle frameType ∧
    ∀ r, c.reading metaDataOffset (cfg.framesPerCycle frameType) = some r →
      r.isFirst (cfg.framesPerCycle frameType) = true →
      ∃ b i, SentReading (cfg.framesPerCycle frameType) past r b i ∧ b.txTime ≠ 0 ∧
        r.hwTs.toNat < b.txTime.toNat + 2 ^ 63

def AllInTime (cfg : StatConfig) (frameType : StatFrameType) (metaDataOffset : Nat)
    (es : List TimestampEvent) : Prop :=
  ∀ past ev rest, es = past ++ ev :: rest → InTime cfg frameType metaDataOffset past ev

theorem AllInTime.left (h : AllInTime cfg frameType metaDataOffset (past ++ es)) :
    AllInTime cfg frameType metaDataOffset past := by
  intro past' ev rest heq
  apply h past' ev (rest ++ es)
  rw [heq, List.append_assoc, List.cons_append]

theorem AllInTime.concat (h : AllInTime cfg frameType metaDataOffset past)
    (hev : InTime cfg frameType metaDataOffset past ev) :
    AllInTime cfg frameType metaDataOffset (past ++ [ev]) := by
  intro past' ev' rest heq
  rcases List.eq_nil_or_concat rest with rfl | ⟨rest', last, rfl⟩
  · obtain ⟨rfl, hone⟩ := List.append_inj' heq rfl
    cases hone
    exact hev
  · rw [List.concat_eq_append, ← List.cons_append, ← List.append_assoc] at heq
    obtain ⟨hpast, -⟩ := List.append_inj' heq rfl
    exact h past' ev' rest' hpast

theorem Increasing.left {bs bs' : List SentBatch} (h : Increasing (bs ++ bs')) : Increasing bs :=
  (List.pairwise_append.mp h).1

theorem afterTx_total (stat : Statistics) (hwTs swTs : UInt64) :
    (stat.afterTx hwTs swTs).count + (stat.afterTx hwTs swTs).missing =
      stat.tx.count + stat.tx.missing + 1 := by
  rw [Statistics.afterTx]
  split
  · change stat.txCount + 1 + stat.txHwTimestampMissing =
      stat.txCount + stat.txHwTimestampMissing + 1
    exact add_right_comm _ _ _
  · exact (UInt64.add_assoc _ _ _).symm

theorem timestampRun_concat (es : List TimestampEvent) (ev : TimestampEvent) :
    timestampRun cfg frameType metaDataOffset s (es ++ [ev]) =
      (timestampRun cfg frameType metaDataOffset s es).bind fun s₁ =>
        timestampStep cfg frameType metaDataOffset s₁ ev := by
  rw [timestampRun, List.foldlM_append]
  apply congrArg
  funext s₁
  exact Option.bind_fun_some _

theorem statInit_sendTimes (hneeds : needsBacklog cfg frameType = true)
    (hn : 0 < (cfg.framesPerCycle frameType).toNat)
    (hn' : (cfg.framesPerCycle frameType).toNat < 2 ^ 54) (hi : statInit cfg = some s) :
    SendTimes cfg frameType [] s ∧ (s.globalStatistics frameType).tx.count = 0 ∧
      (s.globalStatistics frameType).tx.missing = 0 := by
  obtain ⟨htracked, hlive⟩ := statInit_tracked hneeds hn hn' hi
  refine ⟨⟨hlive, htracked.holds⟩, ?_⟩
  rw [statInit] at hi
  split at hi
  · cases hi
  · cases hi
    exact ⟨rfl, rfl⟩

/-- Over a whole run the send times stay those of the batches, and every first completion of a
cycle counts once. -/
theorem timestampRun_tx (hmode : cfg.logStatUserSelected ≠ .mirror)
    (hen : cfg.txHwtstampEnabled frameType = true)
    (hn : 0 < (cfg.framesPerCycle frameType).toNat)
    (hn' : (cfg.framesPerCycle frameType).toNat < 2 ^ 54) (hi : statInit cfg = some s)
    (es : List TimestampEvent) (hinc : Increasing (batchesOf es))
    (hes : AllInTime cfg frameType metaDataOffset es) :
    ∃ s', timestampRun cfg frameType metaDataOffset s es = some s' ∧
      SendTimes cfg frameType es s' ∧
      (s'.globalStatistics frameType).tx.count + (s'.globalStatistics frameType).tx.missing =
        UInt64.ofNat
          (es.countP (·.isFirstCompletion metaDataOffset (cfg.framesPerCycle frameType))) := by
  have hneeds : needsBacklog cfg frameType = true := by
    rw [needsBacklog]
    cases hopt : cfg.logStatUserSelected with
    | reference => rfl
    | mirror => exact absurd hopt hmode
    | txTimestamps => simp [hen]
  induction es using List.reverseRecOn with
  | nil =>
    obtain ⟨h, hcount, hmissing⟩ := statInit_sendTimes hneeds hn hn' hi
    refine ⟨s, rfl, h, ?_⟩
    rw [hcount, hmissing]
    rfl
  | append_singleton past ev ih =>
    rw [batchesOf_append] at hinc
    obtain ⟨s₁, hs₁, h₁, htotal⟩ := ih hinc.left hes.left
    rw [timestampRun_concat, hs₁, Option.bind_some, List.countP_append, List.countP_singleton]
    have hin := hes past ev [] rfl
    cases ev with
    | sent cycleNumber frameCount now =>
      obtain ⟨s', hs', h', htx⟩ := @SendTimes.sent cfg s₁ frameType metaDataOffset past
        ⟨cycleNumber, frameCount, now⟩ hn h₁ hmode hin
      refine ⟨s', hs', h', ?_⟩
      rw [htx]
      exact htotal
    | received rep now => exact hin.elim
    | completed c =>
      obtain ⟨s', hs', h', hlater, hsome⟩ := @SendTimes.completed cfg s₁ frameType metaDataOffset
        past hn h₁ c hin.1
      refine ⟨s', hs', h', ?_⟩
      rw [TimestampEvent.isFirstCompletion]
      cases hr : c.reading metaDataOffset (cfg.framesPerCycle frameType) with
      | none =>
        rw [hlater fun r hr' => by cases hr.symm.trans hr']
        exact htotal
      | some r =>
        rw [Option.any_some]
        cases hf : r.isFirst (cfg.framesPerCycle frameType) with
        | true =>
          obtain ⟨b, i, hsent, hclock, hsmall⟩ := hin.2 r hr hf
          rw [hsome r b i hr hen hinc.left hf hsent hclock hsmall, Bool.and_true]
          by_cases hhw : r.hwTs ≠ 0
          · rw [if_pos hhw, if_pos (decide_eq_true hhw), afterTx_total, htotal, UInt64.ofNat_add]
            rfl
          · rw [if_neg hhw, if_neg fun hc => hhw (of_decide_eq_true hc)]
            exact htotal
        | false =>
          rw [hlater fun r' hr' => by cases hr.symm.trans hr'; exact hf, Bool.and_false]
          exact htotal

/-- A message of the error queue: the hardware time, 0 if there is none, and the echoed frame. -/
structure ErrorQueueMessage where
  hwTs : UInt64
  frame : List UInt8

/-- A pass of an AF_PACKET Tx thread in which `sendmmsg` takes every frame, with the times it reads
from the clock and the messages it finds on the error queue. -/
inductive PacketTxPass where
  | generated (sequenceCounterBegin now : UInt64) (messages : List ErrorQueueMessage)
  | mirrored (frames : List (List UInt8 × UInt64)) (messages : List ErrorQueueMessage)

/-- The number of frames as `packet_send_messages` returns it, an `int`. -/
def sentLength (numFrames : UInt64) : Int32 := numFrames.toUInt32.toInt32

def packetProcessTxCompletions (messages : List ErrorQueueMessage) : List TimestampEvent :=
  messages.map fun m => .completed (.packet m.hwTs m.frame)

/-- What a pass reports, in this order: first the frames sent, then the completions. -/
def PacketTxPass.calls (cfg : StatConfig) (frameType : StatFrameType) (metaDataOffset : Nat) :
    PacketTxPass → List TimestampEvent
  | .generated sequenceCounterBegin now messages =>
    let len := sentLength (cfg.framesPerCycle frameType)
    (if 0 < len then [.sent sequenceCounterBegin len.toInt64.toUInt64 now] else []) ++
      if cfg.txHwtstampEnabled frameType then packetProcessTxCompletions messages else []
  | .mirrored frames messages =>
    let len := sentLength (UInt64.ofNat frames.length)
    ((frames.take len.toInt.toNat).map fun f =>
        .sent (getSequenceCounter f.1 metaDataOffset (cfg.framesPerCycle frameType)) 1 f.2) ++
      if cfg.txHwtstampEnabled frameType then packetProcessTxCompletions messages else []

/-- The frame carries counter `c`, which was sent in batch `b`, and no batch so far has reached the
slot of its cycle again. -/
structure EchoOf (n : UInt64) (metaDataOffset : Nat) (past : List TimestampEvent)
    (frame : List UInt8) (b : SentBatch) (c : UInt64) : Prop where
  sent : b ∈ batchesOf past
  contains : b.Contains c.toNat
  inTime : ∀ b' ∈ batchesOf past, ∀ d, b'.Contains d →
    d < c.toNat / n.toNat * n.toNat + 1024 * n.toNat
  length_le : metaDataOffset + sizeofReferenceMetaData ≤ frame.length
  counter_eq : getSequenceCounter frame metaDataOffset n = wireSequenceCounter n c

theorem EchoOf.reading {c hwTs : UInt64} (h : EchoOf n metaDataOffset past frame b c)
    (hwire : wireSequenceCounter n c = c) :
    (TxCompletion.packet hwTs frame).reading metaDataOffset n =
      if hwTs = 0 then none else some ⟨c, hwTs⟩ := by
  rw [TxCompletion.reading, h.counter_eq, hwire]
  split
  · rename_i hskip
    rcases hskip with hzero | hshort
    · rw [if_pos hzero]
    · exact absurd h.length_le (Nat.not_le.mpr hshort)
  · rename_i hskip
    rw [if_neg fun hzero => hskip (.inl hzero)]

theorem EchoOf.sentReading {c : UInt64} (h : EchoOf n metaDataOffset past frame b c)
    (hwTs : UInt64) : SentReading n past ⟨c, hwTs⟩ b c.toNat where
  sent := h.sent
  contains := h.contains
  inTime := h.inTime
  slot := congrArg (· % _) (toNat_cycleStart c n)
  first := isFirst_iff _ _

theorem SentBatch.Fits.of_below {step : Nat} (hs : 0 < step) (hs' : step < 2 ^ 32)
    (hcount : 0 < b.frameCount.toNat) (hbelow : ∀ c, b.Contains c → c < step * 2 ^ 32) :
    b.Fits step := by
  have hlast := hbelow (b.cycleNumber.toNat + b.frameCount.toNat - 1) ⟨by omega, by omega⟩
  have hceil : (b.cycleNumber.toNat + b.frameCount.toNat + step - 1) / step ≤ 2 ^ 32 := by
    rw [← Nat.lt_succ_iff, Nat.div_lt_iff_lt_mul hs, Nat.succ_mul, Nat.mul_comm _ step]
    omega
  calc
    (b.cycleNumber.toNat + b.frameCount.toNat + step - 1) / step * step ≤ 2 ^ 32 * step :=
      Nat.mul_le_mul_right step hceil
    _ < 2 ^ 32 * 2 ^ 32 := Nat.mul_lt_mul_of_pos_left hs' (by decide)

theorem sentLength_eq {numFrames : UInt64} (h : numFrames.toNat < 2 ^ 31) :
    (sentLength numFrames).toInt64.toUInt64 = numFrames := by
  have hmsb : (numFrames.toBitVec.setWidth 32).msb = false := by
    rw [BitVec.msb_eq_false_iff_two_mul_lt, BitVec.toNat_setWidth]
    change 2 * (numFrames.toNat % 2 ^ 32) < 2 ^ 32
    omega
  apply UInt64.eq_of_toBitVec_eq
  change (numFrames.toBitVec.setWidth 32).signExtend 64 = numFrames.toBitVec
  rw [BitVec.signExtend_eq_setWidth_of_msb_false hmsb]
  apply BitVec.eq_of_toNat_eq
  rw [BitVec.toNat_setWidth, BitVec.toNat_setWidth]
  change numFrames.toNat % 2 ^ 32 % 2 ^ 64 = numFrames.toNat
  omega

/-- A pass reports batches that are not empty and messages of the error queue. -/
theorem mem_calls (hn : 0 < (cfg.framesPerCycle frameType).toNat)
    (hn' : (cfg.framesPerCycle frameType).toNat < 2 ^ 31) {p : PacketTxPass}
    (h : ev ∈ p.calls cfg frameType metaDataOffset) :
    (∃ b : SentBatch, ev = .sent b.cycleNumber b.frameCount b.txTime ∧ 0 < b.frameCount.toNat) ∨
      ∃ hwTs frame, ev = .completed (.packet hwTs frame) := by
  have hmessages : ∀ messages : List ErrorQueueMessage,
      ev ∈ (if cfg.txHwtstampEnabled frameType then packetProcessTxCompletions messages else []) →
        ∃ hwTs frame, ev = .completed (.packet hwTs frame) := by
    intro messages hev
    split at hev
    · obtain ⟨m, -, rfl⟩ := List.mem_map.mp hev
      exact ⟨m.hwTs, m.frame, rfl⟩
    · cases hev
  cases p with
  | generated sequenceCounterBegin now messages =>
    rcases List.mem_append.mp h with hev | hev
    · split at hev
      · rw [List.mem_singleton, sentLength_eq hn'] at hev
        exact .inl ⟨⟨sequenceCounterBegin, _, now⟩, hev, hn⟩
      · cases hev
    · exact .inr (hmessages messages hev)
  | mirrored frames messages =>
    rcases List.mem_append.mp h with hev | hev
    · obtain ⟨f, -, rfl⟩ := List.mem_map.mp hev
      exact .inl ⟨⟨_, 1, f.2⟩, rfl, Nat.one_pos⟩
    · exact .inr (hmessages messages hev)

/-- Every first completion of a cycle adds its latency since its own cycle was sent or counts as
missing, and no other completion does either. -/
theorem packet_tx_latency (hmode : cfg.logStatUserSelected ≠ .mirror)
    (hen : cfg.txHwtstampEnabled frameType = true)
    (hn : 1 ≤ (cfg.framesPerCycle frameType).toNat)
    (hn' : (cfg.framesPerCycle frameType).toNat < 2 ^ 31) (hi : statInit cfg = some s)
    (passes : List PacketTxPass)
    (hpasses : es = passes.flatMap (·.calls cfg frameType metaDataOffset))
    (hinc : Increasing (batchesOf es))
    (hbelow : ∀ b ∈ batchesOf es, ∀ c, b.Contains c →
      c < (cfg.framesPerCycle frameType).toNat * 2 ^ 32)
    (hclock : ∀ b ∈ batchesOf es, b.txTime ≠ 0)
    (hecho : ∀ past hwTs frame rest, es = past ++ .completed (.packet hwTs frame) :: rest →
      ∃ b c, EchoOf (cfg.framesPerCycle frameType) metaDataOffset past frame b c)
    (hsmall : ∀ past hwTs frame rest b c, es = past ++ .completed (.packet hwTs frame) :: rest →
      EchoOf (cfg.framesPerCycle frameType) metaDataOffset past frame b c →
      c.toNat % (cfg.framesPerCycle frameType).toNat = 0 →
      hwTs.toNat < b.txTime.toNat + 2 ^ 63) :
    (∃ s', timestampRun cfg frameType metaDataOffset s es = some s' ∧
      (s'.globalStatistics frameType).tx.count + (s'.globalStatistics frameType).tx.missing =
        UInt64.ofNat
          (es.countP (·.isFirstCompletion metaDataOffset (cfg.framesPerCycle frameType)))) ∧
    ∀ past hwTs frame rest b c, es = past ++ .completed (.packet hwTs frame) :: rest →
      EchoOf (cfg.framesPerCycle frameType) metaDataOffset past frame b c →
      ∃ s₁ s₂, timestampRun cfg frameType metaDataOffset s past = some s₁ ∧
        timestampStep cfg frameType metaDataOffset s₁ (.completed (.packet hwTs frame)) = some s₂ ∧
        (s₂.globalStatistics frameType).tx =
          if hwTs ≠ 0 ∧ c.toNat % (cfg.framesPerCycle frameType).toNat = 0 then
            (s₁.globalStatistics frameType).afterTx hwTs b.txTime
          else (s₁.globalStatistics frameType).tx := by
  have hwire : ∀ b ∈ batchesOf es, ∀ c : UInt64, b.Contains c.toNat →
      wireSequenceCounter (cfg.framesPerCycle frameType) c = c := by
    intro b hb c hc
    exact wireSequenceCounter_of_lt hn (by omega) (hbelow b hb _ hc)
  have hmem : ∀ past ev rest, es = past ++ ev :: rest → ∀ b ∈ batchesOf past, b ∈ batchesOf es := by
    intro past ev rest heq b hb
    rw [heq, batchesOf_append]
    exact List.mem_append_left _ hb
  have hes : AllInTime cfg frameType metaDataOffset es := by
    intro past ev rest heq
    have hev : ev ∈ es := heq ▸ List.mem_append_right _ List.mem_cons_self
    obtain ⟨p, -, hcall⟩ := List.mem_flatMap.mp (hpasses ▸ hev)
    rcases mem_calls hn hn' hcall with ⟨b, rfl, hcount⟩ | ⟨hwTs, frame, rfl⟩
    · have hb : b ∈ batchesOf es := List.mem_filterMap.mpr ⟨_, hev, rfl⟩
      rw [InTime, stampStep_hw hen]
      exact .of_below hn (by omega) hcount (hbelow b hb)
    · obtain ⟨b, c, he⟩ := hecho past hwTs frame rest heq
      refine ⟨rfl, fun r hr hf => ?_⟩
      rw [he.reading (hwire b (hmem _ _ _ heq b he.sent) c he.contains)] at hr
      split at hr
      · cases hr
      · cases hr
        refine ⟨b, c.toNat, he.sentReading hwTs, hclock b (hmem _ _ _ heq b he.sent), ?_⟩
        exact hsmall past hwTs frame rest b c heq he ((isFirst_iff _ _).mp hf)
  have hn54 : (cfg.framesPerCycle frameType).toNat < 2 ^ 54 := by omega
  constructor
  · obtain ⟨s', hs', -, htotal⟩ := timestampRun_tx hmode hen hn hn54 hi es hinc hes
    exact ⟨s', hs', htotal⟩
  · intro past hwTs frame rest b c heq he
    have hpast : AllInTime cfg frameType metaDataOffset past := (heq ▸ hes).left
    have hincPast : Increasing (batchesOf past) := by
      rw [heq, batchesOf_append] at hinc
      exact hinc.left
    obtain ⟨s₁, hs₁, h₁, -⟩ := timestampRun_tx hmode hen hn hn54 hi past hincPast hpast
    obtain ⟨s₂, hs₂, -, hlater, hsome⟩ := @SendTimes.completed cfg s₁ frameType metaDataOffset past
      hn h₁ (.packet hwTs frame) rfl
    refine ⟨s₁, s₂, hs₁, hs₂, ?_⟩
    have hb := hmem _ _ _ heq b he.sent
    have hreading := @EchoOf.reading _ _ _ _ _ c hwTs he (hwire b hb c he.contains)
    by_cases hzero : hwTs = 0
    · rw [if_pos hzero] at hreading
      rw [if_neg fun hc => hc.1 hzero]
      exact hlater fun r hr => by cases hreading.symm.trans hr
    · rw [if_neg hzero] at hreading
      by_cases hf : c.toNat % (cfg.framesPerCycle frameType).toNat = 0
      · rw [hsome _ b _ hreading hen hincPast ((isFirst_iff _ _).mpr hf) (he.sentReading hwTs)
          (hclock b hb) (hsmall past hwTs frame rest b c heq he hf), if_pos hzero,
          if_pos ⟨hzero, hf⟩]
      · rw [if_neg fun hc => hf hc.2]
        apply hlater
        intro r hr
        cases hreading.symm.trans hr
        exact Bool.eq_false_iff.mpr fun h => hf ((isFirst_iff _ _).mp h)

/-- Frame `seq` of a class with one frame per cycle, as the error queue returns it. -/
def echoedFrame (seq : UInt64) : List UInt8 := setMetaData (List.replicate 64 0) 18 seq 1 0

def echoedPass : PacketTxPass := .generated 0 1000000 [⟨3000000, echoedFrame 0⟩]

theorem packet_tx_latency_single :
    ∃ s s₁ s₂, statInit (mirrorConfig 1) = some s ∧
      timestampRun (mirrorConfig 1) .genericL2 18 s [.sent 0 1 1000000] = some s₁ ∧
      timestampStep (mirrorConfig 1) .genericL2 18 s₁
        (.completed (.packet 3000000 (echoedFrame 0))) = some s₂ ∧
      (s₂.globalStatistics .genericL2).tx =
        (s₁.globalStatistics .genericL2).afterTx 3000000 1000000 := by
  have hsome : (statInit (mirrorConfig 1)).isSome = true := by decide +kernel
  obtain ⟨s, hs⟩ := Option.isSome_iff_exists.mp hsome
  have hsplit : ∀ past hwTs frame rest,
      [TimestampEvent.sent 0 1 1000000, .completed (.packet 3000000 (echoedFrame 0))] =
        past ++ .completed (.packet hwTs frame) :: rest →
      past = [.sent 0 1 1000000] ∧ hwTs = 3000000 ∧ frame = echoedFrame 0 := by
    intro past hwTs frame rest heq
    rcases past with _ | ⟨ev, _ | ⟨ev', past⟩⟩
    · simp at heq
    · simp at heq
      exact ⟨by rw [heq.1], heq.2.1.1.symm, heq.2.1.2.symm⟩
    · simp at heq
  have hecho : EchoOf 1 18 [.sent 0 1 1000000] (echoedFrame 0) ⟨0, 1, 1000000⟩ 0 := by
    refine ⟨List.mem_singleton.mpr rfl, ⟨Nat.zero_le _, Nat.one_pos⟩, ?_, by decide +kernel,
      by decide +kernel⟩
    intro b hb d hd
    cases List.mem_singleton.mp hb
    exact Nat.lt_of_lt_of_le hd.2 (by decide)
  obtain ⟨-, hall⟩ := @packet_tx_latency (mirrorConfig 1) s .genericL2 18 _ (by decide) (by decide)
    (by decide) (by decide) hs [echoedPass] rfl (List.pairwise_singleton _ _)
    (by
      intro b hb c hc
      cases List.mem_singleton.mp hb
      exact Nat.lt_of_lt_of_le hc.2 (by decide))
    (by
      intro b hb
      cases List.mem_singleton.mp hb
      decide)
    (by
      intro past hwTs frame rest heq
      obtain ⟨rfl, rfl, rfl⟩ := hsplit past hwTs frame rest heq
      exact ⟨_, _, hecho⟩)
    (by
      intro past hwTs frame rest b c heq _ _
      obtain ⟨-, rfl, -⟩ := hsplit past hwTs frame rest heq
      exact Nat.lt_of_lt_of_le (by decide) (Nat.le_add_left _ _))
  obtain ⟨s₁, s₂, hs₁, hs₂, htx⟩ := hall _ _ _ [] _ _ rfl hecho
  exact ⟨s, s₁, s₂, hs, hs₁, hs₂, htx⟩

/-- A hardware time 2^63 ns after the send time makes the signed difference negative. -/
theorem packet_tx_latency_overflow :
    ∃ s s₁ s₂, statInit (mirrorConfig 1) = some s ∧
      timestampRun (mirrorConfig 1) .genericL2 18 s [.sent 0 1 1] = some s₁ ∧
      timestampStep (mirrorConfig 1) .genericL2 18 s₁
        (.completed (.packet (2 ^ 63 + 1) (echoedFrame 0))) = some s₂ ∧
      (s₁.globalStatistics .genericL2).afterTx (2 ^ 63 + 1) 1 =
        ⟨1, 9223372036854775, 9223372036854775, 0⟩ ∧
      (s₂.globalStatistics .genericL2).tx =
        ⟨1, 18437520701672696841, 18437520701672696841, 0⟩ := by
  have h : ((statInit (mirrorConfig 1)).bind fun s =>
      (timestampRun (mirrorConfig 1) .genericL2 18 s [.sent 0 1 1]).bind fun s₁ =>
        (timestampStep (mirrorConfig 1) .genericL2 18 s₁
          (.completed (.packet (2 ^ 63 + 1) (echoedFrame 0)))).map fun s₂ =>
            ((s₁.globalStatistics .genericL2).afterTx (2 ^ 63 + 1) 1,
              (s₂.globalStatistics .genericL2).tx)) =
      some (⟨1, 9223372036854775, 9223372036854775, 0⟩,
        ⟨1, 18437520701672696841, 18437520701672696841, 0⟩) := by
    decide +kernel
  obtain ⟨s, hs, h⟩ := Option.bind_eq_some_iff.mp h
  obtain ⟨s₁, hs₁, h⟩ := Option.bind_eq_some_iff.mp h
  obtain ⟨s₂, hs₂, h⟩ := Option.map_eq_some_iff.mp h
  rw [Prod.mk.injEq] at h
  exact ⟨s, s₁, s₂, hs, hs₁, hs₂, h.1, h.2⟩

end RtcTestbench
