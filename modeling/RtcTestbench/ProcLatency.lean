import RtcTestbench.Lib.Window
import RtcTestbench.TxCompletion

namespace RtcTestbench
open Function Machine Cells Tally
set_option autoImplicit true

structure ProcStatistics where
  count : UInt64
  min : UInt64
  max : UInt64
  outliers : UInt64
  deriving DecidableEq

def Statistics.procFirst (stat : Statistics) : ProcStatistics :=
  ⟨stat.procFirstCount, stat.procFirstMin, stat.procFirstMax, stat.procFirstOutliers⟩

def Statistics.procBatch (stat : Statistics) : ProcStatistics :=
  ⟨stat.procBatchCount, stat.procBatchMin, stat.procBatchMax, stat.procBatchOutliers⟩

def SameProc (a b : Statistics) : Prop := a.procFirst = b.procFirst ∧ a.procBatch = b.procBatch

/-- The class is one whose processing times the mirror measures. -/
structure StatConfig.MeasuresProc (cfg : StatConfig) (frameType : StatFrameType) : Prop where
  mode : cfg.logStatUserSelected = .txTimestamps
  rx : cfg.build.rxTimestamp = true
  tx : cfg.txHwtstampEnabled frameType = true

def StatRecord.isProc : StatRecord → Bool
  | .count c _ => c ∈ [.procFirstCount, .procFirstOutliers, .procBatchCount, .procBatchOutliers]
  | .sample l _ => l ∈ [.procFirst, .procBatch]
  | .oneway _ => false

variable {cfg : StatConfig} {s s' : StatState} {frameType : StatFrameType} {a b b' : Statistics}
  {rs rs' : List StatRecord} {tab : List RttEntry} {e : RttEntry} {n : UInt64}
  {metaDataOffset : Nat} {r : TxReading}

/-- The processing times a statistics has seen matter, not the order it has seen them in. -/
theorem sameProc_of_perm (h : Recorded a b rs) (h' : Recorded a b' rs')
    (hperm : (rs.filter StatRecord.isProc).Perm (rs'.filter StatRecord.isProc)) :
    SameProc b b' := by
  obtain ⟨hfirstMin, hfirstMax⟩ := h.extremes_of_perm (l := .procFirst) h' hperm fun _ => rfl
  obtain ⟨hbatchMin, hbatchMax⟩ := h.extremes_of_perm (l := .procBatch) h' hperm fun _ => rfl
  rw [SameProc, Statistics.procFirst, Statistics.procFirst, Statistics.procBatch,
    Statistics.procBatch, ProcStatistics.mk.injEq, ProcStatistics.mk.injEq]
  constructor
  · exact ⟨h.counter_of_perm (k := .procFirstCount) h' hperm fun _ => rfl, hfirstMin, hfirstMax,
      h.counter_of_perm (k := .procFirstOutliers) h' hperm fun _ => rfl⟩
  · exact ⟨h.counter_of_perm (k := .procBatchCount) h' hperm fun _ => rfl, hbatchMin, hbatchMax,
      h.counter_of_perm (k := .procBatchOutliers) h' hperm fun _ => rfl⟩

theorem isProc_txLatencyRecords (e : RttEntry) :
    (txLatencyRecords cfg frameType e).filter StatRecord.isProc = [] := by
  rw [txLatencyRecords]
  repeat' split
  all_goals rfl

theorem isProc_procFirstRecords (us : UInt64) :
    (procFirstRecords cfg us).filter StatRecord.isProc = procFirstRecords cfg us := by
  rw [procFirstRecords, countIf]
  split <;> rfl

theorem isProc_procBatchRecords (us : UInt64) :
    (procBatchRecords cfg us).filter StatRecord.isProc = procBatchRecords cfg us := by
  rw [procBatchRecords, countIf]
  split <;> rfl

/-- A cycle of which the mirror has received the first frame at `rxHwTs` and sent the first and the
last one, with their completions. -/
structure CompletedCycle where
  number : Nat
  rxHwTs : UInt64
  firstHwTs : UInt64
  lastHwTs : UInt64
  first : TxCompletion
  last : TxCompletion

def CompletedCycle.completions (c : CompletedCycle) : List TxCompletion := [c.first, c.last]

def CompletedCycle.slot (n : UInt64) (len : Nat) (c : CompletedCycle) : Nat :=
  c.number * n.toNat % len

def CompletedCycle.firstLatency (c : CompletedCycle) : UInt64 := (c.firstHwTs - c.rxHwTs) / 1000

def CompletedCycle.lastLatency (c : CompletedCycle) : UInt64 := (c.lastHwTs - c.rxHwTs) / 1000

/-- The completions belong to the cycle, both times it needs are in its slot of the backlog, and
both hardware times are later than these. -/
structure CompletedCycle.Measured (n : UInt64) (metaDataOffset : Nat) (tab : List RttEntry)
    (c : CompletedCycle) : Prop where
  counter_le : c.number * n.toNat + n.toNat ≤ 2 ^ 64
  first_reading : c.first.reading metaDataOffset n =
    some ⟨UInt64.ofNat (c.number * n.toNat), c.firstHwTs⟩
  last_reading : c.last.reading metaDataOffset n =
    some ⟨UInt64.ofNat (c.number * n.toNat + (n.toNat - 1)), c.lastHwTs⟩
  stored : ∃ e, tab[c.slot n tab.length]? = some e ∧ e.rxHwTs = c.rxHwTs ∧
    e.swTs ≠ 0 ∧ e.swTs < c.firstHwTs ∧ e.swTs < c.lastHwTs
  rx_ne : c.rxHwTs ≠ 0
  rx_lt : c.rxHwTs < c.firstHwTs ∧ c.rxHwTs < c.lastHwTs

theorem isFirst_iff (n : UInt64) (r : TxReading) :
    r.isFirst n = true ↔ r.seq.toNat % n.toNat = 0 := by
  have hstart := toNat_cycleStart r.seq n
  have hdm := Nat.div_add_mod' r.seq.toNat n.toNat
  rw [TxReading.isFirst, decide_eq_true_eq, ← UInt64.toNat_inj, UInt64.toNat_sub_of_le]
  · rw [TxReading.cycleSeq, hstart, UInt64.toNat_zero]
    omega
  · rw [UInt64.le_iff_toNat_le, TxReading.cycleSeq, hstart]
    exact Nat.div_mul_le_self _ _

theorem isLast_iff (hn : 0 < n.toNat) (r : TxReading) :
    r.isLast n = true ↔ r.seq.toNat % n.toNat = n.toNat - 1 := by
  have hstart := toNat_cycleStart r.seq n
  have hdm := Nat.div_add_mod' r.seq.toNat n.toNat
  have hone : (n - 1).toNat = n.toNat - 1 :=
    UInt64.toNat_sub_of_le n 1 (UInt64.le_iff_toNat_le.mpr hn)
  rw [TxReading.isLast, decide_eq_true_eq, ← UInt64.toNat_inj, UInt64.toNat_sub_of_le]
  · rw [TxReading.cycleSeq, hstart, hone]
    omega
  · rw [UInt64.le_iff_toNat_le, TxReading.cycleSeq, hstart]
    exact Nat.div_mul_le_self _ _

section Cell
variable (hm : cfg.MeasuresProc frameType) (hsw : e.swTs ≠ 0) (hlt : e.swTs < r.hwTs)
include hm hsw hlt

theorem slotCell_first (hf : r.isFirst (cfg.framesPerCycle frameType) = true) :
    (((slotCell cfg frameType).step e r).1.swTs = e.swTs ∧
        ((slotCell cfg frameType).step e r).1.rxHwTs = e.rxHwTs) ∧
      ((slotCell cfg frameType).step e r).2 =
        txLatencyRecords cfg frameType { e with hwTs := r.hwTs } ++
          procRecords cfg frameType (procFirstRecords cfg) e r.hwTs := by
  have hvalid : r.hwTs > 0 ∧ e.swTs > 0 :=
    ⟨UInt64.lt_of_le_of_lt (UInt64.zero_le) hlt, UInt64.pos_iff_ne_zero.mpr hsw⟩
  have hproc : cfg.logStatUserSelected = .txTimestamps ∧ cfg.build.rxTimestamp ∧ r.hwTs > e.swTs :=
    ⟨hm.mode, hm.rx, hlt⟩
  simp only [slotCell, hvalid, hf, RttEntry.procCompletion, sentLatency_swTs, hproc,
    sentLatency_rxHwTs, procRecords, true_and, ↓reduceIte]

theorem slotCell_last (hf : r.isFirst (cfg.framesPerCycle frameType) = false)
    (hl : r.isLast (cfg.framesPerCycle frameType) = true) :
    (slotCell cfg frameType).step e r =
      ({ e with rxHwTs := 0 }, procRecords cfg frameType (procBatchRecords cfg) e r.hwTs) := by
  have hvalid : r.hwTs > 0 ∧ e.swTs > 0 :=
    ⟨UInt64.lt_of_le_of_lt (UInt64.zero_le) hlt, UInt64.pos_iff_ne_zero.mpr hsw⟩
  have hproc : cfg.logStatUserSelected = .txTimestamps ∧ cfg.build.rxTimestamp ∧ r.hwTs > e.swTs :=
    ⟨hm.mode, hm.rx, hlt⟩
  simp only [slotCell, hvalid, hf, hl, RttEntry.procCompletion, hproc, Bool.false_eq_true, and_self,
    ↓reduceIte]

end Cell

theorem procRecords_some (hm : cfg.MeasuresProc frameType) (hrx : e.rxHwTs ≠ 0)
    {hwTs : UInt64} (hlt : e.rxHwTs < hwTs) (records : UInt64 → List StatRecord) :
    procRecords cfg frameType records e hwTs = records ((hwTs - e.rxHwTs) / 1000) := by
  have hne : hwTs ≠ 0 := by
    rintro rfl
    exact UInt64.not_lt_zero hlt
  rw [procRecords, procLatency]
  simp only [hm.rx, hm.tx, hrx, hne, hlt, Bool.not_true, Bool.or_self, Bool.false_eq_true, or_self,
    ↓reduceIte, Option.elim_some]

theorem procRecords_none (hrx : e.rxHwTs = 0) (hwTs : UInt64) (records : UInt64 → List StatRecord) :
    procRecords cfg frameType records e hwTs = [] := by
  rw [procRecords, procLatency]
  simp only [hrx, true_or, ↓reduceIte, ite_self, Option.elim_none]

section Cycle
variable {c : CompletedCycle} (hn : 2 ≤ (cfg.framesPerCycle frameType).toNat)
  (hc : c.Measured (cfg.framesPerCycle frameType) metaDataOffset tab)
include hn hc

theorem CompletedCycle.Measured.seq_first :
    (UInt64.ofNat (c.number * (cfg.framesPerCycle frameType).toNat)).toNat =
      c.number * (cfg.framesPerCycle frameType).toNat := by
  have hle := hc.counter_le
  exact UInt64.toNat_ofNat_of_lt' (show _ < 2 ^ 64 by omega)

theorem CompletedCycle.Measured.seq_last :
    (UInt64.ofNat (c.number * (cfg.framesPerCycle frameType).toNat +
        ((cfg.framesPerCycle frameType).toNat - 1))).toNat =
      c.number * (cfg.framesPerCycle frameType).toNat +
        ((cfg.framesPerCycle frameType).toNat - 1) := by
  have hle := hc.counter_le
  exact UInt64.toNat_ofNat_of_lt' (show _ < 2 ^ 64 by omega)

theorem CompletedCycle.Measured.slot_first (len : Nat) :
    c.first.slot metaDataOffset (cfg.framesPerCycle frameType) len =
      c.slot (cfg.framesPerCycle frameType) len := by
  rw [TxCompletion.slot, hc.first_reading, Option.elim_some, TxReading.cycleSeq, toNat_cycleStart,
    hc.seq_first hn, Nat.mul_div_cancel _ (by omega), CompletedCycle.slot]

theorem CompletedCycle.Measured.slot_last (len : Nat) :
    c.last.slot metaDataOffset (cfg.framesPerCycle frameType) len =
      c.slot (cfg.framesPerCycle frameType) len := by
  rw [TxCompletion.slot, hc.last_reading, Option.elim_some, TxReading.cycleSeq, toNat_cycleStart,
    hc.seq_last hn, Nat.mul_comm c.number, Nat.mul_add_div (by omega),
    Nat.div_eq_of_lt (by omega), Nat.add_zero, CompletedCycle.slot, Nat.mul_comm]

theorem CompletedCycle.Measured.first_ne_last : c.first ≠ c.last := by
  intro h
  have hr := hc.first_reading
  rw [h, hc.last_reading, Option.some.injEq, TxReading.mk.injEq] at hr
  have hseq := congrArg UInt64.toNat hr.1
  rw [hc.seq_first hn, hc.seq_last hn] at hseq
  omega

theorem CompletedCycle.Measured.step_first (hm : cfg.MeasuresProc frameType) (hsw : e.swTs ≠ 0)
    (hlt : e.swTs < c.firstHwTs) :
    ((completionCell cfg frameType metaDataOffset).step e c.first).1.swTs = e.swTs ∧
      ((completionCell cfg frameType metaDataOffset).step e c.first).1.rxHwTs = e.rxHwTs ∧
      ((completionCell cfg frameType metaDataOffset).step e c.first).2.filter StatRecord.isProc =
        (procRecords cfg frameType (procFirstRecords cfg) e c.firstHwTs).filter
          StatRecord.isProc := by
  have hfirst : TxReading.isFirst ⟨UInt64.ofNat (c.number * (cfg.framesPerCycle frameType).toNat),
      c.firstHwTs⟩ (cfg.framesPerCycle frameType) = true := by
    rw [isFirst_iff, hc.seq_first hn]
    exact Nat.mul_mod_left _ _
  simp only [completionCell, hc.first_reading, Option.elim_some]
  obtain ⟨⟨hsw', hrx'⟩, hrec⟩ := slotCell_first hm hsw hlt hfirst
  refine ⟨hsw', hrx', ?_⟩
  rw [hrec, List.filter_append, isProc_txLatencyRecords, List.nil_append]

theorem CompletedCycle.Measured.step_last (hm : cfg.MeasuresProc frameType) (hsw : e.swTs ≠ 0)
    (hlt : e.swTs < c.lastHwTs) :
    (completionCell cfg frameType metaDataOffset).step e c.last =
      ({ e with rxHwTs := 0 }, procRecords cfg frameType (procBatchRecords cfg) e c.lastHwTs) := by
  have hmod : (c.number * (cfg.framesPerCycle frameType).toNat +
      ((cfg.framesPerCycle frameType).toNat - 1)) % (cfg.framesPerCycle frameType).toNat =
        (cfg.framesPerCycle frameType).toNat - 1 := Nat.mul_add_mod_of_lt (by omega)
  simp only [completionCell, hc.last_reading, Option.elim_some]
  apply slotCell_last hm hsw hlt
  · rw [Bool.eq_false_iff, ne_eq, isFirst_iff, hc.seq_last hn, hmod]
    omega
  · rw [isLast_iff (by omega), hc.seq_last hn, hmod]

end Cycle

/-- Cycles of one window have slots of their own. -/
theorem window_slot_inj {k k' w m : Nat} (hm : 0 < m) (hk : w ≤ k ∧ k < w + 1024)
    (hk' : w ≤ k' ∧ k' < w + 1024) (h : k * m % (1024 * m) = k' * m % (1024 * m)) : k = k' := by
  rw [Nat.mul_mod_mul_right, Nat.mul_mod_mul_right] at h
  have hmod := Nat.eq_of_mul_eq_mul_right hm h
  rcases Nat.lt_trichotomy k k' with hlt | heq | hgt
  · exact absurd hmod.symm (Window.mod_ne_of_window hlt (by omega))
  · exact heq
  · exact absurd hmod (Window.mod_ne_of_window hgt (by omega))

/-- Handling `x` at its place in `order` changes the processing times as `f` does. -/
def HandledAs (cfg : StatConfig) (frameType : StatFrameType) (metaDataOffset : Nat) (s : StatState)
    (order : List TxCompletion) (x : TxCompletion) (f : Statistics → Statistics) : Prop :=
  ∀ before after s₁ s₂, order = before ++ x :: after →
    handleTxCompletions cfg s frameType metaDataOffset before = some s₁ →
    handleTxCompletion cfg s₁ frameType metaDataOffset x = some s₂ →
    SameProc (s₂.globalStatistics frameType) (f (s₁.globalStatistics frameType))

/-- The cycles of a window with their completions in some order, none lost and none twice. -/
structure CompletionOrder (cfg : StatConfig) (frameType : StatFrameType) (metaDataOffset : Nat)
    (tab : List RttEntry) (cycles : List CompletedCycle) (order : List TxCompletion) : Prop where
  distinct : (cycles.map CompletedCycle.number).Nodup
  window : ∃ w, ∀ c ∈ cycles, w ≤ c.number ∧ c.number < w + 1024
  measured : ∀ c ∈ cycles, c.Measured (cfg.framesPerCycle frameType) metaDataOffset tab
  perm : order.Perm (cycles.flatMap CompletedCycle.completions)
  whole : ∀ x ∈ order,
    x.framesPerCycle (cfg.framesPerCycle frameType) = cfg.framesPerCycle frameType

section Order
variable {cycles : List CompletedCycle} {order : List TxCompletion} {c : CompletedCycle}
  (hm : cfg.MeasuresProc frameType) (hn : 2 ≤ (cfg.framesPerCycle frameType).toNat)
  (hlen : tab.length = 1024 * (cfg.framesPerCycle frameType).toNat)
  (ho : CompletionOrder cfg frameType metaDataOffset tab cycles order)

include hn hlen in
theorem CompletionOrder.slots_nodup
    (ho : CompletionOrder cfg frameType metaDataOffset tab cycles order) :
    (cycles.map fun c => c.slot (cfg.framesPerCycle frameType) tab.length).Nodup := by
  obtain ⟨w, hw⟩ := ho.window
  rw [hlen]
  have hcomp := List.Nodup.map_on (f := fun k => k * (cfg.framesPerCycle frameType).toNat %
    (1024 * (cfg.framesPerCycle frameType).toNat)) ?_ ho.distinct
  · rw [List.map_map] at hcomp
    exact hcomp
  · intro k hk k' hk' h
    obtain ⟨c, hc, rfl⟩ := List.mem_map.mp hk
    obtain ⟨c', hc', rfl⟩ := List.mem_map.mp hk'
    exact window_slot_inj (by omega) (hw c hc) (hw c' hc') h

include hn hlen ho in
/-- A slot sees the two completions of its cycle, in one order or the other. -/
theorem CompletionOrder.filter_slot (hc : c ∈ cycles) :
    (order.filter fun x => x.slot metaDataOffset (cfg.framesPerCycle frameType) tab.length =
        c.slot (cfg.framesPerCycle frameType) tab.length) = [c.first, c.last] ∨
      (order.filter fun x => x.slot metaDataOffset (cfg.framesPerCycle frameType) tab.length =
        c.slot (cfg.framesPerCycle frameType) tab.length) = [c.last, c.first] := by
  rw [← List.perm_pair]
  apply (ho.perm.filter _).trans
  rw [List.filter_flatMap]
  have hslots := ho.slots_nodup hn hlen
  have hinsert := @flatMap_insert _ _ c (fun _ => []) (fun c' => c'.completions.filter fun x =>
    x.slot metaDataOffset (cfg.framesPerCycle frameType) tab.length =
      c.slot (cfg.framesPerCycle frameType) tab.length) [c.first, c.last] cycles
    (hslots.of_map _) hc
  have hnil : (cycles.flatMap fun _ => ([] : List TxCompletion)) = [] :=
    List.flatMap_eq_nil_iff.mpr fun _ _ => rfl
  rw [hnil, List.append_nil] at hinsert
  apply hinsert
  · have hmeasured := ho.measured c hc
    simp only [CompletedCycle.completions, List.filter_cons, hmeasured.slot_first hn,
      hmeasured.slot_last hn, decide_true, ↓reduceIte, List.filter_nil]
  · intro c' hc' hne
    have hmeasured := ho.measured c' hc'
    have hslot : ¬ c'.slot (cfg.framesPerCycle frameType) tab.length =
        c.slot (cfg.framesPerCycle frameType) tab.length := fun h =>
      hne (List.inj_on_of_nodup_map hslots hc' hc h)
    simp only [CompletedCycle.completions, List.filter_cons, hmeasured.slot_first hn,
      hmeasured.slot_last hn, hslot, decide_false, Bool.false_eq_true, ↓reduceIte, List.filter_nil]

include hn hlen ho in
theorem CompletionOrder.inOrder_iff (hc : c ∈ cycles) :
    [c.first, c.last].Sublist order ↔
      (order.filter fun x => x.slot metaDataOffset (cfg.framesPerCycle frameType) tab.length =
        c.slot (cfg.framesPerCycle frameType) tab.length) = [c.first, c.last] := by
  have hmeasured := ho.measured c hc
  constructor
  · intro h
    have hsub := h.filter fun x => decide (x.slot metaDataOffset (cfg.framesPerCycle frameType)
      tab.length = c.slot (cfg.framesPerCycle frameType) tab.length)
    simp only [List.filter_cons, hmeasured.slot_first hn, hmeasured.slot_last hn, decide_true,
      ↓reduceIte, List.filter_nil] at hsub
    apply (hsub.eq_of_length _).symm
    rcases ho.filter_slot hn hlen hc with h | h
    · rw [h]
    · rw [h]
      rfl
  · intro h
    rw [← h]
    exact List.filter_sublist

/-- Where one of two selected elements stands, the other one is before it or after it. -/
theorem filter_before {p : α → Bool} {xs before after : List α} {x a b : α}
    (h : xs.filter p = [a, b]) (heq : xs = before ++ x :: after) (hx : p x = true) :
    before.filter p = [] ∧ x = a ∨ before.filter p = [a] ∧ x = b := by
  rw [heq, List.filter_append, List.filter_cons_of_pos hx] at h
  rcases hb : before.filter p with _ | ⟨z, _ | ⟨z', zs⟩⟩
  · simp only [hb, List.nil_append, List.cons.injEq] at h
    exact .inl ⟨rfl, h.1⟩
  · simp only [hb, List.cons_append, List.nil_append, List.cons.injEq] at h
    exact .inr ⟨by rw [h.1], h.2.1⟩
  · simp [hb] at h

include ho in
/-- Also the completions up to one of them are handled with the whole number of frames. -/
theorem CompletionOrder.whole_before {x : TxCompletion} (heq : order = before ++ x :: after) :
    ∀ y ∈ x :: before,
      y.framesPerCycle (cfg.framesPerCycle frameType) = cfg.framesPerCycle frameType := by
  intro y hy
  apply ho.whole
  rw [heq, List.mem_append]
  rcases List.mem_cons.mp hy with rfl | hy
  · exact .inr List.mem_cons_self
  · exact .inl hy

include hm hn ho in
/-- A cycle whose completions come in order is measured as it should be. -/
theorem CompletionOrder.handled (hhas : (s.roundTripContexts frameType).Has tab) (hc : c ∈ cycles)
    (hord : (order.filter fun x => x.slot metaDataOffset (cfg.framesPerCycle frameType) tab.length =
      c.slot (cfg.framesPerCycle frameType) tab.length) = [c.first, c.last]) :
    HandledAs cfg frameType metaDataOffset s order c.first
        (statFrameProcFirstCommon cfg c.firstLatency) ∧
      HandledAs cfg frameType metaDataOffset s order c.last
        (statFrameProcBatchCommon cfg c.lastLatency) := by
  have hmeasured := ho.measured c hc
  obtain ⟨e, he, hrx, hsw, hltf, hltl⟩ := hmeasured.stored
  have hne := hmeasured.first_ne_last hn
  constructor
  · intro before after s₁ s₂ heq h₁ h₂
    rcases filter_before hord heq (decide_eq_true (hmeasured.slot_first hn tab.length)) with
      ⟨hnil, -⟩ | ⟨-, habs⟩
    · have hrec := handleTxCompletion_recorded (by omega) hhas he
        (hmeasured.slot_first hn tab.length) (ho.whole_before heq) h₁ h₂
      rw [hnil, System.run_nil] at hrec
      obtain ⟨-, -, hproc⟩ := hmeasured.step_first hn hm hsw hltf
      rw [procRecords_some hm (hrx ▸ hmeasured.rx_ne) (hrx ▸ hmeasured.rx_lt.1), hrx] at hproc
      apply sameProc_of_perm hrec (statFrameProcFirstCommon_recorded cfg c.firstLatency _)
      rw [hproc]
      exact List.Perm.refl _
    · exact absurd habs hne
  · intro before after s₁ s₂ heq h₁ h₂
    rcases filter_before hord heq (decide_eq_true (hmeasured.slot_last hn tab.length)) with
      ⟨-, habs⟩ | ⟨hone, -⟩
    · exact absurd habs.symm hne
    · have hrec := handleTxCompletion_recorded (by omega) hhas he
        (hmeasured.slot_last hn tab.length) (ho.whole_before heq) h₁ h₂
      obtain ⟨hsw', hrx', -⟩ := hmeasured.step_first hn hm hsw hltf
      rw [hone, System.run_cons, System.run_nil] at hrec
      dsimp only at hrec
      generalize ((completionCell cfg frameType metaDataOffset).step e c.first).1 = e'
        at hrec hsw' hrx'
      rw [hmeasured.step_last hn hm (hsw' ▸ hsw) (hsw' ▸ hltl), procRecords_some hm
        (by rw [hrx', hrx]; exact hmeasured.rx_ne) (by rw [hrx', hrx]; exact hmeasured.rx_lt.2),
        hrx', hrx] at hrec
      exact sameProc_of_perm hrec (statFrameProcBatchCommon_recorded cfg c.lastLatency _)
        (List.Perm.refl _)

/-- The statistics after every cycle has contributed its two processing times. -/
def procTotals (cfg : StatConfig) (cycles : List CompletedCycle) (stat : Statistics) : Statistics :=
  cycles.foldl (fun stat c => statFrameProcBatchCommon cfg c.lastLatency
    (statFrameProcFirstCommon cfg c.firstLatency stat)) stat

theorem procTotals_recorded (cycles : List CompletedCycle) (stat : Statistics) :
    Recorded stat (procTotals cfg cycles stat) (cycles.flatMap fun c =>
      procFirstRecords cfg c.firstLatency ++ procBatchRecords cfg c.lastLatency) := by
  induction cycles generalizing stat with
  | nil => exact .refl _
  | cons c cycles ih =>
    rw [List.flatMap_cons]
    apply Recorded.trans _ (ih _)
    exact (statFrameProcFirstCommon_recorded _ _ _).trans (statFrameProcBatchCommon_recorded _ _ _)

include hm hn ho in
theorem CompletionOrder.slot_records (hc : c ∈ cycles) :
    ∃ e, tab[c.slot (cfg.framesPerCycle frameType) tab.length]? = some e ∧
      (((completionCell cfg frameType metaDataOffset).run e [c.first, c.last]).2.flatten.filter
        StatRecord.isProc) =
          procFirstRecords cfg c.firstLatency ++ procBatchRecords cfg c.lastLatency := by
  have hmeasured := ho.measured c hc
  obtain ⟨e, he, hrx, hsw, hltf, hltl⟩ := hmeasured.stored
  refine ⟨e, he, ?_⟩
  obtain ⟨hsw', hrx', hproc⟩ := hmeasured.step_first hn hm hsw hltf
  rw [procRecords_some hm (hrx ▸ hmeasured.rx_ne) (hrx ▸ hmeasured.rx_lt.1), hrx,
    isProc_procFirstRecords] at hproc
  rw [System.run_cons, System.run_cons, System.run_nil, List.flatten_cons, List.flatten_cons,
    List.flatten_nil, List.append_nil, List.filter_append, hproc]
  generalize ((completionCell cfg frameType metaDataOffset).step e c.first).1 = e' at hsw' hrx' ⊢
  rw [hmeasured.step_last hn hm (hsw' ▸ hsw) (hsw' ▸ hltl), procRecords_some hm
    (by rw [hrx', hrx]; exact hmeasured.rx_ne) (by rw [hrx', hrx]; exact hmeasured.rx_lt.2),
    hrx', hrx, isProc_procBatchRecords]
  rfl

include hm hn hlen ho in
theorem CompletionOrder.totals (hhas : (s.roundTripContexts frameType).Has tab)
    (hord : ∀ c ∈ cycles, (order.filter fun x =>
      x.slot metaDataOffset (cfg.framesPerCycle frameType)
      tab.length = c.slot (cfg.framesPerCycle frameType) tab.length) = [c.first, c.last])
    (hs' : handleTxCompletions cfg s frameType metaDataOffset order = some s') :
    SameProc (s'.globalStatistics frameType)
      (procTotals cfg cycles (s.globalStatistics frameType)) := by
  have hpos : 0 < tab.length := by omega
  obtain ⟨s₁, hs₁, h₁⟩ :=
    @handleTxCompletions_lead cfg s frameType tab metaDataOffset (by omega) hhas hpos order ho.whole
  cases hs₁.symm.trans hs'
  apply sameProc_of_perm h₁.records (procTotals_recorded cycles _)
  have hslots := ho.slots_nodup hn hlen
  have haddr : ∀ x ∈ order, x.slot metaDataOffset (cfg.framesPerCycle frameType) tab.length ∈
      cycles.map fun c => c.slot (cfg.framesPerCycle frameType) tab.length := by
    intro x hx
    obtain ⟨c, hc, hx⟩ := List.mem_flatMap.mp (ho.perm.mem_iff.mp hx)
    apply List.mem_map.mpr
    refine ⟨c, hc, ?_⟩
    rcases List.mem_pair.mp hx with rfl | rfl
    · exact ((ho.measured c hc).slot_first hn tab.length).symm
    · exact ((ho.measured c hc).slot_last hn tab.length).symm
  have hparts := observed_perm hslots order
    ((backlogTable cfg frameType metaDataOffset tab.length).run tab order).2 haddr
    (length_observed tab order)
  apply (hparts.filter _).trans
  rw [List.flatMap_map, List.filter_flatMap, List.filter_flatMap]
  apply List.Perm.of_eq
  apply List.flatMap_congr
  intro c hc
  obtain ⟨e, he, hrecords⟩ := ho.slot_records hm hn hc
  have hobs : observedAt _ _ order
      ((backlogTable cfg frameType metaDataOffset tab.length).run tab order).2 = _ :=
    (run_cell he order).2
  rw [hord c hc] at hobs
  rw [← hobs] at hrecords
  rw [List.filter_append, isProc_procFirstRecords, isProc_procBatchRecords]
  exact hrecords

include hm hn hlen ho in
/-- If the last frame of a cycle is completed first, the time of the first one is not measured. -/
theorem CompletionOrder.unhandled (hhas : (s.roundTripContexts frameType).Has tab) (hc : c ∈ cycles)
    (hord : (order.filter fun x => x.slot metaDataOffset (cfg.framesPerCycle frameType) tab.length =
      c.slot (cfg.framesPerCycle frameType) tab.length) = [c.last, c.first]) :
    ¬ HandledAs cfg frameType metaDataOffset s order c.first
        (statFrameProcFirstCommon cfg c.firstLatency) := by
  intro hhandled
  have hmeasured := ho.measured c hc
  have hpos : 0 < tab.length := by omega
  obtain ⟨e, he, hrx, hsw, hltf, hltl⟩ := hmeasured.stored
  have hmem : c.first ∈ order := List.mem_of_mem_filter (hord ▸ List.mem_cons_of_mem _
    List.mem_cons_self)
  obtain ⟨before, after, heq⟩ := List.append_of_mem hmem
  rcases filter_before hord heq (decide_eq_true (hmeasured.slot_first hn tab.length)) with
    ⟨-, habs⟩ | ⟨hone, -⟩
  · exact hmeasured.first_ne_last hn habs
  · obtain ⟨hwhole, hwhole'⟩ := List.forall_mem_cons.mp (ho.whole_before heq)
    obtain ⟨s₁, hs₁, h₁⟩ :=
      @handleTxCompletions_lead cfg s frameType tab metaDataOffset (by omega) hhas hpos before
        hwhole'
    have hlen₁ := @length_backlogTable_run cfg frameType metaDataOffset tab.length tab before
    obtain ⟨s₂, hs₂, -⟩ := @handleTxCompletion_leads cfg s₁ frameType _ metaDataOffset c.first
      (by omega) hwhole h₁.has (by rw [hlen₁]; exact hpos)
    have hrec := handleTxCompletion_recorded (by omega) hhas he
      (hmeasured.slot_first hn tab.length) (ho.whole_before heq) hs₁ hs₂
    rw [hone, System.run_cons, System.run_nil] at hrec
    dsimp only at hrec
    rw [hmeasured.step_last hn hm hsw hltl] at hrec
    obtain ⟨-, -, hproc⟩ := @CompletedCycle.Measured.step_first cfg frameType tab
      { e with rxHwTs := 0 } metaDataOffset c hn hmeasured hm hsw hltf
    rw [procRecords_none rfl, List.filter_nil] at hproc
    have hsame := sameProc_of_perm hrec (.refl _) (by rw [hproc, List.filter_nil])
    have hcount := hsame.1.symm.trans (hhandled before after s₁ s₂ heq hs₁ hs₂).1
    have hadd : (s₁.globalStatistics frameType).procFirstCount =
      (s₁.globalStatistics frameType).procFirstCount + 1 := congrArg ProcStatistics.count hcount
    simp at hadd

end Order

/-- Every cycle contributes its two processing times, in whatever order the completions arrive,
exactly if no cycle has its last frame completed before its first one. -/
theorem proc_latency_order {cycles : List CompletedCycle} {order : List TxCompletion}
    (hm : cfg.MeasuresProc frameType) (hn : 2 ≤ (cfg.framesPerCycle frameType).toNat)
    (hhas : (s.roundTripContexts frameType).Has tab)
    (hlen : tab.length = 1024 * (cfg.framesPerCycle frameType).toNat)
    (ho : CompletionOrder cfg frameType metaDataOffset tab cycles order) :
    ∃ s', handleTxCompletions cfg s frameType metaDataOffset order = some s' ∧
      ((∀ c ∈ cycles,
          HandledAs cfg frameType metaDataOffset s order c.first
            (statFrameProcFirstCommon cfg c.firstLatency) ∧
          HandledAs cfg frameType metaDataOffset s order c.last
            (statFrameProcBatchCommon cfg c.lastLatency)) ∧
        SameProc (s'.globalStatistics frameType)
          (procTotals cfg cycles (s.globalStatistics frameType)) ↔
        ∀ c ∈ cycles, [c.first, c.last].Sublist order) := by
  obtain ⟨s', hs', -⟩ :=
    @handleTxCompletions_lead cfg s frameType tab metaDataOffset (by omega) hhas (by omega) order
      ho.whole
  refine ⟨s', hs', ?_⟩
  constructor
  · rintro ⟨hhandled, -⟩ c hc
    rw [ho.inOrder_iff hn hlen hc]
    rcases ho.filter_slot hn hlen hc with hord | hord
    · exact hord
    · exact absurd (hhandled c hc).1 (ho.unhandled hm hn hlen hhas hc hord)
  · intro hsub
    have hord : ∀ c ∈ cycles, _ := fun c hc => (ho.inOrder_iff hn hlen hc).mp (hsub c hc)
    exact ⟨fun c hc => ho.handled hm hn hhas hc (hord c hc), ho.totals hm hn hlen hhas hord hs'⟩

def mirrorConfig (numFramesPerCycle : UInt64) : StatConfig :=
  ⟨fullBuild, (configSetDefaults true).setClass .genericL2 fun c =>
    { c with enabled := true, numFramesPerCycle, txHwtstampEnabled := true }, .txTimestamps⟩

/-- A completion of frame `seq`, as GenericL2 frames carry the counter. -/
def sentFrame (numFramesPerCycle seq hwTs : UInt64) : TxCompletion :=
  .xdp ⟨true, hwTs⟩ (setMetaData (List.replicate 64 0) 18 seq numFramesPerCycle 0)

def onlyCycle : CompletedCycle :=
  ⟨0, 500000, 2000000, 3000000, sentFrame 2 0 2000000, sentFrame 2 1 3000000⟩

/-- Cycle 0 has been received and sent on. -/
def afterSending : Option StatState := do
  let s ← statInit (mirrorConfig 2)
  let s ← statFrameReceived (mirrorConfig 2) s .genericL2
    ⟨0, false, false, false, 0, 500000, 0⟩ 800000
  statFramesSentBatch (mirrorConfig 2) s .genericL2 0 2 1000000

def sentBacklog : List RttEntry := (List.replicate 2048 ⟨0, 0, 0⟩).set 0 ⟨1000000, 0, 500000⟩

theorem afterSending_has :
    ∃ s, afterSending = some s ∧ (s.roundTripContexts .genericL2).Has sentBacklog := by
  have h : (afterSending.map fun s => ((s.roundTripContexts .genericL2).backlog,
      (s.roundTripContexts .genericL2).backlogLen)) = some (some sentBacklog, 2048) := by
    decide +kernel
  obtain ⟨s, hs, h⟩ := Option.map_eq_some_iff.mp h
  rw [Prod.mk.injEq] at h
  refine ⟨s, hs, h.1, ?_⟩
  rw [h.2, sentBacklog, List.length_set, List.length_replicate]
  rfl

theorem onlyCycle_measured : onlyCycle.Measured 2 18 sentBacklog where
  counter_le := by decide
  first_reading := by decide +kernel
  last_reading := by decide +kernel
  stored := by
    have hslot : ∀ len, onlyCycle.slot 2 len = 0 := Nat.zero_mod
    have hlt : 0 < (List.replicate 2048 (⟨0, 0, 0⟩ : RttEntry)).length := by
      rw [List.length_replicate]
      decide
    rw [hslot]
    exact ⟨⟨1000000, 0, 500000⟩, List.getElem?_set_self hlt, by decide⟩
  rx_ne := by decide
  rx_lt := by decide

theorem proc_latency_order_single :
    ∃ s s', afterSending = some s ∧
      handleTxCompletions (mirrorConfig 2) s .genericL2 18 [onlyCycle.first, onlyCycle.last] =
        some s' ∧
      SameProc (s'.globalStatistics .genericL2)
        (procTotals (mirrorConfig 2) [onlyCycle] (s.globalStatistics .genericL2)) := by
  obtain ⟨s, hs, hhas⟩ := afterSending_has
  have ho : CompletionOrder (mirrorConfig 2) .genericL2 18 sentBacklog [onlyCycle]
      [onlyCycle.first, onlyCycle.last] := by
    refine ⟨List.nodup_singleton _, ⟨0, ?_⟩, ?_, List.Perm.refl _,
      fun x _ => x.framesPerCycle_eq (by decide)⟩
    · intro c hc
      rw [List.mem_singleton.mp hc]
      decide
    · intro c hc
      rw [List.mem_singleton.mp hc]
      exact onlyCycle_measured
  obtain ⟨s', hs', hiff⟩ := proc_latency_order ⟨rfl, rfl, rfl⟩ (by decide) hhas
    (by rw [sentBacklog, List.length_set, List.length_replicate]; rfl) ho
  refine ⟨s, s', hs, hs', (hiff.mpr ?_).2⟩
  intro c hc
  rw [List.mem_singleton.mp hc]

/-- The same two completions, in both orders: once the last frame has been handled, the first one
finds no receive time. -/
theorem proc_latency_order_reversed :
    ∃ s s₁ s₂, afterSending = some s ∧
      handleTxCompletions (mirrorConfig 2) s .genericL2 18 [onlyCycle.first, onlyCycle.last] =
        some s₁ ∧
      handleTxCompletions (mirrorConfig 2) s .genericL2 18 [onlyCycle.last, onlyCycle.first] =
        some s₂ ∧
      (s₁.globalStatistics .genericL2).procFirst = ⟨1, 1500, 1500, 1⟩ ∧
      (s₂.globalStatistics .genericL2).procFirst = ⟨0, uint64Max, 0, 0⟩ ∧
      (s₁.globalStatistics .genericL2).procBatch = (s₂.globalStatistics .genericL2).procBatch := by
  have h : (afterSending.bind fun s =>
      (handleTxCompletions (mirrorConfig 2) s .genericL2 18 [onlyCycle.first, onlyCycle.last]).bind
        fun s₁ => (handleTxCompletions (mirrorConfig 2) s .genericL2 18
          [onlyCycle.last, onlyCycle.first]).map fun s₂ =>
            ((s₁.globalStatistics .genericL2).procFirst, (s₂.globalStatistics .genericL2).procFirst,
              decide ((s₁.globalStatistics .genericL2).procBatch =
                (s₂.globalStatistics .genericL2).procBatch))) =
      some (⟨1, 1500, 1500, 1⟩, ⟨0, uint64Max, 0, 0⟩, true) := by
    decide +kernel
  obtain ⟨s, hs, h⟩ := Option.bind_eq_some_iff.mp h
  obtain ⟨s₁, hs₁, h⟩ := Option.bind_eq_some_iff.mp h
  obtain ⟨s₂, hs₂, h⟩ := Option.map_eq_some_iff.mp h
  simp only [Prod.mk.injEq, decide_eq_true_eq] at h
  exact ⟨s, s₁, s₂, hs, hs₁, hs₂, h⟩

end RtcTestbench
