import Mathlib
import RtcTestbench.Lib.Machine
import RtcTestbench.RoundTrip

namespace RtcTestbench
open Machine
set_option autoImplicit true

structure Reception where
  env : RxEnv
  frameData : List UInt8
  len : Nat

/-- The receive thread of a class. What is observed is the call of `stat_frame_received`; a frame
that is refused changes nothing. -/
def rxSystem : System ThreadContext Reception (Option RxReport) where
  step ctx r :=
    match receiveFrame r.env ctx r.frameData r.len with
    | .ok acc => (acc.ctx, some acc.report)
    | .error _ => (ctx, none)

def rxReports (ctx : ThreadContext) (rs : List Reception) : List RxReport :=
  (rxSystem.run ctx rs).2.filterMap id

def rxCounters (ctx : ThreadContext) (rs : List Reception) : List UInt64 :=
  (rxReports ctx rs).map RxReport.sequenceCounter

def rxFlags (ctx : ThreadContext) (rs : List Reception) : List Bool :=
  (rxReports ctx rs).map RxReport.outOfOrder

/-- The number of frames counted as `OutofOrderErrors`. -/
def rxErrors (ctx : ThreadContext) (rs : List Reception) : Nat := (rxFlags ctx rs).count true

def expectedAfter (e : UInt64) (cs : List UInt64) : UInt64 := cs.foldl nextSequenceCounter e

def sequenceFlags : UInt64 → List UInt64 → List Bool
  | _, [] => []
  | e, c :: cs => (c != e) :: sequenceFlags (nextSequenceCounter e c) cs

variable {ctx : ThreadContext} {env : RxEnv} {frameData : List UInt8} {len : Nat}
  {acc : RxAccepted}

structure SequenceChecked (ctx : ThreadContext) (acc : RxAccepted) : Prop where
  ctx_eq : acc.ctx = { ctx with
    rxSequenceCounter := nextSequenceCounter ctx.rxSequenceCounter acc.report.sequenceCounter
    mirrorBuffer := acc.ctx.mirrorBuffer }
  flag : acc.report.outOfOrder = (acc.report.sequenceCounter != ctx.rxSequenceCounter)

theorem SequenceChecked.expected (h : SequenceChecked ctx acc) : acc.ctx.rxSequenceCounter =
    nextSequenceCounter ctx.rxSequenceCounter acc.report.sequenceCounter := by
  rw [h.ctx_eq]

theorem SequenceChecked.forClass (h : SequenceChecked ctx acc) (hc : ctx.ForClass conf frameType) :
    acc.ctx.ForClass conf frameType := by
  rw [h.ctx_eq]
  exact ⟨hc.conf_eq, hc.frameType_eq, hc.frameId_eq, hc.metaDataOffset_eq⟩

theorem sequenceChecked_of_extends (h : acc.Extends (reportFrame name ctx d idMismatch hw sw)) :
    SequenceChecked ctx acc := by
  constructor
  · rw [h.ctx_eq, h.report_eq]
    rfl
  · rw [h.report_eq]
    rfl

theorem receiveProfinetFrame_checked (h : receiveProfinetFrame env ctx frameData len = .ok acc) :
    SequenceChecked ctx acc := by
  cases hc : checkVlanFrame ctx.conf (ctx.trafficClass ++ "Rx")
      ": Not a Profinet frame received!\n" ethPProfinetRt frameData len with
  | some message =>
    simp only [receiveProfinetFrame, hc] at h
    cases h
  | none =>
    obtain ⟨acc', hok, hext⟩ := receiveProfinetFrame_ok env hc
    cases h.symm.trans hok
    exact sequenceChecked_of_extends hext

theorem genericL2RxFrame_checked (h : genericL2RxFrame env ctx frameData len = .ok acc) :
    SequenceChecked ctx acc := by
  cases hc : checkVlanFrame ctx.conf "GenericL2Rx" ": Frame with wrong Ether Type received!\n"
      ctx.conf.etherType.toUInt16 frameData len with
  | some message =>
    cases h.symm.trans (genericL2RxFrame_error env hc)
  | none =>
    obtain ⟨acc', hok, hext⟩ := genericL2RxFrame_ok env hc
    cases h.symm.trans hok
    exact sequenceChecked_of_extends hext

theorem dcpRxFrame_checked (h : dcpRxFrame env ctx frameData len = .ok acc) :
    SequenceChecked ctx acc := by
  by_cases hl : len = ctx.conf.frameLength - 4
  · obtain ⟨acc', hok, hext⟩ := dcpRxFrame_ok env hl
    cases h.symm.trans hok
    exact sequenceChecked_of_extends hext
  · rw [dcpRxFrame, if_pos hl] at h
    cases h

theorem lldpRxFrame_checked (h : lldpRxFrame env ctx frameData len = .ok acc) :
    SequenceChecked ctx acc := by
  by_cases hl : len = ctx.conf.frameLength
  · obtain ⟨acc', hok, hext⟩ := lldpRxFrame_ok env hl
    cases h.symm.trans hok
    exact sequenceChecked_of_extends hext
  · rw [lldpRxFrame, if_pos hl] at h
    cases h

theorem udpRxFrame_checked (h : udpRxFrame env ctx frameData len = .ok acc) :
    SequenceChecked ctx acc := by
  by_cases hl : len = ctx.conf.frameLength
  · obtain ⟨acc', hok, hext⟩ := udpRxFrame_ok env hl
    cases h.symm.trans hok
    exact sequenceChecked_of_extends hext
  · simp only [udpRxFrame, hl, ne_eq, not_false_eq_true, ↓reduceIte] at h
    cases h

theorem receiveEthercatFrame_checked (h : receiveEthercatFrame env ctx frameData len = .ok acc) :
    SequenceChecked ctx acc := by
  simp only [receiveEthercatFrame] at h
  split at h
  · cases h
  · split at h
    · cases h
    · split at h
      · cases h
      · cases h
        constructor
        · simp only [nextSequenceCounter, ne_eq, not_true_eq_false, ↓reduceIte]
        · simp only [bne_self_eq_false]

theorem receiveFrame_checked (h : receiveFrame env ctx frameData len = .ok acc) :
    SequenceChecked ctx acc := by
  rw [receiveFrame] at h
  split at h
  · exact receiveProfinetFrame_checked h
  · exact receiveProfinetFrame_checked h
  · exact receiveProfinetFrame_checked h
  · exact receiveProfinetFrame_checked h
  · exact dcpRxFrame_checked h
  · exact lldpRxFrame_checked h
  · exact udpRxFrame_checked h
  · exact udpRxFrame_checked h
  · split at h
    · exact receiveEthercatFrame_checked h
    · exact genericL2RxFrame_checked h

theorem rxSystem_step_ok (h : receiveFrame r.env ctx r.frameData r.len = .ok acc) :
    rxSystem.step ctx r = (acc.ctx, some acc.report) := by simp only [rxSystem, h]

theorem rxSystem_step_error (h : receiveFrame r.env ctx r.frameData r.len = .error message) :
    rxSystem.step ctx r = (ctx, none) := by simp only [rxSystem, h]

theorem rxSystem_ok (h : receiveFrame r.env ctx r.frameData r.len = .ok acc)
    (rs : List Reception) :
    (rxSystem.run ctx (r :: rs)).1 = (rxSystem.run acc.ctx rs).1 ∧
      rxReports ctx (r :: rs) = acc.report :: rxReports acc.ctx rs := by
  rw [rxReports, System.run_cons, rxSystem_step_ok h]
  exact ⟨rfl, rfl⟩

theorem rxSystem_error (h : receiveFrame r.env ctx r.frameData r.len = .error message)
    (rs : List Reception) :
    (rxSystem.run ctx (r :: rs)).1 = (rxSystem.run ctx rs).1 ∧
      rxReports ctx (r :: rs) = rxReports ctx rs := by
  rw [rxReports, System.run_cons, rxSystem_step_error h]
  exact ⟨rfl, rfl⟩

theorem rxSystem_forClass (hctx : ctx.ForClass conf frameType) (rs : List Reception) :
    (rxSystem.run ctx rs).1.ForClass conf frameType := by
  refine rxSystem.run_invariant (fun ctx => ctx.ForClass conf frameType) ?_ hctx rs
  intro ctx r hctx
  cases h : receiveFrame r.env ctx r.frameData r.len with
  | error message =>
    rw [rxSystem_step_error h]
    exact hctx
  | ok acc =>
    rw [rxSystem_step_ok h]
    exact (receiveFrame_checked h).forClass hctx

/-- A run of any receiver is a run of the sequence check over the counters it accepted. -/
theorem rxSystem_sequence (ctx : ThreadContext) (rs : List Reception) :
    (rxSystem.run ctx rs).1.rxSequenceCounter =
        expectedAfter ctx.rxSequenceCounter (rxCounters ctx rs) ∧
      rxFlags ctx rs = sequenceFlags ctx.rxSequenceCounter (rxCounters ctx rs) := by
  induction rs generalizing ctx with
  | nil => exact ⟨rfl, rfl⟩
  | cons r rs ih =>
    cases h : receiveFrame r.env ctx r.frameData r.len with
    | error message =>
      obtain ⟨hrun, hreports⟩ := rxSystem_error h rs
      rw [hrun, rxFlags, rxCounters, hreports]
      exact ih ctx
    | ok acc =>
      obtain ⟨hrun, hreports⟩ := rxSystem_ok h rs
      have hchecked := receiveFrame_checked h
      obtain ⟨hend, hflags⟩ := ih acc.ctx
      rw [hrun, rxFlags, rxCounters, hreports, List.map_cons, List.map_cons]
      constructor
      · rw [hend, hchecked.expected]
        rfl
      · rw [sequenceFlags, ← hchecked.flag, ← hchecked.expected]
        exact congrArg _ hflags

variable {e c x last : UInt64} {cs : List UInt64}

theorem toNat_add_one (hw : e.toNat + 1 < 2 ^ 64) : (e + 1).toNat = e.toNat + 1 := by
  rw [UInt64.toNat_add]
  exact Nat.mod_eq_of_lt hw

theorem nextSequenceCounter_self (hw : e.toNat + 1 < 2 ^ 64) :
    (nextSequenceCounter e e).toNat = e.toNat + 1 := by
  rw [nextSequenceCounter, if_neg (not_not_intro rfl), toNat_add_one hw]

theorem nextSequenceCounter_ne (h : c ≠ e) (hw : e.toNat + 2 < 2 ^ 64) :
    (nextSequenceCounter e c).toNat = e.toNat + 2 := by
  have hone := toNat_add_one (e := e) (by omega)
  rw [nextSequenceCounter, if_pos h, toNat_add_one (by omega), hone]

/-- Losses never push the expectation past the stream, and every step it makes is accounted for by
a frame or by an error. -/
theorem sequence_losses (hinc : cs.Pairwise (· < ·)) (hge : ∀ c ∈ cs, e ≤ c)
    (hw : ∀ c ∈ cs, c.toNat + 1 < 2 ^ 64) :
    (expectedAfter e cs).toNat = e.toNat + cs.length + (sequenceFlags e cs).count true ∧
      ∀ last, cs.getLast? = some last → (expectedAfter e cs).toNat ≤ last.toNat + 1 := by
  induction cs generalizing e with
  | nil => exact ⟨rfl, nofun⟩
  | cons c cs ih =>
    obtain ⟨hhead, htail⟩ := List.pairwise_cons.mp hinc
    have hec := UInt64.le_iff_toNat_le.mp (hge c List.mem_cons_self)
    have hcw := hw c List.mem_cons_self
    have hstep : (nextSequenceCounter e c).toNat = e.toNat + 1 + (if c = e then 0 else 1) ∧
        (nextSequenceCounter e c).toNat ≤ c.toNat + 1 := by
      by_cases h : c = e
      · subst h
        rw [nextSequenceCounter_self hcw, if_pos rfl]
        exact ⟨rfl, Nat.le_refl _⟩
      · have hne : c.toNat ≠ e.toNat := fun he => h (UInt64.toNat_inj.mp he)
        rw [nextSequenceCounter_ne h (by omega), if_neg h]
        exact ⟨rfl, by omega⟩
    have hge' : ∀ c' ∈ cs, nextSequenceCounter e c ≤ c' := by
      intro c' hc'
      have hlt := UInt64.lt_iff_toNat_lt.mp (hhead c' hc')
      exact UInt64.le_iff_toNat_le.mpr (by omega)
    obtain ⟨hsum, hle⟩ := ih htail hge' fun c' hc' => hw c' (List.mem_cons_of_mem _ hc')
    constructor
    · rw [expectedAfter, List.foldl_cons, ← expectedAfter, hsum, hstep.1, sequenceFlags,
        List.length_cons]
      by_cases h : c = e
      · simp only [h, bne_self_eq_false, ↓reduceIte, ne_eq, Bool.false_eq_true,
          not_false_eq_true, List.count_cons_of_ne]
        omega
      · rw [bne_iff_ne.mpr h, List.count_cons_self, if_neg h]
        omega
    · intro last hlast
      cases cs with
      | nil =>
        cases hlast
        exact hstep.2
      | cons c' cs => exact hle last (by rwa [List.getLast?_cons_cons] at hlast)

def consecutive (x : UInt64) : Nat → List UInt64
  | 0 => []
  | N + 1 => x :: consecutive (x + 1) N

/-- An expectation that is behind catches up: one error for every frame it is behind, no more. -/
theorem sequenceFlags_behind (he : e ≤ x) (hw : x.toNat + N < 2 ^ 64) :
    sequenceFlags e (consecutive x N) =
      List.replicate (min N (x.toNat - e.toNat)) true ++
        List.replicate (N - (x.toNat - e.toNat)) false := by
  induction N generalizing e x with
  | zero => simp [consecutive, sequenceFlags]
  | succ N ih =>
    rw [UInt64.le_iff_toNat_le] at he
    have hx := toNat_add_one (e := x) (by omega)
    rw [consecutive, sequenceFlags]
    by_cases h : x = e
    · subst h
      have hnext := nextSequenceCounter_self (e := x) (by omega)
      rw [ih (UInt64.le_iff_toNat_le.mpr (by omega)) (by omega), hnext, hx]
      simp [List.replicate_succ]
    · have hne : x.toNat ≠ e.toNat := fun hxe => h (UInt64.toNat_inj.mp hxe)
      have hnext := nextSequenceCounter_ne h (by omega)
      rw [ih (UInt64.le_iff_toNat_le.mpr (by omega)) (by omega), hnext, hx, bne_iff_ne.mpr h,
        ← List.cons_append, ← List.replicate_succ]
      congr 2
      · omega
      · omega

theorem expectedAfter_behind (he : e ≤ x) (hN : x.toNat - e.toNat ≤ N)
    (hw : x.toNat + N < 2 ^ 64) :
    (expectedAfter e (consecutive x N)).toNat = x.toNat + N := by
  induction N generalizing e x with
  | zero =>
    rw [UInt64.le_iff_toNat_le] at he
    change e.toNat = x.toNat
    omega
  | succ N ih =>
    rw [UInt64.le_iff_toNat_le] at he
    have hx := toNat_add_one (e := x) (by omega)
    rw [consecutive, expectedAfter, List.foldl_cons, ← expectedAfter]
    by_cases h : x = e
    · subst h
      have hnext := nextSequenceCounter_self (e := x) (by omega)
      rw [ih (UInt64.le_iff_toNat_le.mpr (by omega)) (by omega) (by omega), hx]
      omega
    · have hne : x.toNat ≠ e.toNat := fun hxe => h (UInt64.toNat_inj.mp hxe)
      have hnext := nextSequenceCounter_ne h (by omega)
      rw [ih (UInt64.le_iff_toNat_le.mpr (by omega)) (by omega) (by omega), hx]
      omega

/-- An expectation that is ahead runs away: it moves twice as fast as the stream. -/
theorem sequenceFlags_ahead (he : x < e) (hw : e.toNat + 2 * N < 2 ^ 64) :
    sequenceFlags e (consecutive x N) = List.replicate N true := by
  induction N generalizing e x with
  | zero => rfl
  | succ N ih =>
    rw [UInt64.lt_iff_toNat_lt] at he
    have hx := toNat_add_one (e := x) (by omega)
    have h : x ≠ e := fun hxe => Nat.ne_of_lt he (congrArg UInt64.toNat hxe)
    have hnext := nextSequenceCounter_ne h (by omega)
    rw [consecutive, sequenceFlags, ih (UInt64.lt_iff_toNat_lt.mpr (by omega)) (by omega),
      bne_iff_ne.mpr h, List.replicate_succ]

theorem le_getLast (hinc : cs.Pairwise (· < ·)) (hlast : cs.getLast? = some last) :
    ∀ c ∈ cs, c ≤ last := by
  obtain ⟨ys, rfl⟩ := List.getLast?_eq_some_iff.mp hlast
  intro c hc
  rcases List.mem_append.mp hc with hc | hc
  · exact UInt64.le_of_lt ((List.pairwise_append.mp hinc).2.2 c hc last List.mem_cons_self)
  · rw [List.mem_singleton.mp hc]
    exact UInt64.le_refl _

/-- On a channel that only loses frames the out of order errors never exceed the losses, and the
receiver is back in step after as many frames as it is behind. -/
theorem loss_accounting (h0 : ctx.rxSequenceCounter = 0) (rs : List Reception)
    (hinc : (rxCounters ctx rs).Pairwise (· < ·))
    (hlast : (rxCounters ctx rs).getLast? = some last) (hwrap : last.toNat + 1 < 2 ^ 64) :
    let rx := (rxSystem.run ctx rs).1
    let e := rx.rxSequenceCounter.toNat
    let m := (rxCounters ctx rs).length
    let errs := rxErrors ctx rs
    e = m + errs ∧ e ≤ last.toNat + 1 ∧ errs ≤ last.toNat + 1 - m ∧
      (errs = last.toNat + 1 - m ↔ e = last.toNat + 1) ∧
      ∀ more k, rxCounters rx more = consecutive (last + 1) (last.toNat + 1 - e + k) →
        last.toNat + 1 + (last.toNat + 1 - e + k) < 2 ^ 64 →
        (rxSystem.run rx more).1.rxSequenceCounter.toNat =
            last.toNat + 1 + (last.toNat + 1 - e + k) ∧
          (rxFlags rx more).drop (last.toNat + 1 - e) = List.replicate k false := by
  intro rx e m errs
  obtain ⟨hend, hflags⟩ := rxSystem_sequence ctx rs
  rw [h0] at hend hflags
  have hge : ∀ c ∈ rxCounters ctx rs, (0 : UInt64) ≤ c := fun c _ => UInt64.zero_le
  have hw : ∀ c ∈ rxCounters ctx rs, c.toNat + 1 < 2 ^ 64 := by
    intro c hc
    have hcl := UInt64.le_iff_toNat_le.mp (le_getLast hinc hlast c hc)
    omega
  obtain ⟨hsum, hle⟩ := sequence_losses hinc hge hw
  have hbound : e ≤ last.toNat + 1 := by
    rw [← hend] at hle
    exact hle last hlast
  have he : e = m + errs := by
    rw [← hend, ← hflags, UInt64.toNat_zero, Nat.zero_add] at hsum
    exact hsum
  refine ⟨he, hbound, by omega, ⟨by omega, by omega⟩, fun more k hmore hwm => ?_⟩
  obtain ⟨hend', hflags'⟩ := rxSystem_sequence rx more
  have hlast1 := toNat_add_one hwrap
  have hbehind : rx.rxSequenceCounter ≤ last + 1 := UInt64.le_iff_toNat_le.mpr (by omega)
  rw [hmore] at hend' hflags'
  constructor
  · rw [hend', expectedAfter_behind hbehind (by omega) (by omega), hlast1]
  · have hd : last.toNat + 1 - rx.rxSequenceCounter.toNat = last.toNat + 1 - e := rfl
    rw [hflags', sequenceFlags_behind hbehind (by omega), hlast1, hd,
      Nat.min_eq_right (Nat.le_add_right _ _), Nat.add_sub_cancel_left,
      List.drop_left' List.length_replicate]

/-- The receiver accepts the frame, in whatever state it is, with this counter. -/
def AcceptedAs (conf : TrafficClassConfig) (frameType : StatFrameType) (r : Reception)
    (c : UInt64) : Prop :=
  ∀ ctx : ThreadContext, ctx.ForClass conf frameType →
    ∃ acc, receiveFrame r.env ctx r.frameData r.len = .ok acc ∧ acc.report.sequenceCounter = c

theorem rxCounters_of_accepted {rs : List Reception} (hctx : ctx.ForClass conf frameType)
    (h : List.Forall₂ (AcceptedAs conf frameType) rs cs) : rxCounters ctx rs = cs := by
  induction h generalizing ctx with
  | nil => rfl
  | cons hrc _ ih =>
    obtain ⟨acc, hacc, hcount⟩ := hrc ctx hctx
    have hnext := ih ((receiveFrame_checked hacc).forClass hctx)
    rw [rxCounters, (rxSystem_ok hacc _).2, List.map_cons, hcount]
    exact congrArg _ hnext

def l2Reception (c : UInt64) : Reception :=
  let frame := deliver .genericL2 true
    (generateFrame (l2Context 0xb62c) (List.replicate 128 0) 128 defaultDestination c 0)
  ⟨quietEnv, frame ++ [], frame.length⟩

theorem l2Reception_accepted (hc : c.toNat < 2 ^ 32) :
    AcceptedAs ((l2Config 0xb62c).classes .genericL2) .genericL2 (l2Reception c) c := by
  intro ctx hctx
  have hbuf : ((l2Config 0xb62c).classes .genericL2).frameLength ≤
      (List.replicate 128 (0 : UInt8)).length := by
    rw [List.length_replicate]
    decide
  obtain ⟨acc, hacc, hcount, -⟩ := receive_generated (l2Context_forClass 0xb62c) hctx rfl
    (fun _ => ⟨rfl, by decide⟩) (by decide) c 0 hbuf 128 defaultDestination true quietEnv []
  refine ⟨acc, hacc, hcount.trans ?_⟩
  have hn : ((l2Config 0xb62c).classes .genericL2).numFramesPerCycle.toNat = 1 := by decide
  refine wireSequenceCounter_of_lt ?_ ?_ ?_
  · rw [hn]
  · rw [hn]
    decide
  · rw [hn, Nat.one_mul]
    exact hc

theorem l2Receptions_counters
    (hctx : ctx.ForClass ((l2Config 0xb62c).classes .genericL2) .genericL2)
    (hcs : ∀ c ∈ cs, c.toNat < 2 ^ 32) : rxCounters ctx (cs.map l2Reception) = cs := by
  refine rxCounters_of_accepted hctx ?_
  rw [List.forall₂_map_left_iff, List.forall₂_same]
  exact fun c hc => l2Reception_accepted (hcs c hc)

/-- Frames 0 and 3 arrive, one of the two losses is noticed; with frame 4 the receiver is in step
again, so that frame 5 is not flagged. -/
theorem loss_accounting_gap :
    let rs := [0, 3].map l2Reception
    let rx := (rxSystem.run (l2Context 0xb62c) rs).1
    rx.rxSequenceCounter.toNat = 2 + rxErrors (l2Context 0xb62c) rs ∧
      (rxFlags rx ([4, 5].map l2Reception)).drop 1 = [false] := by
  intro rs rx
  have hctx := l2Context_forClass 0xb62c
  have hcounters : rxCounters (l2Context 0xb62c) rs = [0, 3] :=
    l2Receptions_counters hctx (by simp)
  have hmore : rxCounters rx ([4, 5].map l2Reception) = [4, 5] :=
    l2Receptions_counters (rxSystem_forClass hctx rs) (by simp)
  have hexpected : rx.rxSequenceCounter = 3 := by
    rw [(rxSystem_sequence _ rs).1, hcounters]
    rfl
  have hlast : (rxCounters (l2Context 0xb62c) rs).getLast? = some 3 := by
    rw [hcounters]
    rfl
  have h := loss_accounting rfl rs (by rw [hcounters]; decide) hlast (by decide)
  rw [hcounters] at h
  refine ⟨h.1, ?_⟩
  have hcatch := h.2.2.2.2 ([4, 5].map l2Reception) 1
  rw [hexpected] at hcatch
  exact (hcatch hmore (by decide)).2

/-- Frames in a row after any history. If the expectation has not overtaken them, at most as many
are flagged as it is behind; if it has, every single one is. Losses alone never let it overtake. -/
theorem resynchronisation (ctx : ThreadContext) (received more : List Reception)
    (hx : ∀ c ∈ rxCounters ctx received, c < x)
    (hmore : rxCounters (rxSystem.run ctx received).1 more = consecutive x N) (hN : 0 < N)
    (hw : x.toNat + N < 2 ^ 64) :
    let rx := (rxSystem.run ctx received).1
    let e := rx.rxSequenceCounter
    (rxErrors rx more ≤ x.toNat - e.toNat ↔ e ≤ x) ∧
      (e ≤ x → rxErrors rx more = min N (x.toNat - e.toNat)) ∧
      (x < e → e.toNat + 2 * N < 2 ^ 64 → rxErrors rx more = N) ∧
      (ctx.rxSequenceCounter = 0 → (rxCounters ctx received).Pairwise (· < ·) → e ≤ x) := by
  intro rx e
  have hflags : rxFlags rx more = sequenceFlags e (consecutive x N) := by
    rw [(rxSystem_sequence rx more).2, hmore]
  have hbehind (he : e ≤ x) : rxErrors rx more = min N (x.toNat - e.toNat) := by
    rw [rxErrors, hflags, sequenceFlags_behind he hw, List.count_append,
      List.count_replicate_self, List.count_replicate]
    simp
  refine ⟨⟨fun hle => ?_, fun he => ?_⟩, hbehind, fun he hwe => ?_, fun h0 hinc => ?_⟩
  · by_contra hlt
    have hlt' := UInt64.lt_iff_toNat_lt.mp (UInt64.not_le.mp hlt)
    have hne : x ≠ e := fun h => Nat.ne_of_lt hlt' (congrArg UInt64.toNat h)
    obtain ⟨M, rfl⟩ : ∃ M, N = M + 1 := ⟨N - 1, by omega⟩
    rw [rxErrors, hflags, consecutive, sequenceFlags, bne_iff_ne.mpr hne,
      List.count_cons_self] at hle
    omega
  · rw [hbehind he]
    exact Nat.min_le_right _ _
  · rw [rxErrors, hflags, sequenceFlags_ahead he hwe, List.count_replicate_self]
  · have hend : e = expectedAfter 0 (rxCounters ctx received) := by
      rw [← h0]
      exact (rxSystem_sequence ctx received).1
    have hlt (c : UInt64) (hc : c ∈ rxCounters ctx received) : c.toNat + 1 ≤ x.toNat :=
      UInt64.lt_iff_toNat_lt.mp (hx c hc)
    have hxw := x.toNat_lt
    obtain ⟨-, hle⟩ := sequence_losses hinc (fun c _ => UInt64.zero_le)
      fun c hc => Nat.lt_of_le_of_lt (hlt c hc) hxw
    rw [hend, UInt64.le_iff_toNat_le]
    cases hlast : (rxCounters ctx received).getLast? with
    | none =>
      rw [List.getLast?_eq_none_iff.mp hlast]
      exact Nat.zero_le _
    | some last =>
      exact Nat.le_trans (hle last hlast) (hlt last (List.mem_of_getLast? hlast))

theorem consecutive_lt (hw : x.toNat + N ≤ bound) : ∀ c ∈ consecutive x N, c.toNat < bound := by
  induction N generalizing x with
  | zero => exact nofun
  | succ N ih =>
    intro c hc
    rcases List.mem_cons.mp hc with rfl | hc
    · omega
    · have hx : (x + 1).toNat ≤ x.toNat + 1 := by
        rw [UInt64.toNat_add]
        exact Nat.mod_le _ _
      exact ih (by omega) c hc

/-- A gap of two frames: the expectation is behind by two and flags two frames. -/
theorem resynchronisation_gap :
    let rx := (rxSystem.run (l2Context 0xb62c) ([0].map l2Reception)).1
    rxErrors rx ((consecutive 3 5).map l2Reception) = 2 := by
  intro rx
  have hctx := l2Context_forClass 0xb62c
  have hreceived : rxCounters (l2Context 0xb62c) ([0].map l2Reception) = [0] :=
    l2Receptions_counters hctx (by simp)
  have hmore : rxCounters rx ((consecutive 3 5).map l2Reception) = consecutive 3 5 :=
    l2Receptions_counters (rxSystem_forClass hctx _) (by simp [consecutive])
  have hexpected : rx.rxSequenceCounter = 1 := by
    rw [(rxSystem_sequence _ _).1, hreceived]
    rfl
  have h := resynchronisation (l2Context 0xb62c) ([0].map l2Reception)
    ((consecutive 3 5).map l2Reception) (by rw [hreceived]; simp) hmore (by decide) (by decide)
  have hexact := h.2.1
  rw [hexpected] at hexact
  exact hexact (by decide)

/-- After one duplicate of frame 0 every frame of the stream 1, 2, 3, … is flagged, however long it
gets. -/
theorem resynchronisation_duplicate :
    let rx := (rxSystem.run (l2Context 0xb62c) ([0, 0].map l2Reception)).1
    ∀ N < 2 ^ 31, rxCounters rx ((consecutive 1 N).map l2Reception) = consecutive 1 N ∧
      rxErrors rx ((consecutive 1 N).map l2Reception) = N := by
  intro rx N hN
  have hctx := l2Context_forClass 0xb62c
  have hreceived : rxCounters (l2Context 0xb62c) ([0, 0].map l2Reception) = [0, 0] :=
    l2Receptions_counters hctx (by simp)
  have hmore : rxCounters rx ((consecutive 1 N).map l2Reception) = consecutive 1 N := by
    refine l2Receptions_counters (rxSystem_forClass hctx _) (consecutive_lt ?_)
    rw [UInt64.toNat_one]
    omega
  have hexpected : rx.rxSequenceCounter = 3 := by
    rw [(rxSystem_sequence _ _).1, hreceived]
    rfl
  refine ⟨hmore, ?_⟩
  rw [rxErrors, (rxSystem_sequence _ _).2, hmore, hexpected,
    sequenceFlags_ahead (by decide) (show (3 : UInt64).toNat + 2 * N < 2 ^ 64 by
      rw [show (3 : UInt64).toNat = 3 from rfl]; omega), List.count_replicate_self]

end RtcTestbench
