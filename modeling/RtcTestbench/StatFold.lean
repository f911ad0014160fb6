import RtcTestbench.StatRecord

namespace RtcTestbench
open Function Tally
set_option autoImplicit true

variable {cfg : StatConfig} {s s' : StatState}

/-- What is known about a run besides its state: the snapshots of the collection periods since the
last global reset and all that has been recorded since then. -/
structure StatHistory where
  snapshots : List (StatFrameType → Statistics)
  books : StatFrameType → Books StatRecord

def StatHistory.empty : StatHistory := ⟨[], fun _ => .empty⟩

def StatHistory.step (cfg : StatConfig) (s s' : StatState) (call : StatCall) (h : StatHistory) :
    StatHistory :=
  if s.exited then h
  else match call with
    | .update now =>
      if !collectionDue cfg s now then h
      else if s.resetStats then .empty
      else ⟨h.snapshots ++ [s'.statisticsPerPeriodForLog], fun t => (h.books t).close⟩
    | call => ⟨h.snapshots, fun t => (h.books t).record (recorded cfg s call t)⟩

theorem StatHistory.step_exited (hs : s.exited = true) :
    StatHistory.step cfg s s' call hist = hist := by
  simp only [step, hs, ↓reduceIte]

theorem StatHistory.step_call (hs : ¬ s.exited = true) (hu : ∀ now, call ≠ .update now) :
    StatHistory.step cfg s s' call hist =
      ⟨hist.snapshots, fun t => (hist.books t).record (recorded cfg s call t)⟩ := by
  cases call with
  | update now => exact absurd rfl (hu now)
  | _ => simp only [step, hs, ↓reduceIte, Bool.false_eq_true]

def statRun (cfg : StatConfig) :
    List StatCall → StatState × StatHistory → Option (StatState × StatHistory)
  | [], x => some x
  | call :: calls, x =>
    (statStep cfg x.1 call).bind fun s' => statRun cfg calls (s', x.2.step cfg x.1 s' call)

/-- Both copies hold exactly what the history says. -/
structure Accounted (s : StatState) (hist : StatHistory) (t : StatFrameType) : Prop where
  global : Recorded statReset (s.globalStatistics t) (hist.books t).total
  period : Recorded statReset (s.statisticsPerPeriod t) (hist.books t).current
  closed : List.Forall₂ (fun p rs => Recorded statReset (p t) rs) hist.snapshots
    (hist.books t).closed

theorem statUpdate_accounted (hm : cfg.build.withMqtt = true) (now : UInt64)
    (hs : s.exited = false) (h : Accounted s hist t) :
    Accounted (statUpdate cfg s now) (hist.step cfg s (statUpdate cfg s now) (.update now)) t := by
  rw [StatHistory.step, hs, if_neg Bool.false_ne_true]
  by_cases hdue : collectionDue cfg s now = true
  · by_cases hreset : s.resetStats = true
    · have hu : (statUpdate cfg s now).globalStatistics t = statReset ∧
          (statUpdate cfg s now).statisticsPerPeriod t = statReset := by
        simp [statUpdate, hdue, hm, hreset]
      simp only [hdue, hreset, Bool.not_true, Bool.false_eq_true, ↓reduceIte]
      refine ⟨?_, ?_, .nil⟩
      · rw [hu.1]
        exact .refl _
      · rw [hu.2]
        exact .refl _
    · have hu : (statUpdate cfg s now).globalStatistics = s.globalStatistics ∧
          (statUpdate cfg s now).statisticsPerPeriod t = statReset ∧
          (statUpdate cfg s now).statisticsPerPeriodForLog = s.statisticsPerPeriod := by
        simp [statUpdate, hdue, hm, hreset]
      simp only [hdue, hreset, Bool.not_true, Bool.false_eq_true, ↓reduceIte]
      refine ⟨?_, ?_, ?_⟩
      · rw [hu.1, Books.total_close]
        exact h.global
      · rw [hu.2.1]
        exact .refl _
      · rw [hu.2.2]
        exact List.rel_append h.closed (.cons h.period .nil)
  · have hu : statUpdate cfg s now = { s with lastTs := startTs s now } := by
      simp [statUpdate, hdue]
    simp only [hdue, Bool.not_false, ↓reduceIte, hu]
    exact ⟨h.global, h.period, h.closed⟩

theorem statStep_accounted (hm : cfg.build.withMqtt = true) (hs : statStep cfg s call = some s')
    (h : Accounted s hist t) : Accounted s' (hist.step cfg s s' call) t := by
  rw [statStep] at hs
  by_cases hex : s.exited = true
  · rw [if_pos hex] at hs
    cases hs
    rw [StatHistory.step_exited hex]
    exact h
  · rw [if_neg hex] at hs
    by_cases hu : ∃ now, call = .update now
    · obtain ⟨now, rfl⟩ := hu
      cases hs
      exact statUpdate_accounted hm now (Bool.eq_false_iff.mpr hex) h
    · have hu' : ∀ now, call ≠ .update now := fun now hn => hu ⟨now, hn⟩
      have hrec := statCall_recorded hm hs hu' t
      rw [StatHistory.step_call hex hu']
      refine ⟨?_, h.period.trans hrec.2, h.closed⟩
      rw [Books.total_record]
      exact h.global.trans hrec.1

theorem statRun_accounted (hm : cfg.build.withMqtt = true)
    (hr : statRun cfg calls (s, hist) = some (s', hist')) (h : Accounted s hist t) :
    Accounted s' hist' t := by
  induction calls generalizing s hist with
  | nil =>
    cases hr
    exact h
  | cons call calls ih =>
    obtain ⟨next, hs, hr⟩ := Option.bind_eq_some_iff.mp hr
    exact ih hr (statStep_accounted hm hs h)

theorem statInit_accounted (h : statInit cfg = some s) (t : StatFrameType) :
    Accounted s .empty t := by
  rw [statInit] at h
  split at h
  · cases h
  · cases h
    exact ⟨.refl _, .refl _, .nil⟩

/-- The frame-level statistics that result from exactly these records. -/
structure Summarises (stat : Statistics) (rs : List StatRecord) : Prop where
  counter : ∀ c, stat.counter c = (counts c rs).sum
  least : ∀ l, Extreme (· < ·) uint64Max (stat.least l) (samples l rs)
  greatest : ∀ l, Extreme (· > ·) 0 (stat.greatest l) (samples l rs)
  onewayMin : Extreme (· < ·) Int64.maxValue stat.onewayMin (onewaySamples rs)
  onewayMax : Extreme (· > ·) Int64.minValue stat.onewayMax (onewaySamples rs)

/-- The frame-level statistics that the parts add up to. -/
structure AddsUp (stat : Statistics) (parts : List Statistics) : Prop where
  counter : ∀ c, stat.counter c = (parts.map (·.counter c)).sum
  least : ∀ l, Extreme (· < ·) uint64Max (stat.least l) (parts.map (·.least l))
  greatest : ∀ l, Extreme (· > ·) 0 (stat.greatest l) (parts.map (·.greatest l))
  onewayMin : Extreme (· < ·) Int64.maxValue stat.onewayMin (parts.map (·.onewayMin))
  onewayMax : Extreme (· > ·) Int64.minValue stat.onewayMax (parts.map (·.onewayMax))

instance instStrictTotalOrderUInt64Lt : IsStrictTotalOrder UInt64 (· < ·) where
  irrefl := UInt64.lt_irrefl
  trans _ _ _ := UInt64.lt_trans
  trichotomous _ _ h h' := UInt64.le_antisymm (Std.not_lt.mp h') (Std.not_lt.mp h)

instance instStrictTotalOrderInt64Lt : IsStrictTotalOrder Int64 (· < ·) where
  irrefl _ := Int64.lt_irrefl
  trans _ _ _ := Int64.lt_trans
  trichotomous _ _ h h' := Int64.le_antisymm (Std.not_lt.mp h') (Std.not_lt.mp h)

instance instStrictTotalOrderUInt64Gt : IsStrictTotalOrder UInt64 (· > ·) :=
  inferInstanceAs (IsStrictTotalOrder UInt64 (swap (· < ·)))

instance instStrictTotalOrderInt64Gt : IsStrictTotalOrder Int64 (· > ·) :=
  inferInstanceAs (IsStrictTotalOrder Int64 (swap (· < ·)))

theorem not_uint64Max_lt (x : UInt64) : ¬ uint64Max < x := by
  rw [UInt64.lt_iff_toNat_lt]
  have := x.toNat_lt
  have hmax : uint64Max.toNat = 2 ^ 64 - 1 := rfl
  omega

theorem not_lt_zero (x : UInt64) : ¬ 0 > x := UInt64.not_lt_zero

theorem not_maxValue_lt (x : Int64) : ¬ Int64.maxValue < x := Std.not_lt.mpr (Int64.le_maxValue x)

theorem not_minValue_gt (x : Int64) : ¬ Int64.minValue > x := Std.not_lt.mpr (Int64.minValue_le x)

@[simp] theorem statReset_counter (c : FrameCounter) : statReset.counter c = 0 := by
  cases c <;> rfl

@[simp] theorem statReset_least (l : Latency) : statReset.least l = uint64Max := by
  cases l <;> rfl

@[simp] theorem statReset_greatest (l : Latency) : statReset.greatest l = 0 := by
  cases l <;> rfl

theorem Recorded.summarises (h : Recorded statReset stat rs) : Summarises stat rs := by
  refine ⟨fun c => ?_, fun l => ?_, fun l => ?_, ?_, ?_⟩
  · rw [h.counter, statReset_counter, List.sum_eq_foldl]
  · rw [h.least, statReset_least]
    exact foldl_pick_extreme _ not_uint64Max_lt _
  · rw [h.greatest, statReset_greatest]
    exact foldl_pick_extreme _ not_lt_zero _
  · rw [h.onewayMin]
    exact foldl_pick_extreme _ not_maxValue_lt _
  · rw [h.onewayMax]
    exact foldl_pick_extreme _ not_minValue_gt _

section Perm
variable {a b b' : Statistics} {rs rs' : List StatRecord} {p : StatRecord → Bool}
  (h : Recorded a b rs) (h' : Recorded a b' rs') (hperm : (rs.filter p).Perm (rs'.filter p))

theorem count?_eq_none (hk : ∀ m, p (.count k m) = true) (x : StatRecord) (hx : p x = false) :
    x.count? k = none := by
  cases x with
  | count c m =>
    rw [StatRecord.count?, if_neg]
    rintro rfl
    cases (hk m).symm.trans hx
  | _ => rfl

theorem sample?_eq_none (hl : ∀ us, p (.sample l us) = true) (x : StatRecord) (hx : p x = false) :
    x.sample? l = none := by
  cases x with
  | sample l' us =>
    rw [StatRecord.sample?, if_neg]
    rintro rfl
    cases (hl us).symm.trans hx
  | _ => rfl

theorem filterMap_filter_of {f : StatRecord → Option β} (hf : ∀ x, p x = false → f x = none)
    (rs : List StatRecord) : (rs.filter p).filterMap f = rs.filterMap f := by
  rw [List.filterMap_filter]
  apply List.filterMap_congr
  intro x _
  cases hx : p x with
  | true => rfl
  | false => exact (hf x hx).symm

include h h' hperm

/-- A counter depends on the records that concern it, not on their order. -/
theorem Recorded.counter_of_perm (hk : ∀ m, p (.count k m) = true) :
    b.counter k = b'.counter k := by
  have hk := count?_eq_none hk
  rw [h.counter, h'.counter, counts, counts, ← filterMap_filter_of hk rs,
    ← filterMap_filter_of hk rs']
  exact (hperm.filterMap _).foldl_op_eq

theorem Recorded.extremes_of_perm (hl : ∀ us, p (.sample l us) = true) :
    b.least l = b'.least l ∧ b.greatest l = b'.greatest l := by
  have hl := sample?_eq_none hl
  rw [h.least, h'.least, h.greatest, h'.greatest, samples, samples, ← filterMap_filter_of hl rs,
    ← filterMap_filter_of hl rs']
  exact ⟨(hperm.filterMap _).foldl_op_eq, (hperm.filterMap _).foldl_op_eq⟩

end Perm

theorem map_eq_of_forall₂ {f : α → γ} {g : β → γ} (h : List.Forall₂ R xs ys)
    (hfg : ∀ x y, R x y → f x = g y) : xs.map f = ys.map g := by
  induction h with
  | nil => rfl
  | cons hxy _ ih => rw [List.map_cons, List.map_cons, hfg _ _ hxy, ih]

theorem foldl_parts (op : V → V → V) (unit : V) [Std.Associative op] [Std.LawfulIdentity op unit]
    (contribution : StatRecord → Option V) (read : Statistics → V)
    (hread : ∀ stat rs, Recorded statReset stat rs →
      read stat = (rs.filterMap contribution).foldl op unit)
    (hparts : List.Forall₂ (Recorded statReset) parts logs)
    (h : Recorded statReset stat logs.flatten) :
    read stat = (parts.map read).foldl op unit := by
  have hmap : parts.map read = logs.map fun rs => (rs.filterMap contribution).foldl op unit :=
    map_eq_of_forall₂ hparts hread
  rw [hread _ _ h, hmap, List.filterMap_flatten, foldl_flatten, List.map_map]
  rfl

theorem extreme_parts (lt : V → V → Prop) [DecidableRel lt] [IsStrictTotalOrder V lt] {worst : V}
    (hworst : ∀ x, ¬ lt worst x) (contribution : StatRecord → Option V) (read : Statistics → V)
    (hread : ∀ stat rs, Recorded statReset stat rs →
      read stat = (rs.filterMap contribution).foldl (pick lt) worst)
    (hparts : List.Forall₂ (Recorded statReset) parts logs)
    (h : Recorded statReset stat logs.flatten) :
    Extreme lt worst (read stat) (parts.map read) := by
  have := pick_lawfulIdentity lt hworst
  rw [foldl_parts (pick lt) worst contribution read hread hparts h]
  exact foldl_pick_extreme lt hworst _

theorem addsUp_of_parts (hparts : List.Forall₂ (Recorded statReset) parts logs)
    (h : Recorded statReset stat logs.flatten) : AddsUp stat parts := by
  refine ⟨fun c => ?_, fun l => ?_, fun l => ?_, ?_, ?_⟩
  · rw [List.sum_eq_foldl]
    refine foldl_parts (V := UInt64) (· + ·) 0 (StatRecord.count? c) (·.counter c)
      (fun stat rs hr => ?_) hparts h
    rw [hr.counter, statReset_counter]
    rfl
  · refine extreme_parts (· < ·) not_uint64Max_lt (StatRecord.sample? l) (·.least l)
      (fun stat rs hr => ?_) hparts h
    rw [hr.least, statReset_least]
    rfl
  · refine extreme_parts (· > ·) not_lt_zero (StatRecord.sample? l) (·.greatest l)
      (fun stat rs hr => ?_) hparts h
    rw [hr.greatest, statReset_greatest]
    rfl
  · exact extreme_parts (· < ·) not_maxValue_lt StatRecord.oneway? (·.onewayMin)
      (fun stat rs hr => hr.onewayMin) hparts h
  · exact extreme_parts (· > ·) not_minValue_gt StatRecord.oneway? (·.onewayMax)
      (fun stat rs hr => hr.onewayMax) hparts h

/-- The global statistics are what the collection periods since the last reset and the current one
add up to, and both copies are exact summaries of what has been recorded since their reset. -/
theorem statistics_conserved (hm : cfg.build.withMqtt = true) (hi : statInit cfg = some s)
    (hr : statRun cfg calls (s, .empty) = some (s', hist)) (t : StatFrameType) :
    AddsUp (s'.globalStatistics t)
        (hist.snapshots.map (fun p => p t) ++ [s'.statisticsPerPeriod t]) ∧
      Summarises (s'.globalStatistics t) (hist.books t).total ∧
      Summarises (s'.statisticsPerPeriod t) (hist.books t).current ∧
      List.Forall₂ (fun p rs => Summarises (p t) rs) hist.snapshots (hist.books t).closed := by
  have h := statRun_accounted hm hr (statInit_accounted hi t)
  refine ⟨?_, h.global.summarises, h.period.summarises, h.closed.imp fun p rs hp => hp.summarises⟩
  have hparts : List.Forall₂ (Recorded statReset)
      (hist.snapshots.map (fun p => p t) ++ [s'.statisticsPerPeriod t])
      ((hist.books t).closed ++ [(hist.books t).current]) :=
    List.rel_append (List.forall₂_map_left_iff.mpr h.closed) (.cons h.period .nil)
  refine addsUp_of_parts hparts ?_
  rw [List.flatten_append, List.flatten_singleton]
  exact h.global

def referenceConfig : StatConfig := ⟨fullBuild, configSetDefaults false, .reference⟩

def referenceCalls : List StatCall :=
  [.framesSentBatch .tsnHigh 0 1 1000000,
    .frameReceived .tsnHigh ⟨0, false, false, false, 1000000, 0, 0⟩ 1500000,
    .update 1600000, .update 1001600000,
    .framesSentBatch .tsnHigh 1 1 1002000000,
    .frameReceived .tsnHigh ⟨1, false, false, false, 1002000000, 0, 0⟩ 1002300000]

/-- The round trips of 500 and 300 microseconds are in the periods they belong to. -/
theorem statistics_conserved_periods :
    ∃ s s' hist, statInit referenceConfig = some s ∧
      statRun referenceConfig referenceCalls (s, .empty) = some (s', hist) ∧
      (hist.snapshots.map fun p => (p .tsnHigh).roundTripMin) = [500] ∧
      (s'.statisticsPerPeriod .tsnHigh).roundTripMin = 300 ∧
      (s'.globalStatistics .tsnHigh).roundTripMin = 300 ∧
      (s'.globalStatistics .tsnHigh).roundTripMax = 500 ∧
      AddsUp (s'.globalStatistics .tsnHigh)
        (hist.snapshots.map (fun p => p .tsnHigh) ++ [s'.statisticsPerPeriod .tsnHigh]) := by
  have hsome : ((statInit referenceConfig).bind fun s =>
      statRun referenceConfig referenceCalls (s, .empty)).map (fun x =>
        (x.2.snapshots.map fun p => (p .tsnHigh).roundTripMin,
          (x.1.statisticsPerPeriod .tsnHigh).roundTripMin,
          (x.1.globalStatistics .tsnHigh).roundTripMin,
          (x.1.globalStatistics .tsnHigh).roundTripMax)) = some ([500], 300, 300, 500) := by
    decide +kernel
  obtain ⟨⟨s', hist⟩, hrun, hx⟩ := Option.map_eq_some_iff.mp hsome
  obtain ⟨s, hi, hr⟩ := Option.bind_eq_some_iff.mp hrun
  simp only [Prod.mk.injEq] at hx
  exact ⟨s, s', hist, hi, hr, hx.1, hx.2.1, hx.2.2.1, hx.2.2.2,
    (statistics_conserved rfl hi hr .tsnHigh).1⟩

end RtcTestbench
