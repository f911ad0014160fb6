import RtcTestbench.RoundTripTime
import RtcTestbench.Sequence

namespace RtcTestbench
open Function Window
set_option autoImplicit true

variable {cfg : StatConfig} {frameType : StatFrameType} {rtt rtt' : RoundTripContext}
  {s : StatState} {c x y t : UInt64} {step : Nat}

theorem SentBatch.fits_of_lt (h : c.toNat + x.toNat + step ≤ 2 ^ 64) :
    (⟨c, x, t⟩ : SentBatch).Fits step := by
  have hle := Nat.div_mul_le_self (c.toNat + x.toNat + step - 1) step
  change (c.toNat + x.toNat + step - 1) / step * step < 2 ^ 64
  omega

theorem toNat_add_of_lt {a b : UInt64} (h : a.toNat + b.toNat < 2 ^ 64) :
    (a + b).toNat = a.toNat + b.toNat := by
  rw [UInt64.toNat_add, Nat.mod_eq_of_lt h]

theorem SentBatch.stamps_split (hs : 0 < step) (h : c.toNat + x.toNat + y.toNat < 2 ^ 64)
    (t : UInt64) :
    (⟨c, x + y, t⟩ : SentBatch).stamps step =
      (⟨c, x, t⟩ : SentBatch).stamps step ++ (⟨c + x, y, t⟩ : SentBatch).stamps step := by
  have hcount := toNat_add_of_lt (show x.toNat + y.toNat < 2 ^ 64 by omega)
  have hstart := toNat_add_of_lt (show c.toNat + x.toNat < 2 ^ 64 by omega)
  apply List.Pairwise.eq_of_mem_iff (SentBatch.stamps_increasing hs)
  · apply List.pairwise_append.mpr
    refine ⟨SentBatch.stamps_increasing hs, SentBatch.stamps_increasing hs, ?_⟩
    intro a ha b hb
    obtain ⟨⟨-, ha⟩, -⟩ := (SentBatch.mem_stamps hs).mp ha
    obtain ⟨⟨hb, -⟩, -⟩ := (SentBatch.mem_stamps hs).mp hb
    rw [hstart] at hb
    exact Nat.lt_of_lt_of_le ha hb
  · intro a
    rw [List.mem_append, SentBatch.mem_stamps hs, SentBatch.mem_stamps hs, SentBatch.mem_stamps hs,
      ← or_and_right]
    apply and_congr_left'
    simp only [SentBatch.Contains, hcount, hstart]
    omega

theorem stampAt_isSome (h : stampAt t rtt a = some rtt') : rtt'.backlog.isSome = true := by
  simp only [stampAt, RoundTripContext.modify, Option.bind_eq_bind, Option.bind_eq_some_iff,
    Option.pure_def, Option.some.injEq] at h
  obtain ⟨idx, -, backlog, -, e, -, rfl⟩ := h
  rfl

theorem stampAt_foldlM_isSome (hrtt : rtt.backlog.isSome = true) {cs : List Nat}
    (h : cs.foldlM (stampAt t) rtt = some rtt') : rtt'.backlog.isSome = true := by
  induction cs generalizing rtt with
  | nil =>
    cases h
    exact hrtt
  | cons a cs ih =>
    rw [List.foldlM_cons] at h
    obtain ⟨rtt₁, hstamp, hrest⟩ := Option.bind_eq_some_iff.mp h
    exact ih (stampAt_isSome hstamp) hrest

theorem recordTxTime_split (hn : 0 < (cfg.framesPerCycle frameType).toNat)
    (h : c.toNat + x.toNat + y.toNat + (cfg.framesPerCycle frameType).toNat < 2 ^ 64)
    (t : UInt64) (rtt : RoundTripContext) :
    recordTxTime cfg frameType c (x + y) t rtt =
      (recordTxTime cfg frameType c x t rtt).bind (recordTxTime cfg frameType (c + x) y t) := by
  by_cases hrec : cfg.logStatUserSelected ≠ .mirror ∧ rtt.backlog.isSome = true
  · obtain ⟨hmode, hrtt⟩ := hrec
    have hpos := StatConfig.stampStep_pos hn
    have hle := StatConfig.stampStep_le hn
    have hcount := toNat_add_of_lt (show x.toNat + y.toNat < 2 ^ 64 by omega)
    have hstart := toNat_add_of_lt (show c.toNat + x.toNat < 2 ^ 64 by omega)
    have hwhole : (⟨c, x + y, t⟩ : SentBatch).Fits (cfg.stampStep frameType) :=
      SentBatch.fits_of_lt (by omega)
    have hfirst : (⟨c, x, t⟩ : SentBatch).Fits (cfg.stampStep frameType) :=
      SentBatch.fits_of_lt (by omega)
    have hsecond : (⟨c + x, y, t⟩ : SentBatch).Fits (cfg.stampStep frameType) :=
      SentBatch.fits_of_lt (by omega)
    rw [recordTxTime_stamps hmode hn hrtt hwhole, recordTxTime_stamps hmode hn hrtt hfirst]
    dsimp only
    rw [SentBatch.stamps_split hpos (by omega), List.foldlM_append]
    apply Option.bind_congr
    intro rtt' hrtt'
    exact (recordTxTime_stamps hmode hn (stampAt_foldlM_isSome hrtt hrtt') hsecond).symm
  · simp only [recordTxTime, if_neg hrec, Option.bind_some]

theorem repeat_add (f : α → α) (i j : Nat) (a : α) :
    Nat.repeat f (i + j) a = Nat.repeat f j (Nat.repeat f i a) := by
  induction j with
  | zero => rfl
  | succ j ih => exact congrArg f ih

/-- A batch may be reported in two parts. -/
theorem statFramesSentBatch_split (hn : 0 < (cfg.framesPerCycle frameType).toNat)
    (h : c.toNat + x.toNat + y.toNat + (cfg.framesPerCycle frameType).toNat < 2 ^ 64)
    (s : StatState) (now : UInt64) :
    statFramesSentBatch cfg s frameType c (x + y) now =
      (statFramesSentBatch cfg s frameType c x now).bind fun s' =>
        statFramesSentBatch cfg s' frameType (c + x) y now := by
  have hcount := toNat_add_of_lt (show x.toNat + y.toNat < 2 ^ 64 by omega)
  simp only [statFramesSentBatch, recordTxTime_split hn h, Option.bind_eq_bind, Option.bind_assoc,
    Option.pure_def, Option.bind_some, update_self, update_idem, hcount, repeat_add,
    UInt64.add_assoc]

/-- The calls of the AF_PACKET mirror, one for each frame. -/
def framesSentOneByOne (cfg : StatConfig) (frameType : StatFrameType) (now : UInt64) (s : StatState)
    (counters : List UInt64) : Option StatState :=
  counters.foldlM (fun s c => statFrameSent cfg s frameType c now) s

theorem statFramesSentBatch_zero (hn : 0 < (cfg.framesPerCycle frameType).toNat)
    (h : c.toNat + (cfg.framesPerCycle frameType).toNat < 2 ^ 64) (s : StatState) (now : UInt64) :
    statFramesSentBatch cfg s frameType c 0 now = some s := by
  have hnone : recordTxTime cfg frameType c 0 now (s.roundTripContexts frameType) =
      some (s.roundTripContexts frameType) := by
    by_cases hrec : cfg.logStatUserSelected ≠ .mirror ∧
        (s.roundTripContexts frameType).backlog.isSome = true
    · have hpos := StatConfig.stampStep_pos hn
      have hle := StatConfig.stampStep_le hn
      have hfit : (⟨c, 0, now⟩ : SentBatch).Fits (cfg.stampStep frameType) :=
        SentBatch.fits_of_lt (by rw [UInt64.toNat_zero]; omega)
      have hempty : (⟨c, 0, now⟩ : SentBatch).stamps (cfg.stampStep frameType) = [] := by
        apply List.eq_nil_iff_forall_not_mem.mpr
        intro a ha
        obtain ⟨⟨hge, hlt⟩, -⟩ := (SentBatch.mem_stamps hpos).mp ha
        exact absurd hlt (Nat.not_lt.mpr hge)
      rw [recordTxTime_stamps hrec.1 hn hrec.2 hfit, hempty]
      rfl
    · rw [recordTxTime, if_neg hrec]
  simp only [statFramesSentBatch, hnone, Option.bind_eq_bind, Option.bind_some, Option.pure_def,
    UInt64.toNat_zero, Nat.repeat, UInt64.add_zero, update_eq_self]

theorem framesSentOneByOne_eq (hn : 0 < (cfg.framesPerCycle frameType).toNat)
    (h : c.toNat + m + (cfg.framesPerCycle frameType).toNat < 2 ^ 64) (s : StatState)
    (now : UInt64) :
    framesSentOneByOne cfg frameType now s (consecutive c m) =
      statFramesSentBatch cfg s frameType c (UInt64.ofNat m) now := by
  induction m generalizing c s with
  | zero => exact (statFramesSentBatch_zero hn h s now).symm
  | succ m ih =>
    have hm : (UInt64.ofNat m).toNat = m := by
      rw [UInt64.toNat_ofNat', Nat.mod_eq_of_lt (by omega)]
    have hnext : (c + 1).toNat = c.toNat + 1 := toNat_add_one (by omega)
    have hsplit : UInt64.ofNat (m + 1) = 1 + UInt64.ofNat m := by
      rw [Nat.add_comm, UInt64.ofNat_add]
      rfl
    rw [hsplit, statFramesSentBatch_split hn (by rw [UInt64.toNat_one, hm]; omega),
      framesSentOneByOne, consecutive, List.foldlM_cons]
    apply Option.bind_congr
    intro s' _
    exact ih (by omega) s'

/-- The send time the reception of counter `c` is matched with. -/
def StatState.sendTime (cfg : StatConfig) (frameType : StatFrameType) (s : StatState)
    (c : UInt64) : Option UInt64 := do
  let idx ← txTimeIdx cfg s frameType c
  let e ← (s.roundTripContexts frameType).entry idx
  return e.swTs

theorem StatState.sendTime_eq (hn : 0 < (cfg.framesPerCycle frameType).toNat)
    (h : (s.roundTripContexts frameType).Holds tab) (c : UInt64) :
    s.sendTime cfg frameType c = tab[cfg.stampOf frameType c.toNat % tab.length]? := by
  obtain ⟨e, hentry, htime⟩ := h.entry (Nat.mod_lt (cfg.stampOf frameType c.toNat) h.pos)
  rw [StatState.sendTime, txTimeIdx_eq hn h, htime]
  simp only [Option.bind_eq_bind, Option.bind_some, hentry, Option.pure_def]

/-- How many cycles begin in a batch. -/
def cycleStarts (n c count : Nat) : Nat := (List.range' c count).countP (n ∣ ·)

/-- If the cycle `j` cycles after that of `c` begins in the batch, all cycles in between do. -/
theorem le_cycleStarts {n c count j : Nat} (hn : 0 < n)
    (hlt : c / n * n + j * n < c + count) : j ≤ cycleStarts n c count := by
  have hsub : (List.range' 1 j).map (fun i => c / n * n + i * n) ⊆
      (List.range' c count).filter (n ∣ ·) := by
    intro b hb
    obtain ⟨i, hi, rfl⟩ := List.mem_map.mp hb
    obtain ⟨hi₁, hij⟩ := List.mem_range'_1.mp hi
    have hup : i * n ≤ j * n := Nat.mul_le_mul_right n (by omega)
    have hnext : c < c / n * n + i * n := by
      have hlow : n ≤ i * n := Nat.le_mul_of_pos_left n hi₁
      have hdiv := Nat.lt_mul_div_succ c hn
      rw [Nat.mul_succ, Nat.mul_comm] at hdiv
      omega
    apply List.mem_filter.mpr
    refine ⟨List.mem_range'_1.mpr ⟨by omega, by omega⟩, ?_⟩
    rw [decide_eq_true_eq, ← Nat.add_mul]
    exact Nat.dvd_mul_left _ _
  have hnodup : ((List.range' 1 j).map (fun i => c / n * n + i * n)).Nodup := by
    apply List.Nodup.map
    · intro i i' h
      exact Nat.eq_of_mul_eq_mul_right hn (Nat.add_left_cancel h)
    · exact List.nodup_range'
  have hlen := (List.subperm_of_subset hnodup hsub).length_le
  rw [List.length_map, List.length_range', ← List.countP_eq_length_filter] at hlen
  exact hlen

/-- A batch that begins within a cycle does not come back to the slot of this cycle. -/
theorem stamps_miss_cycle {n count len : Nat} (hn : 0 < n) (hmid : ¬ n ∣ c.toNat)
    (hlen : len = 1024 * n) (hcount : x.toNat = count)
    (hfew : cycleStarts n c.toNat count < 1024) :
    ∀ a ∈ (⟨c, x, t⟩ : SentBatch).stamps n, a % len ≠ c.toNat / n * n % len := by
  intro a ha hslot
  obtain ⟨⟨hge, hlt⟩, q, rfl⟩ := (SentBatch.mem_stamps hn).mp ha
  have hbase : c.toNat / n < q := by
    rcases Nat.lt_or_ge (c.toNat / n) q with hq | hq
    · exact hq
    · have hle : n * q ≤ c.toNat / n * n := by
        rw [Nat.mul_comm n q]
        exact Nat.mul_le_mul_right n hq
      have hdown := Nat.div_mul_le_self c.toNat n
      have hge : c.toNat ≤ n * q := hge
      exact absurd ⟨q, by omega⟩ hmid
  rw [hlen, Nat.mul_comm n q, Nat.mul_mod_mul_right, Nat.mul_mod_mul_right] at hslot
  have hmod := Nat.eq_of_mul_eq_mul_right hn hslot
  have hfar : c.toNat / n + 1024 ≤ q := by omega
  have hstarts := @le_cycleStarts n c.toNat count (q - c.toNat / n) hn (by
    rw [← Nat.add_mul, Nat.add_sub_cancel' (Nat.le_of_lt hbase), Nat.mul_comm q n, ← hcount]
    exact hlt)
  omega

theorem statFramesSentBatch_keeps_cycle (hhw : cfg.txHwtstampEnabled frameType = true)
    (hn : 0 < (cfg.framesPerCycle frameType).toNat)
    (h : c.toNat + x.toNat + (cfg.framesPerCycle frameType).toNat < 2 ^ 64)
    (hs : (s.roundTripContexts frameType).Holds tab)
    (hlen : tab.length = 1024 * (cfg.framesPerCycle frameType).toNat)
    (hmid : ¬ (cfg.framesPerCycle frameType).toNat ∣ c.toNat)
    (hfew : cycleStarts (cfg.framesPerCycle frameType).toNat c.toNat x.toNat < 1024)
    (now : UInt64) :
    ∃ s', statFramesSentBatch cfg s frameType c x now = some s' ∧
      s'.sendTime cfg frameType c = s.sendTime cfg frameType c := by
  have hstep : cfg.stampStep frameType = (cfg.framesPerCycle frameType).toNat := by
    rw [StatConfig.stampStep, hhw, if_pos rfl]
  by_cases hmode : cfg.logStatUserSelected = .mirror
  · have hrec : recordTxTime cfg frameType c x now (s.roundTripContexts frameType) =
        some (s.roundTripContexts frameType) := by
      rw [recordTxTime, if_neg fun h => h.1 hmode]
    rw [statFramesSentBatch, hrec]
    refine ⟨_, rfl, ?_⟩
    rw [StatState.sendTime_eq hn hs]
    apply StatState.sendTime_eq hn
    change (update s.roundTripContexts frameType _ frameType).Holds tab
    rw [update_self]
    exact hs
  · have hfit : (⟨c, x, now⟩ : SentBatch).Fits (cfg.stampStep frameType) :=
      SentBatch.fits_of_lt (by omega)
    obtain ⟨s', hs', hholds, -⟩ := statFramesSentBatch_holds hmode hn hs hfit
    refine ⟨s', hs', ?_⟩
    rw [StatState.sendTime_eq hn hs, StatState.sendTime_eq hn hholds]
    rw [length_foldl_record, getElem?_foldl_record_other]
    intro w hw
    obtain ⟨a, ha, rfl⟩ := List.mem_map.mp hw
    rw [hstep] at ha
    rw [StatConfig.stampOf, hstep]
    exact stamps_miss_cycle hn hmid hlen rfl hfew a ha

/-- It makes no difference in which batches sent frames are reported, and a batch that begins within
a cycle leaves the send time of that cycle alone. -/
theorem batches_split (cfg : StatConfig) (frameType : StatFrameType)
    (hn : 1 ≤ (cfg.framesPerCycle frameType).toNat) :
    let n := (cfg.framesPerCycle frameType).toNat
    (∀ (s : StatState) (c x y now : UInt64), c.toNat + x.toNat + y.toNat + n < 2 ^ 64 →
      statFramesSentBatch cfg s frameType c (x + y) now =
        (statFramesSentBatch cfg s frameType c x now).bind fun s' =>
          statFramesSentBatch cfg s' frameType (c + x) y now) ∧
    (∀ (s : StatState) (c now : UInt64) (m : Nat), c.toNat + m + n < 2 ^ 64 →
      framesSentOneByOne cfg frameType now s (consecutive c m) =
        statFramesSentBatch cfg s frameType c (UInt64.ofNat m) now) ∧
    (cfg.txHwtstampEnabled frameType = true → ∀ (s : StatState) (tab : List UInt64)
      (c x now : UInt64), (s.roundTripContexts frameType).Holds tab → tab.length = 1024 * n →
      c.toNat + x.toNat + n < 2 ^ 64 → ¬ n ∣ c.toNat → cycleStarts n c.toNat x.toNat < 1024 →
      ∃ s', statFramesSentBatch cfg s frameType c x now = some s' ∧
        s'.sendTime cfg frameType c = s.sendTime cfg frameType c) := by
  intro n
  refine ⟨?_, ?_, ?_⟩
  · intro s c x y now h
    exact statFramesSentBatch_split hn h s now
  · intro s c now m h
    exact framesSentOneByOne_eq hn h s now
  · intro hhw s tab c x now hs hlen h hmid hfew
    exact statFramesSentBatch_keeps_cycle hhw hn h hs hlen hmid hfew now

/-- Ten frames from the middle of cycle 1 on, with four frames in a cycle. -/
theorem batches_split_hwtstamp :
    ∃ s, statInit hwtstampConfig = some s ∧
      statFramesSentBatch hwtstampConfig s .genericL2 6 (3 + 7) 1000000 =
        (statFramesSentBatch hwtstampConfig s .genericL2 6 3 1000000).bind (fun s' =>
          statFramesSentBatch hwtstampConfig s' .genericL2 (6 + 3) 7 1000000) ∧
      framesSentOneByOne hwtstampConfig .genericL2 1000000 s (consecutive 6 10) =
        statFramesSentBatch hwtstampConfig s .genericL2 6 (UInt64.ofNat 10) 1000000 ∧
      ∃ s', statFramesSentBatch hwtstampConfig s .genericL2 6 10 1000000 = some s' ∧
        s'.sendTime hwtstampConfig .genericL2 6 = s.sendTime hwtstampConfig .genericL2 6 := by
  obtain ⟨s, hs⟩ := @statInit_isSome hwtstampConfig (by decide)
  obtain ⟨hsplit, hsingle, hcycle⟩ := batches_split hwtstampConfig .genericL2 (by decide)
  obtain ⟨htracked, -⟩ := statInit_tracked (show needsBacklog hwtstampConfig .genericL2 = true by
    decide) (by decide) (by decide) hs
  exact ⟨s, hs, hsplit s 6 3 7 1000000 (by decide), hsingle s 6 1000000 10 (by decide),
    hcycle rfl s _ 6 10 1000000 htracked.holds List.length_replicate (by decide) (by decide)
      (by decide)⟩

end RtcTestbench
