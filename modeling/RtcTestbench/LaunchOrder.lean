import RtcTestbench.LaunchTime
import RtcTestbench.Lib.Grid

namespace RtcTestbench
open Grid
set_option autoImplicit true

/-- A frame for which a launch time is computed: its counter and what the clock reads then. -/
structure LaunchedFrame where
  sequenceCounter : UInt64
  now : UInt64

def LaunchedFrame.txTime (opts : TxTimeOptions) (n d : UInt64) (f : LaunchedFrame) : UInt64 :=
  txTimeGetFrameTxTime opts f.sequenceCounter d n f.now

/-- The start of the cycle after `now`. -/
def TxTimeOptions.nextCycle (opts : TxTimeOptions) (now : UInt64) : Nat :=
  next opts.applicationBaseStartTimeNs.toNat opts.applicationBaseCycleTimeNs.toNat now.toNat

/-- The cycles have begun, and the sum is less than 2 ^ 64. -/
structure LaunchedFrame.Fits (opts : TxTimeOptions) (n d : UInt64) (f : LaunchedFrame) : Prop where
  started : opts.applicationBaseStartTimeNs ≤ f.now
  fits : opts.nextCycle f.now + opts.txTimeOffsetNs.toNat +
    f.sequenceCounter.toNat % n.toNat * d.toNat < 2 ^ 64

/-- The next frame of the same cycle, looked at no earlier. -/
structure LaunchedFrame.Follows (n : UInt64) (f g : LaunchedFrame) : Prop where
  counter : g.sequenceCounter = f.sequenceCounter + 1
  cycle : g.sequenceCounter / n = f.sequenceCounter / n
  reading : f.now ≤ g.now

/-- The clock is read in period `k`. -/
def LaunchedFrame.InPeriod (opts : TxTimeOptions) (k : Nat) (f : LaunchedFrame) : Prop :=
  let start := opts.applicationBaseStartTimeNs.toNat
  let c := opts.applicationBaseCycleTimeNs.toNat
  start + k * c ≤ f.now.toNat ∧ f.now.toNat < start + (k + 1) * c

variable {opts : TxTimeOptions} {n d : UInt64} {f g : LaunchedFrame} {k k' : Nat}

theorem LaunchedFrame.txTime_toNat (hf : f.Fits opts n d) :
    (f.txTime opts n d).toNat = opts.nextCycle f.now + opts.txTimeOffsetNs.toNat +
      f.sequenceCounter.toNat % n.toNat * d.toNat := by
  obtain ⟨hstart, hfits⟩ := hf
  rw [TxTimeOptions.nextCycle, next] at hfits ⊢
  have hsub : (f.now - opts.applicationBaseStartTimeNs).toNat =
      f.now.toNat - opts.applicationBaseStartTimeNs.toNat := UInt64.toNat_sub_of_le _ _ hstart
  have hle := Nat.div_le_self (f.now.toNat - opts.applicationBaseStartTimeNs.toNat)
    opts.applicationBaseCycleTimeNs.toNat
  simp only [LaunchedFrame.txTime, txTimeGetFrameTxTime, UInt64.toNat_add, UInt64.toNat_mul,
    UInt64.toNat_div, UInt64.toNat_mod, hsub, UInt64.toNat_one, Nat.mod_add_mod, Nat.add_mod_mod,
    Nat.mod_mul_mod]
  rw [Nat.mod_eq_of_lt (by omega)]
  omega

theorem LaunchedFrame.Follows.place (h : f.Follows n g) (hn : 1 ≤ n.toNat) :
    g.sequenceCounter.toNat % n.toNat = f.sequenceCounter.toNat % n.toNat + 1 := by
  have hcycle : g.sequenceCounter.toNat / n.toNat = f.sequenceCounter.toNat / n.toNat := by
    rw [← UInt64.toNat_div, h.cycle, UInt64.toNat_div]
  have hlt := f.sequenceCounter.toNat_lt
  have hf := Nat.div_add_mod f.sequenceCounter.toNat n.toNat
  have hg := Nat.div_add_mod g.sequenceCounter.toNat n.toNat
  have hr := Nat.mod_lt f.sequenceCounter.toNat hn
  have hn' := n.toNat_lt
  rw [hcycle] at hg
  by_cases hwrap : f.sequenceCounter.toNat + 1 < 2 ^ 64
  · rw [h.counter, toNat_add_one hwrap] at hg ⊢
    omega
  · -- after the largest counter comes 0, which would have to be in the same cycle
    have hzero : g.sequenceCounter.toNat = 0 := by
      rw [h.counter, UInt64.toNat_add]
      change (f.sequenceCounter.toNat + 1) % 2 ^ 64 = 0
      rw [show f.sequenceCounter.toNat + 1 = 2 ^ 64 by omega, Nat.mod_self]
    rw [hzero] at hg
    omega

theorem LaunchedFrame.Follows.txTime (h : f.Follows n g) (hn : 1 ≤ n.toNat)
    (hf : f.Fits opts n d) (hg : g.Fits opts n d) :
    (f.txTime opts n d).toNat + d.toNat ≤ (g.txTime opts n d).toNat := by
  have hmono : opts.nextCycle f.now ≤ opts.nextCycle g.now := next_mono h.reading
  rw [txTime_toNat hf, txTime_toNat hg, h.place hn, Nat.succ_mul]
  omega

theorem LaunchedFrame.txTime_period (hc : 0 < opts.applicationBaseCycleTimeNs.toNat)
    (hn : 1 ≤ n.toNat) (hcycle : n.toNat * d.toNat ≤ opts.applicationBaseCycleTimeNs.toNat)
    (hk : k < k') (hf : f.Fits opts n d) (hg : g.Fits opts n d) (hfk : f.InPeriod opts k)
    (hgk : g.InPeriod opts k') : (f.txTime opts n d).toNat < (g.txTime opts n d).toNat := by
  have hnext : opts.nextCycle f.now + opts.applicationBaseCycleTimeNs.toNat ≤
      opts.nextCycle g.now := next_lt_next hk hfk.1 hfk.2 hgk.1 hgk.2
  have hplace : f.sequenceCounter.toNat % n.toNat * d.toNat <
      opts.applicationBaseCycleTimeNs.toNat := by
    have hr := Nat.mod_lt f.sequenceCounter.toNat hn
    rcases Nat.eq_zero_or_pos d.toNat with hd | hd
    · rw [hd, Nat.mul_zero]
      exact hc
    · exact Nat.lt_of_lt_of_le (Nat.mul_lt_mul_of_pos_right hr hd) hcycle
  rw [txTime_toNat hf, txTime_toNat hg]
  omega

/-- A launch time lies in the next cycle, after the offset and the earlier frames of the cycle. The
frames of a cycle keep their distance, and cycles that are long enough do not overlap. -/
theorem launch_time_arithmetic (opts : TxTimeOptions) (n d : UInt64)
    (hc : 0 < opts.applicationBaseCycleTimeNs.toNat) (hn : 1 ≤ n.toNat) :
    let start := opts.applicationBaseStartTimeNs.toNat
    let c := opts.applicationBaseCycleTimeNs.toNat
    (∀ f : LaunchedFrame, f.Fits opts n d →
      ∃ b, ((∃ k, b = start + k * c) ∧ f.now.toNat < b ∧ b ≤ f.now.toNat + c) ∧
        (∀ k, f.now.toNat < start + k * c → start + k * c ≤ f.now.toNat + c →
          start + k * c = b) ∧
        (f.txTime opts n d).toNat = b + opts.txTimeOffsetNs.toNat +
          f.sequenceCounter.toNat % n.toNat * d.toNat ∧
        f.now < f.txTime opts n d) ∧
    (∀ frames : List LaunchedFrame, (∀ f ∈ frames, f.Fits opts n d) →
      frames.IsChain (LaunchedFrame.Follows n) →
      (frames.map (LaunchedFrame.txTime opts n d)).IsChain
        fun t t' => t.toNat + d.toNat ≤ t'.toNat) ∧
    (n.toNat * d.toNat ≤ c → ∀ (pass pass' : List LaunchedFrame) (k k' : Nat), k < k' →
      (∀ f ∈ pass, f.Fits opts n d ∧ f.InPeriod opts k) →
      (∀ f ∈ pass', f.Fits opts n d ∧ f.InPeriod opts k') →
      ∀ t ∈ pass.map (LaunchedFrame.txTime opts n d),
        ∀ t' ∈ pass'.map (LaunchedFrame.txTime opts n d), t < t') := by
  intro start c
  refine ⟨?_, ?_, ?_⟩
  · intro f hf
    have hstart : start ≤ f.now.toNat := hf.started
    have hlt : f.now.toNat < opts.nextCycle f.now := lt_next hc hstart
    have htime := LaunchedFrame.txTime_toNat hf
    refine ⟨opts.nextCycle f.now, ⟨⟨_, rfl⟩, hlt, next_le hstart⟩, ?_, htime, ?_⟩
    · intro k hk hk'
      exact eq_next hstart hk hk'
    · rw [UInt64.lt_iff_toNat_lt, htime]
      omega
  · intro frames hfits hchain
    induction frames with
    | nil => exact .nil
    | cons f frames ih =>
      obtain ⟨hf, hfits⟩ := List.forall_mem_cons.mp hfits
      cases frames with
      | nil => exact .singleton _
      | cons g frames =>
        obtain ⟨hfollows, hchain⟩ := List.isChain_cons_cons.mp hchain
        exact List.isChain_cons_cons.mpr
          ⟨hfollows.txTime hn hf (hfits g List.mem_cons_self), ih hfits hchain⟩
  · intro hcycle pass pass' k k' hk hpass hpass' t ht t' ht'
    obtain ⟨f, hf, rfl⟩ := List.mem_map.mp ht
    obtain ⟨g, hg, rfl⟩ := List.mem_map.mp ht'
    obtain ⟨hfits, hperiod⟩ := hpass f hf
    obtain ⟨hfits', hperiod'⟩ := hpass' g hg
    exact LaunchedFrame.txTime_period hc hn hcycle hk hfits hfits' hperiod hperiod'

/-- Two frames of a cycle of 1 ms whose readings lie before and on a cycle start. -/
theorem launch_time_arithmetic_boundary :
    let opts : TxTimeOptions := ⟨1000000, 1000000, 250000, 1000⟩
    let f : LaunchedFrame := ⟨6, 1999999⟩
    let g : LaunchedFrame := ⟨7, 2000000⟩
    f.now < f.txTime opts 2 512 ∧
      (f.txTime opts 2 512).toNat + 512 ≤ (g.txTime opts 2 512).toNat ∧
      f.txTime opts 2 512 < g.txTime opts 2 512 := by
  intro opts f g
  obtain ⟨hnext, hchain, hperiods⟩ := launch_time_arithmetic opts 2 512 (by decide) (by decide)
  have hf : f.Fits opts 2 512 := ⟨by decide, by decide⟩
  have hg : g.Fits opts 2 512 := ⟨by decide, by decide⟩
  have hfits : ∀ x ∈ [f, g], x.Fits opts 2 512 := by
    intro x hx
    rcases List.mem_pair.mp hx with rfl | rfl
    · exact hf
    · exact hg
  obtain ⟨-, -, -, -, hfuture⟩ := hnext f hf
  have hordered := hchain [f, g] hfits
    (List.isChain_pair.mpr ⟨by decide, by decide, by decide⟩)
  refine ⟨hfuture, (List.isChain_cons_cons.mp hordered).1, ?_⟩
  refine hperiods (by decide) [f] [g] 0 1 (by decide) ?_ ?_ _ (List.mem_singleton_self _) _
    (List.mem_singleton_self _)
  · rintro x hx
    rw [List.mem_singleton.mp hx]
    exact ⟨hf, by decide, by decide⟩
  · rintro x hx
    rw [List.mem_singleton.mp hx]
    exact ⟨hg, by decide, by decide⟩

end RtcTestbench
