import Mathlib

namespace RtcTestbench
set_option autoImplicit true

structure Timespec where
  tvSec : Int64
  tvNsec : Int64
  deriving DecidableEq

/-- `NSEC_PER_SEC` as the `long long` it is written as. -/
def nsecPerSecLL : Int64 := 1000000000

def nsToTs (ns : Int64) : Timespec := ⟨ns / nsecPerSecLL, ns % nsecPerSecLL⟩

def tsToNs (ts : Timespec) : Int64 := ts.tvSec * nsecPerSecLL + ts.tvNsec

theorem toInt_nsecPerSecLL : nsecPerSecLL.toInt = 1000000000 := rfl

theorem toInt_add_of_fits {a b : Int64} (h : -2 ^ 63 ≤ a.toInt + b.toInt)
    (h' : a.toInt + b.toInt < 2 ^ 63) : (a + b).toInt = a.toInt + b.toInt := by
  rw [Int64.toInt_add]
  apply Int.bmod_eq_of_le <;> omega

theorem toInt_sub_of_fits {a b : Int64} (h : -2 ^ 63 ≤ a.toInt - b.toInt)
    (h' : a.toInt - b.toInt < 2 ^ 63) : (a - b).toInt = a.toInt - b.toInt := by
  rw [Int64.toInt_sub]
  apply Int.bmod_eq_of_le <;> omega

theorem toInt_mul_of_fits {a b : Int64} (h : -2 ^ 63 ≤ a.toInt * b.toInt)
    (h' : a.toInt * b.toInt < 2 ^ 63) : (a * b).toInt = a.toInt * b.toInt := by
  rw [Int64.toInt_mul]
  apply Int.bmod_eq_of_le <;> omega

/-- A second less of nanoseconds, when there is one. -/
theorem toInt_sub_nsecPerSec {n : Int64} (h : nsecPerSecLL ≤ n) :
    (n - nsecPerSecLL).toInt = n.toInt - 1000000000 := by
  have hn : 1000000000 ≤ n.toInt := Int64.le_iff_toInt_le.mp h
  have hlt := n.toInt_lt
  exact toInt_sub_of_fits (by rw [toInt_nsecPerSecLL]; omega) (by rw [toInt_nsecPerSecLL]; omega)

/-- The loop of `increment_period`. Each round takes a second off the nanoseconds, so it ends. -/
def carry (time : Timespec) : Timespec :=
  if nsecPerSecLL ≤ time.tvNsec then carry ⟨time.tvSec + 1, time.tvNsec - nsecPerSecLL⟩ else time
termination_by time.tvNsec.toInt.toNat
decreasing_by
  rename_i h
  have hn : 1000000000 ≤ time.tvNsec.toInt := Int64.le_iff_toInt_le.mp h
  rw [toInt_sub_nsecPerSec h]
  omega

def incrementPeriod (time : Timespec) (periodNs : Int64) : Timespec :=
  carry { time with tvNsec := time.tvNsec + periodNs }

/-- `tc_sleep_until`: the wake-up time it leaves behind, and the times it asks `clock_nanosleep`
for. An interrupted sleep is asked for again. -/
def tcSleepUntil (wakeup : Timespec) (cycleTime : UInt64) (interrupts : Nat) :
    Timespec × List Timespec :=
  let wakeup := incrementPeriod wakeup cycleTime.toInt64
  (wakeup, List.replicate (interrupts + 1) wakeup)

def Timespec.Normalised (time : Timespec) : Prop :=
  0 ≤ time.tvNsec.toInt ∧ time.tvNsec.toInt < 1000000000

/-- The time in nanoseconds, without the bounds of a machine type. -/
def Timespec.ns (time : Timespec) : Int := time.tvSec.toInt * 1000000000 + time.tvNsec.toInt

/-- Carrying keeps the time as long as the seconds have room. -/
theorem carry_spec (time : Timespec) (hnsec : 0 ≤ time.tvNsec.toInt) (hroom : time.ns < 2 ^ 63) :
    (carry time).Normalised ∧ (carry time).ns = time.ns := by
  induction time using carry.induct with
  | case1 time h ih =>
    have hn : 1000000000 ≤ time.tvNsec.toInt := Int64.le_iff_toInt_le.mp h
    have hlow := time.tvSec.le_toInt
    have hsub := toInt_sub_nsecPerSec h
    rw [Timespec.ns] at hroom
    have hsec : (time.tvSec + 1).toInt = time.tvSec.toInt + 1 :=
      toInt_add_of_fits (b := 1) (by change _ ≤ _ + 1; omega) (by change _ + 1 < _; omega)
    have hsame : Timespec.ns ⟨time.tvSec + 1, time.tvNsec - nsecPerSecLL⟩ = time.ns := by
      simp only [Timespec.ns, hsub, hsec]
      ring
    rw [carry, if_pos h, ← hsame]
    apply ih
    · change 0 ≤ (time.tvNsec - nsecPerSecLL).toInt
      rw [hsub]
      omega
    · rw [hsame]
      exact hroom
  | case2 time h =>
    have hn : time.tvNsec.toInt < 1000000000 := Int64.lt_iff_toInt_lt.mp (Int64.not_le.mp h)
    rw [carry, if_neg h]
    exact ⟨⟨hnsec, hn⟩, rfl⟩

theorem incrementPeriod_spec {time : Timespec} {periodNs : Int64} (htime : time.Normalised)
    (hpos : 0 ≤ periodNs.toInt) (hperiod : periodNs.toInt < 2 ^ 63 - 1000000000)
    (hroom : time.ns + periodNs.toInt < 2 ^ 63) :
    (incrementPeriod time periodNs).Normalised ∧
      (incrementPeriod time periodNs).ns = time.ns + periodNs.toInt := by
  obtain ⟨hlow, hhigh⟩ := htime
  have hadd : (time.tvNsec + periodNs).toInt = time.tvNsec.toInt + periodNs.toInt :=
    toInt_add_of_fits (by omega) (by omega)
  have hns : Timespec.ns { time with tvNsec := time.tvNsec + periodNs } =
      time.ns + periodNs.toInt := by
    simp only [Timespec.ns, hadd]
    ring
  rw [incrementPeriod, ← hns]
  apply carry_spec
  · change 0 ≤ (time.tvNsec + periodNs).toInt
    rw [hadd]
    omega
  · rw [hns]
    exact hroom

theorem tsToNs_spec {time : Timespec} (htime : time.Normalised)
    (hlow : -2 ^ 63 ≤ time.tvSec.toInt * 1000000000) (hhigh : time.ns < 2 ^ 63) :
    (tsToNs time).toInt = time.ns := by
  obtain ⟨hnsec, hnsec'⟩ := htime
  rw [Timespec.ns] at hhigh ⊢
  have hmul : (time.tvSec * nsecPerSecLL).toInt = time.tvSec.toInt * 1000000000 :=
    toInt_mul_of_fits (by rw [toInt_nsecPerSecLL]; omega) (by rw [toInt_nsecPerSecLL]; omega)
  rw [tsToNs, toInt_add_of_fits (by rw [hmul]; omega) (by rw [hmul]; omega), hmul]

theorem nsToTs_spec {ns : Int64} (h : 0 ≤ ns.toInt) :
    (nsToTs ns).Normalised ∧ 0 ≤ (nsToTs ns).tvSec.toInt ∧ (nsToTs ns).ns = ns.toInt := by
  have hlt := ns.toInt_lt
  have hdiv : (ns / nsecPerSecLL).toInt = ns.toInt / 1000000000 := by
    rw [Int64.toInt_div, toInt_nsecPerSecLL, Int.tdiv_eq_ediv_of_nonneg h]
    apply Int.bmod_eq_of_le <;> omega
  have hmod : (ns % nsecPerSecLL).toInt = ns.toInt % 1000000000 := by
    rw [Int64.toInt_mod, toInt_nsecPerSecLL, Int.tmod_eq_emod_of_nonneg h]
  simp only [nsToTs, Timespec.Normalised, Timespec.ns, hdiv, hmod]
  omega

/-- The wake-up time after `k` periods. -/
theorem iterate_incrementPeriod {start : Timespec} {periodNs : Int64} (hstart : start.Normalised)
    (hpos : 0 ≤ periodNs.toInt) (hperiod : periodNs.toInt < 2 ^ 63 - 1000000000) (k : Nat)
    (hroom : start.ns + k * periodNs.toInt < 2 ^ 63) :
    ((incrementPeriod · periodNs)^[k] start).Normalised ∧
      ((incrementPeriod · periodNs)^[k] start).ns = start.ns + k * periodNs.toInt := by
  induction k with
  | zero => simpa using hstart
  | succ k ih =>
    rw [Nat.cast_succ, add_mul, one_mul, ← add_assoc] at hroom ⊢
    obtain ⟨hnorm, hns⟩ := ih (by omega)
    rw [Function.iterate_succ_apply', ← hns]
    apply incrementPeriod_spec hnorm hpos hperiod
    rw [hns]
    exact hroom

/-- The wake-up time of a thread that has slept once for each of the `interrupts`, interrupted that
often. -/
def sleepRun (start : Timespec) (cycleTime : UInt64) (interrupts : List Nat) : Timespec :=
  interrupts.foldl (fun wakeup n => (tcSleepUntil wakeup cycleTime n).1) start

theorem sleepRun_eq (start : Timespec) (cycleTime : UInt64) (interrupts : List Nat) :
    sleepRun start cycleTime interrupts =
      (incrementPeriod · cycleTime.toInt64)^[interrupts.length] start := by
  induction interrupts generalizing start with
  | nil => rfl
  | cons n interrupts ih => exact ih (tcSleepUntil start cycleTime n).1

/-- A thread asks to be woken on the grid of its cycle time only, whatever interrupts its sleeps. -/
theorem tcSleepUntil_on_grid {start : Timespec} {cycleTime : UInt64} (hstart : start.Normalised)
    (hpos : 0 ≤ cycleTime.toInt64.toInt) (hcycle : cycleTime.toInt64.toInt < 2 ^ 63 - 1000000000)
    (interrupts : List Nat) (n : Nat)
    (hroom : start.ns + (interrupts.length + 1) * cycleTime.toInt64.toInt < 2 ^ 63) :
    ∀ time ∈ (tcSleepUntil (sleepRun start cycleTime interrupts) cycleTime n).2,
      time.Normalised ∧ time.ns = start.ns + (interrupts.length + 1) * cycleTime.toInt64.toInt := by
  intro time htime
  have hgrid := iterate_incrementPeriod hstart hpos hcycle (interrupts.length + 1)
    (by rw [Nat.cast_succ]; exact hroom)
  rw [List.eq_of_mem_replicate htime, sleepRun_eq]
  rw [Function.iterate_succ_apply', Nat.cast_succ] at hgrid
  exact hgrid

/-- Wake-ups stay on the grid of their period however many there have been, and a time goes through
`struct timespec` unchanged. -/
theorem wakeups_do_not_drift :
    (∀ (start : Timespec) (periodNs : Int64) (k : Nat), start.Normalised →
      -2 ^ 63 ≤ start.tvSec.toInt * 1000000000 → 0 ≤ periodNs.toInt →
      periodNs.toInt < 2 ^ 63 - 1000000000 → start.ns + k * periodNs.toInt < 2 ^ 63 →
      ((incrementPeriod · periodNs)^[k] start).Normalised ∧
        (tsToNs ((incrementPeriod · periodNs)^[k] start)).toInt =
          start.ns + k * periodNs.toInt) ∧
    ∀ ns : Int64, 0 ≤ ns → tsToNs (nsToTs ns) = ns := by
  constructor
  · intro start periodNs k hstart hlow hpos hperiod hroom
    obtain ⟨hnorm, hns⟩ := iterate_incrementPeriod hstart hpos hperiod k hroom
    refine ⟨hnorm, ?_⟩
    rw [← hns] at hroom ⊢
    apply tsToNs_spec hnorm _ hroom
    -- The seconds have only grown.
    have hgrown : start.ns ≤ ((incrementPeriod · periodNs)^[k] start).ns := by
      rw [hns]
      have := mul_nonneg (Int.natCast_nonneg k) hpos
      omega
    obtain ⟨h0, -⟩ := hstart
    obtain ⟨-, h1⟩ := hnorm
    simp only [Timespec.ns] at hgrown
    omega
  · intro ns hpos
    obtain ⟨hnorm, hsec, hns⟩ := nsToTs_spec (Int64.le_iff_toInt_le.mp hpos)
    apply Int64.toInt_inj.mp
    rw [← hns]
    apply tsToNs_spec hnorm
    · omega
    · rw [hns]
      exact ns.toInt_lt

/-- Three cycles of one millisecond over the end of a second. -/
theorem wakeups_do_not_drift_second :
    (tsToNs ((incrementPeriod · 1000000)^[3] ⟨100, 999000000⟩)).toInt = 101002000000 ∧
      tsToNs (nsToTs 101002000000) = 101002000000 := by
  have hdrift := wakeups_do_not_drift.1 ⟨100, 999000000⟩ 1000000 3 ⟨by decide, by decide⟩
    (by decide) (by decide) (by decide) (by decide)
  exact ⟨hdrift.2, wakeups_do_not_drift.2 _ (by decide)⟩

end RtcTestbench
