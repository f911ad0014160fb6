import RtcTestbench.RoundTripTime

namespace RtcTestbench
open Window
set_option autoImplicit true

/-- What happens around the statistics of a generator whose GenericL2 frames are EtherCAT frames: it
reports frames of its pass, as many as were taken or one after the other, the pass ends, a frame
comes back, or anything else that sends nothing. A pass that fails ends without a report, and so may
one that has sent a part of its frames. The number of a returned frame is not in the frame; nothing
but the statements about it uses it. -/
inductive EthercatEvent where
  | reported (frameCount : Nat) (now : UInt64)
  | passed
  | returned (k : Nat) (frame : List UInt8) (rxTime now : UInt64)
  | other (call : StatCall) (h : sentBatch? .genericL2 call = none)

/-- The statistics, the receiver and the counter of the sender, with the passes so far, the frames
of the last one that have been reported, the calls that were made and the numbers of the frames that
were accepted. -/
structure EthercatRun where
  stat : StatState
  rx : ThreadContext
  sequenceCounter : UInt64
  passes : Nat
  reported : Nat
  calls : List StatCall
  accepted : List Nat

def EthercatRun.start (stat : StatState) (rx : ThreadContext) : EthercatRun :=
  ⟨stat, rx, 0, 0, 0, [], []⟩

def EthercatRun.call (cfg : StatConfig) (s : EthercatRun) (call : StatCall) : Option EthercatRun :=
  (statStep cfg s.stat call).map fun stat => { s with stat, calls := s.calls ++ [call] }

def ethercatStep (cfg : StatConfig) (env : RxEnv) (s : EthercatRun) :
    EthercatEvent → Option EthercatRun
  | .reported frameCount now =>
    let len := min frameCount ((cfg.framesPerCycle .genericL2).toNat - s.reported)
    if 0 < len then
      (s.call cfg (.framesSentBatch .genericL2 (s.sequenceCounter + UInt64.ofNat s.reported)
        (UInt64.ofNat len) now)).map fun s => { s with reported := s.reported + len }
    else some s
  | .passed => some { s with
      sequenceCounter := s.sequenceCounter + cfg.framesPerCycle .genericL2
      passes := s.passes + 1
      reported := 0 }
  | .returned k frame rxTime now =>
    match receiveFrame { env with now := rxTime } s.rx frame frame.length with
    | .error _ => some s
    | .ok acc =>
      (s.call cfg (.frameReceived .genericL2 acc.report now)).map fun s =>
        { s with rx := acc.ctx, accepted := s.accepted ++ [k] }
  | .other call _ => s.call cfg call

/-- The batches of the passes: each lies in its cycle, behind those before it. -/
structure Numbered (n : Nat) (sent : List SentBatch) (passes reported : Nat) : Prop where
  below : ∀ b ∈ sent, ∀ c, b.Contains c → c < passes * n + reported
  increasing : Increasing sent
  within : ∀ b ∈ sent, ∃ p ≤ passes,
    b.cycleNumber.toNat + b.frameCount.toNat ≤ (p + 1) * n ∧ p * n ≤ b.cycleNumber.toNat

section Numbered
variable {n passes reported : Nat} {sent : List SentBatch} {b : SentBatch}

theorem Numbered.report (h : Numbered n sent passes reported)
    (hstart : b.cycleNumber.toNat = passes * n + reported)
    (hle : reported + b.frameCount.toNat ≤ n) :
    Numbered n (sent ++ [b]) passes (reported + b.frameCount.toNat) := by
  refine ⟨?_, ?_, ?_⟩
  · intro b' hb' c hc
    rcases List.mem_append.mp hb' with hold | hnew
    · have hbelow := h.below b' hold c hc
      omega
    · cases List.mem_singleton.mp hnew
      have hlast := hc.2
      omega
  · apply List.pairwise_append.mpr ⟨h.increasing, List.pairwise_singleton _ _, ?_⟩
    intro a ha b' hb' c d hc hd
    cases List.mem_singleton.mp hb'
    have hbelow := h.below a ha c hc
    have hfirst := hd.1
    omega
  · intro b' hb'
    rcases List.mem_append.mp hb' with hold | hnew
    · exact h.within b' hold
    · cases List.mem_singleton.mp hnew
      refine ⟨passes, Nat.le_refl _, ?_, by omega⟩
      rw [Nat.succ_mul]
      omega

theorem Numbered.pass (h : Numbered n sent passes reported) (hle : reported ≤ n) :
    Numbered n sent (passes + 1) 0 := by
  refine ⟨?_, h.increasing, ?_⟩
  · intro b hb c hc
    have hbelow := h.below b hb c hc
    rw [Nat.succ_mul]
    omega
  · intro b hb
    obtain ⟨p, hp, hin⟩ := h.within b hb
    exact ⟨p, Nat.le_succ_of_le hp, hin⟩

/-- What a batch stamps is at most the end of its cycle. -/
theorem Numbered.fits (h : Numbered n sent passes reported) (hs : 0 < step) (hdvd : step ∣ n)
    (hlt : (passes + 1) * n < 2 ^ 64) : ∀ b ∈ sent, b.Fits step := by
  intro b hb
  obtain ⟨p, hp, hend, -⟩ := h.within b hb
  obtain ⟨m, rfl⟩ := hdvd
  have hceil : (b.cycleNumber.toNat + b.frameCount.toNat + step - 1) / step ≤ (p + 1) * m := by
    rw [← Nat.lt_succ_iff, Nat.div_lt_iff_lt_mul hs, Nat.succ_mul, Nat.mul_assoc, Nat.mul_comm m]
    omega
  calc
    (b.cycleNumber.toNat + b.frameCount.toNat + step - 1) / step * step ≤ (p + 1) * m * step :=
      Nat.mul_le_mul_right step hceil
    _ = (p + 1) * (step * m) := by rw [Nat.mul_assoc, Nat.mul_comm m]
    _ ≤ (passes + 1) * (step * m) := Nat.mul_le_mul_right _ (Nat.succ_le_succ hp)
    _ < 2 ^ 64 := hlt

end Numbered

section Run
variable {cfg : StatConfig} {env : RxEnv} {stat₀ : StatState} {rx₀ : ThreadContext}
  {s s' : EthercatRun} {request : StatCall}

/-- What a run keeps: the calls lead to the statistics, the receiver counts the frames it accepts
and the sender counts on from pass to pass, whatever was sent. -/
structure EthercatRun.Sound (cfg : StatConfig) (stat₀ : StatState) (rx₀ : ThreadContext)
    (s : EthercatRun) : Prop where
  run_eq : s.calls.foldlM (statStep cfg) stat₀ = some s.stat
  rx_eq : s.rx = { rx₀ with rxSequenceCounter := UInt64.ofNat s.accepted.length }
  counter_eq : s.sequenceCounter =
    UInt64.ofNat (s.passes * (cfg.framesPerCycle .genericL2).toNat)
  reported_le : s.reported ≤ (cfg.framesPerCycle .genericL2).toNat
  numbered : (s.passes + 1) * (cfg.framesPerCycle .genericL2).toNat < 2 ^ 64 →
    Numbered (cfg.framesPerCycle .genericL2).toNat (sentBatches .genericL2 s.calls) s.passes
      s.reported

theorem EthercatRun.start_sound (cfg : StatConfig) (stat₀ : StatState)
    (h : rx₀.rxSequenceCounter = 0) : (start stat₀ rx₀).Sound cfg stat₀ rx₀ := by
  refine ⟨rfl, ?_, ?_, Nat.zero_le _, fun _ => ⟨nofun, .nil, nofun⟩⟩
  case refine_2 =>
    rw [start, Nat.zero_mul]
    rfl
  have hzero : UInt64.ofNat (start stat₀ rx₀).accepted.length = rx₀.rxSequenceCounter := h.symm
  rw [hzero]
  rfl

theorem EthercatRun.call_run (hs : s.calls.foldlM (statStep cfg) stat₀ = some s.stat)
    (h : s.call cfg request = some s') :
    s'.calls.foldlM (statStep cfg) stat₀ = some s'.stat ∧ s'.calls = s.calls ++ [request] ∧
      s'.rx = s.rx ∧ s'.sequenceCounter = s.sequenceCounter ∧ s'.passes = s.passes ∧
      s'.reported = s.reported ∧ s'.accepted = s.accepted := by
  obtain ⟨stat, hstat, rfl⟩ := Option.map_eq_some_iff.mp h
  refine ⟨?_, rfl, rfl, rfl, rfl, rfl, rfl⟩
  rw [List.foldlM_append, hs]
  simpa using hstat

theorem sentBatches_concat (calls : List StatCall) (call : StatCall) :
    sentBatches .genericL2 (calls ++ [call]) =
      sentBatches .genericL2 calls ++ (sentBatch? .genericL2 call).toList := by
  rw [sentBatches, List.filterMap_append]
  cases h : sentBatch? .genericL2 call <;> simp [sentBatches, h]

/-- A call that sends nothing keeps what is known about the sender. -/
theorem EthercatRun.Sound.call_other (hs : s.Sound cfg stat₀ rx₀)
    (hcall : sentBatch? .genericL2 request = none) (h : s.call cfg request = some s') :
    s'.Sound cfg stat₀ rx₀ := by
  obtain ⟨hrun, hcalls, hrx, hcounter, hpasses, hreported, haccepted⟩ := call_run hs.run_eq h
  have hbatches : sentBatches .genericL2 s'.calls = sentBatches .genericL2 s.calls := by
    rw [hcalls, sentBatches_concat, hcall]
    exact List.append_nil _
  refine ⟨hrun, ?_, ?_, ?_, ?_⟩
  · rw [hrx, haccepted]
    exact hs.rx_eq
  · rw [hcounter, hpasses]
    exact hs.counter_eq
  · rw [hreported]
    exact hs.reported_le
  · rw [hbatches, hpasses, hreported]
    exact hs.numbered

/-- What an EtherCAT frame that is accepted reports and changes. -/
theorem receiveFrame_ethercat {rx : ThreadContext} (htype : rx.frameType = .genericL2)
    (hproto : rx.conf.protocolType = .etherCat) (h : receiveFrame env rx frame len = .ok acc) :
    acc.report.sequenceCounter = rx.rxSequenceCounter ∧
      acc.ctx = { rx with rxSequenceCounter := rx.rxSequenceCounter + 1 } := by
  have hdispatch : receiveFrame env rx frame len = receiveEthercatFrame env rx frame len := by
    simp only [receiveFrame, htype, hproto]
  rw [hdispatch, receiveEthercatFrame] at h
  repeat' split at h
  all_goals cases h
  exact ⟨rfl, rfl⟩

/-- The sender reports the frames of its pass in order. -/
theorem EthercatRun.Sound.report (hs : s.Sound cfg stat₀ rx₀) (hpos : 0 < len)
    (hle : s.reported + len ≤ (cfg.framesPerCycle .genericL2).toNat)
    (h : s.call cfg (.framesSentBatch .genericL2 (s.sequenceCounter + UInt64.ofNat s.reported)
      (UInt64.ofNat len) now) = some s') :
    { s' with reported := s'.reported + len }.Sound cfg stat₀ rx₀ := by
  obtain ⟨hrun, hcalls, hrx, hcounter, hpasses, hreported, haccepted⟩ := call_run hs.run_eq h
  have hlt := (cfg.framesPerCycle .genericL2).toNat_lt
  have hlen : (UInt64.ofNat len).toNat = len :=
    UInt64.toNat_ofNat_of_lt' (show len < 2 ^ 64 by omega)
  refine ⟨hrun, ?_, hcounter.trans (hpasses ▸ hs.counter_eq), ?_, ?_⟩
  · change s'.rx = { rx₀ with rxSequenceCounter := UInt64.ofNat s'.accepted.length }
    rw [hrx, haccepted]
    exact hs.rx_eq
  · change s'.reported + len ≤ _
    rw [hreported]
    exact hle
  · change (s'.passes + 1) * _ < 2 ^ 64 →
      Numbered _ (sentBatches .genericL2 s'.calls) s'.passes (s'.reported + len)
    rw [hcalls, sentBatches_concat, hpasses, hreported]
    intro hwrap
    have hnext := hwrap
    rw [Nat.succ_mul] at hnext
    have hreport := (hs.numbered hwrap).report
      (b := ⟨s.sequenceCounter + UInt64.ofNat s.reported, UInt64.ofNat len, now⟩) (by
        dsimp only
        rw [hs.counter_eq, ← UInt64.ofNat_add]
        exact UInt64.toNat_ofNat_of_lt' (show _ < 2 ^ 64 by omega)) (by
        dsimp only
        rw [hlen]
        exact hle)
    dsimp only at hreport
    rw [hlen] at hreport
    exact hreport

theorem EthercatRun.Sound.pass (hs : s.Sound cfg stat₀ rx₀) :
    { s with
      sequenceCounter := s.sequenceCounter + cfg.framesPerCycle .genericL2
      passes := s.passes + 1
      reported := 0 }.Sound cfg stat₀ rx₀ := by
  refine ⟨hs.run_eq, hs.rx_eq, ?_, Nat.zero_le _, ?_⟩
  · dsimp only
    rw [hs.counter_eq, Nat.succ_mul, UInt64.ofNat_add, UInt64.ofNat_toNat]
  · intro hwrap
    apply (hs.numbered _).pass hs.reported_le
    exact Nat.lt_of_le_of_lt (Nat.mul_le_mul_right _ (Nat.le_succ _)) hwrap

theorem ethercatStep_sound (htype : rx₀.frameType = .genericL2)
    (hproto : rx₀.conf.protocolType = .etherCat) (hs : s.Sound cfg stat₀ rx₀)
    (h : ethercatStep cfg env s event = some s') : s'.Sound cfg stat₀ rx₀ := by
  cases event with
  | reported frameCount now =>
    simp only [ethercatStep] at h
    generalize hlen : min frameCount ((cfg.framesPerCycle .genericL2).toNat - s.reported) = len at h
    split at h
    · rename_i hpos
      obtain ⟨s₁, hs₁, rfl⟩ := Option.map_eq_some_iff.mp h
      exact hs.report hpos (by omega) hs₁
    · cases h
      exact hs
  | passed =>
    cases h
    exact hs.pass
  | returned k frame rxTime now =>
    rw [ethercatStep] at h
    split at h
    · cases h
      exact hs
    · rename_i acc hacc
      obtain ⟨s₁, hs₁, rfl⟩ := Option.map_eq_some_iff.mp h
      have hsound := hs.call_other rfl hs₁
      obtain ⟨-, -, hrx, -, -, -, haccepted⟩ := EthercatRun.call_run hs.run_eq hs₁
      have htype' : s.rx.frameType = .genericL2 := by rw [hs.rx_eq]; exact htype
      have hproto' : s.rx.conf.protocolType = .etherCat := by rw [hs.rx_eq]; exact hproto
      obtain ⟨-, hctx⟩ := receiveFrame_ethercat htype' hproto' hacc
      refine ⟨hsound.run_eq, ?_, hsound.counter_eq, hsound.reported_le, hsound.numbered⟩
      change acc.ctx = { rx₀ with rxSequenceCounter := UInt64.ofNat (s₁.accepted ++ [k]).length }
      rw [hctx, hs.rx_eq, haccepted, List.length_append, UInt64.ofNat_add]
      rfl
  | other call hcall => exact hs.call_other hcall h

theorem ethercatRun_sound (htype : rx₀.frameType = .genericL2)
    (hproto : rx₀.conf.protocolType = .etherCat) {events : List EthercatEvent}
    (hs : s.Sound cfg stat₀ rx₀) (h : events.foldlM (ethercatStep cfg env) s = some s') :
    s'.Sound cfg stat₀ rx₀ := by
  induction events generalizing s with
  | nil =>
    cases h
    exact hs
  | cons event events ih =>
    rw [List.foldlM_cons, Option.bind_eq_bind] at h
    obtain ⟨s₁, hs₁, hrest⟩ := Option.bind_eq_some_iff.mp h
    exact ih (ethercatStep_sound htype hproto hs hs₁) hrest

end Run

section Slot

/-- Frames that come back in order are not more than there have been. -/
theorem length_le_of_increasing {ks : List Nat} (h : (ks ++ [k]).Pairwise (· < ·)) :
    ks.length ≤ k := by
  obtain ⟨hks, -, hlast⟩ := List.pairwise_append.mp h
  have hnodup : ks.Nodup := hks.imp fun hlt => Nat.ne_of_lt hlt
  have hsub : ks.toFinset ⊆ Finset.range k := by
    intro i hi
    exact Finset.mem_range.mpr (hlast i (List.mem_toFinset.mp hi) k List.mem_cons_self)
  have hcard := Finset.card_le_card hsub
  rw [List.toFinset_card_of_nodup hnodup, Finset.card_range] at hcard
  exact hcard

theorem StatConfig.stampStep_dvd (cfg : StatConfig) (t : StatFrameType) :
    cfg.stampStep t ∣ (cfg.framesPerCycle t).toNat := by
  rw [stampStep]
  split
  · exact Nat.dvd_refl _
  · exact Nat.one_dvd _

theorem mem_historyWrites {cfg : StatConfig} {t : StatFrameType} {calls : List StatCall}
    (h : w ∈ historyWrites cfg t calls) (hs : 0 < cfg.stampStep t) :
    ∃ b ∈ sentBatches t calls, b.Contains w.1 ∧ w.2 = b.txTime := by
  obtain ⟨b, hb, hw⟩ := List.mem_flatMap.mp h
  obtain ⟨c, hc, rfl⟩ := List.mem_map.mp hw
  exact ⟨b, hb, ((SentBatch.mem_stamps hs).mp hc).1, rfl⟩

/-- The send time of a frame is the last one in its slot as long as no frame has been sent a whole
backlog later. -/
theorem lastIn_historyWrites {cfg : StatConfig} {t : StatFrameType} {calls : List StatCall}
    {b : SentBatch} (hs : 0 < cfg.stampStep t) (hinc : Increasing (sentBatches t calls))
    (hb : b ∈ sentBatches t calls) (hk : b.Contains (cfg.stampOf t k))
    (hwindow : ∀ b' ∈ sentBatches t calls, ∀ c, b'.Contains c → c < cfg.stampOf t k + len)
    (x : Nat) :
    lastIn len (historyWrites cfg t calls) x = some (cfg.stampOf t k, b.txTime) ↔
      x % len = cfg.stampOf t k % len := by
  constructor
  · intro h
    exact (lastIn_eq_some h).2.symm
  · intro h
    rw [lastIn_congr _ h]
    apply lastIn_of_window (writes_increasing hs hinc)
    · apply List.mem_flatMap.mpr ⟨b, hb, ?_⟩
      exact List.mem_map.mpr
        ⟨_, (SentBatch.mem_stamps hs).mpr ⟨hk, Nat.dvd_mul_left _ _⟩, rfl⟩
    · intro w hw
      obtain ⟨b', hb', hc, -⟩ := mem_historyWrites hw hs
      exact hwindow b' hb' _ hc

end Slot

/-- A returned frame is measured against the last send time in the slot of the number of frames
that came back before it. That is right exactly if this time is as many microseconds ago as its own,
and it is its own exactly if the two numbers share a slot, as they do when no frame before it was
lost or never sent. -/
theorem ethercat_round_trip_iff (cfg : StatConfig) (env : RxEnv)
    (href : cfg.logStatUserSelected = .reference)
    (hproto : (cfg.app.classes .genericL2).protocolType = .etherCat)
    (hn : 1 ≤ (cfg.framesPerCycle .genericL2).toNat)
    (hn' : (cfg.framesPerCycle .genericL2).toNat < 2 ^ 54) (stat₀ : StatState)
    (hi : statInit cfg = some stat₀) (rx₀ : ThreadContext)
    (hrx : rx₀.Created (cfg.app.classes .genericL2) .genericL2) (events : List EthercatEvent)
    (s : EthercatRun)
    (hrun : events.foldlM (ethercatStep cfg env) (.start stat₀ rx₀) = some s)
    (hlive : s.stat.exited = false)
    (hfit : (s.passes + 1) * (cfg.framesPerCycle .genericL2).toNat < 2 ^ 64)
    (hclock : ∀ b ∈ sentBatches .genericL2 s.calls, b.txTime ≠ 0) (k : Nat)
    (horder : (s.accepted ++ [k]).Pairwise (· < ·)) (b : SentBatch)
    (hb : b ∈ sentBatches .genericL2 s.calls) (hsent : b.Contains (cfg.stampOf .genericL2 k))
    (hwindow : ∀ b' ∈ sentBatches .genericL2 s.calls, ∀ c, b'.Contains c →
      c < k - k % (cfg.framesPerCycle .genericL2).toNat +
        1024 * (cfg.framesPerCycle .genericL2).toNat) (frame : List UInt8)
    (rxTime now : UInt64) (acc : RxAccepted)
    (hacc : receiveFrame { env with now := rxTime } s.rx frame frame.length = .ok acc) :
    let backlog := 1024 * (cfg.framesPerCycle .genericL2).toNat
    let stamp := cfg.stampOf .genericL2
    let found := lastIn backlog (historyWrites cfg .genericL2 s.calls) (stamp s.accepted.length)
    ∃ s' times, ethercatStep cfg env s (.returned k frame rxTime now) = some s' ∧
      s'.stat.globalStatistics .genericL2 = (statFrameReceivedCommon cfg .genericL2 times
        acc.report (s.stat.globalStatistics .genericL2)).1 ∧
      (times.rtTime = (now - b.txTime) / 1000 ↔
        (∃ c sent, found = some (c, sent) ∧ (now - sent) / 1000 = (now - b.txTime) / 1000) ∨
          found = none ∧ (now - b.txTime) / 1000 = 0) ∧
      (found = some (stamp k, b.txTime) ↔
        stamp s.accepted.length % backlog = stamp k % backlog) := by
  intro backlog stamp found
  have hproto' : rx₀.conf.protocolType = .etherCat := by rw [hrx.conf_eq]; exact hproto
  have hsound := ethercatRun_sound hrx.frameType_eq hproto'
    (EthercatRun.start_sound cfg stat₀ hrx.rxSequenceCounter_eq) hrun
  have hnumbered := hsound.numbered hfit
  have hstep : 0 < cfg.stampStep .genericL2 := StatConfig.stampStep_pos hn
  have hneeds : needsBacklog cfg .genericL2 = true := by
    rw [needsBacklog, href]
    rfl
  obtain ⟨ht, -⟩ := statInit_tracked hneeds hn hn' hi
  have ht₁ := history_tracked href hn ht
    (hnumbered.fits hstep (cfg.stampStep_dvd .genericL2) hfit) hsound.run_eq hlive
  -- the counter of the receiver is the number of frames it has accepted
  have hj : s.accepted.length ≤ k := length_le_of_increasing horder
  have hk : k < 2 ^ 64 := by
    have hbelow := hnumbered.below b hb _ hsent
    have hreported := hsound.reported_le
    have hnext : cfg.stampOf .genericL2 k + cfg.stampStep .genericL2 ≤
        (s.passes + 1) * (cfg.framesPerCycle .genericL2).toNat := by
      apply Nat.le_of_lt_add_of_dvd _ ((Nat.dvd_mul_left _ _).add (Nat.dvd_refl _))
        ((cfg.stampStep_dvd .genericL2).mul_left _)
      change cfg.stampOf .genericL2 k + _ < _
      rw [Nat.succ_mul]
      omega
    exact Nat.lt_trans (Nat.lt_of_lt_of_le (Nat.lt_div_mul_add hstep) hnext) hfit
  have hcounter : acc.report.sequenceCounter.toNat = s.accepted.length := by
    have htype : s.rx.frameType = .genericL2 := by rw [hsound.rx_eq]; exact hrx.frameType_eq
    have hproto : s.rx.conf.protocolType = .etherCat := by rw [hsound.rx_eq]; exact hproto'
    rw [(receiveFrame_ethercat htype hproto hacc).1, hsound.rx_eq]
    exact UInt64.toNat_ofNat_of_lt' (show s.accepted.length < 2 ^ 64 by omega)
  have hpos : 0 < backlog := by omega
  have hread := getElem?_foldl_record_lastIn (List.replicate backlog (0 : UInt64))
    (historyWrites cfg .genericL2 s.calls) (stamp s.accepted.length)
    (by rw [List.length_replicate]; exact hpos)
  rw [List.length_replicate, List.getElem?_replicate, if_pos (Nat.mod_lt _ hpos)] at hread
  change _ = (found.map Prod.snd).or (some 0) at hread
  have hslot : ((historyWrites cfg .genericL2 s.calls).foldl record (List.replicate backlog 0))[
      cfg.stampOf .genericL2 acc.report.sequenceCounter.toNat %
        ((historyWrites cfg .genericL2 s.calls).foldl record (List.replicate backlog 0)).length]? =
      some (found.elim 0 Prod.snd) := by
    rw [hcounter, length_foldl_record, List.length_replicate, hread]
    cases found <;> rfl
  obtain ⟨stat, times, hcall, hrt, hglobal, -⟩ :=
    statFrameReceived_sample href hn ht₁ acc.report now hslot
  have hmade : s.call cfg (.frameReceived .genericL2 acc.report now) =
      some { s with stat, calls := s.calls ++ [.frameReceived .genericL2 acc.report now] } := by
    rw [EthercatRun.call, statStep, hlive, if_neg Bool.false_ne_true, hcall]
    rfl
  refine ⟨{ s with
      stat
      rx := acc.ctx
      calls := s.calls ++ [.frameReceived .genericL2 acc.report now]
      accepted := s.accepted ++ [k] }, times, ?_, hglobal, ?_, ?_⟩
  · simp only [ethercatStep, hacc, hmade, Option.map_some]
  · cases hfound : found with
    | none =>
      rw [hfound] at hrt
      rw [hrt]
      simp [eq_comm]
    | some w =>
      obtain ⟨b', hb', -, htime⟩ := mem_historyWrites (lastIn_eq_some hfound).1 hstep
      have hne : w.2 ≠ 0 := htime ▸ hclock b' hb'
      rw [hfound, Option.elim_some, if_pos hne] at hrt
      rw [hrt]
      simp [Prod.ext_iff]
  · apply lastIn_historyWrites hstep hnumbered.increasing hb hsent
    intro b' hb' c hc
    have hbase := cfg.base_le_stampOf .genericL2 k
    exact Nat.lt_of_lt_of_le (hwindow b' hb' c hc) (Nat.add_le_add_right hbase _)

/-- EtherCAT frames, one in a cycle. -/
def ethercatConfig : StatConfig :=
  ⟨fullBuild, (configSetDefaults false).setClass .genericL2 fun c =>
    { c with enabled := true, protocolType := .etherCat }, .reference⟩

def ethercatReceiver : ThreadContext where
  conf := ethercatConfig.app.classes .genericL2
  frameType := .genericL2
  trafficClass := "GenericL2"
  frameId := classFrameId .genericL2 (ethercatConfig.app.classes .genericL2).securityMode
  metaDataOffset := getMetaDataOffset .genericL2
    (ethercatConfig.app.classes .genericL2).securityMode
  source := ⟨[2, 0, 0, 0, 0, 1], rfl⟩
  txFrameData := []
  rxFrameData := []
  frameCopy := []
  payloadPatternLength := 0
  mirrorBuffer := none
  txSecurityContext := chachaInit .aes256Gcm []
  rxSecurityContext := chachaInit .aes256Gcm []
  rxSequenceCounter := 0

def ethercatEnv : RxEnv := ⟨fullBuild, 0, 0, 0, 0, 0, []⟩

/-- A frame that a slave has processed. -/
def processedFrame : List UInt8 :=
  List.replicate 12 0xff ++ (be16 ethPEthercat ++ List.replicate 46 0)

/-- Frame 0 comes back before frame 1 is sent, and then frame 1. -/
theorem ethercat_round_trip_lossless :
    let events := [EthercatEvent.reported 1 1000000, .passed,
      .returned 0 processedFrame 1200000 1200000, .reported 1 2000000]
    ∃ stat₀ s s' times, statInit ethercatConfig = some stat₀ ∧
      events.foldlM (ethercatStep ethercatConfig ethercatEnv) (.start stat₀ ethercatReceiver) =
        some s ∧
      ethercatStep ethercatConfig ethercatEnv s (.returned 1 processedFrame 2300000 2300000) =
        some s' ∧
      (∃ r, s'.stat.globalStatistics .genericL2 = (statFrameReceivedCommon ethercatConfig .genericL2
        times r (s.stat.globalStatistics .genericL2)).1) ∧
      times.rtTime = 300 := by
  intro events
  have hsome : ((statInit ethercatConfig).bind fun stat₀ =>
      (events.foldlM (ethercatStep ethercatConfig ethercatEnv)
        (.start stat₀ ethercatReceiver)).map fun s =>
          (s.stat.exited, s.accepted, s.passes, sentBatches .genericL2 s.calls,
            (receiveFrame { ethercatEnv with now := 2300000 } s.rx processedFrame
              processedFrame.length).isOk)) =
      some (false, [0], 1, [⟨0, 1, 1000000⟩, ⟨1, 1, 2000000⟩], true) := by
    decide +kernel
  obtain ⟨stat₀, hi, hrun⟩ := Option.bind_eq_some_iff.mp hsome
  obtain ⟨s, hs, hx⟩ := Option.map_eq_some_iff.mp hrun
  simp only [Prod.mk.injEq] at hx
  obtain ⟨hlive, haccepted, hpasses, hsent, hok⟩ := hx
  obtain ⟨acc, hacc⟩ : ∃ acc, receiveFrame { ethercatEnv with now := 2300000 } s.rx processedFrame
      processedFrame.length = .ok acc := by
    cases hr : receiveFrame { ethercatEnv with now := 2300000 } s.rx processedFrame
        processedFrame.length with
    | error e =>
      rw [hr] at hok
      cases hok
    | ok acc => exact ⟨acc, rfl⟩
  have hcreated : ethercatReceiver.Created (ethercatConfig.app.classes .genericL2) .genericL2 :=
    ⟨⟨rfl, rfl, rfl, rfl⟩, rfl, nofun⟩
  have hlast : ∀ b ∈ [(⟨0, 1, 1000000⟩ : SentBatch), ⟨1, 1, 2000000⟩],
      b.cycleNumber.toNat + b.frameCount.toNat ≤ 2 := by decide
  obtain ⟨s', times, hstep, hglobal, hright, hfound⟩ := ethercat_round_trip_iff
    ethercatConfig ethercatEnv rfl rfl (by decide) (by decide) stat₀ hi ethercatReceiver hcreated
    events s hs hlive (by rw [hpasses]; decide) (by rw [hsent]; decide) 1
    (by rw [haccepted]; decide) ⟨1, 1, 2000000⟩ (by rw [hsent]; decide) ⟨by decide, by decide⟩ (by
      rw [hsent]
      intro b hb c hc
      exact Nat.lt_of_lt_of_le hc.2 ((hlast b hb).trans (by decide)))
    processedFrame 2300000 2300000 acc hacc
  have hslot := hfound.mpr (by rw [haccepted]; rfl)
  exact ⟨stat₀, s, s', times, hi, hs, hstep, ⟨acc.report, hglobal⟩,
    hright.mpr (.inl ⟨_, _, hslot, rfl⟩)⟩

/-- What the statistics say about the round trips after a run. -/
def measuredRoundTrips (events : List EthercatEvent) : Option (List Nat × UInt64 × UInt64) := do
  let stat ← statInit ethercatConfig
  let s ← events.foldlM (ethercatStep ethercatConfig ethercatEnv) (.start stat ethercatReceiver)
  let statistics := s.stat.globalStatistics .genericL2
  return (s.accepted, statistics.roundTripCount, statistics.roundTripMax)

/-- Frame 1 comes back 300 µs after it was sent. If frame 0 is lost, it is measured against that
frame, which was sent a millisecond earlier; if frame 0 could not be sent, against nothing. -/
theorem ethercat_round_trip_lost :
    measuredRoundTrips [.reported 1 1000000, .passed, .reported 1 2000000, .passed,
      .returned 1 processedFrame 2300000 2300000] = some ([1], 1, 1300) ∧
    measuredRoundTrips [.passed, .reported 1 2000000, .passed,
      .returned 1 processedFrame 2300000 2300000] = some ([1], 1, 0) := by
  constructor <;> decide +kernel

end RtcTestbench
