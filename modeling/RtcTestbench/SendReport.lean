import RtcTestbench.BatchSplit
import RtcTestbench.PacketSend

namespace RtcTestbench
open Function Machine Window
set_option autoImplicit true

/-- What `tc_gen_and_send_frames` reports after `packet_send_messages` has returned `len`. -/
def reportGenerated (cfg : StatConfig) (frameType : StatFrameType)
    (sequenceCounterBegin now : UInt64) (len : Int) (s : StatState) : Option StatState :=
  if 0 < len then
    statFramesSentBatch cfg s frameType sequenceCounterBegin (UInt64.ofNat len.toNat) now
  else some s

/-- What `tc_send_frames` reports, with the clock of each call. -/
def reportMirrored (cfg : StatConfig) (frameType : StatFrameType) (req : PacketSendRequest)
    (now : Nat → UInt64) (len : Int) (s : StatState) : Option StatState :=
  (List.range len.toNat).foldlM (fun s (i : Nat) =>
    statFrameSent cfg s frameType
      (req.sequenceCounter (cfg.framesPerCycle frameType) (i * req.frameLength : Nat)) (now i)) s

/-- A call of `sendmmsg` that is made before the function returns takes some messages or fails. -/
def Answers (st : SendLoop) (result : SendResult) : Prop :=
  st.returned = none ∧
    match result with
    | .accepted len => 1 ≤ len ∧ len ≤ st.toBeSent - st.innerSent
    | .failed errno => 1 ≤ errno

/-- Nothing fails, or it fails before any message was taken. -/
def NoneLost (numFrames : Nat) (results : List SendResult) : Prop :=
  (∀ errno, .failed errno ∉ results) ∧ numFrames < 2 ^ 31 ∨ ∀ len, .accepted len ∉ results

/-- The backlog of the class is not there, or as it was allocated. -/
def Allocated (cfg : StatConfig) (frameType : StatFrameType) (s : StatState) : Prop :=
  (s.roundTripContexts frameType).backlog = none ∨
    ∃ tab, (s.roundTripContexts frameType).Holds tab ∧
      tab.length = 1024 * (cfg.framesPerCycle frameType).toNat

variable {n : UInt64} {req : PacketSendRequest} {st : SendLoop} {msgs : List PacketMessage}
  {results : List SendResult} {cfg : StatConfig} {frameType : StatFrameType} {s s' : StatState}
  {c x now : UInt64}

/-- How a call ends: with all messages taken, or with an error after some of them. -/
theorem packetSend_answers (hn : 1 ≤ n.toNat) (h : st.Running n req ∨ st.Finished req)
    (ha : (packetSend n req).Along Answers st results)
    (hret : ((packetSend n req).run st results).1.returned = some len) :
    ∃ k, ((packetSend n req).run st results).2.flatten =
        (List.range' st.done k).map (req.message n) ∧
      (len = cInt req.numFrames ∧ st.done + k = req.numFrames ∧ (∀ errno, .failed errno ∉ results) ∨
        len < 0 ∧ st.done + k ≤ req.numFrames ∧ ∃ errno, .failed errno ∈ results) ∧
      (k = 0 ↔ ∀ j, .accepted j ∉ results) := by
  induction results generalizing st with
  | nil =>
    rcases h with h | h
    · rw [System.run_nil, h.returned_eq] at hret
      cases hret
    · rw [System.run_nil, h.returned_eq] at hret
      have hlen := Option.some.inj hret
      exact ⟨0, rfl, .inl ⟨hlen.symm, h.done_eq, nofun⟩, iff_of_true rfl nofun⟩
  | cons result results ih =>
    obtain ⟨⟨hnone, hresult⟩, hrest⟩ := ha
    have hrunning : st.Running n req := by
      rcases h with h | h
      · exact h
      · rw [h.returned_eq] at hnone
        cases hnone
    cases result with
    | accepted j =>
      obtain ⟨htaken, hdone, hnext⟩ := packetSend_accepted hn hrunning hresult.1 hresult.2
      obtain ⟨k, hflat, hend, -⟩ := ih hnext hrest hret
      rw [hdone] at hflat hend
      refine ⟨j + k, ?_, ?_, ?_⟩
      · rw [System.run_cons, List.flatten_cons, htaken, hflat, ← List.map_append,
          List.range'_append_1]
      · rw [← Nat.add_assoc]
        refine hend.imp (fun hend => ⟨hend.1, hend.2.1, ?_⟩) (fun hend => ⟨hend.1, hend.2.1, ?_⟩)
        · intro errno hmem
          rcases List.mem_cons.mp hmem with heq | hmem
          · cases heq
          · exact hend.2.2 errno hmem
        · obtain ⟨errno, hmem⟩ := hend.2.2
          exact ⟨errno, List.mem_cons_of_mem _ hmem⟩
      · apply iff_of_false
        · have hpos := hresult.1
          omega
        · intro hall
          exact hall j List.mem_cons_self
    | failed errno =>
      have hstep : (packetSend n req).step st (.failed errno) =
          ({ st with returned := some (-errno) }, []) := by
        simp only [packetSend, hnone]
      have hempty : results = [] := by
        cases results with
        | nil => rfl
        | cons result results =>
          have hagain := hrest.1.1
          rw [hstep] at hagain
          cases hagain
      subst hempty
      rw [System.run_cons, hstep] at hret ⊢
      cases hret
      have hleft := hrunning.left
      have hchunk := hrunning.chunk
      refine ⟨0, rfl, .inr ⟨?_, ?_, errno, List.mem_cons_self⟩, iff_of_true rfl ?_⟩
      · have hpos : 1 ≤ errno := hresult
        omega
      · rw [SendLoop.done]
        omega
      · intro j hmem
        rcases List.mem_cons.mp hmem with heq | hmem
        · cases heq
        · cases hmem

/-- The frames reported are those that were taken exactly if none is lost. -/
theorem packetSend_outcome (hn : 1 ≤ n.toNat) (hmsgs : msgs.length = n.toNat)
    (ha : (packetSend n req).Along Answers (SendLoop.start n req msgs) results)
    (hret : ((packetSend n req).run (SendLoop.start n req msgs) results).1.returned = some len) :
    let k := ((packetSend n req).run (SendLoop.start n req msgs) results).2.flatten.length
    k ≤ req.numFrames ∧ len < 2 ^ 31 ∧ (0 < len → len ≤ k) ∧
      (len.toNat = k ↔ NoneLost req.numFrames results) := by
  intro k
  obtain ⟨hdone, hstart⟩ := SendLoop.start_spec req hn hmsgs
  obtain ⟨j, hflat, hend, hzero⟩ := packetSend_answers hn hstart ha hret
  have hk : k = j := by
    simp only [k]
    rw [hflat, List.length_map, List.length_range']
  rw [hdone, Nat.zero_add] at hend
  rw [hk, NoneLost, ← hzero]
  rcases hend with ⟨hlen, hall, hnone⟩ | ⟨hneg, hle, hfailed⟩
  · have hlt := cInt_lt req.numFrames
    refine ⟨Nat.le_of_eq hall, by omega, ?_, ?_⟩
    · intro hpos
      by_cases hfew : req.numFrames < 2 ^ 31
      · rw [hlen, cInt_of_lt hfew, hall]
      · omega
    · rw [and_iff_right hnone]
      constructor
      · intro heq
        omega
      · rintro (hfew | hempty)
        · rw [hlen, cInt_of_lt hfew, Int.toNat_natCast, hall]
        · rw [hlen, ← hall, hempty]
          rfl
  · have hnot : ¬ ((∀ errno, .failed errno ∉ results) ∧ req.numFrames < 2 ^ 31) := by
      rintro ⟨hnone, -⟩
      obtain ⟨errno, hmem⟩ := hfailed
      exact hnone errno hmem
    refine ⟨hle, by omega, by omega, ?_⟩
    rw [or_iff_right hnot]
    omega

theorem statFramesSentBatch_counts (hn : 0 < (cfg.framesPerCycle frameType).toNat)
    (h : c.toNat + x.toNat + (cfg.framesPerCycle frameType).toNat < 2 ^ 64)
    (hs : Allocated cfg frameType s) (now : UInt64) :
    ∃ s', statFramesSentBatch cfg s frameType c x now = some s' ∧ Allocated cfg frameType s' ∧
      (s'.globalStatistics frameType).framesSent =
        (s.globalStatistics frameType).framesSent + x := by
  by_cases hrec : cfg.logStatUserSelected ≠ .mirror ∧
      (s.roundTripContexts frameType).backlog.isSome = true
  · rcases hs with hnone | ⟨tab, htab, hlen⟩
    · rw [hnone] at hrec
      exact absurd hrec.2 Bool.false_ne_true
    · have hle := StatConfig.stampStep_le hn
      have hfit : (⟨c, x, now⟩ : SentBatch).Fits (cfg.stampStep frameType) :=
        SentBatch.fits_of_lt (by omega)
      obtain ⟨s', hs', hholds, -, -, hsent⟩ := statFramesSentBatch_holds hrec.1 hn htab hfit
      refine ⟨s', hs', .inr ⟨_, hholds, ?_⟩, ?_⟩
      · rw [length_foldl_record, hlen]
      · rw [hsent]
  · have hkept : recordTxTime cfg frameType c x now (s.roundTripContexts frameType) =
        some (s.roundTripContexts frameType) := by
      rw [recordTxTime, if_neg hrec]
    rw [statFramesSentBatch, hkept]
    refine ⟨_, rfl, ?_, ?_⟩
    · simp only [Allocated, update_self]
      exact hs
    · simp only [update_self]

theorem reportGenerated_counts (hn : 0 < (cfg.framesPerCycle frameType).toNat) {len : Int}
    (h : c.toNat + len.toNat + (cfg.framesPerCycle frameType).toNat < 2 ^ 64)
    (hs : Allocated cfg frameType s) (now : UInt64) :
    ∃ s', reportGenerated cfg frameType c now len s = some s' ∧
      (s'.globalStatistics frameType).framesSent =
        (s.globalStatistics frameType).framesSent + UInt64.ofNat len.toNat := by
  rw [reportGenerated]
  by_cases hpos : 0 < len
  · rw [if_pos hpos]
    have hcount : (UInt64.ofNat len.toNat).toNat = len.toNat :=
      UInt64.toNat_ofNat_of_lt' (show len.toNat < 2 ^ 64 by omega)
    obtain ⟨s', hs', -, hsent⟩ := statFramesSentBatch_counts hn (hcount.symm ▸ h) hs now
    exact ⟨s', hs', hsent⟩
  · rw [if_neg hpos, Int.toNat_of_nonpos (Int.not_lt.mp hpos)]
    exact ⟨s, rfl, (UInt64.add_zero _).symm⟩

theorem reportMirrored_counts (hn : 0 < (cfg.framesPerCycle frameType).toNat) {k : Nat}
    (h : ∀ i < k, (req.sequenceCounter (cfg.framesPerCycle frameType)
      (i * req.frameLength : Nat)).toNat + 1 + (cfg.framesPerCycle frameType).toNat < 2 ^ 64)
    (hs : Allocated cfg frameType s) (now : Nat → UInt64) :
    ∃ s', reportMirrored cfg frameType req now k s = some s' ∧ Allocated cfg frameType s' ∧
      (s'.globalStatistics frameType).framesSent =
        (s.globalStatistics frameType).framesSent + UInt64.ofNat k := by
  induction k with
  | zero => exact ⟨s, rfl, hs, (UInt64.add_zero _).symm⟩
  | succ k ih =>
    obtain ⟨s₁, hs₁, halloc₁, hsent₁⟩ := ih fun i hi => h i (by omega)
    have hfit := h k (Nat.lt_succ_self k)
    rw [← UInt64.toNat_one] at hfit
    obtain ⟨s₂, hs₂, halloc₂, hsent₂⟩ := statFramesSentBatch_counts hn hfit halloc₁ (now k)
    refine ⟨s₂, ?_, halloc₂, ?_⟩
    · rw [reportMirrored, Int.toNat_natCast, List.range_succ, List.foldlM_append]
      rw [reportMirrored, Int.toNat_natCast] at hs₁
      rw [hs₁]
      simp only [Option.bind_eq_bind, Option.bind_some, List.foldlM_cons, List.foldlM_nil]
      rw [statFrameSent, hs₂]
      rfl
    · rw [hsent₂, hsent₁, UInt64.add_assoc, UInt64.ofNat_add]
      rfl

/-- After the report of a batch from the beginning of a cycle each of its frames has its time. -/
theorem reportGenerated_recorded (hmode : cfg.logStatUserSelected ≠ .mirror)
    (hn : 0 < (cfg.framesPerCycle frameType).toNat)
    (hdvd : (cfg.framesPerCycle frameType).toNat ∣ c.toNat) {len : Int}
    (h : c.toNat + len.toNat + (cfg.framesPerCycle frameType).toNat < 2 ^ 64)
    (hfew : len.toNat ≤ (cfg.framesPerCycle frameType).toNat)
    (hs : (s.roundTripContexts frameType).Holds tab)
    (hlen : tab.length = 1024 * (cfg.framesPerCycle frameType).toNat)
    (hreport : reportGenerated cfg frameType c now len s = some s') :
    ∀ i < len.toNat, s'.sendTime cfg frameType (c + UInt64.ofNat i) = some now := by
  intro i hi
  have hpos := StatConfig.stampStep_pos hn
  have hcount : (UInt64.ofNat len.toNat).toNat = len.toNat :=
    UInt64.toNat_ofNat_of_lt' (show len.toNat < 2 ^ 64 by omega)
  have hi' : (UInt64.ofNat i).toNat = i :=
    UInt64.toNat_ofNat_of_lt' (show i < 2 ^ 64 by omega)
  have hci : (c + UInt64.ofNat i).toNat = c.toNat + i := by
    rw [toNat_add_of_lt (by omega), hi']
  have hstep : cfg.stampStep frameType ∣ c.toNat := by
    rw [StatConfig.stampStep]
    split
    · exact hdvd
    · exact Nat.one_dvd _
  have hfit : (⟨c, UInt64.ofNat len.toNat, now⟩ : SentBatch).Fits (cfg.stampStep frameType) := by
    have hle := StatConfig.stampStep_le hn
    exact SentBatch.fits_of_lt (by omega)
  obtain ⟨s₁, hs₁, hholds, -⟩ := statFramesSentBatch_holds hmode hn hs hfit
  rw [reportGenerated, if_pos (by omega), hs₁] at hreport
  cases hreport
  rw [StatState.sendTime_eq hn hholds]
  have hlow : c.toNat ≤ cfg.stampOf frameType (c.toNat + i) := by
    rw [StatConfig.stampOf, ← Nat.div_mul_cancel hstep]
    apply Nat.mul_le_mul_right
    apply Nat.div_le_div_right
    rw [Nat.div_mul_cancel hstep]
    omega
  have hup : cfg.stampOf frameType (c.toNat + i) ≤ c.toNat + i := Nat.div_mul_le_self _ _
  rw [hci, length_foldl_record]
  have hsent : (⟨c, UInt64.ofNat len.toNat, now⟩ : SentBatch).Contains
      (cfg.stampOf frameType (c.toNat + i)) := by
    refine ⟨hlow, ?_⟩
    change _ < c.toNat + (UInt64.ofNat len.toNat).toNat
    omega
  have hone := getElem?_writes hpos hs.pos (List.pairwise_singleton _ _) List.mem_cons_self hsent
    (Nat.dvd_mul_left _ _) ?_
  · rw [List.flatMap_cons, List.flatMap_nil, List.append_nil] at hone
    exact hone
  · intro b hb d hd
    rw [List.mem_singleton.mp hb] at hd
    have hd : d < c.toNat + (UInt64.ofNat len.toNat).toNat := hd.2
    omega

theorem framesSent_grown_iff {m k : Nat} {x y : UInt64} (hx : y = x + UInt64.ofNat m)
    (hm : m < 2 ^ 64) (hk : k < 2 ^ 64) : y = x + UInt64.ofNat k ↔ m = k := by
  rw [hx, UInt64.add_right_inj]
  constructor
  · intro h
    have h := congrArg UInt64.toNat h
    rwa [UInt64.toNat_ofNat_of_lt' hm, UInt64.toNat_ofNat_of_lt' hk] at h
  · rintro rfl
    rfl

end RtcTestbench
