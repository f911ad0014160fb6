import RtcTestbench.Xdp

namespace RtcTestbench
open Machine XskRing
set_option autoImplicit true

def XdpOutput.queued : XdpOutput → List XdpDesc
  | .received _ queued _ _ => queued
  | _ => []

def XdpOutput.submitted : XdpOutput → List XdpDesc
  | .sent submitted _ _ => submitted
  | _ => []

def queuedFrames (out : List XdpOutput) : List XdpDesc := out.flatMap XdpOutput.queued

def submittedFrames (out : List XdpOutput) : List XdpDesc := out.flatMap XdpOutput.submitted

/-- Every Tx pass submits as many frames as were queued since the one before; `n` were queued
already. -/
def SubmitsQueued : Nat → List XdpOutput → Prop
  | _, [] => True
  | n, .kernel :: out => SubmitsQueued n out
  | n, .received _ queued _ _ :: out => SubmitsQueued (n + queued.length) out
  | n, .sent submitted _ _ :: out => submitted.length = n ∧ SubmitsQueued 0 out

/-- An Rx pass overwrites `received_frames`, so none may be waiting for a Tx pass. -/
def NoneWaiting (s : XdpThreads) : XdpEvent → Prop
  | .kernel _ => True
  | .rx _ => s.receivedFrames = 0
  | .tx _ => True

/-- What a step does to the hand-over: the reserved part of the Tx ring and the counter. -/
inductive HandOver (s s' : XdpThreads) : XdpEvent → XdpOutput → Prop
  | kernel (k : KernelStep) (hr : s'.xsk.tx.reserved = s.xsk.tx.reserved)
      (hn : s'.receivedFrames = s.receivedFrames) : HandOver s s' (.kernel k) .kernel
  | rx (p : XdpRxPass) (n : Nat) (queued : List XdpDesc) (reports : List RxReport)
      (logs : List LogMessage) (hr : s'.xsk.tx.reserved = s.xsk.tx.reserved ++ queued)
      (hn : s'.receivedFrames = queued.length) :
      HandOver s s' (.rx p) (.received n queued reports logs)
  | tx (p : XdpTxPass) (batch : Option (UInt64 × Nat)) (logs : List LogMessage)
      (hr : s'.xsk.tx.reserved = s.xsk.tx.reserved.drop s.receivedFrames)
      (hn : s'.receivedFrames = 0) :
      HandOver s s' (.tx p) (.sent (s.xsk.tx.reserved.take s.receivedFrames) batch logs)

theorem kernelStep_reserved (xsk : XdpSocket) (k : KernelStep) :
    (kernelStep xsk k).tx.reserved = xsk.tx.reserved := by
  fun_cases kernelStep xsk k
  -- only a descriptor the kernel takes changes the Tx ring
  case case7 htake => exact (Producer.take_spec htake).2.1
  all_goals rfl

theorem kernelSteps_reserved (xsk : XdpSocket) (ks : List KernelStep) :
    (kernelSteps xsk ks).tx.reserved = xsk.tx.reserved := by
  induction ks generalizing xsk with
  | nil => rfl
  | cons k ks ih => exact (ih (kernelStep xsk k)).trans (kernelStep_reserved xsk k)

/-- Success is success of one of the two attempts; failure leaves what the kernel did. -/
theorem reserveRetry_spec (thread : String) (reserve : XdpSocket → Option XdpSocket)
    (wakeup : List KernelStep) (xsk : XdpSocket) :
    (∃ ks xsk' logs, reserve (kernelSteps xsk ks) = some xsk' ∧
      reserveRetry thread reserve wakeup xsk = (xsk', true, logs)) ∨
    ∃ logs, reserveRetry thread reserve wakeup xsk = (kernelSteps xsk wakeup, false, logs) := by
  unfold reserveRetry
  cases hfirst : reserve xsk with
  | some xsk' => exact .inl ⟨[], xsk', _, hfirst, rfl⟩
  | none =>
    dsimp only
    cases hsecond : reserve (kernelSteps xsk wakeup) with
    | some xsk' => exact .inl ⟨wakeup, xsk', _, hsecond, rfl⟩
    | none => exact .inr ⟨_, rfl⟩

theorem reserveTx_reserved {xsk xsk' : XdpSocket} (h : xsk.reserveTx descs = some xsk') :
    xsk'.tx.reserved = xsk.tx.reserved ++ descs := by
  obtain ⟨tx, htx, rfl⟩ := Option.map_eq_some_iff.mp h
  exact (Producer.reserve_spec htx).2.1

theorem reserveFill_reserved {xsk xsk' : XdpSocket} (h : xsk.reserveFill addrs = some xsk') :
    xsk'.tx.reserved = xsk.tx.reserved := by
  obtain ⟨fq, -, rfl⟩ := Option.map_eq_some_iff.mp h
  rfl

theorem xdpCompleteTx_reserved (xsk : XdpSocket) (p : XdpTxPass) :
    (xdpCompleteTx xsk p).1.tx.reserved = xsk.tx.reserved := by
  unfold xdpCompleteTx
  dsimp only
  split
  · rfl
  · have hsend := kernelSteps_reserved xsk p.sendto
    generalize kernelSteps xsk p.sendto = sent at hsend ⊢
    split
    · exact hsend
    · generalize sent.cq.peek _ _ = addrs
      obtain ⟨ks, xsk', logs, hreserve, hretry⟩ | ⟨logs, hretry⟩ :=
        reserveRetry_spec "XdpTx" (XdpSocket.reserveFill addrs) p.wakeup sent
      · rw [hretry]
        dsimp only
        rw [reserveFill_reserved hreserve, kernelSteps_reserved, hsend]
      · rw [hretry]
        dsimp only
        rw [kernelSteps_reserved, hsend]

theorem tcXdpMirrorPass_handOver (s : XdpThreads) (p : XdpTxPass) :
    HandOver s (tcXdpMirrorPass s p).1 (.tx p) (tcXdpMirrorPass s p).2 :=
  .tx p _ _ (xdpCompleteTx_reserved _ p) rfl

theorem tcXdpRxPass_handOver (hm : conf.rxMirrorEnabled = true) (s : XdpThreads) (p : XdpRxPass) :
    HandOver s (tcXdpRxPass conf s p).1 (.rx p) (tcXdpRxPass conf s p).2 := by
  unfold tcXdpRxPass xdpReceiveFrames
  dsimp only
  generalize s.xsk.rx.peek _ _ = descs
  rw [hm, if_pos rfl, if_pos rfl]
  split
  · exact .rx p _ _ _ _ (List.append_nil _).symm rfl
  · generalize hq : List.map _ (List.map _ descs) = queued
    have hlen : queued.length = descs.length := by rw [← hq, List.length_map, List.length_map]
    obtain ⟨ks, xsk', logs, hreserve, hretry⟩ | ⟨logs, hretry⟩ :=
      reserveRetry_spec "XdpRx" (XdpSocket.reserveTx queued) p.wakeup s.xsk
    · rw [hretry]
      have hqueued := reserveTx_reserved hreserve
      rw [kernelSteps_reserved] at hqueued
      exact .rx p _ _ _ _ hqueued hlen.symm
    · rw [hretry]
      refine .rx p _ _ _ _ ?_ rfl
      rw [List.append_nil]
      exact kernelSteps_reserved s.xsk p.wakeup

theorem xdpThreads_tx (hm : conf.rxMirrorEnabled = true) (s : XdpThreads) (p : XdpTxPass) :
    (xdpThreads conf).step s (.tx p) = tcXdpMirrorPass s p := if_pos hm

theorem xdpThreads_handOver (hm : conf.rxMirrorEnabled = true) (s : XdpThreads) (e : XdpEvent) :
    HandOver s ((xdpThreads conf).step s e).1 e ((xdpThreads conf).step s e).2 := by
  cases e with
  | kernel k => exact .kernel k (kernelStep_reserved s.xsk k) rfl
  | rx p => exact tcXdpRxPass_handOver hm s p
  | tx p =>
    rw [xdpThreads_tx hm]
    exact tcXdpMirrorPass_handOver s p

section Runs
variable {conf : TrafficClassConfig} {s : XdpThreads}

theorem xdpThreads_run_conserves (hm : conf.rxMirrorEnabled = true) (es : List XdpEvent) :
    s.xsk.tx.reserved ++ queuedFrames ((xdpThreads conf).run s es).2 =
      submittedFrames ((xdpThreads conf).run s es).2 ++
        ((xdpThreads conf).run s es).1.xsk.tx.reserved := by
  induction es generalizing s with
  | nil => exact List.append_nil _
  | cons e es ih =>
    have hrest := @ih ((xdpThreads conf).step s e).1
    have hstep := xdpThreads_handOver hm s e
    rw [System.run_cons, queuedFrames, submittedFrames, List.flatMap_cons, List.flatMap_cons]
    generalize ((xdpThreads conf).step s e).1 = s', ((xdpThreads conf).step s e).2 = out
      at hstep hrest ⊢
    cases hstep with
    | kernel k hr hn => rw [hr] at hrest; exact hrest
    | rx p n queued reports logs hr hn =>
      rw [hr, List.append_assoc] at hrest
      exact hrest
    | tx p batch logs hr hn =>
      rw [hr] at hrest
      simp only [XdpOutput.queued, XdpOutput.submitted, List.nil_append, List.append_assoc]
      rw [← queuedFrames, ← submittedFrames, ← hrest, ← List.append_assoc, List.take_append_drop]

/-- The counter never covers more than what is reserved. Once it covers less it stays so, and it
covers everything exactly if no Rx pass found frames waiting. -/
theorem xdpThreads_run_covered (hm : conf.rxMirrorEnabled = true) (es : List XdpEvent) :
    let s' := ((xdpThreads conf).run s es).1
    (s.receivedFrames < s.xsk.tx.reserved.length →
      s'.receivedFrames < s'.xsk.tx.reserved.length) ∧
    (s.receivedFrames = s.xsk.tx.reserved.length →
      s'.receivedFrames ≤ s'.xsk.tx.reserved.length ∧
      (s'.receivedFrames = s'.xsk.tx.reserved.length ↔
        (xdpThreads conf).Along NoneWaiting s es)) := by
  induction es generalizing s with
  | nil => exact ⟨id, fun h => ⟨Nat.le_of_eq h, iff_of_true h trivial⟩⟩
  | cons e es ih =>
    obtain ⟨hless, hall⟩ := @ih ((xdpThreads conf).step s e).1
    have hstep := xdpThreads_handOver hm s e
    simp only [System.run_cons, System.Along]
    generalize ((xdpThreads conf).step s e).1 = s', ((xdpThreads conf).step s e).2 = out
      at hstep hless hall ⊢
    cases hstep with
    | kernel k hr hn =>
      simp only [hr, hn] at hless hall
      refine ⟨hless, fun h => ?_⟩
      rw [NoneWaiting, true_and]
      exact hall h
    | rx p n queued reports logs hr hn =>
      simp only [hr, hn, List.length_append] at hless hall
      refine ⟨fun h => hless (by omega), fun h => ?_⟩
      rw [NoneWaiting]
      by_cases hz : s.receivedFrames = 0
      · simp only [hz, true_and]
        exact hall (by omega)
      · have hlt := hless (by omega)
        exact ⟨Nat.le_of_lt hlt, iff_of_false (Nat.ne_of_lt hlt) fun h => hz h.1⟩
    | tx p batch logs hr hn =>
      simp only [hr, hn, List.length_drop] at hless hall
      refine ⟨fun h => hless (by omega), fun h => ?_⟩
      rw [NoneWaiting, true_and]
      exact hall (by omega)

theorem xdpThreads_run_submitsQueued (hm : conf.rxMirrorEnabled = true) (es : List XdpEvent)
    (p : XdpTxPass) :
    (s.receivedFrames < n → ¬ SubmitsQueued n ((xdpThreads conf).run s (es ++ [.tx p])).2) ∧
    (s.receivedFrames = n → n ≤ s.xsk.tx.reserved.length →
      (SubmitsQueued n ((xdpThreads conf).run s (es ++ [.tx p])).2 ↔
        (xdpThreads conf).Along NoneWaiting s es)) := by
  induction es generalizing s n with
  | nil =>
    have hstep := xdpThreads_handOver hm s (.tx p)
    rw [List.nil_append, System.run_cons]
    generalize ((xdpThreads conf).step s (.tx p)).1 = s', ((xdpThreads conf).step s (.tx p)).2 = out
      at hstep ⊢
    cases hstep with
    | tx p batch logs hr hn =>
      simp only [SubmitsQueued, System.run_nil, List.length_take, and_true, System.Along, iff_true]
      exact ⟨fun h => by omega, fun h hle => by omega⟩
  | cons e es ih =>
    have hrest := fun n => @ih ((xdpThreads conf).step s e).1 n
    have hstep := xdpThreads_handOver hm s e
    rw [List.cons_append, System.run_cons, System.Along]
    generalize ((xdpThreads conf).step s e).1 = s', ((xdpThreads conf).step s e).2 = out
      at hstep hrest ⊢
    cases hstep with
    | kernel k hr hn =>
      simp only [hr, hn] at hrest
      rw [SubmitsQueued, NoneWaiting, true_and]
      exact hrest n
    | rx q m queued reports logs hr hn =>
      simp only [hr, hn, List.length_append] at hrest
      obtain ⟨hmore, hall⟩ := hrest (n + queued.length)
      rw [SubmitsQueued, NoneWaiting]
      refine ⟨fun h => hmore (by omega), fun h hle => ?_⟩
      by_cases hz : s.receivedFrames = 0
      · simp only [hz, true_and]
        exact hall (by omega) (by omega)
      · exact iff_of_false (hmore (by omega)) fun h => hz h.1
    | tx q batch logs hr hn =>
      simp only [hn] at hrest
      rw [SubmitsQueued, NoneWaiting, true_and, List.length_take]
      refine ⟨fun h => fun hs => by omega, fun h hle => ?_⟩
      rw [Nat.min_eq_left (h ▸ hle), and_iff_right h]
      exact (hrest 0).2 rfl (Nat.zero_le _)

end Runs

/-- After a Tx pass every frame queued so far is submitted, once and in order, exactly if no Rx
pass of the run found frames waiting; so are the numbers each Tx pass submits. -/
theorem xdp_mirror_hand_over (build : BuildConfig) (ctx : ThreadContext) (umem : List UInt8)
    (hm : ctx.conf.rxMirrorEnabled = true) (es : List XdpEvent) (p : XdpTxPass) :
    let threads := xdpThreads ctx.conf
    let start := XdpThreads.start build ctx umem
    let out := (threads.run start (es ++ [.tx p])).2
    (submittedFrames out = queuedFrames out ↔ threads.Along NoneWaiting start es) ∧
    (SubmitsQueued 0 out ↔ threads.Along NoneWaiting start es) := by
  intro threads start out
  refine ⟨?_, (xdpThreads_run_submitsQueued hm es p).2 rfl (Nat.zero_le _)⟩
  have hconserves := @xdpThreads_run_conserves ctx.conf start hm (es ++ [.tx p])
  obtain ⟨hle, hcovered⟩ := (@xdpThreads_run_covered ctx.conf start hm es).2 rfl
  have hlast : (threads.run start (es ++ [.tx p])).1.xsk.tx.reserved =
      (threads.run start es).1.xsk.tx.reserved.drop (threads.run start es).1.receivedFrames := by
    rw [System.run_append]
    change (threads.step _ _).1.xsk.tx.reserved = _
    rw [xdpThreads_tx hm]
    exact xdpCompleteTx_reserved _ p
  rw [← hcovered]
  change queuedFrames out = submittedFrames out ++ _ at hconserves
  rw [hconserves, List.self_eq_append_right, hlast, List.drop_eq_nil_iff]
  exact ⟨fun h => Nat.le_antisymm hle h, fun h => Nat.le_of_eq h.symm⟩

theorem xdpOpenSocket_takeFill (build : BuildConfig) (conf : TrafficClassConfig) :
    ∃ fq, kernelStep (xdpOpenSocket build conf) .takeFill =
      { xdpOpenSocket build conf with
        fq, kernelRx := [0 * xdpFrameSize + txMetadataRoom build conf] } := by
  have hfill : (xdpOpenSocket build conf).fq.submitted =
      (List.range xskRingProdDefaultNumDescs).map
        fun i => i * xdpFrameSize + txMetadataRoom build conf := by
    rw [xdpOpenSocket]
  have hfirst (n : Nat) (h : 0 < n) (f : Nat → Nat) :
      ∃ rest, (List.range n).map f = f 0 :: rest := by
    obtain ⟨m, rfl⟩ := Nat.exists_eq_add_one.mpr h
    rw [List.range_succ_eq_map, List.map_cons]
    exact ⟨_, rfl⟩
  obtain ⟨rest, hrest⟩ := hfirst xskRingProdDefaultNumDescs (by decide)
    fun i => i * xdpFrameSize + txMetadataRoom build conf
  obtain ⟨fq, hfq⟩ := Producer.take_of_submitted (hfill.trans hrest)
  refine ⟨fq, ?_⟩
  rw [kernelStep, hfq]
  rfl

def xdpMirrorConfig : AppConfig :=
  (configSetDefaults true).setClass .rtc fun c =>
    { c with enabled := true, xdpEnabled := true, frameLength := 200 }

theorem xdpMirror_created :
    ∃ ctx, threadsCreate chachaInit xdpMirrorConfig .rtc defaultDestination = some ctx ∧
      ctx.conf = xdpMirrorConfig.classes .rtc := by
  obtain ⟨ctx, hc⟩ := tcThreadsCreate_xdp chachaInit .rtc defaultDestination
    (show (xdpMirrorConfig.classes .rtc).xdpEnabled = true from rfl)
  exact ⟨ctx, hc, (tcThreadsCreate_created hc).conf_eq⟩

def plainRxPass : XdpRxPass := ⟨1, [], fun _ => ⟨fullBuild, 0, 0, 0, 0, 0, []⟩⟩

def plainTxPass : XdpTxPass := ⟨[], 1, []⟩

theorem xdpPacketHeadroom_lt : 256 < xdpFrameSize := by decide

def oneFrame : List XdpEvent :=
  [.kernel .takeFill, .kernel (.deliver 0 ⟨256, xdpPacketHeadroom_lt⟩ 200)]

theorem oneFrame_run (ctx : ThreadContext) (umem : List UInt8) (es : List XdpEvent) :
    ∃ fq, ((xdpThreads ctx.conf).run (XdpThreads.start fullBuild ctx umem) (oneFrame ++ es)).2 =
      .kernel :: ((xdpThreads ctx.conf).run
        ⟨ctx, umem, { xdpOpenSocket fullBuild ctx.conf with
          fq, kernelRx := [0 * xdpFrameSize + txMetadataRoom fullBuild ctx.conf] }, 0⟩
        (.kernel (.deliver 0 ⟨256, by decide⟩ 200) :: es)).2 := by
  obtain ⟨fq, hfq⟩ := xdpOpenSocket_takeFill fullBuild ctx.conf
  refine ⟨fq, ?_⟩
  rw [← hfq]
  rfl

/-- With the passes taking turns the frame goes out again. -/
theorem xdp_mirror_hand_over_turns :
    ∃ ctx, threadsCreate chachaInit xdpMirrorConfig .rtc defaultDestination = some ctx ∧
      ∀ umem, let out := ((xdpThreads ctx.conf).run (XdpThreads.start fullBuild ctx umem)
          ((oneFrame ++ [.rx plainRxPass]) ++ [.tx plainTxPass])).2
        queuedFrames out = [⟨256, 200⟩] ∧ submittedFrames out = [⟨256, 200⟩] := by
  obtain ⟨ctx, hc, hconf⟩ := xdpMirror_created
  refine ⟨ctx, hc, fun umem => ?_⟩
  have hm : ctx.conf.rxMirrorEnabled = true := by rw [hconf]; rfl
  have hwaiting : (xdpThreads ctx.conf).Along NoneWaiting (XdpThreads.start fullBuild ctx umem)
      (oneFrame ++ [.rx plainRxPass]) := ⟨trivial, trivial, rfl, trivial⟩
  have hall := (xdp_mirror_hand_over fullBuild ctx umem hm _ plainTxPass).1.mpr hwaiting
  obtain ⟨fq, hrun⟩ := oneFrame_run ctx umem [.rx plainRxPass, .tx plainTxPass]
  have hqueued : queuedFrames ((xdpThreads ctx.conf).run (XdpThreads.start fullBuild ctx umem)
      ((oneFrame ++ [.rx plainRxPass]) ++ [.tx plainTxPass])).2 = [⟨256, 200⟩] := by
    rw [List.append_assoc, List.singleton_append, hrun, hconf]
    rfl
  exact ⟨hqueued, hall.trans hqueued⟩

/-- A frame is received and queued. The next Rx pass finds nothing and overwrites the counter, so
the Tx pass submits nothing. -/
theorem xdp_mirror_hand_over_overwritten :
    configSanityCheck fullBuild xdpMirrorConfig = true ∧
    ∃ ctx, threadsCreate chachaInit xdpMirrorConfig .rtc defaultDestination = some ctx ∧
      ∀ umem, let out := ((xdpThreads ctx.conf).run (XdpThreads.start fullBuild ctx umem)
          (oneFrame ++ [.rx plainRxPass, .rx plainRxPass, .tx plainTxPass])).2
        queuedFrames out = [⟨256, 200⟩] ∧ submittedFrames out = [] := by
  obtain ⟨ctx, hc, hconf⟩ := xdpMirror_created
  refine ⟨by decide, ctx, hc, fun umem => ?_⟩
  obtain ⟨fq, hrun⟩ := oneFrame_run ctx umem [.rx plainRxPass, .rx plainRxPass, .tx plainTxPass]
  dsimp only
  rw [hrun, hconf]
  exact ⟨rfl, rfl⟩

end RtcTestbench
