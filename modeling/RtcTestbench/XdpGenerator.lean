import RtcTestbench.TxLatency
import RtcTestbench.XdpUmem

namespace RtcTestbench
open Function Machine XskRing
set_option autoImplicit true

/-- A descriptor of a frame the generator sends. The kernel does not see the counter: it only tells
apart the frames that use a chunk one after the other. -/
structure TxDesc where
  addr : Nat
  len : Nat
  sequenceCounter : UInt64
  deriving DecidableEq

/-- The AF_XDP Tx thread without mirror: its locals and frames, the rings it uses, the descriptors
the kernel is sending and the metadata in front of each frame. -/
structure XdpGenerator where
  gen : Generator
  tx : Producer TxDesc
  cq : Consumer TxDesc
  kernelTx : List TxDesc
  outstandingTx : UInt64
  metadata : Nat → XskTxMetadata

/-- The kernel takes a descriptor from the Tx ring, or completes one that left at `hwTs`. -/
inductive TxKernelStep where
  | takeTx
  | complete (i : Nat) (hwTs : UInt64)

def XskTxMetadata.complete (m : XskTxMetadata) (hwTs : UInt64) : XskTxMetadata :=
  if m.timestamp then { m with txTimestamp := hwTs } else m

/-- A step that finds nothing to take, or no free slot, does nothing. -/
def XdpGenerator.kernelStep (s : XdpGenerator) : TxKernelStep → XdpGenerator
  | .takeTx =>
    match s.tx.take with
    | none => s
    | some (desc, tx) => { s with tx, kernelTx := s.kernelTx ++ [desc] }
  | .complete i hwTs =>
    match s.kernelTx[i]? with
    | none => s
    | some desc =>
      match s.cq.put desc with
      | none => s
      | some cq =>
        { s with
          cq
          kernelTx := s.kernelTx.eraseIdx i
          metadata := update s.metadata desc.addr ((s.metadata desc.addr).complete hwTs) }

def XdpGenerator.kernelSteps (s : XdpGenerator) (ks : List TxKernelStep) : XdpGenerator :=
  ks.foldl XdpGenerator.kernelStep s

/-- What a pass meets: whether frames are to be sent, the clock before the frames are prepared and
at each statistics call, what the kernel does during `sendto`, and how much of the completion ring
the pass sees. -/
structure XdpGenPass where
  framesAvailable : Bool
  now : UInt64
  sentNow : Nat → UInt64
  sendto : List TxKernelStep
  visible : Nat

def XdpGenPass.txPass (s : XdpGenerator) (p : XdpGenPass) : TxPass where
  framesAvailable := p.framesAvailable
  now := p.now
  freeDescriptors := min (s.tx.size - (s.tx.reserved.length + s.tx.submitted.length))
    xskRingProdDefaultNumDescs
  freeDescriptors_le := Nat.min_le_right _ _

/-- `tx_hwtstamp_mode` of the socket, in a build that has it. -/
def txHwtstampMode (build : BuildConfig) (conf : TrafficClassConfig) : Bool :=
  build.txTimestamp && conf.txHwtstampEnabled

def txDescs (room frameLength : Nat) : List Nat → UInt64 → List TxDesc
  | [], _ => []
  | number :: numbers, s =>
    ⟨number * xdpFrameSize + room, frameLength % 2 ^ 32, s⟩ :: txDescs room frameLength numbers
      (s + 1)

def XdpGenerator.descs (build : BuildConfig) (ctx : ThreadContext) (s : XdpGenerator) :
    List TxDesc :=
  txDescs (txMetadataRoom build ctx.conf) ctx.conf.frameLength
    (frameNumbers s.gen.frameNumber ctx.conf.numFramesPerCycle.toNat) s.gen.sequenceCounter

/-- The test of `xdp_gen_and_send_frames`, by the index in the batch. -/
def xdpWantsTimestamp (n i : Nat) : Bool := i = 0 || i = n - 1

/-- The metadata `xdp_prepare_tx_desc` leaves: the first and the last frame ask for a time. -/
def prepareMetadata (hwtstampMode : Bool) (n : Nat) :
    Nat → (Nat → XskTxMetadata) → List TxDesc → Nat → XskTxMetadata
  | _, metadata, [] => metadata
  | i, metadata, desc :: descs =>
    prepareMetadata hwtstampMode n (i + 1)
      (update metadata desc.addr ⟨hwtstampMode && xdpWantsTimestamp n i, 0⟩) descs

/-- `xdp_gen_and_send_frames` up to the kick, and whether there were descriptors for the frames.
Without them only the counter of the thread moves on. -/
def xdpSubmitFrames (build : BuildConfig) (monitor : Option MacAddress) (ctx : ThreadContext)
    (s : XdpGenerator) (p : XdpGenPass) : XdpGenerator × Bool :=
  let n := ctx.conf.numFramesPerCycle
  let gen := (tcGenAndSendXdpFrames build monitor ctx s.gen (p.txPass s)).1
  match s.tx.reserve (s.descs build ctx) with
  | none => ({ s with gen }, false)
  | some tx =>
    ({ s with
        gen
        tx := tx.submit n.toNat
        outstandingTx := s.outstandingTx + n
        metadata :=
          if 0 < txMetadataRoom build ctx.conf then
            prepareMetadata (txHwtstampMode build ctx.conf) n.toNat 0 s.metadata (s.descs build ctx)
          else s.metadata }, true)

/-- What is passed on to `xdp_process_tx_timestamp`, and what is given back to the ring. -/
structure Reaped (α : Type) where
  handed : List α
  released : List α

/-- Every entry with a time is passed on once before it is given back. -/
def Reaped.Exact (timestamped : α → Bool) (r : Reaped α) : Prop :=
  r.handed.filter timestamped = r.released.filter timestamped

/-- A completed descriptor with what its address leads to: the metadata and the frame. -/
structure CompletedDesc where
  desc : TxDesc
  completion : TxCompletion

def TxCompletion.timestamped : TxCompletion → Bool
  | .xdp metadata _ => metadata.timestamp
  | .packet _ _ => false

def TxCompletion.hwTs : TxCompletion → UInt64
  | .xdp metadata _ => metadata.txTimestamp
  | .packet hwTs _ => hwTs

/-- Where the Tx half of the UMEM area begins. -/
def txUmemStart : Nat := xskRingProdDefaultNumDescs * xdpFrameSize

def XdpGenerator.completed (s : XdpGenerator) (desc : TxDesc) : CompletedDesc :=
  ⟨desc, .xdp (s.metadata desc.addr) (s.gen.frames.drop (desc.addr - txUmemStart))⟩

/-- What `xsk_ring_cons__peek` returns in `xdp_complete_tx_only`, the ring being as it is. -/
def XdpGenerator.peek (s : XdpGenerator) (p : XdpGenPass) : List TxDesc :=
  s.cq.peek (s.outstandingTx.toNat % 2 ^ 32) p.visible

/-- Only the first entry is looked at, whatever their number. -/
def xdpCompleteTxOnly (hwtstampMode : Bool) (s : XdpGenerator) (p : XdpGenPass) :
    XdpGenerator × Reaped CompletedDesc :=
  if s.outstandingTx = 0 then (s, ⟨[], []⟩)
  else
    let s := s.kernelSteps p.sendto
    let descs := s.peek p
    let received := descs.length
    if received = 0 then (s, ⟨[], []⟩)
    else
      let completed := descs.map s.completed
      ({ s with
          cq := s.cq.release received
          outstandingTx := s.outstandingTx - UInt64.ofNat received },
        ⟨if hwtstampMode then completed.take 1 else [], completed⟩)

/-- The calls of `stat_frames_sent_batch` and `stat_frame_sent` after the kick. -/
def sentReports (hwtstampMode : Bool) (n sequenceCounterBegin : UInt64) (p : XdpGenPass) :
    List SentBatch :=
  if hwtstampMode then [⟨sequenceCounterBegin, n, p.sentNow 0⟩]
  else (List.range n.toNat).map fun i => ⟨sequenceCounterBegin + UInt64.ofNat i, 1, p.sentNow i⟩

structure XdpGenOutput where
  reaped : Reaped CompletedDesc
  sent : List SentBatch

def XdpGenOutput.nothing : XdpGenOutput := ⟨⟨[], []⟩, []⟩

/-- What is reported to the statistics, in this order: the completion first. -/
def XdpGenOutput.reports (o : XdpGenOutput) : List TimestampEvent :=
  (o.reaped.handed.map fun c => .completed c.completion) ++
    o.sent.map fun b => .sent b.cycleNumber b.frameCount b.txTime

def tcXdpGenPass (build : BuildConfig) (monitor : Option MacAddress) (ctx : ThreadContext)
    (s : XdpGenerator) (p : XdpGenPass) : XdpGenerator × XdpGenOutput :=
  if tcWaitForTxCycle ctx (p.txPass s) = 0 then (s, .nothing)
  else
    let submitted := xdpSubmitFrames build monitor ctx s p
    let r := xdpCompleteTxOnly (txHwtstampMode build ctx.conf) submitted.1 p
    (r.1, ⟨r.2,
      if submitted.2 then
        sentReports (txHwtstampMode build ctx.conf) ctx.conf.numFramesPerCycle
          s.gen.sequenceCounter p
      else []⟩)

inductive XdpGenEvent where
  | kernel (k : TxKernelStep)
  | pass (p : XdpGenPass)

/-- The Tx thread and the kernel, in any order. -/
def xdpGenerator (build : BuildConfig) (monitor : Option MacAddress) (ctx : ThreadContext) :
    System XdpGenerator XdpGenEvent XdpGenOutput where
  step s
    | .kernel k => (s.kernelStep k, .nothing)
    | .pass p => tcXdpGenPass build monitor ctx s p

def XdpGenerator.start (build : BuildConfig) (ctx : ThreadContext) (umem : List UInt8)
    (metadata : Nat → XskTxMetadata) : XdpGenerator where
  gen := Generator.start build ctx umem
  tx := Producer.empty TxDesc xskRingProdDefaultNumDescs
  cq := Consumer.empty TxDesc xskRingConsDefaultNumDescs
  kernelTx := []
  outstandingTx := 0
  metadata

/-- The entries the peek of a pass will show. -/
def XdpGenerator.peeked (build : BuildConfig) (monitor : Option MacAddress) (ctx : ThreadContext)
    (s : XdpGenerator) (p : XdpGenPass) : List CompletedDesc :=
  if tcWaitForTxCycle ctx (p.txPass s) = 0 then []
  else
    let submitted := (xdpSubmitFrames build monitor ctx s p).1
    if submitted.outstandingTx = 0 then []
    else
      let kicked := submitted.kernelSteps p.sendto
      (kicked.peek p).map kicked.completed

/-- What `xdp_complete_tx` passes on and gives back, `timestamped` being the addresses with the flag
in their metadata. It looks at every entry, and keeps them if the fill ring has no room. -/
def xdpCompleteTxReaped (hwtstampMode : Bool) (timestamped : Nat → Bool) (xsk : XdpSocket)
    (p : XdpTxPass) : Reaped Nat :=
  let ndescs := xsk.outstandingTx
  if ndescs = 0 then ⟨[], []⟩
  else
    let xsk := kernelSteps xsk p.sendto
    let addrs := xsk.cq.peek (ndescs.toNat % 2 ^ 32) p.visible
    if addrs.length = 0 then ⟨[], []⟩
    else
      let handed := if hwtstampMode then addrs.filter timestamped else []
      match reserveRetry "XdpTx" (XdpSocket.reserveFill addrs) p.wakeup xsk with
      | (_, false, _) => ⟨handed, []⟩
      | (_, true, _) => ⟨handed, addrs⟩

def tcXdpMirrorReaped (hwtstampMode : Bool) (timestamped : Nat → Bool) (s : XdpThreads)
    (p : XdpTxPass) : Reaped Nat :=
  xdpCompleteTxReaped hwtstampMode timestamped { s.xsk with
    tx := s.xsk.tx.submit s.receivedFrames
    outstandingTx := s.xsk.outstandingTx + UInt64.ofNat s.receivedFrames } p

variable {build : BuildConfig} {monitor : Option MacAddress} {ctx : ThreadContext}

theorem tcXdpGenPass_reaped (s : XdpGenerator) (p : XdpGenPass) :
    (tcXdpGenPass build monitor ctx s p).2.reaped =
      ⟨if txHwtstampMode build ctx.conf then (s.peeked build monitor ctx p).take 1 else [],
        s.peeked build monitor ctx p⟩ := by
  simp only [tcXdpGenPass, XdpGenerator.peeked]
  split
  · simp [XdpGenOutput.nothing]
  · simp only [xdpCompleteTxOnly]
    split
    · simp
    · split
      · rename_i hempty
        simp [List.eq_nil_of_length_eq_zero hempty]
      · rfl

theorem filter_take_one (f : α → Bool) (xs : List α) :
    (xs.take 1).filter f = xs.filter f ↔ ∀ x ∈ xs.tail, f x = false := by
  cases xs with
  | nil => simp
  | cons x xs =>
    have hnil : [] = xs.filter f ↔ ∀ y ∈ xs, f y = false := by
      rw [eq_comm, List.filter_eq_nil_iff]
      simp only [Bool.not_eq_true]
    rw [List.take_succ_cons, List.take_zero, List.filter_cons, List.filter_cons, List.filter_nil,
      List.tail_cons]
    split
    · rw [List.cons.injEq, hnil]
      simp
    · exact hnil

theorem xdpCompleteTxReaped_exact {xsk : XdpSocket} (h : UmemInv xsk) (timestamped : Nat → Bool)
    (p : XdpTxPass) : (xdpCompleteTxReaped true timestamped xsk p).Exact timestamped := by
  unfold xdpCompleteTxReaped
  dsimp only
  split
  · rfl
  · have hsent := h.kernelSteps p.sendto
    generalize kernelSteps xsk p.sendto = sent at hsent
    split
    · rfl
    · obtain ⟨fq, -, hreserve⟩ := hsent.refill (xsk.outstandingTx.toNat % 2 ^ 32) p.visible
      rw [reserveRetry_of_some hreserve]
      simp [Reaped.Exact]

/-- The mirror passes on every completion with a time exactly once. The generator does so exactly
as long as no peek shows one behind its first entry. -/
theorem completions_handed (hmode : txHwtstampMode build ctx.conf = true) :
    (ctx.conf.rxMirrorEnabled = true → ∀ umem es p timestamped,
      (tcXdpMirrorReaped (txHwtstampMode build ctx.conf) timestamped
        ((xdpThreads ctx.conf).run (XdpThreads.start build ctx umem) es).1 p).Exact timestamped) ∧
    ∀ (s : XdpGenerator) (es : List XdpGenEvent),
      (∀ o ∈ ((xdpGenerator build monitor ctx).run s es).2,
        o.reaped.Exact fun c => c.completion.timestamped) ↔
      (xdpGenerator build monitor ctx).Along (fun s e => ∀ p, e = .pass p →
        ∀ c ∈ (s.peeked build monitor ctx p).tail, c.completion.timestamped = false) s es := by
  constructor
  · intro hm umem es p timestamped
    rw [hmode]
    have hinv := xdpThreads_inv build ctx umem es
    exact xdpCompleteTxReaped_exact (hinv.umem.submit (hinv.covered hm)) timestamped p
  · intro s es
    induction es generalizing s with
    | nil => exact iff_of_true (List.forall_mem_nil _) trivial
    | cons e es ih =>
      rw [System.run_cons, List.forall_mem_cons, System.Along, ih]
      apply and_congr_left'
      cases e with
      | kernel k =>
        apply iff_of_true rfl
        intro p hp
        cases hp
      | pass p =>
        have hstep : ((xdpGenerator build monitor ctx).step s (.pass p)).2.reaped = _ :=
          tcXdpGenPass_reaped s p
        rw [hmode, if_pos rfl] at hstep
        rw [hstep, Reaped.Exact, filter_take_one]
        constructor
        · rintro h p' hp'
          cases hp'
          exact h
        · intro h
          exact h p rfl

def stampedConfig (numFramesPerCycle : UInt64) : AppConfig :=
  (configSetDefaults false).setClass .genericL2 fun c =>
    { c with enabled := true, xdpEnabled := true, numFramesPerCycle, txHwtstampEnabled := true }

def stampedContext (numFramesPerCycle : UInt64) : ThreadContext :=
  { l2Context 0xb62c with conf := (stampedConfig numFramesPerCycle).classes .genericL2 }

/-- A pass at time `t` in which the kernel does this. -/
def kickedPass (t : UInt64) (sendto : List TxKernelStep) : XdpGenPass :=
  ⟨true, t, fun _ => t, sendto, sendto.length⟩

def freshGenerator (numFramesPerCycle : UInt64) : XdpGenerator :=
  .start fullBuild (stampedContext numFramesPerCycle) [] fun _ => ⟨false, 0⟩

theorem completions_handed_one :
    configSanityCheck fullBuild (stampedConfig 1) = true ∧
    ∀ o ∈ ((xdpGenerator fullBuild none (stampedContext 1)).run (freshGenerator 1)
        [.pass (kickedPass 1000 [.takeTx, .complete 0 2000])]).2,
      o.reaped.Exact fun c => c.completion.timestamped := by
  refine ⟨by decide +kernel, ?_⟩
  apply ((completions_handed (by decide)).2 _ _).mpr
  refine ⟨?_, trivial⟩
  rintro p hp c hc
  cases hp
  have htail : (((freshGenerator 1).peeked fullBuild none (stampedContext 1)
      (kickedPass 1000 [.takeTx, .complete 0 2000])).tail).length = 0 := by decide +kernel
  rw [List.eq_nil_of_length_eq_zero htail] at hc
  cases hc

/-- Two completions in one peek, both with a time: the second is given back unseen. -/
theorem completions_handed_two :
    configSanityCheck fullBuild (stampedConfig 1) = true ∧
    ∃ o ∈ ((xdpGenerator fullBuild none (stampedContext 1)).run (freshGenerator 1)
        [.pass (kickedPass 1000 []),
          .pass (kickedPass 2000 [.takeTx, .takeTx, .complete 0 3000, .complete 0 4000])]).2,
      (o.reaped.handed.filter fun c => c.completion.timestamped).length = 1 ∧
      (o.reaped.released.filter fun c => c.completion.timestamped).length = 2 := by
  have h : (((xdpGenerator fullBuild none (stampedContext 1)).run (freshGenerator 1)
        [.pass (kickedPass 1000 []),
          .pass (kickedPass 2000 [.takeTx, .takeTx, .complete 0 3000, .complete 0 4000])]).2.map
      fun o => ((o.reaped.handed.filter fun c => c.completion.timestamped).length,
        (o.reaped.released.filter fun c => c.completion.timestamped).length)) =
      [(0, 0), (1, 2)] := by
    decide +kernel
  have hmem : (1, 2) ∈ [(0, 0), (1, 2)] := by simp
  rw [← h] at hmem
  obtain ⟨o, ho, heq⟩ := List.mem_map.mp hmem
  rw [Prod.mk.injEq] at heq
  exact ⟨by decide, o, ho, heq⟩

end RtcTestbench
