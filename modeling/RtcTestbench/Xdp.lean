import RtcTestbench.Generator
import RtcTestbench.Lib.Machine
import RtcTestbench.Lib.XskRing

namespace RtcTestbench
open Machine XskRing
set_option autoImplicit true

def xdpBatchSize : Nat := 512

/-- `XDP_FRAME_SIZE`, the size of a UMEM chunk. -/
def xdpFrameSize : Nat := 4096

structure XdpDesc where
  addr : Nat
  len : Nat
  deriving DecidableEq, Repr

/-- The low 48 bits: in unaligned mode the upper ones are an offset. -/
def xskUmemExtractAddr (addr : Nat) : Nat := addr % 2 ^ 48

def xskUmemAddOffsetToAddr (addr : Nat) : Nat := xskUmemExtractAddr addr + addr / 2 ^ 48

/-- `struct xdp_socket` with its four rings, and the chunks the kernel holds: those it may receive
into and those it is sending. -/
structure XdpSocket where
  rx : Consumer XdpDesc
  tx : Producer XdpDesc
  fq : Producer Nat
  cq : Consumer Nat
  outstandingTx : UInt64
  kernelRx : List Nat
  kernelTx : List Nat

/-- One thing the kernel does: take a chunk from the fill ring, deliver a frame in one of its
chunks, take a descriptor from the Tx ring or complete one. -/
inductive KernelStep where
  | takeFill
  | deliver (i : Nat) (offset : Fin xdpFrameSize) (len : Nat)
  | takeTx
  | complete (i : Nat)

/-- A step that finds nothing to take, or no free slot, does nothing. -/
def kernelStep (xsk : XdpSocket) : KernelStep → XdpSocket
  | .takeFill =>
    match xsk.fq.take with
    | none => xsk
    | some (addr, fq) => { xsk with fq, kernelRx := xsk.kernelRx ++ [addr] }
  | .deliver i offset len =>
    match xsk.kernelRx[i]? with
    | none => xsk
    | some addr =>
      -- the kernel rounds the address down to the chunk and leaves its own headroom
      match xsk.rx.put ⟨addr / xdpFrameSize * xdpFrameSize + offset, len⟩ with
      | none => xsk
      | some rx => { xsk with rx, kernelRx := xsk.kernelRx.eraseIdx i }
  | .takeTx =>
    match xsk.tx.take with
    | none => xsk
    | some (desc, tx) => { xsk with tx, kernelTx := xsk.kernelTx ++ [desc.addr] }
  | .complete i =>
    match xsk.kernelTx[i]? with
    | none => xsk
    | some addr =>
      match xsk.cq.put addr with
      | none => xsk
      | some cq => { xsk with cq, kernelTx := xsk.kernelTx.eraseIdx i }

def kernelSteps (xsk : XdpSocket) (ks : List KernelStep) : XdpSocket := ks.foldl kernelStep xsk

/-- The first half of the UMEM area is for Rx: all its chunks go to the fill ring. -/
def xdpOpenSocket (build : BuildConfig) (conf : TrafficClassConfig) : XdpSocket where
  rx := Consumer.empty XdpDesc xskRingConsDefaultNumDescs
  tx := Producer.empty XdpDesc xskRingProdDefaultNumDescs
  fq :=
    { size := xskRingProdDefaultNumDescs
      reserved := []
      submitted := (List.range xskRingProdDefaultNumDescs).map fun i =>
        i * xdpFrameSize + txMetadataRoom build conf
      fits := by simp }
  cq := Consumer.empty Nat xskRingConsDefaultNumDescs
  outstandingTx := 0
  kernelRx := []
  kernelTx := []

def XdpSocket.reserveTx (descs : List XdpDesc) (xsk : XdpSocket) : Option XdpSocket :=
  (xsk.tx.reserve descs).map fun tx => { xsk with tx }

def XdpSocket.reserveFill (addrs : List Nat) (xsk : XdpSocket) : Option XdpSocket :=
  (xsk.fq.reserve addrs).map fun fq => { xsk with fq }

/-- `xsk_ring_prod__reserve` with a second attempt, the kernel being woken up before it. Every
attempt that fails logs a line. -/
def reserveRetry (thread : String) (reserve : XdpSocket → Option XdpSocket)
    (wakeup : List KernelStep) (xsk : XdpSocket) : XdpSocket × Bool × List LogMessage :=
  let line : LogMessage := ⟨.error, thread ++ ": xsk_ring_prod__reserve() failed\n"⟩
  match reserve xsk with
  | some xsk' => (xsk', true, [])
  | none =>
    let woken := kernelSteps xsk wakeup
    match reserve woken with
    | some xsk' => (xsk', true, [line])
    | none => (woken, false, [line, line])

/-- What an Rx pass meets: how much of the Rx ring it sees, what the kernel does before a second
attempt to reserve, and the surroundings of each frame. -/
structure XdpRxPass where
  visible : Nat
  wakeup : List KernelStep
  env : Nat → RxEnv

/-- What a Tx pass meets: what the kernel does once the frames are submitted, how much of the
completion ring the pass sees, and what the kernel does before a second attempt to reserve. -/
structure XdpTxPass where
  sendto : List KernelStep
  visible : Nat
  wakeup : List KernelStep

def xdpCompleteTx (xsk : XdpSocket) (p : XdpTxPass) : XdpSocket × List LogMessage :=
  let ndescs := xsk.outstandingTx
  if ndescs = 0 then (xsk, [])
  else
    let xsk := kernelSteps xsk p.sendto
    let addrs := xsk.cq.peek (ndescs.toNat % 2 ^ 32) p.visible
    let received := addrs.length
    if received = 0 then (xsk, [])
    else
      match reserveRetry "XdpTx" (XdpSocket.reserveFill addrs) p.wakeup xsk with
      | (xsk, false, logs) => (xsk, logs)
      | (xsk, true, logs) =>
        ({ xsk with
            fq := xsk.fq.submit received
            cq := xsk.cq.release received
            outstandingTx := xsk.outstandingTx - UInt64.ofNat received }, logs)

structure XdpThreads where
  ctx : ThreadContext
  umem : List UInt8
  xsk : XdpSocket
  receivedFrames : Nat

/-- The calls of `receive_function`, each on the memory from the packet on. Its result is not
looked at. -/
def receivePackets (env : Nat → RxEnv) : Nat → ThreadContext → List UInt8 → List XdpDesc →
    ThreadContext × List UInt8 × List RxReport
  | _, ctx, umem, [] => (ctx, umem, [])
  | i, ctx, umem, desc :: descs =>
    let packet := xskUmemAddOffsetToAddr desc.addr
    match receiveFrame (env i) ctx (umem.drop packet) desc.len with
    | .error _ => receivePackets env (i + 1) ctx umem descs
    | .ok acc =>
      let r := receivePackets env (i + 1) acc.ctx (umem.take packet ++ acc.frameData) descs
      (r.1, r.2.1, acc.report :: r.2.2)

/-- What a step shows: an Rx pass the number of frames it returns, the descriptors it put on the
Tx ring and its statistics calls; a Tx pass the descriptors it submitted and the arguments of
`stat_frames_sent_batch`; both what they log about the rings. -/
inductive XdpOutput where
  | kernel
  | received (received : Nat) (queued : List XdpDesc) (reports : List RxReport)
      (logs : List LogMessage)
  | sent (submitted : List XdpDesc) (batch : Option (UInt64 × Nat)) (logs : List LogMessage)

def xdpReceiveFrames (conf : TrafficClassConfig) (s : XdpThreads) (p : XdpRxPass) :
    XdpThreads × XdpOutput :=
  let descs := s.xsk.rx.peek xdpBatchSize p.visible
  let received := descs.length
  if received = 0 then (s, .received 0 [] [] [])
  else
    let origs := descs.map fun desc => xskUmemExtractAddr desc.addr
    let queued :=
      if conf.rxMirrorEnabled then origs.map fun orig => ⟨orig, conf.frameLength % 2 ^ 32⟩ else []
    -- with mirror the frames stay in their chunks and go out again, otherwise they are recycled
    let reserve :=
      if conf.rxMirrorEnabled then XdpSocket.reserveTx queued else XdpSocket.reserveFill origs
    match reserveRetry "XdpRx" reserve p.wakeup s.xsk with
    | (xsk, false, logs) => ({ s with xsk }, .received 0 [] [] logs)
    | (xsk, true, logs) =>
      let r := receivePackets p.env 0 s.ctx s.umem descs
      ({ s with
          ctx := r.1
          umem := r.2.1
          xsk := { xsk with
            rx := xsk.rx.release received
            fq := if conf.rxMirrorEnabled then xsk.fq else xsk.fq.submit received } },
        .received received queued r.2.2 logs)

def XdpOutput.count : XdpOutput → Nat
  | .received n _ _ _ => n
  | _ => 0

def XdpOutput.logs : XdpOutput → List LogMessage
  | .kernel => []
  | .received _ _ _ logs => logs
  | .sent _ _ logs => logs

/-- The part of `tc_xdp_rx_thread` under the mutex. -/
def tcXdpRxPass (conf : TrafficClassConfig) (s : XdpThreads) (p : XdpRxPass) :
    XdpThreads × XdpOutput :=
  let r := xdpReceiveFrames conf s p
  ({ r.1 with receivedFrames := r.2.count }, r.2)

/-- The part of `tc_xdp_tx_thread` under the mutex. -/
def tcXdpMirrorPass (s : XdpThreads) (p : XdpTxPass) : XdpThreads × XdpOutput :=
  let received := s.receivedFrames
  let sequenceCounter := s.ctx.rxSequenceCounter - UInt64.ofNat received
  let xsk := { s.xsk with
    tx := s.xsk.tx.submit received
    outstandingTx := s.xsk.outstandingTx + UInt64.ofNat received }
  let r := xdpCompleteTx xsk p
  ({ s with xsk := r.1, receivedFrames := 0 },
    .sent (s.xsk.tx.reserved.take received)
      (if 0 < received then some (sequenceCounter, received) else none) r.2)

inductive XdpEvent where
  | kernel (k : KernelStep)
  | rx (p : XdpRxPass)
  | tx (p : XdpTxPass)

/-- Both threads of a class and the kernel, in any order; the mutex makes every pass one step.
Without mirror the Tx thread sends frames of its own and touches neither the Rx half of the UMEM
area nor the hand-over. -/
def xdpThreads (conf : TrafficClassConfig) : System XdpThreads XdpEvent XdpOutput where
  step s
    | .kernel k => ({ s with xsk := kernelStep s.xsk k }, .kernel)
    | .rx p => tcXdpRxPass conf s p
    | .tx p => if conf.rxMirrorEnabled then tcXdpMirrorPass s p else (s, .kernel)

def XdpThreads.start (build : BuildConfig) (ctx : ThreadContext) (umem : List UInt8) :
    XdpThreads where
  ctx
  umem
  xsk := xdpOpenSocket build ctx.conf
  receivedFrames := 0

end RtcTestbench
