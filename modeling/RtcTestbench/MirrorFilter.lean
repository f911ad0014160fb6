import RtcTestbench.Mirror
import RtcTestbench.XdpTraffic

namespace RtcTestbench
open Buffer Machine DropOldest XskRing
set_option autoImplicit true

/-- The frame sent has the addresses of the received one, exchanged. -/
def Reflects (received sent : List UInt8) : Prop :=
  slice sent 0 12 = slice received 6 6 ++ slice received 0 6

def setMirrorTxTimestamp (conf : TrafficClassConfig) (frameData : List UInt8)
    (frameSize numFrames metaDataOffset : Nat) (now : UInt64) : List UInt8 :=
  if conf.securityMode ≠ .none then frameData
  else (List.range numFrames).foldl
    (fun data i => txTimestampToMetaData data (i * frameSize + metaDataOffset) now) frameData

inductive PacketMirrorEvent where
  | rx (r : Reception)
  | tx (now : UInt64)

/-- The mirroring pass of `tc_tx_thread`: the frames that `tc_send_frames` sends. -/
def tcMirrorPass (ctx : ThreadContext) (now : UInt64) : ThreadContext × List (List UInt8) :=
  let fetched := ringBufferFetch ctx.mirrorBuffer (ctx.conf.mirrorSize % 2 ^ 64)
  let frameLength := ctx.conf.frameLength
  let numFrames := fetched.2.length / frameLength
  let frameData := setMirrorTxTimestamp ctx.conf fetched.2 frameLength numFrames
    ctx.metaDataOffset now
  ({ ctx with mirrorBuffer := fetched.1 },
    (List.range numFrames).map fun i => slice frameData (i * frameLength) frameLength)

/-- Both threads of a class on AF_PACKET. `packet_receive_messages` does not look at what the
receive function returns. -/
def packetMirror : System ThreadContext PacketMirrorEvent (List (List UInt8)) where
  step ctx
    | .rx r => ((rxSystem.step ctx r).1, [])
    | .tx now => tcMirrorPass ctx now

/-- A class that mirrors through the buffer. -/
structure MirrorsByCopy (ctx : ThreadContext) : Prop where
  receiver : ctx.VlanReceiver
  mirror : ctx.conf.rxMirrorEnabled = true
  packet : ctx.conf.xdpEnabled = false
  untagged : ctx.etherType ≠ ethP8021Q
  room : ctx.conf.frameLength ≤ ctx.conf.mirrorSize

/-- A frame that has passed the filter of the socket: the tag is gone and the protocol is the one of
the class. `new_frame` has its size. -/
structure Reception.PassesFilter (ctx : ThreadContext) (r : Reception) : Prop where
  proto : be16At r.frameData 12 = ctx.etherType
  room : r.len ≤ r.frameData.length
  newFrame : r.env.newFrame.length = maxFrameSize

def PacketFed (ctx : ThreadContext) : PacketMirrorEvent → Prop
  | .rx r => r.PassesFilter ctx ∧ (ctx.Accepts r.frameData r.len →
      MirrorAligned ctx.conf ctx.mirrorBuffer (.rx r.frameData))
  | .tx _ => True

/-- The frames of a run that the receive function accepts. -/
def acceptedFrames (ctx : ThreadContext) (es : List PacketMirrorEvent) : List (List UInt8) :=
  es.filterMap fun
    | .rx r => if ctx.Accepts r.frameData r.len then some (slice r.frameData 0 r.len) else none
    | .tx _ => none

variable {ctx ctx' : ThreadContext} {conf : TrafficClassConfig} {frameData sent : List UInt8}
  {pending : List (List UInt8)} {now : UInt64} {r : Reception}

theorem slice_setMirrorTxTimestamp (hfit : off + 16 ≤ size) (hk : k ≤ off + 8) (numFrames j : Nat)
    (now : UInt64) :
    slice (setMirrorTxTimestamp conf frameData size numFrames off now) (j * size) k =
      slice frameData (j * size) k := by
  rw [setMirrorTxTimestamp]
  split
  · rfl
  generalize List.range numFrames = is
  induction is generalizing frameData with
  | nil => rfl
  | cons i is ih =>
    rw [List.foldl_cons, ih]
    apply slice_txTimestampToMetaData
    rcases Nat.lt_or_ge i j with hlt | hle
    · have hnext := Nat.mul_le_mul_right size (Nat.succ_le_of_lt hlt)
      rw [Nat.succ_mul] at hnext
      omega
    · have hsame := Nat.mul_le_mul_right size hle
      omega

/-- The time stamps do not touch the addresses. -/
theorem tcMirrorPass_addresses (h : ctx.VlanReceiver) (now : UInt64) :
    (tcMirrorPass ctx now).1.mirrorBuffer = (mirrorTxPass ctx.conf ctx.mirrorBuffer).1 ∧
      (tcMirrorPass ctx now).2.map (slice · 0 12) =
        (mirrorTxPass ctx.conf ctx.mirrorBuffer).2.map (slice · 0 12) := by
  obtain ⟨hfits, hbehind, -⟩ := h.metaData_fits []
  refine ⟨rfl, ?_⟩
  simp only [tcMirrorPass, mirrorTxPass, List.map_map]
  apply List.map_congr_left
  intro i _
  rw [Function.comp_apply, Function.comp_apply, slice_slice _ (by omega), slice_slice _ (by omega),
    Nat.add_zero]
  exact slice_setMirrorTxTimestamp hfits (by omega) _ i now

theorem reflects_reflectFrame (h : 12 ≤ sent.length) (vlanTci : UInt16) :
    Reflects sent (reflectFrame vlanTci sent) := by
  have hdst : (slice sent 6 6).length = 6 := length_slice (by omega)
  have hsrc : (slice sent 0 6).length = 6 := length_slice (by omega)
  have hboth : (slice sent 6 6 ++ slice sent 0 6).length = 12 := by
    rw [List.length_append, hdst, hsrc]
  have hfull := slice_full (slice sent 6 6 ++ slice sent 0 6)
  rw [hboth] at hfull
  rw [Reflects, reflectFrame, List.append_assoc, List.append_assoc,
    slice_append_left _ _ (Nat.le_of_eq hboth.symm), hfull]

theorem Reception.PassesFilter.untagged (hr : r.PassesFilter ctx)
    (h : ctx.etherType ≠ ethP8021Q) : vlanTagMissing r.frameData = true := by
  rw [vlanTagMissing, hr.proto]
  exact bne_iff_ne.mpr h

/-- What an accepted frame adds to the buffer: the reflection of the frame as it was decoded. -/
theorem receiveFrame_stored (h : ctx.VlanReceiver) (hm : ctx.conf.rxMirrorEnabled = true)
    (hx : ctx.conf.xdpEnabled = false) (hmissing : vlanTagMissing r.frameData = true)
    (hr : r.PassesFilter ctx) (hok : receiveFrame r.env ctx r.frameData r.len = .ok acc) :
    ∃ d, DecodeKeeps ctx r.frameData r.len d ∧
      acc.ctx.mirrorBuffer = ringBufferAdd ctx.mirrorBuffer
        (reflectFrame ctx.conf.vlanTci (slice d.frameData 0 r.len)) := by
  have hacc := (receiveFrame_accepts_iff h r.env r.frameData r.len).mp ⟨acc, hok⟩
  obtain ⟨name, d, idMismatch, hd, hok'⟩ := receiveFrame_vlan h r.env hacc
  cases hok.symm.trans hok'
  have hlen := hacc.length
  obtain ⟨-, hbehind, hshift⟩ := h.metaData_fits r.frameData
  rw [hmissing, if_pos rfl] at hlen hshift
  have hlong := hacc.1
  have hmax := h.counted.fits_chunk
  have hbuf := hd.length_eq
  have hroom := hr.room
  have hether : ctx.etherType = be16At d.frameData 12 := by
    rw [← hr.proto, be16At, be16At, hd.keeps 12 2 (by omega)]
  refine ⟨d, hd, ?_⟩
  rw [storeVlanFrame_packet _ _ _ _ hm hx, hether,
    ← slice_copied (by omega) (by omega) (by omega) hr.newFrame]
  rfl

theorem receiveFrame_copied (h : MirrorsByCopy ctx) {r : Reception} (hr : r.PassesFilter ctx)
    (hok : receiveFrame r.env ctx r.frameData r.len = .ok acc) :
    ∃ stored, acc.ctx.mirrorBuffer = ringBufferAdd ctx.mirrorBuffer stored ∧
      stored.length = ctx.conf.frameLength ∧ Reflects (slice r.frameData 0 r.len) stored := by
  have hacc := (receiveFrame_accepts_iff h.receiver r.env r.frameData r.len).mp ⟨acc, hok⟩
  have hmissing := hr.untagged h.untagged
  obtain ⟨d, hd, hstored⟩ := receiveFrame_stored h.receiver h.mirror h.packet hmissing hr hok
  have hlen := hacc.length
  obtain ⟨-, hbehind, hshift⟩ := h.receiver.metaData_fits r.frameData
  rw [hmissing, if_pos rfl] at hlen hshift
  have hlong := hacc.1
  have hbuf := hd.length_eq
  have hroom := hr.room
  have hframe : (slice d.frameData 0 r.len).length = r.len := length_slice (by omega)
  refine ⟨_, hstored, ?_, ?_⟩
  · rw [length_reflectFrame (by omega), hframe, hlen]
  · have hreflects := @reflects_reflectFrame (slice d.frameData 0 r.len) (by omega) ctx.conf.vlanTci
    have hkeeps (i k : Nat) (hi : i + k ≤ 12) :
        slice (slice d.frameData 0 r.len) i k = slice (slice r.frameData 0 r.len) i k := by
      rw [slice_slice _ (by omega), slice_slice _ (by omega), hd.keeps _ _ (by omega)]
    rw [Reflects, hkeeps 6 6 (by omega), hkeeps 0 6 (by omega)] at hreflects
    exact hreflects

/-- The buffer holds whole frames, and these are reflections of the frames `pending`. -/
structure PacketInv (ctx : ThreadContext) (pending : List (List UInt8)) : Prop where
  mirrors : MirrorsByCopy ctx
  holds : ∃ q, HoldsFrames ctx.conf ctx.mirrorBuffer q ∧
    q.contents.map (slice · 0 12) = pending.map fun f => slice f 6 6 ++ slice f 0 6

theorem MirrorsByCopy.sameClass (h : MirrorsByCopy ctx) (hs : ctx.SameClass ctx') :
    MirrorsByCopy ctx' := by
  refine ⟨hs.vlanReceiver h.receiver, ?_, ?_, ?_, ?_⟩
  · rw [hs.conf_eq]
    exact h.mirror
  · rw [hs.conf_eq]
    exact h.packet
  · rw [ThreadContext.etherType, hs.frameType_eq, hs.conf_eq]
    exact h.untagged
  · rw [hs.conf_eq]
    exact h.room

/-- An accepted frame joins those that wait; the oldest ones may have to go. -/
theorem PacketInv.accepted (h : PacketInv ctx pending) {r : Reception}
    (hf : PacketFed ctx (.rx r)) (hok : receiveFrame r.env ctx r.frameData r.len = .ok acc) :
    ∃ pending', PacketInv acc.ctx pending' ∧
      pending'.Sublist (pending ++ [slice r.frameData 0 r.len]) := by
  have hsame := (receiveFrame_checked hok).sameClass
  obtain ⟨stored, hadd, hlen, hreflects⟩ := receiveFrame_copied h.mirrors hf.1 hok
  obtain ⟨q, hholds, hq⟩ := h.holds
  obtain ⟨hfits, hbehind, -⟩ := h.mirrors.receiver.metaData_fits []
  have hpos : 0 < ctx.conf.frameLength := by omega
  have hone : [stored].length ≤ ctx.conf.mirrorSize / ctx.conf.frameLength := by
    apply (Nat.le_div_iff_mul_le hpos).mpr
    rw [List.length_singleton, Nat.one_mul]
    exact h.mirrors.room
  have hacc := (receiveFrame_accepts_iff h.mirrors.receiver r.env _ _).mp ⟨acc, hok⟩
  have hnext := hholds.rx hpos h.mirrors.room hlen (hf.2 hacc)
  have hall : (q.contents ++ [stored]).map (slice · 0 12) =
      (pending ++ [slice r.frameData 0 r.len]).map fun f => slice f 6 6 ++ slice f 0 6 := by
    rw [List.map_append, List.map_append, hq]
    exact congrArg (_ ++ [·]) hreflects
  have hcontents := q.add_contents hone
  rw [lastN] at hcontents
  generalize (q.contents ++ [stored]).length - _ = k at hcontents
  refine ⟨(pending ++ [slice r.frameData 0 r.len]).drop k, ⟨h.mirrors.sameClass hsame, ?_⟩,
    List.drop_sublist _ _⟩
  rw [hsame.conf_eq, hadd]
  refine ⟨_, hnext, ?_⟩
  rw [hcontents, List.map_drop, hall, List.map_drop]

theorem PacketInv.txPass (h : PacketInv ctx pending) (now : UInt64) :
    PacketInv (tcMirrorPass ctx now).1 [] ∧
      (tcMirrorPass ctx now).2.map (slice · 0 12) =
        pending.map fun f => slice f 6 6 ++ slice f 0 6 := by
  obtain ⟨q, hholds, hq⟩ := h.holds
  obtain ⟨hfits, hbehind, -⟩ := h.mirrors.receiver.metaData_fits []
  obtain ⟨hbuffer, hsent⟩ := tcMirrorPass_addresses h.mirrors.receiver now
  obtain ⟨hholds', hblocks⟩ := hholds.tx (show 0 < ctx.conf.frameLength by omega)
  have hsame : ctx.SameClass (tcMirrorPass ctx now).1 := ⟨rfl, rfl, rfl, rfl, rfl⟩
  refine ⟨⟨h.mirrors.sameClass hsame, _, hholds', ?_⟩, ?_⟩
  · rw [q.fetch_all_contents]
    rfl
  · rw [hsent, hblocks, q.fetch_all, hq]

theorem acceptedFrames_rx (ctx : ThreadContext) (r : Reception) (es : List PacketMirrorEvent) :
    acceptedFrames ctx (.rx r :: es) =
      (if ctx.Accepts r.frameData r.len then [slice r.frameData 0 r.len] else []) ++
        acceptedFrames ctx es := by
  rw [acceptedFrames, List.filterMap_cons]
  by_cases ha : ctx.Accepts r.frameData r.len
  · simp only [if_pos ha]
    rfl
  · simp only [if_neg ha]
    rfl

theorem acceptedFrames_same (hs : ctx.SameClass ctx') (es : List PacketMirrorEvent) :
    acceptedFrames ctx' es = acceptedFrames ctx es := by
  apply List.filterMap_congr
  intro e _
  cases e with
  | rx r => simp only [hs.accepts]
  | tx now => rfl

theorem packetMirror_run (es : List PacketMirrorEvent) (h : PacketInv ctx pending)
    (ha : packetMirror.Along PacketFed ctx es) :
    ∃ kept : List (List UInt8), kept.Sublist (pending ++ acceptedFrames ctx es) ∧
      (packetMirror.run ctx es).2.flatten.map (slice · 0 12) =
        kept.map fun f => slice f 6 6 ++ slice f 0 6 := by
  induction es generalizing ctx pending with
  | nil => exact ⟨[], List.nil_sublist _, rfl⟩
  | cons e es ih =>
    cases e with
    | tx now =>
      obtain ⟨hinv, hsent⟩ := h.txPass now
      obtain ⟨kept, hsub, hrest⟩ := ih hinv ha.2
      have hsame : ctx.SameClass (tcMirrorPass ctx now).1 := ⟨rfl, rfl, rfl, rfl, rfl⟩
      rw [List.nil_append, acceptedFrames_same hsame] at hsub
      refine ⟨pending ++ kept, hsub.append_left pending, ?_⟩
      rw [System.run_cons, List.flatten_cons, List.map_append, List.map_append, ← hrest]
      exact congrArg (· ++ _) hsent
    | rx r =>
      have hrun : (packetMirror.run ctx (.rx r :: es)).2.flatten =
          (packetMirror.run (rxSystem.step ctx r).1 es).2.flatten := rfl
      have hrest := ha.2
      change packetMirror.Along PacketFed (rxSystem.step ctx r).1 es at hrest
      rw [hrun]
      cases hr : receiveFrame r.env ctx r.frameData r.len with
      | error message =>
        have hnot : ¬ ctx.Accepts r.frameData r.len := by
          rw [← receiveFrame_accepts_iff h.mirrors.receiver r.env]
          rintro ⟨acc, hok⟩
          cases hr.symm.trans hok
        rw [rxSystem_step_error hr] at hrest ⊢
        obtain ⟨kept, hsub, hsent⟩ := ih h hrest
        refine ⟨kept, ?_, hsent⟩
        rwa [acceptedFrames_rx, if_neg hnot]
      | ok acc =>
        have hacc := (receiveFrame_accepts_iff h.mirrors.receiver r.env _ _).mp ⟨acc, hr⟩
        rw [rxSystem_step_ok hr] at hrest ⊢
        obtain ⟨pending', hinv, hpending⟩ := h.accepted ha.1 hr
        obtain ⟨kept, hsub, hsent⟩ := ih hinv hrest
        rw [acceptedFrames_same (receiveFrame_checked hr).sameClass] at hsub
        refine ⟨kept, hsub.trans ?_, hsent⟩
        rw [acceptedFrames_rx, if_pos hacc, ← List.append_assoc]
        exact hpending.append_right _

/-- A frame that is refused leaves no trace. -/
theorem packetMirror_refused (ctx : ThreadContext) (past rest : List PacketMirrorEvent)
    {r : Reception} (hr : receiveFrame r.env (packetMirror.run ctx past).1 r.frameData r.len =
      .error message) :
    (packetMirror.run ctx (past ++ .rx r :: rest)).2.flatten =
      (packetMirror.run ctx (past ++ rest)).2.flatten := by
  have hstep : packetMirror.step (packetMirror.run ctx past).1 (.rx r) =
      ((packetMirror.run ctx past).1, []) := by
    change ((rxSystem.step _ r).1, []) = _
    rw [rxSystem_step_error hr]
  rw [System.run_append, System.run_append, System.run_cons, hstep, List.flatten_append,
    List.flatten_append, List.flatten_cons, List.nil_append]

theorem MirroredFrame.reflects {f : FoundFrame} (h : MirroredFrame ctx f sent)
    (ha : ctx.Accepts f.bytes f.bytes.length) : Reflects f.bytes sent := by
  have haccepted : f.accepted = true := by
    rw [h.verdict]
    exact decide_eq_true ha
  rw [Reflects, show 12 = 6 + 6 from rfl, slice_add, h.destination haccepted, h.source haccepted]

theorem MirroredFrame.unchanged {f : FoundFrame} (h : MirroredFrame ctx f sent)
    (ha : ¬ ctx.Accepts f.bytes f.bytes.length) :
    sent.take f.bytes.length = f.bytes.take sent.length := by
  apply h.refused
  rw [h.verdict]
  exact decide_eq_false ha

/-- Through the buffer, the frames sent reflect accepted ones. -/
theorem packetMirror_sent (h : MirrorsByCopy ctx)
    (hempty : Represents ctx.mirrorBuffer (Queue.empty : Queue UInt8 ctx.conf.mirrorSize))
    (es : List PacketMirrorEvent) (ha : packetMirror.Along PacketFed ctx es) :
    ∃ kept, List.Sublist kept (acceptedFrames ctx es) ∧
      List.Forall₂ Reflects kept (packetMirror.run ctx es).2.flatten := by
  have hinv : PacketInv ctx [] :=
    ⟨h, Queue.empty, ⟨_, hempty, rfl, fun _ hx => absurd hx List.not_mem_nil⟩, rfl⟩
  obtain ⟨kept, hsub, hsent⟩ := packetMirror_run es hinv ha
  refine ⟨kept, hsub, ?_⟩
  rw [eq_comm, ← List.forall₂_eq_eq_eq, List.forall₂_map_left_iff,
    List.forall₂_map_right_iff] at hsent
  exact hsent.imp fun f sent hf => hf.symm

/-- In place, the frames sent are the frames found. -/
theorem xdpTraffic_sent (h : MirrorsInPlace ctx umem) (build : BuildConfig)
    (es : List XdpTrafficEvent)
    (ha : (xdpTraffic ctx.conf).Along (InChunk ctx.conf) (XdpThreads.start build ctx umem) es) :
    let t := allTraffic ((xdpTraffic ctx.conf).run (XdpThreads.start build ctx umem) es).2
    List.Forall₂ (MirroredFrame ctx) (t.found.take t.sent.length) t.sent := by
  intro t
  obtain ⟨mirrored, hmoved, hall⟩ := (xdpTraffic_run h.mirror h.xdp es (h.start build) ha).moved
  change mirrored = t.sent ++ _ at hmoved
  rw [hmoved] at hall
  exact List.forall₂_take_append _ _ _ hall

theorem reflects_iff_accepted {received : List FoundFrame} {sent : List (List UInt8)}
    (h : List.Forall₂ (MirroredFrame ctx) received sent) :
    List.Forall₂ (fun f sent => ctx.Accepts f.bytes f.bytes.length ∧ Reflects f.bytes sent)
        received sent ↔
      ∀ f ∈ received, ctx.Accepts f.bytes f.bytes.length := by
  constructor
  · intro hboth
    exact ((List.forall₂_and_left _ _).mp hboth).1
  · intro haccepts
    have hboth := (List.forall₂_and_left _ _).mpr ⟨haccepts, h⟩
    exact hboth.imp fun f sent hf => ⟨hf.1, hf.2.reflects hf.1⟩

/-- On AF_PACKET a frame that is refused changes nothing that is sent, and the frames sent reflect
accepted ones, in order and each at most once, as long as the buffer is aligned. On AF_XDP the
frames sent are the frames found, and they reflect accepted ones exactly if all of these are
accepted: the others are sent as they came. -/
theorem only_accepted_mirrored (hcopy : MirrorsByCopy ctx)
    (hempty : Represents ctx.mirrorBuffer (Queue.empty : Queue UInt8 ctx.conf.mirrorSize))
    (hplace : MirrorsInPlace ctx' umem) (build : BuildConfig) :
    (∀ past rest r message,
      receiveFrame r.env (packetMirror.run ctx past).1 r.frameData r.len = .error message →
        (packetMirror.run ctx (past ++ .rx r :: rest)).2.flatten =
          (packetMirror.run ctx (past ++ rest)).2.flatten) ∧
    (∀ es, packetMirror.Along PacketFed ctx es →
      ∃ kept, List.Sublist kept (acceptedFrames ctx es) ∧
        List.Forall₂ Reflects kept (packetMirror.run ctx es).2.flatten) ∧
    ∀ es, (xdpTraffic ctx'.conf).Along (InChunk ctx'.conf) (XdpThreads.start build ctx' umem) es →
      let t := allTraffic ((xdpTraffic ctx'.conf).run (XdpThreads.start build ctx' umem) es).2
      let received := t.found.take t.sent.length
      received.length = t.sent.length ∧
      (List.Forall₂ (fun f sent => ctx'.Accepts f.bytes f.bytes.length ∧ Reflects f.bytes sent)
          received t.sent ↔
        ∀ f ∈ received, ctx'.Accepts f.bytes f.bytes.length) ∧
      List.Forall₂ (fun f sent => ¬ ctx'.Accepts f.bytes f.bytes.length →
        sent.take f.bytes.length = f.bytes.take sent.length) received t.sent := by
  refine ⟨fun past rest r message => packetMirror_refused ctx past rest,
    packetMirror_sent hcopy hempty, ?_⟩
  intro es ha t received
  have hpairs := xdpTraffic_sent hplace build es ha
  exact ⟨hpairs.length_eq, reflects_iff_accepted hpairs, hpairs.imp fun f sent hf => hf.unchanged⟩

def l2CopyConfig : AppConfig :=
  (configSetDefaults true).setClass .genericL2 fun c =>
    { c with enabled := true, etherType := 0xb62c }

theorem l2Copy_isSome :
    (threadsCreate chachaInit l2CopyConfig .genericL2 defaultDestination).isSome = true := by
  decide +kernel

/-- The same mirror on AF_PACKET. -/
def l2Copy : ThreadContext :=
  (threadsCreate chachaInit l2CopyConfig .genericL2 defaultDestination).get l2Copy_isSome

theorem l2Copy_created :
    threadsCreate chachaInit l2CopyConfig .genericL2 defaultDestination = some l2Copy :=
  (Option.some_get _).symm

theorem l2Copy_empty :
    Represents l2Copy.mirrorBuffer (Queue.empty : Queue UInt8 l2Copy.conf.mirrorSize) := by
  have hsome : l2Copy.mirrorBuffer.isSome = true := by decide +kernel
  obtain ⟨rb, hb⟩ := Option.isSome_iff_exists.mp hsome
  rw [hb]
  exact (threadsCreate_mirrorBuffer (show configSanityCheck fullBuild l2CopyConfig = true by decide)
    l2Copy_created hb).2.2

theorem l2Copy_mirrors : MirrorsByCopy l2Copy where
  receiver := tcThreadsCreate_vlanReceiver l2Copy_created (by decide)
    ⟨by decide, by decide, by decide, by decide, by decide⟩ (ChaCha20Poly1305.ideal _)
  mirror := by decide +kernel
  packet := by decide +kernel
  untagged := by decide +kernel
  room := by decide +kernel

/-- The first frame of the stream as the socket delivers it. -/
def l2Delivered : Reception :=
  ⟨{ quietEnv with newFrame := List.replicate maxFrameSize 0 },
    deliver .genericL2 true (l2Frame 0), 124⟩

theorem l2Delivered_fed : packetMirror.Along PacketFed l2Copy [.rx l2Delivered, .tx 0] := by
  refine ⟨⟨⟨by decide +kernel, by decide +kernel, List.length_replicate⟩, fun _ => ?_⟩,
    trivial, trivial⟩
  obtain ⟨rb, hb, -, hsize, hcontents⟩ := l2Copy_empty
  refine .inr ⟨rb, hb, ?_⟩
  rw [← rb.length_contents, hcontents, hsize]
  decide +kernel

/-- A frame arrives, and both threads make a pass. -/
def l2Turn (frame : List UInt8) : List XdpTrafficEvent :=
  (arrival frame ++ [.threads (.rx plainRxPass)]) ++ [.threads (.tx plainTxPass)]

/-- One frame of the stream, mirrored on both transports. -/
theorem only_accepted_mirrored_first :
    (∃ kept, List.Sublist kept (acceptedFrames l2Copy [.rx l2Delivered, .tx 0]) ∧
      List.Forall₂ Reflects kept (packetMirror.run l2Copy [.rx l2Delivered, .tx 0]).2.flatten) ∧
    let t := allTraffic ((xdpTraffic l2Mirror.conf).run
      (XdpThreads.start fullBuild l2Mirror l2Umem) (l2Turn (l2Frame 0))).2
    t.sent.length = 1 ∧
      List.Forall₂ (fun f sent => l2Mirror.Accepts f.bytes f.bytes.length ∧ Reflects f.bytes sent)
        (t.found.take 1) t.sent := by
  obtain ⟨-, hpacket, hxdp⟩ := only_accepted_mirrored l2Copy_mirrors l2Copy_empty l2Mirror_mirrors
    fullBuild
  refine ⟨hpacket _ l2Delivered_fed, ?_⟩
  have hlength : (allTraffic ((xdpTraffic l2Mirror.conf).run
      (XdpThreads.start fullBuild l2Mirror l2Umem) (l2Turn (l2Frame 0))).2).sent.length = 1 := by
    decide +kernel
  obtain ⟨-, hiff, -⟩ := hxdp (l2Turn (l2Frame 0))
    ((System.along_append _ _ _ _).mpr ⟨arrival_inChunk, trivial, trivial⟩)
  rw [hlength] at hiff
  exact ⟨hlength, hiff.mpr (by decide +kernel)⟩

/-- A frame of 100 bytes where 128 are configured is refused by the receive function, and goes back
with its own addresses and 28 bytes that were not received. -/
theorem only_accepted_mirrored_short :
    configSanityCheck fullBuild l2MirrorConfig = true ∧
    threadsCreate chachaInit l2MirrorConfig .genericL2 defaultDestination = some l2Mirror ∧
    let frame := (l2Frame 0).take 100
    let t := allTraffic ((xdpTraffic l2Mirror.conf).run
      (XdpThreads.start fullBuild l2Mirror l2Umem) (l2Turn frame)).2
    t.found.map (fun f => (f.bytes, f.accepted)) = [(frame, false)] ∧
      t.sent = [frame ++ List.replicate 28 0] :=
  ⟨by decide, l2Mirror_created, by decide +kernel, by decide +kernel⟩

end RtcTestbench
