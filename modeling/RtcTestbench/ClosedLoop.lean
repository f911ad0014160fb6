import RtcTestbench.Testbed

namespace RtcTestbench
open Buffer Machine DropOldest Flow
set_option autoImplicit true

section Steps
variable {build : BuildConfig} {conf : TrafficClassConfig} {frameType : StatFrameType}
  {cipher : Aead.Cipher} {sender : ThreadContext} {tb : Testbed} {front back : List UInt64}
  {monitor : Option MacAddress} {a : SlotGenerator} {g : Generator} {ctx : ThreadContext}

/-- Every receiver expects the oldest frame that is on its way to it, and the wire carries all of
their counters. -/
structure CountsOn (conf : TrafficClassConfig) (reference mirror next : UInt64)
    (front back : List UInt64) : Prop where
  front_eq : front = consecutive reference front.length
  mirror_eq : mirror = reference + UInt64.ofNat front.length
  back_eq : back = consecutive mirror back.length
  next_eq : next = mirror + UInt64.ofNat back.length
  carried : ∀ s ∈ front ++ back, wireSequenceCounter conf.numFramesPerCycle s = s

section CountsOn
variable {reference mirror next : UInt64}

theorem CountsOn.enter (h : CountsOn conf reference mirror next front back)
    (hwire : ∀ s ∈ consecutive next k, wireSequenceCounter conf.numFramesPerCycle s = s) :
    CountsOn conf reference mirror (next + UInt64.ofNat k) front (back ++ consecutive next k) := by
  refine ⟨h.front_eq, h.mirror_eq, ?_, ?_, ?_⟩
  · rw [List.length_append, length_consecutive, consecutive_append, ← h.back_eq, ← h.next_eq]
  · rw [List.length_append, length_consecutive, UInt64.ofNat_add, ← UInt64.add_assoc, ← h.next_eq]
  · rw [← List.append_assoc]
    exact List.forall_mem_append.mpr ⟨h.carried, hwire⟩

theorem CountsOn.pass (h : CountsOn conf reference mirror next front (s :: back)) :
    s = mirror ∧ CountsOn conf reference (mirror + 1) next (front ++ [s]) back := by
  obtain ⟨hs, hback⟩ := List.cons.inj h.back_eq
  refine ⟨hs, ?_, ?_, hback, ?_, ?_⟩
  · rw [List.length_append, consecutive_append, ← h.front_eq, ← h.mirror_eq, hs]
    rfl
  · rw [List.length_append, UInt64.ofNat_add, ← UInt64.add_assoc, ← h.mirror_eq]
    rfl
  · rw [add_one_add_ofNat]
    exact h.next_eq
  · rw [List.append_assoc]
    exact h.carried

theorem CountsOn.leave (h : CountsOn conf reference mirror next (s :: front) back) :
    s = reference ∧ CountsOn conf (reference + 1) mirror next front back := by
  obtain ⟨hs, hfront⟩ := List.cons.inj h.front_eq
  refine ⟨hs, hfront, ?_, h.back_eq, h.next_eq, ?_⟩
  · rw [add_one_add_ofNat]
    exact h.mirror_eq
  · exact fun c hc => h.carried c (List.mem_cons_of_mem _ hc)

end CountsOn

theorem slotGenerator_counters (a : SlotGenerator) (hp : p.HasRoom ctx) :
    ∃ k, ((slotGenerator monitor ctx).step a p).2.map SentFrame.sequenceCounter =
        consecutive a.sequenceCounter k ∧
      ((slotGenerator monitor ctx).step a p).1.sequenceCounter =
        a.sequenceCounter + UInt64.ofNat k := by
  simp only [slotGenerator]
  split
  · exact ⟨0, rfl, (UInt64.add_zero _).symm⟩
  · rename_i hwait
    have hroom := hp (bne_iff_ne.mpr hwait)
    rw [if_neg fun h => Nat.not_lt_of_le (hroom h.1) h.2]
    refine ⟨ctx.conf.numFramesPerCycle.toNat, ?_, ?_⟩
    · rw [patchSlots_counters, length_passSlots]
    · rw [UInt64.ofNat_toNat]

theorem GeneratorReady.counters (hpair : Paired conf frameType cipher sender)
    (h : GeneratorReady build conf frameType sender g) (hp : p.HasRoom sender)
    (monitor : Option MacAddress) :
    ∃ k, ((generator build monitor sender).step g p).2.map SentFrame.sequenceCounter =
        consecutive g.sequenceCounter k ∧
      ((generator build monitor sender).step g p).1.sequenceCounter =
        g.sequenceCounter + UInt64.ofNat k := by
  obtain ⟨a, hholds, -⟩ := h
  have hlen : sender.conf.frameLength ≤ maxFrameSize :=
    hpair.forClass.conf_eq ▸ hpair.carried.fits_chunk
  have hslots : txSlots sender.conf ≤ 2 ^ 19 := hpair.forClass.conf_eq ▸ hpair.slots
  have hsim := generator_simulates build monitor hlen hslots
  rw [hsim.observed hholds trivial, (hsim.related hholds trivial).sequenceCounter,
    hholds.sequenceCounter]
  exact slotGenerator_counters a hp

/-- A frame with the counter that is expected is received in order. -/
theorem CleanReceipt.inOrder (h : CleanReceipt acc (wireSequenceCounter conf.numFramesPerCycle s))
    (hchecked : SequenceChecked ctx acc)
    (hwire : wireSequenceCounter conf.numFramesPerCycle s = s) (hs : s = ctx.rxSequenceCounter) :
    ReceivedInOrder s (.ok acc) ∧ acc.ctx.rxSequenceCounter = ctx.rxSequenceCounter + 1 := by
  have hcounter := h.counter.trans hwire
  have hflag : acc.report.outOfOrder = false := by
    rw [hchecked.flag, hcounter, hs, bne_self_eq_false]
  refine ⟨⟨acc, rfl, hcounter, hflag, h.payload, h.frameId, h.logs hflag⟩, ?_⟩
  rw [hchecked.expected, hcounter, hs, nextSequenceCounter, if_neg (not_not_intro rfl)]

/-- What the threads of the testbed agree on. -/
def Testbed.InOrder (conf : TrafficClassConfig) (tb : Testbed) (front back : List UInt64) : Prop :=
  CountsOn conf tb.reference.rxSequenceCounter tb.mirror.rxSequenceCounter
    tb.generator.sequenceCounter front back

/-- Without losses counters come out as they went in, and in order. -/
theorem Carries.step_inOrder (h : Carries build conf frameType cipher sender tb front back)
    (ho : tb.InOrder conf front back) (hpair : Paired conf frameType cipher sender)
    (hfed : Fed build monitor sender tb e) (hloss : Lossless build monitor sender tb e) :
    let r := (testbed build monitor sender).step tb e
    ∃ i m o front' back', (Carries build conf frameType cipher sender r.1 front' back' ∧
        r.1.InOrder conf front' back') ∧
      Shows ReceivedInOrder r.2 i m o ∧ Passes (· = ·) back i m back' ∧
      Passes (· = ·) front m o front' := by
  have hsame : Passes (· = ·) front [] [] front := passes_keep rfl
  have hsame' : Passes (· = ·) back [] [] back := passes_keep rfl
  cases e with
  | generate p =>
    obtain ⟨hroom, hwire⟩ := hloss
    obtain ⟨k, hcounters, hnext⟩ := h.ready.counters hpair hroom monitor
    refine ⟨_, [], [], front, _, ⟨h.generate hpair hfed, ?_⟩, ⟨rfl, .nil, .nil⟩,
      passes_enter order_eq _ _, hsame⟩
    rw [hpair.forClass.conf_eq] at hwire
    have hcarried : ∀ s ∈ ((generator build monitor sender).step tb.generator p).2.map
        SentFrame.sequenceCounter, wireSequenceCounter conf.numFramesPerCycle s = s :=
      List.forall_mem_map.mpr hwire
    rw [hcounters] at hcarried ⊢
    simp only [Testbed.InOrder, testbed, hnext]
    exact CountsOn.enter ho hcarried
  | loseOutbound i => exact hloss.elim
  | loseInbound i => exact hloss.elim
  | mirrorSends now =>
    exact ⟨[], [], [], front, back, ⟨h.mirrorSends hpair now, ho⟩, ⟨rfl, .nil, .nil⟩, hsame', hsame⟩
  | mirrorReceives env tail =>
    cases hout : tb.outbound with
    | nil =>
      simp only [testbed, hout]
      exact ⟨[], [], [], front, back, ⟨h, ho⟩, ⟨rfl, .nil, .nil⟩, hsame', hsame⟩
    | cons frame rest =>
      have hne : tb.outbound ≠ [] := by
        rw [hout]
        exact List.cons_ne_nil _ _
      obtain ⟨acc, s, front', back', hok, hclean, rfl, hnext, -, hkept⟩ :=
        h.mirrorReceives hpair hout hfed.1 (hfed.2 hne) tail
      obtain rfl := hkept (hloss hne)
      obtain ⟨hs, ho'⟩ := CountsOn.pass ho
      obtain ⟨hordered, hexpected⟩ := hclean.inOrder (receiveFrame_checked hok)
        (CountsOn.carried ho s (List.mem_append_right _ List.mem_cons_self)) hs
      simp only [testbed, hout, hpair.forClass.frameType_eq]
      rw [rxSystem_step_ok hok, hok]
      rw [← hexpected] at ho'
      exact ⟨[], [s], [], _, back', ⟨hnext, ho'⟩, ⟨rfl, .cons hordered .nil, .nil⟩,
        passes_leave order_eq [s] back', rfl⟩
  | referenceReceives stripped env tail =>
    cases hin : tb.inbound with
    | nil =>
      simp only [testbed, hin]
      exact ⟨[], [], [], front, back, ⟨h, ho⟩, ⟨rfl, .nil, .nil⟩, hsame', hsame⟩
    | cons frame rest =>
      obtain ⟨acc, s, front', hok, hclean, rfl, hnext⟩ :=
        h.referenceReceives hpair hin stripped env tail
      obtain ⟨hs, ho'⟩ := CountsOn.leave ho
      obtain ⟨hordered, hexpected⟩ := hclean.inOrder (receiveFrame_checked hok)
        (CountsOn.carried ho s (List.mem_append_left _ List.mem_cons_self)) hs
      simp only [testbed, hin, hpair.forClass.frameType_eq]
      rw [rxSystem_step_ok hok, hok]
      rw [← hexpected] at ho'
      exact ⟨[], [], [s], front', back, ⟨hnext, ho'⟩, ⟨rfl, .nil, .cons hordered .nil⟩,
        hsame', passes_leave order_eq [s] front'⟩

theorem shows_flatMap {R : UInt64 → Except LogMessage RxAccepted → Prop}
    {shown : List (List UInt64 × List UInt64 × List UInt64)}
    (h : List.Forall₂ (fun out imo => Shows R out imo.1 imo.2.1 imo.2.2) outs shown) :
    Shows R ⟨outs.flatMap (·.generated), outs.flatMap (·.mirrored), outs.flatMap (·.received)⟩
      (shown.flatMap (·.1)) (shown.flatMap (·.2.1)) (shown.flatMap (·.2.2)) := by
  induction h with
  | nil => exact ⟨rfl, .nil, .nil⟩
  | cons hshow _ ih =>
    refine ⟨?_, ?_, ?_⟩
    · simp only [List.flatMap_cons, List.map_append, hshow.generated]
      exact congrArg _ ih.generated
    · exact List.rel_append hshow.mirrored ih.mirrored
    · exact List.rel_append hshow.received ih.received

end Steps

/-- The passes of the generating thread. -/
def TestbedEvent.pass : TestbedEvent → Option TxPass
  | .generate p => some p
  | _ => none

/-- The generating thread does not notice what happens to its frames. -/
theorem testbed_generated (build : BuildConfig) (monitor : Option MacAddress)
    (sender : ThreadContext) (tb : Testbed) (es : List TestbedEvent) :
    ((testbed build monitor sender).run tb es).2.flatMap (·.generated) =
      ((generator build monitor sender).run tb.generator
        (es.filterMap TestbedEvent.pass)).2.flatten := by
  induction es generalizing tb with
  | nil => rfl
  | cons e es ih =>
    rw [System.run_cons, List.flatMap_cons, ih]
    cases e with
    | generate p => rfl
    | loseOutbound i => rfl
    | loseInbound i => rfl
    | mirrorSends now => rfl
    | mirrorReceives env tail =>
      cases hout : tb.outbound <;> simp only [testbed, hout] <;> rfl
    | referenceReceives stripped env tail =>
      cases hin : tb.inbound <;> simp only [testbed, hin] <;> rfl

/-- One class of the reference and of the mirror, as their threads are when the traffic starts. -/
structure Deployment (securityInit : SecurityAlgorithm → List UInt8 → Aead.Cipher)
    (build : BuildConfig) (app app' : AppConfig) (frameType : StatFrameType)
    (sender mirror : ThreadContext) : Prop
    extends Sending securityInit build app frameType sender where
  peer : app'.classes frameType = peerConfig (app.classes frameType) true false
  mirror : ∃ source tx, threadsCreate securityInit app' frameType source = some tx ∧
    tcTxThreadInit build tx = some mirror

section Deployed
variable {securityInit : SecurityAlgorithm → List UInt8 → Aead.Cipher} {build : BuildConfig}
  {app app' : AppConfig} {frameType : StatFrameType} {sender mirror tx : ThreadContext}
  {conf : TrafficClassConfig}

theorem Deployment.mirrorReady
    (h : Deployment securityInit build app app' frameType sender mirror) :
    MirrorReady (app.classes frameType) false frameType
      (securityInit (app.classes frameType).securityAlgorithm
        (app.classes frameType).securityKey.bytes) mirror ∧
      HoldsFrames (peerConfig (app.classes frameType) true false) mirror.mirrorBuffer
        Queue.empty ∧ mirror.rxSequenceCounter = 0 := by
  obtain ⟨source, tx, htx, hinit⟩ := h.mirror
  have hcreate := threadsCreate_tc h.not_udp htx
  rw [h.peer] at hcreate
  have hcreated := tcThreadsCreate_created hcreate
  obtain ⟨-, -, hbuffer, hcounter⟩ := tcTxThreadInit_keys hinit
  have hready := mirrorReady_init hcreate hinit h.carried fun _ => txMetadataRoom_packet rfl
  have hpos : 0 < (peerConfig (app.classes frameType) true false).mirrorSize := by
    have hn := configIsTcActive_pos (threadsCreate_active htx)
    rw [h.peer] at hn
    exact Nat.mul_pos (by decide) hn
  obtain ⟨rb, hb⟩ : ∃ rb, tx.mirrorBuffer = some rb := by
    simp only [tcThreadsCreate, Option.bind_eq_bind, Option.bind_eq_some_iff, Option.pure_def,
      Option.some.injEq] at hcreate
    obtain ⟨txFrameData, -, rxFrameData, -, frameCopy, -, mirrorBuffer, hbuf, rfl⟩ := hcreate
    obtain ⟨rb, -, hrb⟩ := Option.map_eq_some_iff.mp hbuf
    exact ⟨rb, hrb.symm⟩
  refine ⟨hready, ?_, hcounter.trans hcreated.rxSequenceCounter_eq⟩
  rw [hbuffer, hb]
  exact ⟨_, ringBufferAllocate_represents hpos (hcreated.mirrorBuffer_eq rb hb), rfl,
    fun _ hx => absurd hx List.not_mem_nil⟩

theorem Deployment.start (h : Deployment securityInit build app app' frameType sender mirror)
    (humem : umem.length = xskRingConsDefaultNumDescs * maxFrameSize) :
    Carries build (app.classes frameType) frameType
      (securityInit (app.classes frameType).securityAlgorithm
        (app.classes frameType).securityKey.bytes) sender
      (Testbed.start build sender mirror umem) [] [] ∧
    (Testbed.start build sender mirror umem).InOrder (app.classes frameType) [] [] := by
  obtain ⟨hready, hempty, hzero⟩ := h.mirrorReady
  obtain ⟨source, tx, htx, hinit⟩ := h.sender
  have hcreate := threadsCreate_tc h.not_udp htx
  have hcreated := tcThreadsCreate_created hcreate
  obtain ⟨-, -, hkey, hsame⟩ := tcThreadsCreate_secure hcreate
  obtain ⟨-, hrx, -, hcounter⟩ := tcTxThreadInit_keys hinit
  have hcounter' := hcounter.trans hcreated.rxSequenceCounter_eq
  refine ⟨⟨?_, hready, ⟨h.paired.forClass, hrx.trans (hsame.trans hkey)⟩, .nil, _, hempty, .nil⟩,
    ?_⟩
  · exact h.toSending.start humem
  · refine ⟨rfl, ?_, rfl, ?_, List.forall_mem_nil _⟩
    · exact hzero.trans (hcounter'.symm.trans (UInt64.add_zero _).symm)
    · exact hzero.symm.trans (UInt64.add_zero _).symm

/-- What the reference receives are frames it has sent: intact, in order and none twice. The mirror
and its buffer may drop frames but cannot make one up. -/
theorem closed_loop_safe (h : Deployment securityInit build app app' frameType sender mirror)
    (humem : umem.length = xskRingConsDefaultNumDescs * maxFrameSize)
    (monitor : Option MacAddress) (es : List TestbedEvent)
    (hfed : (testbed build monitor sender).Along (Fed build monitor sender)
      (Testbed.start build sender mirror umem) es) :
    let r := (testbed build monitor sender).run (Testbed.start build sender mirror umem) es
    let sent := (r.2.flatMap (·.generated)).map SentFrame.sequenceCounter
    let received := r.2.flatMap (·.received)
    ∃ passed arrived, List.Sublist arrived passed ∧ List.Sublist passed sent ∧
      List.Forall₂ (ReceivedClean (app.classes frameType)) passed (r.2.flatMap (·.mirrored)) ∧
      List.Forall₂ (ReceivedClean (app.classes frameType)) arrived received ∧
      received.length + r.1.underWay ≤ sent.length := by
  intro r sent received
  obtain ⟨shown, front, back, hcarries, hshows, hback, hfront⟩ := run_passes order_sublist
    (fun tb front back e hc he => Carries.step hc h.paired he) (h.start humem).1 hfed
  obtain ⟨hsent, hmirrored, hreceived⟩ := shows_flatMap hshows
  refine ⟨_, _, ?_, ?_, hmirrored, hreceived, ?_⟩
  · exact (List.sublist_append_left _ _).trans hfront
  · rw [show sent = _ from hsent]
    exact (List.sublist_append_left _ _).trans hback
  · have hall := (hback.series order_sublist hfront).length_le
    rw [hcarries.underWay h.paired, ← hreceived.length_eq, show sent = _ from hsent]
    simpa only [List.length_append, List.append_nil, List.nil_append] using hall

theorem passes_room (hloss : (testbed build monitor sender).Along (Lossless build monitor sender)
    tb es) : ∀ p ∈ es.filterMap TestbedEvent.pass, p.HasRoom sender := by
  induction es generalizing tb with
  | nil => exact List.forall_mem_nil _
  | cons e es ih =>
    intro p hp
    rw [List.mem_filterMap] at hp
    obtain ⟨e', he, hpass⟩ := hp
    rcases List.mem_cons.mp he with rfl | he
    · cases e' <;> cases hpass
      exact hloss.1.1
    · exact ih hloss.2 p (List.mem_filterMap.mpr ⟨e', he, hpass⟩)

theorem consecutive_prefix (h : xs ++ ys = consecutive x N) : xs = consecutive x xs.length := by
  have hN : N = xs.length + ys.length := by
    rw [← length_consecutive x N, ← h, List.length_append]
  rw [hN, consecutive_append] at h
  exact (List.append_inj h (length_consecutive _ _).symm).1

/-- If nothing is lost, every frame comes back: both sides receive all counters from zero on, in
order and with nothing to log, except for those that are still under way. -/
theorem closed_loop_complete (h : Deployment securityInit build app app' frameType sender mirror)
    (humem : umem.length = xskRingConsDefaultNumDescs * maxFrameSize)
    (monitor : Option MacAddress) (es : List TestbedEvent)
    (hfed : (testbed build monitor sender).Along (Fed build monitor sender)
      (Testbed.start build sender mirror umem) es)
    (hloss : (testbed build monitor sender).Along (Lossless build monitor sender)
      (Testbed.start build sender mirror umem) es) :
    let r := (testbed build monitor sender).run (Testbed.start build sender mirror umem) es
    let sent := r.2.flatMap (·.generated)
    let mirrored := r.2.flatMap (·.mirrored)
    let received := r.2.flatMap (·.received)
    sent.map SentFrame.sequenceCounter = consecutive 0
        ((es.filterMap TestbedEvent.pass).countP (·.sends sender) *
          (app.classes frameType).numFramesPerCycle.toNat) ∧
      List.Forall₂ ReceivedInOrder (consecutive 0 mirrored.length) mirrored ∧
      List.Forall₂ ReceivedInOrder (consecutive 0 received.length) received ∧
      received.length + r.1.underWay = sent.length := by
  intro r sent mirrored received
  obtain ⟨shown, front, back, ⟨hcarries, -⟩, hshows, hback, hfront⟩ := run_passes order_eq
    (I := fun tb front back => Carries _ _ _ _ _ tb front back ∧ tb.InOrder _ front back)
    (fun tb front back e hc he => hc.1.step_inOrder hc.2 h.paired he.1 he.2) (h.start humem)
    (hfed.and hloss)
  obtain ⟨hsent, hmirrored, hreceived⟩ := shows_flatMap hshows
  obtain ⟨source, tx, htx, hinit⟩ := h.sender
  have hready := Generator.start_ready (threadsCreate_tc h.not_udp htx) hinit
    h.carried.toCountedClass h.room humem
  have hcounters := (generator_run h.paired.forClass h.carried.toCountedClass hready
    (passes_room hloss) monitor).2
  have hgenerated : sent = ((generator build monitor sender).run
      (Generator.start build sender umem) (es.filterMap TestbedEvent.pass)).2.flatten :=
    testbed_generated build monitor sender _ es
  rw [← hgenerated] at hcounters
  change _ = consecutive 0 _ at hcounters
  rw [show sent.map _ = _ from hsent] at hcounters
  have hall := hback.series order_eq hfront
  rw [Passes, List.nil_append] at hback hfront
  have hpassed := consecutive_prefix (hback.trans hcounters)
  have harrived := consecutive_prefix (hfront.trans hpassed)
  refine ⟨hsent.trans hcounters, ?_, ?_, ?_⟩
  · rw [← hmirrored.length_eq, ← hpassed]
    exact hmirrored
  · rw [← hreceived.length_eq, ← harrived]
    exact hreceived
  · have hlength := congrArg List.length hall
    have hlen := congrArg List.length hsent
    rw [List.length_map] at hlen
    rw [hcarries.underWay h.paired, ← hreceived.length_eq, show sent.length = _ from hlen]
    simpa only [List.length_append, List.append_nil, List.nil_append] using hlength

end Deployed

/-- The encrypted class of the reference, mirrored on AF_PACKET. -/
def encryptedMirrorConfig : AppConfig :=
  (encryptedConfig false).setClass .tsnHigh fun c =>
    { c with rxMirrorEnabled := true, xdpEnabled := false }

theorem encrypted_deployment :
    ∃ sender mirror, Deployment chachaInit fullBuild (encryptedConfig false) encryptedMirrorConfig
      .tsnHigh sender mirror := by
  obtain ⟨tx, sender, htx, hinit, -⟩ := encryptedConfig_threads
  obtain ⟨mx, rb, hmx, -⟩ := tcThreadsCreate_mirror chachaInit .tsnHigh defaultDestination
    (show (encryptedMirrorConfig.classes .tsnHigh).xdpEnabled = false from rfl) rfl (by decide)
  obtain ⟨mirror, hminit⟩ : ∃ mirror, tcTxThreadInit fullBuild mx = some mirror := by
    have hcreated := tcThreadsCreate_created hmx
    rw [tcTxThreadInit_isSome, initializedLength, hcreated.conf_eq, hcreated.frameType_eq]
    decide
  exact ⟨sender, mirror, ⟨by decide, by decide, by decide, by decide, by decide, by decide,
    by decide, ChaCha20Poly1305.ideal _, ⟨_, tx, htx, hinit⟩⟩, rfl, ⟨_, mx, hmx, hminit⟩⟩

def roomyEnv : RxEnv := { quietEnv with newFrame := List.replicate maxFrameSize 0 }

/-- One frame there and back. -/
def roundTrip : List TestbedEvent :=
  [.generate readyPass, .mirrorReceives roomyEnv [], .mirrorSends 0,
    .referenceReceives true quietEnv []]

theorem encrypted_hasRoom {sender mirror : ThreadContext}
    (h : Deployment chachaInit fullBuild (encryptedConfig false) encryptedMirrorConfig .tsnHigh
      sender mirror) (umem : List UInt8) :
    (Testbed.start fullBuild sender mirror umem).HasRoom := by
  obtain ⟨hready, hempty, -⟩ := h.mirrorReady
  have ⟨_, ⟨rb, hb, _⟩, _⟩ := hempty
  obtain ⟨hcount, hsize⟩ := (hb ▸ hempty).count
  refine ⟨rb, hb, ?_⟩
  rw [hcount, hsize, show (Testbed.start fullBuild sender mirror umem).mirror.conf = _ from
    hready.forClass.conf_eq]
  decide

theorem roundTrip_admitted {sender mirror : ThreadContext}
    (h : Deployment chachaInit fullBuild (encryptedConfig false) encryptedMirrorConfig .tsnHigh
      sender mirror)
    (humem : umem.length = xskRingConsDefaultNumDescs * maxFrameSize) :
    (testbed fullBuild none sender).Along
      (fun tb e => Fed fullBuild none sender tb e ∧ Lossless fullBuild none sender tb e)
      (Testbed.start fullBuild sender mirror umem) roundTrip := by
  have hclass := h.paired.forClass
  obtain ⟨source, tx, htx, hinit⟩ := h.sender
  have hstart := Generator.start_ready (threadsCreate_tc h.not_udp htx) hinit
    h.carried.toCountedClass h.room humem
  have hroom : readyPass.HasRoom sender := (readyPass_runs hclass 1).2 _ (List.mem_singleton_self _)
  have hpass := generator_step hclass h.carried.toCountedClass hstart hroom none
  have hwire : ∀ f ∈ ((generator fullBuild none sender).step
      (Generator.start fullBuild sender umem) readyPass).2,
      wireSequenceCounter sender.conf.numFramesPerCycle f.sequenceCounter = f.sequenceCounter := by
    have hone := (wireSequenceCounter_cycles (n := ((encryptedConfig false).classes
      .tsnHigh).numFramesPerCycle) (by decide) 1).mpr (.inr ⟨by decide, .inl (by decide)⟩)
    intro f hf
    have hmem := List.mem_map_of_mem (f := SentFrame.sequenceCounter) hf
    rw [hpass.counters, mem_consecutive] at hmem
    obtain ⟨k, hk, hc⟩ := hmem
    have hzero : (Generator.start fullBuild sender umem).sequenceCounter + UInt64.ofNat k =
      UInt64.ofNat k := UInt64.zero_add _
    rw [hc, hclass.conf_eq, hzero]
    apply hone k
    apply Nat.lt_of_lt_of_le hk
    split
    · exact Nat.le_of_eq (Nat.one_mul _).symm
    · exact Nat.zero_le _
  have hspace := encrypted_hasRoom h umem
  exact ⟨⟨fun _ => hwire, hroom, hwire⟩, ⟨⟨List.length_replicate, fun _ => .inr hspace⟩,
    fun _ => hspace⟩, ⟨trivial, trivial⟩, ⟨trivial, trivial⟩, trivial⟩

/-- One frame that gets lost on its way back. -/
def lossyTrip : List TestbedEvent :=
  [.generate readyPass, .mirrorReceives roomyEnv [], .mirrorSends 0, .loseInbound 0,
    .referenceReceives true quietEnv []]

theorem closed_loop_safe_encrypted :
    ∃ sender mirror, Deployment chachaInit fullBuild (encryptedConfig false) encryptedMirrorConfig
        .tsnHigh sender mirror ∧
      let r := (testbed fullBuild none sender).run
        (Testbed.start fullBuild sender mirror
          (List.replicate (xskRingConsDefaultNumDescs * maxFrameSize) 0)) lossyTrip
      ∃ passed arrived, List.Sublist arrived passed ∧
        List.Sublist passed ((r.2.flatMap (·.generated)).map SentFrame.sequenceCounter) ∧
        List.Forall₂ (ReceivedClean ((encryptedConfig false).classes .tsnHigh)) arrived
          (r.2.flatMap (·.received)) := by
  obtain ⟨sender, mirror, h⟩ := encrypted_deployment
  refine ⟨sender, mirror, h, ?_⟩
  obtain ⟨hfirst, hsecond, hthird, -⟩ := roundTrip_admitted h List.length_replicate
  obtain ⟨passed, arrived, hsub, hsub', -, hreceived, -⟩ :=
    closed_loop_safe h List.length_replicate none
    lossyTrip ⟨hfirst.1, hsecond.1, hthird.1, trivial, trivial, trivial⟩
  exact ⟨passed, arrived, hsub, hsub', hreceived⟩

theorem closed_loop_complete_encrypted :
    ∃ sender mirror, Deployment chachaInit fullBuild (encryptedConfig false) encryptedMirrorConfig
        .tsnHigh sender mirror ∧
      let r := (testbed fullBuild none sender).run
        (Testbed.start fullBuild sender mirror
          (List.replicate (xskRingConsDefaultNumDescs * maxFrameSize) 0)) roundTrip
      (r.2.flatMap (·.generated)).map SentFrame.sequenceCounter = [0] ∧
        (r.2.flatMap (·.received)).length + r.1.underWay = 1 := by
  obtain ⟨sender, mirror, h⟩ := encrypted_deployment
  refine ⟨sender, mirror, h, ?_⟩
  obtain ⟨hfirst, hsecond, hthird, hfourth, -⟩ := roundTrip_admitted h List.length_replicate
  obtain ⟨hsent, -, -, hall⟩ := closed_loop_complete h List.length_replicate none roundTrip
    ⟨hfirst.1, hsecond.1, hthird.1, hfourth.1, trivial⟩
    ⟨hfirst.2, hsecond.2, hthird.2, hfourth.2, trivial⟩
  have hone : (roundTrip.filterMap TestbedEvent.pass).countP (·.sends sender) = 1 :=
    (readyPass_runs h.paired.forClass 1).1
  rw [hone] at hsent
  refine ⟨hsent, hall.trans ?_⟩
  rw [← List.length_map SentFrame.sequenceCounter, hsent]
  rfl

end RtcTestbench
