import RtcTestbench.XdpTraffic

namespace RtcTestbench
open Buffer Machine XskRing
set_option autoImplicit true

/-- What the launch times are computed from, besides the class: two times of the application, the
offset of the class within a cycle and the speed of the link, which is never 0. -/
structure TxTimeOptions where
  applicationBaseStartTimeNs : UInt64
  applicationBaseCycleTimeNs : UInt64
  txTimeOffsetNs : UInt64
  linkSpeed : UInt32

def txTimeGetFrameDuration (linkSpeed : UInt32) (frameLength : Nat) : UInt64 :=
  UInt64.ofNat (frameLength * 8 * 1000) / linkSpeed.toUInt64

def txTimeGetFrameTxTime (opts : TxTimeOptions)
    (sequenceCounter duration numFramesPerCycle now : UInt64) : UInt64 :=
  let pastCycles := (now - opts.applicationBaseStartTimeNs) / opts.applicationBaseCycleTimeNs
  let baseTime := (pastCycles + 1) * opts.applicationBaseCycleTimeNs +
    opts.applicationBaseStartTimeNs
  baseTime + opts.txTimeOffsetNs + sequenceCounter % numFramesPerCycle * duration

def TxTimeOptions.duration (opts : TxTimeOptions) (conf : TrafficClassConfig) : UInt64 :=
  txTimeGetFrameDuration opts.linkSpeed conf.frameLength

/-- The launch time `xdp_prepare_tx_desc` asks for, for frame `i` of a batch of
`xdp_receive_frames`. The `xdp_tx_time` of `tc_xdp_rx_thread` begins with counter 0. -/
def xdpLaunchTime (build : BuildConfig) (opts : TxTimeOptions) (conf : TrafficClassConfig) (i : Nat)
    (now : UInt64) : Option UInt64 :=
  let sequenceCounterBegin : UInt64 := 0
  if build.haveXdpTxTime && conf.txTimeEnabled then
    some (txTimeGetFrameTxTime opts (sequenceCounterBegin + UInt64.ofNat i) (opts.duration conf)
      conf.numFramesPerCycle now)
  else none

/-- The launch time `packet_send_messages` asks for. -/
def packetLaunchTime (opts : TxTimeOptions) (ctx : ThreadContext) (frame : List UInt8)
    (now : UInt64) : Option UInt64 :=
  let n := ctx.conf.numFramesPerCycle
  if ctx.conf.txTimeEnabled then
    some (txTimeGetFrameTxTime opts (getSequenceCounter frame ctx.metaDataOffset n)
      (opts.duration ctx.conf) n now)
  else none

/-- The frames an Rx pass adds to those that wait on the Tx ring. -/
def XdpThreads.mirrored (conf : TrafficClassConfig) (s : XdpThreads) (p : XdpRxPass) :
    List (List UInt8) :=
  (tcXdpRxPass conf s p).1.waiting.drop s.waiting.length

/-- Every accepted frame of a batch is to leave when AF_PACKET would have it leave. -/
def LaunchesAgree (build : BuildConfig) (opts : TxTimeOptions) (ctx : ThreadContext)
    (s : XdpThreads) : XdpTrafficEvent → Prop
  | .threads (.rx p) => ∀ i f sent, (s.found p)[i]? = some f → f.accepted = true →
      (s.mirrored ctx.conf p)[i]? = some sent →
        ∀ now, xdpLaunchTime build opts ctx.conf i now = packetLaunchTime opts ctx sent now
  | _ => True

/-- The place of an accepted frame in its batch is worth the same time as its place in the cycle. -/
def BatchKeepsPlaces (opts : TxTimeOptions) (ctx : ThreadContext) (s : XdpThreads) :
    XdpTrafficEvent → Prop
  | .threads (.rx p) => ∀ i f, (s.found p)[i]? = some f → f.accepted = true →
      let n := ctx.conf.numFramesPerCycle
      UInt64.ofNat i % n * opts.duration ctx.conf =
        ctx.rxCounter f.bytes % n * opts.duration ctx.conf
  | _ => True

/-- An accepted frame has the place in its batch that its counter gives it in the cycle. -/
def BatchInStep (ctx : ThreadContext) (s : XdpThreads) : XdpTrafficEvent → Prop
  | .threads (.rx p) => ∀ i f, (s.found p)[i]? = some f → f.accepted = true →
      i % ctx.conf.numFramesPerCycle.toNat =
        (ctx.rxCounter f.bytes).toNat % ctx.conf.numFramesPerCycle.toNat
  | _ => True

variable {build : BuildConfig} {opts : TxTimeOptions} {ctx : ThreadContext} {umem : List UInt8}
  {conf : TrafficClassConfig} {s : XdpThreads} {i : Nat} {a b d n now : UInt64}

theorem txTimeGetFrameTxTime_inj (opts : TxTimeOptions) (a b d n now : UInt64) :
    txTimeGetFrameTxTime opts a d n now = txTimeGetFrameTxTime opts b d n now ↔
      a % n * d = b % n * d :=
  UInt64.add_right_inj _

/-- As long as the frames of a cycle fit 64 bits, they share a time only at the same place. -/
theorem batchKeepsPlaces_iff (hn : 0 < ctx.conf.numFramesPerCycle.toNat)
    (hd : 0 < (opts.duration ctx.conf).toNat)
    (hfit : ctx.conf.numFramesPerCycle.toNat * (opts.duration ctx.conf).toNat ≤ 2 ^ 64)
    (s : XdpThreads) (e : XdpTrafficEvent) :
    BatchKeepsPlaces opts ctx s e ↔ BatchInStep ctx s e := by
  unfold BatchKeepsPlaces BatchInStep
  split
  case h_2 => exact Iff.rfl
  rename_i p
  have htime (x : UInt64) : (x % ctx.conf.numFramesPerCycle * opts.duration ctx.conf).toNat =
      x.toNat % ctx.conf.numFramesPerCycle.toNat * (opts.duration ctx.conf).toNat := by
    rw [UInt64.toNat_mul, UInt64.toNat_mod]
    apply Nat.mod_eq_of_lt
    exact Nat.lt_of_lt_of_le (Nat.mul_lt_mul_of_pos_right (Nat.mod_lt _ hn) hd) hfit
  apply forall₂_congr
  intro i f
  apply forall₂_congr
  intro hf _
  obtain ⟨hi, -⟩ := List.getElem?_eq_some_iff.mp hf
  have hsmall : i < 2 ^ 64 :=
    Nat.lt_of_lt_of_le hi (Nat.le_trans (s.length_found_le p) (by decide))
  rw [← UInt64.toNat_inj, htime, htime, UInt64.toNat_ofNat', Nat.mod_eq_of_lt hsmall]
  exact Nat.mul_left_inj (Nat.ne_of_gt hd)

/-- What an Rx pass adds are the frames it found, as the mirror made them. -/
theorem TrafficInv.mirrored (h : TrafficInv conf s) (hm : conf.rxMirrorEnabled = true)
    (hx : conf.xdpEnabled = true) (p : XdpRxPass)
    (hfits : ∀ desc ∈ s.peek p, desc.FitsChunk conf) :
    List.Forall₂ (MirroredFrame s.ctx) (s.found p) (s.mirrored conf p) := by
  obtain ⟨mirrored, hmoved, hall⟩ := (h.rxPass hm hx p hfits).moved
  rw [(tcXdpRxPass_effect h hm hx p hfits).found_eq] at hall
  change s.waiting ++ mirrored = (tcXdpRxPass conf s p).1.waiting at hmoved
  rw [XdpThreads.mirrored, ← hmoved, List.drop_left]
  exact hall

/-- One pass: the launch times agree if the frames keep their places. -/
theorem rxPass_launchesAgree_iff (hsame : ctx.SameClass s.ctx) (h : TrafficInv ctx.conf s)
    (hm : ctx.conf.rxMirrorEnabled = true) (hx : ctx.conf.xdpEnabled = true)
    (henabled : ctx.conf.txTimeEnabled = true) (hbuild : build.haveXdpTxTime = true)
    (p : XdpRxPass) (hfits : ∀ desc ∈ s.peek p, desc.FitsChunk ctx.conf) :
    LaunchesAgree build opts ctx s (.threads (.rx p)) ↔
      BatchKeepsPlaces opts ctx s (.threads (.rx p)) := by
  have hall := h.mirrored hm hx p hfits
  have hone {i : Nat} {f : FoundFrame} {sent : List UInt8} (hf : MirroredFrame s.ctx f sent)
      (hacc : f.accepted = true) (now : UInt64) :
      xdpLaunchTime build opts ctx.conf i now = packetLaunchTime opts ctx sent now ↔
        UInt64.ofNat i % ctx.conf.numFramesPerCycle * opts.duration ctx.conf =
          ctx.rxCounter f.bytes % ctx.conf.numFramesPerCycle * opts.duration ctx.conf := by
    have hcounter := (hsame.mirroredFrame hf).counter hacc
    rw [xdpLaunchTime, packetLaunchTime, hbuild, henabled, hcounter, UInt64.zero_add]
    exact Option.some_inj.trans (txTimeGetFrameTxTime_inj _ _ _ _ _ _)
  obtain ⟨hlength, hget⟩ := List.forall₂_iff_get.mp hall
  have hpair {i : Nat} {f : FoundFrame} {sent : List UInt8} (hf : (s.found p)[i]? = some f)
      (hs : (s.mirrored ctx.conf p)[i]? = some sent) : MirroredFrame s.ctx f sent := by
    obtain ⟨hi, rfl⟩ := List.getElem?_eq_some_iff.mp hf
    obtain ⟨hi', rfl⟩ := List.getElem?_eq_some_iff.mp hs
    exact hget i hi hi'
  constructor
  · intro hagree i f hf hacc
    obtain ⟨hi, -⟩ := List.getElem?_eq_some_iff.mp hf
    have hs := List.getElem?_eq_getElem (hlength ▸ hi : i < (s.mirrored ctx.conf p).length)
    exact (hone (hpair hf hs) hacc 0).mp (hagree i f _ hf hacc hs 0)
  · intro hplaces i f sent hf hacc hs now
    exact (hone (hpair hf hs) hacc now).mpr (hplaces i f hf hacc)

theorem launchesAgree_along_iff (h : MirrorsInPlace ctx umem)
    (henabled : ctx.conf.txTimeEnabled = true) (hbuild : build.haveXdpTxTime = true)
    (hin : (xdpTraffic ctx.conf).Along (InChunk ctx.conf) (XdpThreads.start build ctx umem) es) :
    (xdpTraffic ctx.conf).Along (LaunchesAgree build opts ctx)
    (XdpThreads.start build ctx umem) es ↔
      (xdpTraffic ctx.conf).Along (BatchKeepsPlaces opts ctx) (XdpThreads.start build ctx umem)
        es := by
  apply System.along_congr (I := fun s => ctx.SameClass s.ctx ∧ TrafficInv ctx.conf s)
    (Q := InChunk ctx.conf)
  · rintro s e ⟨hsame, hinv⟩ hfits
    have hstep := xdpTraffic_step hinv h.mirror h.xdp e hfits
    exact ⟨hsame.trans hstep.same, hstep.inv⟩
  · rintro s e ⟨hsame, hinv⟩ hfits
    match e with
    | .dma .. => exact Iff.rfl
    | .threads (.kernel _) => exact Iff.rfl
    | .threads (.tx _) => exact Iff.rfl
    | .threads (.rx p) =>
      exact rxPass_launchesAgree_iff hsame hinv h.mirror h.xdp henabled hbuild p hfits
  · exact ⟨.refl _, h.start build⟩
  · exact hin

/-- Along every run of the mirror the launch times are those of AF_PACKET exactly if the place of
every accepted frame in its batch is worth the time its counter gives it in the cycle, that is, as
long as the frames of a cycle fit 64 bits, if it is the same place. -/
theorem launch_times_agree (h : MirrorsInPlace ctx umem) (build : BuildConfig)
    (opts : TxTimeOptions) (henabled : ctx.conf.txTimeEnabled = true)
    (hbuild : build.haveXdpTxTime = true) (es : List XdpTrafficEvent)
    (hin : (xdpTraffic ctx.conf).Along (InChunk ctx.conf) (XdpThreads.start build ctx umem) es) :
    let start := XdpThreads.start build ctx umem
    ((xdpTraffic ctx.conf).Along (LaunchesAgree build opts ctx) start es ↔
      (xdpTraffic ctx.conf).Along (BatchKeepsPlaces opts ctx) start es) ∧
    (0 < ctx.conf.numFramesPerCycle.toNat → 0 < (opts.duration ctx.conf).toNat →
      ctx.conf.numFramesPerCycle.toNat * (opts.duration ctx.conf).toNat ≤ 2 ^ 64 →
        ((xdpTraffic ctx.conf).Along (LaunchesAgree build opts ctx) start es ↔
          (xdpTraffic ctx.conf).Along (BatchInStep ctx) start es)) := by
  intro start
  have hagree : (xdpTraffic ctx.conf).Along (LaunchesAgree build opts ctx) start es ↔
      (xdpTraffic ctx.conf).Along (BatchKeepsPlaces opts ctx) start es :=
    launchesAgree_along_iff h henabled hbuild hin
  refine ⟨hagree, fun hn hd hfit => hagree.trans ?_⟩
  simp only [System.along_iff_split, batchKeepsPlaces_iff hn hd hfit]

/-- A batch that begins with a cycle and misses no frame keeps the places. -/
theorem keepsPlaces_of_cycle {c : UInt64} {k : Nat}
    (hdvd : ctx.conf.numFramesPerCycle.toNat ∣ c.toNat)
    (hwrap : c.toNat + k ≤ 2 ^ 64)
    (h : ((s.found p).map fun f => ctx.rxCounter f.bytes) = consecutive c k) :
    BatchKeepsPlaces opts ctx s (.threads (.rx p)) := by
  intro i f hf _ n
  obtain ⟨hi, -⟩ := List.getElem?_eq_some_iff.mp hf
  have hlength := congrArg List.length h
  rw [List.length_map, length_consecutive] at hlength
  have hcounter := congrArg (·[i]?) h
  simp only [List.getElem?_map, hf, Option.map_some, getElem?_consecutive c (hlength ▸ hi),
    Option.some.injEq] at hcounter
  have hplace : ctx.rxCounter f.bytes % n = UInt64.ofNat i % n := by
    obtain ⟨cycle, hcycle⟩ := hdvd
    have hsmall : i % 2 ^ 64 = i := Nat.mod_eq_of_lt (by omega)
    rw [hcounter, ← UInt64.toNat_inj, UInt64.toNat_mod, UInt64.toNat_mod,
      toNat_add_ofNat (by omega), UInt64.toNat_ofNat', hsmall, hcycle, Nat.mul_add_mod_self_left]
  rw [hplace]

/-- A mirror on AF_XDP with two frames per cycle and launch times. -/
def l2LaunchConfig : AppConfig :=
  (configSetDefaults true).setClass .genericL2 fun c =>
    { c with
      enabled := true, xdpEnabled := true, txTimeEnabled := true, etherType := 0xb62c
      numFramesPerCycle := 2 }

theorem l2Launch_isSome :
    (threadsCreate chachaInit l2LaunchConfig .genericL2 defaultDestination).isSome = true := by
  decide +kernel

def l2Launch : ThreadContext :=
  (threadsCreate chachaInit l2LaunchConfig .genericL2 defaultDestination).get l2Launch_isSome

theorem l2Launch_created :
    threadsCreate chachaInit l2LaunchConfig .genericL2 defaultDestination = some l2Launch :=
  (Option.some_get _).symm

theorem l2Launch_mirrors : MirrorsInPlace l2Launch l2Umem where
  receiver := tcThreadsCreate_vlanReceiver l2Launch_created (by decide)
    ⟨by decide, by decide, by decide, by decide, by decide⟩ (ChaCha20Poly1305.ideal _)
  mirror := by decide +kernel
  xdp := by decide +kernel
  room := Nat.le_of_eq List.length_replicate.symm

def l2LaunchFrame (c : UInt64) : List UInt8 :=
  generateFrame l2Launch (List.replicate 128 0) 128 defaultDestination c 0

/-- One millisecond per cycle, the frames 0.1 ms into it, on a link with 1 Gbit/s. -/
def launchOptions : TxTimeOptions := ⟨0, 1000000, 100000, 1000⟩

def launchStart : XdpThreads := XdpThreads.start fullBuild l2Launch l2Umem

/-- The kernel's events say nothing about launch times and chunks. -/
theorem arrival_along {P : XdpThreads → XdpTrafficEvent → Prop} (conf : TrafficClassConfig)
    (s : XdpThreads) (frame : List UInt8) (hdma : ∀ s i offset bytes, P s (.dma i offset bytes))
    (hkernel : ∀ s k, P s (.threads (.kernel k))) : (xdpTraffic conf).Along P s (arrival frame) :=
  ⟨hkernel _ _, hdma _ _ _ _, hkernel _ _, trivial⟩

/-- Both frames of a cycle arrive before the Rx thread wakes up. -/
def wholeCycle : List XdpTrafficEvent :=
  arrival (l2LaunchFrame 0) ++ arrival (l2LaunchFrame 1)

def wholePass : XdpRxPass := { plainRxPass with visible := 2 }

theorem wholeCycle_along {P : XdpThreads → XdpTrafficEvent → Prop}
    (hdma : ∀ s i offset bytes, P s (.dma i offset bytes))
    (hkernel : ∀ s k, P s (.threads (.kernel k))) :
    (xdpTraffic l2Launch.conf).Along P launchStart wholeCycle :=
  (System.along_append _ _ _ _).mpr
    ⟨arrival_along _ _ _ hdma hkernel, arrival_along _ _ _ hdma hkernel⟩

/-- A cycle that is one batch keeps its places; its frames have the launch times of AF_PACKET. -/
theorem launch_times_agree_whole :
    (xdpTraffic l2Launch.conf).Along (LaunchesAgree fullBuild launchOptions l2Launch) launchStart
      (wholeCycle ++ [.threads (.rx wholePass)]) := by
  have hpeek : ((xdpTraffic l2Launch.conf).run launchStart wholeCycle).1.peek wholePass =
      [⟨256, 128⟩, ⟨4352, 128⟩] := by decide +kernel
  have hcounters : (((xdpTraffic l2Launch.conf).run launchStart wholeCycle).1.found wholePass).map
      (fun f => l2Launch.rxCounter f.bytes) = consecutive 0 2 := by decide +kernel
  apply (launch_times_agree l2Launch_mirrors fullBuild launchOptions (by decide +kernel) rfl _
    ?_).1.mpr
  · apply (System.along_append _ _ _ _).mpr
    refine ⟨wholeCycle_along (fun _ _ _ _ => trivial) fun _ _ => trivial, ?_, trivial⟩
    exact keepsPlaces_of_cycle (dvd_zero _) (by decide) hcounters
  · apply (System.along_append _ _ _ _).mpr
    refine ⟨wholeCycle_along (fun _ _ _ _ => trivial) fun _ _ => trivial, ?_, trivial⟩
    intro desc hdesc
    change desc ∈ ((xdpTraffic l2Launch.conf).run launchStart wholeCycle).1.peek wholePass at hdesc
    rw [hpeek] at hdesc
    rcases List.mem_pair.mp hdesc with rfl | rfl
    · exact ⟨by decide, by decide +kernel⟩
    · exact ⟨by decide, by decide +kernel⟩

/-- The first frame of a cycle is mirrored before the second one arrives. -/
def splitCycle : List XdpTrafficEvent :=
  (arrival (l2LaunchFrame 0) ++ [.threads (.rx plainRxPass), .threads (.tx plainTxPass)]) ++
    arrival (l2LaunchFrame 1)

/-- The second frame is the first of its batch and is to leave when the first frame of a cycle
does, on AF_PACKET 1024 ns later. -/
theorem launch_times_agree_split :
    configSanityCheck fullBuild l2LaunchConfig = true ∧
    threadsCreate chachaInit l2LaunchConfig .genericL2 defaultDestination = some l2Launch ∧
    let s := ((xdpTraffic l2Launch.conf).run launchStart splitCycle).1
    s.peek plainRxPass = [⟨4352, 128⟩] ∧
    (s.found plainRxPass).map (fun f => (f.accepted, l2Launch.rxCounter f.bytes)) = [(true, 1)] ∧
    xdpLaunchTime fullBuild launchOptions l2Launch.conf 0 500000 = some 1100000 ∧
    (s.mirrored l2Launch.conf plainRxPass).map
      (packetLaunchTime launchOptions l2Launch · 500000) = [some 1101024] :=
  ⟨by decide, l2Launch_created, by decide +kernel, by decide +kernel, by decide +kernel,
    by decide +kernel⟩

end RtcTestbench
