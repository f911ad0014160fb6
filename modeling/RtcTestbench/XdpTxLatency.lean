import RtcTestbench.XdpGenPass

namespace RtcTestbench
open Buffer Function Machine XskRing
set_option autoImplicit true

variable {build : BuildConfig} {monitor : Option MacAddress} {ctx : ThreadContext}
  {frameType : StatFrameType} {s : XdpGenerator} {p : XdpGenPass} {cfg : StatConfig}

/-- What a run reports to the statistics. -/
def reported (outs : List XdpGenOutput) : List TimestampEvent := outs.flatMap XdpGenOutput.reports

/-- Every pass of the run that has frames to send is in time. -/
def PassesInTime (build : BuildConfig) (monitor : Option MacAddress) (ctx : ThreadContext)
    (start : XdpGenerator) (es : List XdpGenEvent) : Prop :=
  ∀ past p rest, es = past ++ .pass p :: rest →
    let r := (xdpGenerator build monitor ctx).run start past
    tcWaitForTxCycle ctx (p.txPass r.1) ≠ 0 →
      PassInTime build monitor ctx (reported r.2) r.1 p

theorem PassesInTime.left {start : XdpGenerator} {es es' : List XdpGenEvent}
    (h : PassesInTime build monitor ctx start (es ++ es')) :
    PassesInTime build monitor ctx start es := by
  intro past p rest heq
  apply h past p (rest ++ es')
  rw [heq, List.append_assoc, List.cons_append]

theorem reported_append (outs outs' : List XdpGenOutput) :
    reported (outs ++ outs') = reported outs ++ reported outs' := List.flatMap_append

theorem reports_nothing : XdpGenOutput.nothing.reports = [] := rfl

theorem reported_singleton (o : XdpGenOutput) : reported [o] = o.reports :=
  List.flatMap_singleton _ _

theorem tcXdpGenPass_idle (hidle : tcWaitForTxCycle ctx (p.txPass s) = 0) :
    tcXdpGenPass build monitor ctx s p = (s, .nothing) := by
  rw [tcXdpGenPass, if_pos hidle]

theorem peeked_idle (hidle : tcWaitForTxCycle ctx (p.txPass s) = 0) :
    s.peeked build monitor ctx p = [] := by
  rw [XdpGenerator.peeked, if_pos hidle]

theorem XdpGenerator.start_inv {umem : List UInt8} (hctx : ctx.ForClass ctx.conf frameType)
    (hc : CountedClass ctx.conf frameType) (hx : ctx.conf.xdpEnabled = true)
    (hroom : txMetadataRoom build ctx.conf + ctx.conf.frameLength ≤ maxFrameSize)
    (humem : umem.length = xskRingConsDefaultNumDescs * maxFrameSize)
    (metadata : Nat → XskTxMetadata) :
    GenInv build ctx frameType [] (XdpGenerator.start build ctx umem metadata) := by
  refine ⟨⟨?_, Nat.le_refl 4096, (by decide : 4096 < 8192)⟩, rfl, rfl, Nat.dvd_zero _, nofun,
    .nil, nofun, nofun⟩
  rw [XdpGenerator.start, Generator.start, txSlots, hx, if_pos rfl, if_pos rfl]
  have hle : xskRingConsDefaultNumDescs ≤ 2 ^ 19 := by decide
  generalize xskRingConsDefaultNumDescs = numFrames at humem hle ⊢
  obtain ⟨frames, hframes⟩ := tcInitializeFrames_isSome.mpr hle
  rw [hframes]
  exact tcInitializeFrames_ready hctx hc hroom (Nat.le_of_eq humem.symm) hframes

section Run
variable {start : XdpGenerator} (hctx : ctx.ForClass ctx.conf frameType)
  (hc : CountedClass ctx.conf frameType) (hx : ctx.conf.xdpEnabled = true)
  (hmode : txHwtstampMode build ctx.conf = true) (hn : 0 < ctx.conf.numFramesPerCycle.toNat)
  (hcfg : cfg.app.classes frameType = ctx.conf) (hstart : GenInv build ctx frameType [] start)
include hctx hc hx hmode hn hcfg hstart

theorem xdpGenerator_run (es : List XdpGenEvent)
    (hes : PassesInTime build monitor ctx start es) :
    GenInv build ctx frameType (reported ((xdpGenerator build monitor ctx).run start es).2)
        ((xdpGenerator build monitor ctx).run start es).1 ∧
      AllInTime cfg frameType ctx.metaDataOffset
        (reported ((xdpGenerator build monitor ctx).run start es).2) := by
  induction es using List.reverseRecOn with
  | nil =>
    refine ⟨hstart, fun past ev rest heq => ?_⟩
    have hlen := congrArg List.length heq
    simp [reported] at hlen
  | append_singleton es e ih =>
    obtain ⟨hinv, hall⟩ := ih hes.left
    have hlast := hes es
    rw [System.run_append, reported_append]
    generalize (xdpGenerator build monitor ctx).run start es = r at hinv hall hlast ⊢
    rw [System.run_cons, System.run_nil]
    dsimp only
    rw [reported_singleton]
    cases e with
    | kernel k =>
      rw [xdpGenerator]
      dsimp only
      rw [reports_nothing, List.append_nil]
      exact ⟨hinv.moved (kernelSteps_moved r.1 [k]), hall⟩
    | pass p =>
      rw [xdpGenerator]
      dsimp only
      by_cases hidle : tcWaitForTxCycle ctx (p.txPass r.1) = 0
      · rw [tcXdpGenPass_idle hidle]
        dsimp only
        rw [reports_nothing, List.append_nil]
        exact ⟨hinv, hall⟩
      · have hp := hlast p [] rfl hidle
        exact ⟨hinv.pass hctx hc hx hmode hidle hp,
          hinv.reports_inTime hctx hc hx hmode hn hcfg hidle hp hall⟩

end Run

/-- As long as no pass looks at the completion of a frame of its own, a completed first frame of a
cycle is measured from the time its own cycle was sent. -/
theorem xdp_tx_latency {app : AppConfig} {umem : List UInt8} {opt : LogStatOption} {t : StatState}
    (hs : configSanityCheck build app = true)
    (htc : frameType ≠ .udpHigh ∧ frameType ≠ .udpLow)
    (hsec : (app.classes frameType).securityMode ≠ .none →
      frameType ∈ [.tsnHigh, .tsnLow, .rtc, .rta])
    (hcat : ¬ (frameType = .genericL2 ∧ (app.classes frameType).protocolType = .etherCat))
    (hctx : ctx.ForClass (app.classes frameType) frameType)
    (hx : (app.classes frameType).xdpEnabled = true)
    (hmode : txHwtstampMode build (app.classes frameType) = true)
    (hroom : txMetadataRoom build (app.classes frameType) +
      (app.classes frameType).frameLength ≤ maxFrameSize)
    (hn : 1 ≤ (app.classes frameType).numFramesPerCycle.toNat)
    (humem : umem.length = xskRingConsDefaultNumDescs * maxFrameSize)
    (metadata : Nat → XskTxMetadata) (hopt : opt ≠ .mirror)
    (hi : statInit ⟨build, app, opt⟩ = some t) (es : List XdpGenEvent)
    (hes : PassesInTime build monitor ctx (XdpGenerator.start build ctx umem metadata) es)
    (past : List XdpGenEvent) (p : XdpGenPass) (rest : List XdpGenEvent)
    (hsplit : es = past ++ .pass p :: rest) :
    let r := (xdpGenerator build monitor ctx).run (XdpGenerator.start build ctx umem metadata) past
    ∃ t₁ t₂, timestampRun ⟨build, app, opt⟩ frameType ctx.metaDataOffset t (reported r.2) =
      some t₁ ∧ timestampRun ⟨build, app, opt⟩ frameType ctx.metaDataOffset t₁
        (tcXdpGenPass build monitor ctx r.1 p).2.reports = some t₂ ∧
      (∀ c, (r.1.peeked build monitor ctx p).head? = some c →
        c.IsFirst (app.classes frameType).numFramesPerCycle →
        ∃ b ∈ batchesOf (reported r.2), b.Contains c.desc.sequenceCounter.toNat ∧
          (t₂.globalStatistics frameType).tx =
            if c.completion.hwTs ≠ 0 then
              (t₁.globalStatistics frameType).afterTx c.completion.hwTs b.txTime
            else (t₁.globalStatistics frameType).tx) ∧
      ((∀ c, (r.1.peeked build monitor ctx p).head? = some c →
          ¬ c.IsFirst (app.classes frameType).numFramesPerCycle) →
        (t₂.globalStatistics frameType).tx = (t₁.globalStatistics frameType).tx) := by
  have hc := countedClass_of_sane hs htc hsec hcat
  rw [← hctx.conf_eq] at hx hmode hroom hn hc ⊢
  have hcfg : (StatConfig.mk build app opt).app.classes frameType = ctx.conf := hctx.conf_eq.symm
  have hctx' : ctx.ForClass ctx.conf frameType := hctx.conf_eq ▸ hctx
  have hstart := @XdpGenerator.start_inv build ctx frameType umem hctx' hc hx hroom humem metadata
  obtain ⟨hinv, hall⟩ := @xdpGenerator_run build monitor ctx frameType _ _ hctx' hc hx hmode hn hcfg
    hstart past (hsplit ▸ hes).left
  have hlast := hes past p rest hsplit
  intro r
  change GenInv build ctx frameType (reported r.2) r.1 at hinv
  change AllInTime _ frameType ctx.metaDataOffset (reported r.2) at hall
  change tcWaitForTxCycle ctx (p.txPass r.1) ≠ 0 →
    PassInTime build monitor ctx (reported r.2) r.1 p at hlast
  by_cases hle : ctx.conf.numFramesPerCycle.toNat ≤ 4096
  · have hframes : (StatConfig.mk build app opt).framesPerCycle frameType =
        ctx.conf.numFramesPerCycle := congrArg TrafficClassConfig.numFramesPerCycle hcfg
    have hen : (StatConfig.mk build app opt).txHwtstampEnabled frameType = true := by
      rw [StatConfig.txHwtstampEnabled, hcfg]
      exact (Bool.and_eq_true_iff.mp hmode).2
    obtain ⟨t₁, ht₁, hsend, -⟩ := timestampRun_tx hopt hen (hframes ▸ hn)
      (by rw [hframes]; omega) hi (reported r.2) hinv.increasing hall
    by_cases hidle : tcWaitForTxCycle ctx (p.txPass r.1) = 0
    · rw [tcXdpGenPass_idle hidle, peeked_idle hidle]
      exact ⟨t₁, t₁, ht₁, rfl, fun _ h => (by cases h), fun _ => rfl⟩
    · obtain ⟨t₂, ht₂, htx⟩ := hinv.pass_tx hctx' hc hx hmode hn hcfg hopt hidle (hlast hidle) hsend
      exact ⟨t₁, t₂, ht₁, ht₂, htx⟩
  · -- without room in the Tx ring for a cycle nothing is ever sent
    have hnil : reported r.2 = [] := by
      by_contra hne
      exact hle (hinv.bounded hne)
    refine ⟨t, t, by rw [hnil]; rfl, ?_⟩
    by_cases hidle : tcWaitForTxCycle ctx (p.txPass r.1) = 0
    · rw [tcXdpGenPass_idle hidle, peeked_idle hidle]
      exact ⟨rfl, fun _ h => (by cases h), fun _ => rfl⟩
    · have hnone : (tcXdpGenPass build monitor ctx r.1 p).2.reports = [] := by
        by_contra hne
        apply hle
        apply (hinv.pass hctx' hc hx hmode hidle (hlast hidle)).bounded
        rw [hnil, List.nil_append]
        exact hne
      rw [hnone]
      refine ⟨rfl, fun c hhead => ?_, fun _ => rfl⟩
      exact absurd (hinv.handed hctx' hc hx hmode hidle (hlast hidle) hhead).2.1 hle

def zeroUmem : List UInt8 := List.replicate (xskRingConsDefaultNumDescs * maxFrameSize) 0

def stampedStart : XdpGenerator :=
  .start fullBuild (stampedContext 1) zeroUmem fun _ => ⟨false, 0⟩

theorem stampedContext_forClass :
    (stampedContext 1).ForClass ((stampedConfig 1).classes .genericL2) .genericL2 :=
  ⟨rfl, rfl, rfl, rfl⟩

/-- The first frame is completed while the second is sent. -/
def laterPasses : List XdpGenEvent :=
  [.pass (kickedPass 1000000 []), .pass (kickedPass 2000000 [.takeTx, .complete 0 3000000])]

def secondPass : XdpGenPass := kickedPass 2000000 [.takeTx, .complete 0 3000000]

theorem firstPass_sent :
    (((xdpGenerator fullBuild none (stampedContext 1)).run stampedStart
      [.pass (kickedPass 1000000 [])]).1.inFlight) = [⟨16777240, 128, 0⟩] := by decide +kernel

theorem secondPass_peeked :
    (((xdpGenerator fullBuild none (stampedContext 1)).run stampedStart
        [.pass (kickedPass 1000000 [])]).1.peeked fullBuild none (stampedContext 1)
      secondPass).map (fun c => (c.desc, c.completion.hwTs)) =
        [(⟨16777240, 128, 0⟩, 3000000)] := by decide +kernel

theorem laterPasses_inTime :
    PassesInTime fullBuild none (stampedContext 1) stampedStart laterPasses := by
  intro past p rest heq r _
  rcases past with _ | ⟨e, _ | ⟨e', past⟩⟩
  · -- nothing is on its way before the first pass, and nothing is completed during it
    cases heq
    have hnone :
        stampedStart.peeked fullBuild none (stampedContext 1) (kickedPass 1000000 []) = [] :=
      List.eq_nil_of_length_eq_zero (by decide +kernel)
    have hhead : (r.1.peeked fullBuild none (stampedContext 1) (kickedPass 1000000 [])).head? =
        none := congrArg List.head? hnone
    refine ⟨fun _ _ _ h => (by cases h), by decide, ?_, ?_, ?_⟩
    all_goals
      intro c hc
      cases hhead.symm.trans hc
  · cases heq
    have hflight : r.1.inFlight = [⟨16777240, 128, 0⟩] := firstPass_sent
    have hpeeked : (r.1.peeked fullBuild none (stampedContext 1) secondPass).map
        (fun c => (c.desc, c.completion.hwTs)) = [(⟨16777240, 128, 0⟩, 3000000)] :=
      secondPass_peeked
    have hhead : ∀ c, (r.1.peeked fullBuild none (stampedContext 1) secondPass).head? = some c →
        c.desc = ⟨16777240, 128, 0⟩ ∧ c.completion.hwTs = 3000000 := by
      intro c hc
      have hmap := congrArg List.head? hpeeked
      rw [List.head?_map, hc, Option.map_some, List.head?_cons, Option.some.injEq,
        Prod.mk.injEq] at hmap
      exact hmap
    have hdescs : (r.1.descs fullBuild (stampedContext 1)).map TxDesc.addr = [16781336] := by
      decide +kernel
    have hcounter : r.1.gen.sequenceCounter = 1 := by decide +kernel
    have htimes : (batchesOf (reported r.2)).map SentBatch.txTime = [1000000] := by decide +kernel
    refine ⟨?_, ?_, ?_, ?_, ?_⟩
    · intro d hd d' hd' haddr
      have hmem := List.mem_map_of_mem (f := TxDesc.addr) hd
      rw [hdescs, List.mem_singleton] at hmem
      rw [hflight, List.mem_singleton] at hd'
      rw [hmem, hd'] at haddr
      cases haddr
    · rw [hcounter]
      decide
    · intro c hc _
      rw [(hhead c hc).1, hflight]
      exact List.mem_singleton_self _
    · intro c hc _
      rw [(hhead c hc).1, hcounter]
      decide
    · intro c hc _ b hb _
      have hmem := List.mem_map_of_mem (f := SentBatch.txTime) hb
      rw [htimes, List.mem_singleton] at hmem
      rw [(hhead c hc).2, hmem]
      decide
  · have hlen := congrArg List.length heq
    simp [laterPasses] at hlen

theorem xdp_tx_latency_later :
    ∃ t t₁ t₂ b, statInit ⟨fullBuild, stampedConfig 1, .reference⟩ = some t ∧
      timestampRun ⟨fullBuild, stampedConfig 1, .reference⟩ .genericL2 18 t
        (reported ((xdpGenerator fullBuild none (stampedContext 1)).run stampedStart
          [.pass (kickedPass 1000000 [])]).2) = some t₁ ∧
      timestampRun ⟨fullBuild, stampedConfig 1, .reference⟩ .genericL2 18 t₁
        (tcXdpGenPass fullBuild none (stampedContext 1)
          ((xdpGenerator fullBuild none (stampedContext 1)).run stampedStart
            [.pass (kickedPass 1000000 [])]).1 secondPass).2.reports = some t₂ ∧
      b ∈ batchesOf (reported ((xdpGenerator fullBuild none (stampedContext 1)).run stampedStart
        [.pass (kickedPass 1000000 [])]).2) ∧ b.Contains 0 ∧
      (t₂.globalStatistics .genericL2).tx =
        (t₁.globalStatistics .genericL2).afterTx 3000000 b.txTime := by
  have hsome : (statInit ⟨fullBuild, stampedConfig 1, .reference⟩).isSome = true := by
    decide +kernel
  obtain ⟨t, ht⟩ := Option.isSome_iff_exists.mp hsome
  obtain ⟨t₁, t₂, ht₁, ht₂, htx, -⟩ := @xdp_tx_latency fullBuild none (stampedContext 1) .genericL2
    (stampedConfig 1) zeroUmem .reference t (by decide) (by decide) (by decide) (by decide)
    stampedContext_forClass (by decide) (by decide) (by decide) (by decide)
    (List.length_replicate ..) _ (by decide) ht laterPasses laterPasses_inTime
    [.pass (kickedPass 1000000 [])] secondPass [] rfl
  have hlen := congrArg List.length secondPass_peeked
  rw [List.length_map, List.length_singleton] at hlen
  obtain ⟨c, hc⟩ := List.length_eq_one_iff.mp hlen
  have hmap := secondPass_peeked
  rw [hc, List.map_singleton, List.singleton_inj, Prod.mk.injEq] at hmap
  obtain ⟨b, hb, hcontains, hstat⟩ := htx c (congrArg List.head? hc) (Nat.mod_one _)
  rw [hmap.1] at hcontains
  rw [hmap.2] at hstat
  exact ⟨t, t₁, t₂, b, ht, ht₁, ht₂, hb, hcontains, hstat⟩

/-- The first frame is completed while it is being sent. -/
def promptPass : XdpGenPass := kickedPass 1000000 [.takeTx, .complete 0 2000000]

theorem promptPass_peeked :
    (stampedStart.peeked fullBuild none (stampedContext 1) promptPass).map
        (fun c => (c.desc, c.completion.hwTs, c.completion.timestamped)) =
      [(⟨16777240, 128, 0⟩, 2000000, true)] := by decide +kernel

theorem promptPass_counted : CountedClass ((stampedConfig 1).classes .genericL2) .genericL2 :=
  countedClass_of_sane (show configSanityCheck fullBuild (stampedConfig 1) = true by decide)
    (by decide) (by decide) (by decide)

theorem promptPass_submitted :
    Submitted fullBuild ((stampedConfig 1).classes .genericL2) .genericL2 stampedStart
      (xdpSubmitFrames fullBuild none (stampedContext 1) stampedStart promptPass) := by
  have hc := promptPass_counted
  have hinv := @XdpGenerator.start_inv fullBuild (stampedContext 1) .genericL2 zeroUmem
    stampedContext_forClass hc rfl (by decide) (List.length_replicate ..) fun _ => ⟨false, 0⟩
  have hroom : (stampedContext 1).conf.numFramesPerCycle.toNat ≤
      (promptPass.txPass stampedStart).freeDescriptors := by decide +kernel
  obtain ⟨tx, hr⟩ := (@reserve_iff fullBuild (stampedContext 1) stampedStart rfl rfl promptPass).mpr
    hroom
  apply xdpSubmitFrames_room stampedContext_forClass hc rfl (by decide) hinv.ready rfl rfl
    (by decide +kernel) hr
  · intro d _ d' hd'
    cases hd'
  · exact Nat.dvd_zero _
  · decide

/-- Its completion is looked at before its send time is recorded, and passed over. -/
theorem xdp_tx_latency_prompt :
    configSanityCheck fullBuild (stampedConfig 1) = true ∧
    ∃ t t₂, statInit ⟨fullBuild, stampedConfig 1, .reference⟩ = some t ∧
      timestampRun ⟨fullBuild, stampedConfig 1, .reference⟩ .genericL2 18 t
        (tcXdpGenPass fullBuild none (stampedContext 1) stampedStart promptPass).2.reports =
          some t₂ ∧
      (∃ c, (stampedStart.peeked fullBuild none (stampedContext 1) promptPass).head? = some c ∧
        c.desc.sequenceCounter = 0 ∧ c.completion.hwTs = 2000000) ∧
      (t.globalStatistics .genericL2).tx = (t₂.globalStatistics .genericL2).tx ∧
      (t.globalStatistics .genericL2).afterTx 2000000 1000000 ≠
        (t₂.globalStatistics .genericL2).tx := by
  have hlen := congrArg List.length promptPass_peeked
  rw [List.length_map, List.length_singleton] at hlen
  obtain ⟨c, hc⟩ := List.length_eq_one_iff.mp hlen
  have hmap := promptPass_peeked
  rw [hc, List.map_singleton, List.singleton_inj, Prod.mk.injEq, Prod.mk.injEq] at hmap
  obtain ⟨hdesc, hhw, hflag⟩ := hmap
  have hmem : c ∈ stampedStart.peeked fullBuild none (stampedContext 1) promptPass := by
    rw [hc]
    exact List.mem_singleton_self c
  obtain ⟨hflight, hcompleted⟩ := mem_peeked hmem
  have hreading : c.completion.reading 18 1 = some ⟨0, 2000000⟩ := by
    have hm : KernelMoved
        (xdpSubmitFrames fullBuild none (stampedContext 1) stampedStart promptPass).1
        (stampedStart.kicked fullBuild none (stampedContext 1) promptPass) := kernelSteps_moved _ _
    have hcompletion := congrArg CompletedDesc.completion hcompleted
    rcases promptPass_submitted.new c.desc (hm.inFlight _ hflight) with hold | ⟨-, hnew⟩
    · cases hold
    · have hread := ((hnew 0).moved hm).reading_timestamped stampedContext_forClass
        promptPass_counted (by decide) (hcompletion ▸ hflag)
      rw [← hcompletion, hhw, hdesc] at hread
      exact hread
  have hsent : (xdpSubmitFrames fullBuild none (stampedContext 1) stampedStart promptPass).2 =
      true := by decide +kernel
  have hreports := @pass_reports fullBuild none (stampedContext 1) stampedStart promptPass
    (by decide) (by decide +kernel)
  rw [hc, hsent, if_pos rfl] at hreports
  have hrun : ((statInit ⟨fullBuild, stampedConfig 1, .reference⟩).bind fun t =>
      (processTxCompletion ⟨fullBuild, stampedConfig 1, .reference⟩ t .genericL2 1 0 2000000).bind
        fun t₁ => (timestampStep ⟨fullBuild, stampedConfig 1, .reference⟩ .genericL2 18 t₁
          (.sent 0 1 1000000)).map fun t₂ => (t.exited, (t.globalStatistics .genericL2).tx,
            (t.globalStatistics .genericL2).afterTx 2000000 1000000,
            (t₂.globalStatistics .genericL2).tx)) =
      some (false, ⟨0, 18446744073709551615, 0, 0⟩, ⟨1, 1000, 1000, 0⟩,
        ⟨0, 18446744073709551615, 0, 0⟩) := by
    decide +kernel
  obtain ⟨t, ht, hrun⟩ := Option.bind_eq_some_iff.mp hrun
  obtain ⟨t₁, ht₁, hrun⟩ := Option.bind_eq_some_iff.mp hrun
  obtain ⟨t₂, ht₂, hrun⟩ := Option.map_eq_some_iff.mp hrun
  simp only [Prod.mk.injEq] at hrun
  obtain ⟨hlive, hbefore, hright, hafter⟩ := hrun
  have hholds := (@statInit_tracked ⟨fullBuild, stampedConfig 1, .reference⟩ .genericL2 t
    (by decide) (by decide) (by decide) ht).1.holds
  obtain ⟨tab, htab, htimes⟩ := hholds.has
  have hpos := hholds.pos
  rw [← htimes, List.length_map] at hpos
  refine ⟨by decide, t, t₂, ht, ?_, ⟨c, congrArg List.head? hc, by rw [hdesc], hhw⟩,
    hbefore.trans hafter.symm, ?_⟩
  · rw [hreports, timestampRun, List.take_succ_cons, List.take_zero, List.map_singleton,
      List.singleton_append, List.foldlM_cons, timestampStep, hlive, if_neg Bool.false_ne_true,
      timestampCall, handleTxCompletion_eq (by decide)
        (TxCompletion.framesPerCycle_eq (by decide) _) htab hpos]
    change ((c.completion.reading 18 1).elim (some t) _ >>= _) = some t₂
    rw [hreading, Option.elim_some]
    exact (congrArg (· >>= _) ht₁).trans ((Option.bind_fun_some _).trans ht₂)
  · rw [hright, hafter]
    decide

end RtcTestbench
