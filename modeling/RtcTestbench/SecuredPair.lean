import RtcTestbench.EncryptCall

namespace RtcTestbench
open Buffer Machine
set_option autoImplicit true

variable {build : BuildConfig} {conf : TrafficClassConfig} {frameType : StatFrameType}
  {ctx sender : ThreadContext} {g : Generator} {p : TxPass} {pair : SecuredPair}
  {monitor : Option MacAddress} {calls : List EncryptCall} {call : EncryptCall} {s : UInt64}

theorem generator_counter (build : BuildConfig) (monitor : Option MacAddress) (ctx : ThreadContext)
    (g : Generator) (p : TxPass) :
    ((generator build monitor ctx).step g p).1.sequenceCounter =
      g.sequenceCounter + if p.sends ctx then ctx.conf.numFramesPerCycle else 0 := by
  rw [generator]
  dsimp only
  by_cases hs : p.sends ctx = true
  · rw [if_pos hs, if_neg (bne_iff_ne.mp hs)]
    split
    · rw [tcGenAndSendXdpFrames, tcWaitForTxCycle_eq hs]
      split <;> rfl
    · rfl
  · have hwait : tcWaitForTxCycle ctx p = 0 := by simpa [TxPass.sends] using hs
    rw [if_neg hs, if_pos hwait, UInt64.add_zero]

/-- A pass without room in the Tx ring leaves the frames alone. -/
theorem generator_ready (hctx : ctx.ForClass conf frameType) (hc : CountedClass conf frameType)
    (hg : g.Ready build conf frameType) (p : TxPass) (monitor : Option MacAddress) :
    ((generator build monitor ctx).step g p).1.Ready build conf frameType := by
  by_cases hroom : p.HasRoom ctx
  · exact (generator_step hctx hc hg hroom monitor).ready
  · simp only [TxPass.HasRoom, not_forall, Nat.not_le] at hroom
    obtain ⟨hs, hx, hlt⟩ := hroom
    have hstep : ((generator build monitor ctx).step g p).1 =
        { g with sequenceCounter := g.sequenceCounter + tcWaitForTxCycle ctx p } := by
      rw [generator]
      dsimp only
      rw [if_neg (bne_iff_ne.mp hs), if_pos hx, tcGenAndSendXdpFrames]
      dsimp only
      rw [if_pos hlt]
    rw [hstep]
    exact ⟨hg.slots, hg.frameNumber⟩

/-- The calls of a pass are numbered as its frames are. -/
theorem passEncryptCalls_carry (hctx : ctx.ForClass conf frameType)
    (hc : CountedClass conf frameType) (hm : conf.securityMode ≠ .none)
    (hg : g.Ready build conf frameType) (p : TxPass) (monitor : Option MacAddress) :
    ∃ k ≤ if p.sends ctx then conf.numFramesPerCycle.toNat else 0,
      List.Forall₂ (EncryptCall.Carries ctx) (passEncryptCalls build monitor ctx g p)
        (consecutive g.sequenceCounter k) := by
  have hready := hg.slots
  rw [passEncryptCalls]
  by_cases hs : p.sends ctx = true
  · rw [if_pos hs, if_neg (bne_iff_ne.mp hs), hctx.conf_eq]
    cases hx : conf.xdpEnabled with
    | true =>
      rw [if_pos rfl]
      by_cases hlt : p.freeDescriptors < conf.numFramesPerCycle.toNat
      · rw [if_pos hlt]
        exact ⟨0, Nat.zero_le _, .nil⟩
      · rw [if_neg hlt]
        have hle := Nat.le_trans (Nat.not_lt.mp hlt) p.freeDescriptors_le
        obtain ⟨hslots, -, hlen⟩ := frameNumbers_slots hg.frameNumber.1 hg.frameNumber.2 hle
        have htx : txSlots conf = 4096 := by
          rw [txSlots, hx, if_pos rfl]
          rfl
        refine ⟨conf.numFramesPerCycle.toNat, Nat.le_refl _, ?_⟩
        have hcarry := prepareEncryptCalls_carry hctx hc hm
          (fun slot hslot => (hready.slot slot (htx ▸ hslots slot hslot)).1) monitor
          g.sequenceCounter p.now
        rwa [hlen] at hcarry
    | false =>
      rw [if_neg Bool.false_ne_true]
      have htx : txSlots conf = conf.numFramesPerCycle.toNat := by
        rw [txSlots, hx, if_neg Bool.false_ne_true]
      rw [txMetadataRoom_packet hx] at hready
      refine ⟨conf.numFramesPerCycle.toNat, Nat.le_refl _, ?_⟩
      have hcarry := prepareEncryptCalls_carry hctx hc hm
        (fun slot hslot => (hready.slot slot (htx ▸ List.mem_range.mp hslot)).1) none
        g.sequenceCounter p.now
      rwa [List.length_range] at hcarry
  · have hwait : tcWaitForTxCycle ctx p = 0 := by simpa [TxPass.sends] using hs
    rw [if_pos hwait]
    exact ⟨0, Nat.zero_le _, .nil⟩

theorem carries_getElem? (h : List.Forall₂ (EncryptCall.Carries ctx) calls (consecutive s k))
    (hi : calls[i]? = some call) : i < k ∧ call.Carries ctx (s + UInt64.ofNat i) := by
  induction k generalizing calls s i with
  | zero =>
    cases h
    cases hi
  | succ k ih =>
    rw [consecutive] at h
    obtain ⟨head, tail, hhead, htail, rfl⟩ := List.forall₂_cons_right_iff.mp h
    cases i with
    | zero =>
      cases hi
      exact ⟨Nat.succ_pos k, (UInt64.add_zero s).symm ▸ hhead⟩
    | succ i =>
      obtain ⟨hlt, hcarries⟩ := ih htail hi
      rw [add_one_add_ofNat] at hcarries
      exact ⟨Nat.succ_lt_succ hlt, hcarries⟩

/-- Counters of a run have to fit into the vector and into the two counters of the frame. -/
def counterLimit (n : Nat) : Nat := min (2 ^ 48) (n * 2 ^ 32)

/-- What holds of the two sides and of all calls they made. -/
structure SecuredPair.Sound (build : BuildConfig) (conf : TrafficClassConfig)
    (frameType : StatFrameType) (sender : ThreadContext) (pair : SecuredPair) : Prop where
  ready : pair.generator.Ready build conf frameType
  reference_peer : Peer sender pair.reference
  mirror_peer : Peer sender pair.mirror
  counter_le : pair.generator.sequenceCounter.toNat ≤ counterLimit conf.numFramesPerCycle.toNat
  carried : ∀ call ∈ pair.calls,
    ∃ c, c.toNat < pair.generator.sequenceCounter.toNat ∧ call.Carries sender c

def SecuredEvent.generates (sender : ThreadContext) : SecuredEvent → Bool
  | .generate p => p.sends sender
  | _ => false

/-- A pass still has counters to give. -/
def HasCounters (sender : ThreadContext) (pair : SecuredPair) (e : SecuredEvent) : Prop :=
  e.generates sender = true → pair.generator.sequenceCounter.toNat +
    sender.conf.numFramesPerCycle.toNat ≤ counterLimit sender.conf.numFramesPerCycle.toNat

theorem counterLimit_lt (n : Nat) : counterLimit n < 2 ^ 64 :=
  Nat.lt_of_le_of_lt (Nat.min_le_left _ _) (by decide)

theorem Reception.encryptCall_peer (hpeer : Peer sender ctx) (r : Reception) :
    Peer sender (rxSystem.step ctx r).1 := by
  cases h : receiveFrame r.env ctx r.frameData r.len with
  | error message =>
    rw [rxSystem_step_error h]
    exact hpeer
  | ok acc =>
    rw [rxSystem_step_ok h]
    obtain ⟨hconf, -, -, hpattern, -⟩ := (receiveFrame_checked h).sameClass
    obtain ⟨hmode, hprefix, hframes, hpay, hfits⟩ := hpeer
    rw [← hconf] at hmode hprefix hframes hfits
    exact ⟨hmode, hprefix, hframes, hpattern.trans hpay, hfits⟩

/-- Sealing a delivered frame again uses the vector of the call that sealed it; only an unchanged
time stamp makes it the same call. -/
theorem receive_again (hpeer : Peer sender ctx) (r : Reception)
    (hcarried : ∀ call ∈ calls, ∃ c : UInt64, c.toNat < limit ∧ call.Carries sender c)
    (hwire : ∀ c : UInt64, c.toNat < limit →
      wireSequenceCounter sender.conf.numFramesPerCycle c = c)
    (hsealed : (r.encryptCall ctx).isSome →
      ∃ call ∈ calls, authenticated ctx.conf.securityMode r.frameData r.len = call.ad) :
    (∀ call ∈ calls ++ (r.encryptCall ctx).toList,
      ∃ c : UInt64, c.toNat < limit ∧ call.Carries sender c) ∧
    (IvsUnique (calls ++ (r.encryptCall ctx).toList) ↔ IvsUnique calls ∧ r.KeepsStamp ctx) := by
  cases hcall : r.encryptCall ctx with
  | none =>
    rw [Option.toList_none, List.append_nil, Reception.KeepsStamp, hcall]
    exact ⟨hcarried, (and_iff_left nofun).symm⟩
  | some call' =>
    obtain ⟨call, hmem, had⟩ := hsealed (by rw [hcall]; rfl)
    obtain ⟨c, hlt, hcarries⟩ := hcarried call hmem
    obtain ⟨hcall', hstamp⟩ := receiveEncryptCall_eq hpeer hcall
    rw [had] at hcall' hstamp
    rw [hcarries.counter, hwire c hlt] at hcall'
    have hcarries' : call'.Carries sender c := by
      rw [hcall']
      refine ⟨rfl, ?_, ?_, rfl⟩
      · exact metaDataToSequenceCounter_txTimestamp.trans hcarries.counter
      · exact hcarries.stamped.trans_eq length_txTimestampToMetaData.symm
    constructor
    · intro x hx
      rcases List.mem_append.mp hx with hx | hx
      · exact hcarried x hx
      · rw [List.mem_singleton.mp hx]
        exact ⟨c, hlt, hcarries'⟩
    · rw [Option.toList_some, ivsUnique_again hmem (hcarries'.iv_eq.trans hcarries.iv_eq.symm),
        Reception.KeepsStamp, hcall, ← hstamp]
      have hsame : call' = call ↔ call'.ad = call.ad := by
        constructor
        · rintro rfl
          rfl
        · intro h
          cases call
          cases call'
          cases h
          cases hcarries.iv_eq
          cases hcarries.plaintext_eq
          cases hcarries'.iv_eq
          cases hcarries'.plaintext_eq
          rfl
      rw [hsame, hcall']
      exact and_congr_right' ((txTimestampToMetaData_eq_self_iff hcarries.stamped).trans
        ⟨fun h _ => h, fun h => h rfl⟩)

theorem wireSequenceCounter_of_limit {n c : UInt64} (hn : 1 ≤ n.toNat) (hn' : n.toNat ≤ 2 ^ 32)
    (hc : c.toNat < counterLimit n.toNat) : wireSequenceCounter n c = c :=
  wireSequenceCounter_of_lt hn hn' (Nat.lt_of_lt_of_le hc (Nat.min_le_right _ _))

section Pair
variable (hsender : sender.ForClass conf frameType) (hc : CountedClass conf frameType)
  (hm : conf.securityMode ≠ .none) (hp : conf.securityIvPrefix.bytes.length = 6)
  (hn : 1 ≤ conf.numFramesPerCycle.toNat) (hn' : conf.numFramesPerCycle.toNat ≤ 2 ^ 32)
include hsender hc hm hp hn hn'

/-- A step keeps all this, and it keeps the vectors unique exactly if it keeps the time stamp. -/
theorem securedPair_step (hs : pair.Sound build conf frameType sender)
    (hsealed : SealedBefore pair e) (hcounters : HasCounters sender pair e) :
    let next := ((securedPair build monitor sender).step pair e).1
    next.Sound build conf frameType sender ∧
      (IvsUnique next.calls ↔ IvsUnique pair.calls ∧ KeepsStamps pair e) := by
  obtain ⟨hready, hreference, hmirror, hle, hcarried⟩ := hs
  have hprefix : sender.conf.securityIvPrefix.bytes.length = 6 := by rw [hsender.conf_eq, hp]
  have hwire (c : UInt64) (hlt : c.toNat < pair.generator.sequenceCounter.toNat) :
      wireSequenceCounter sender.conf.numFramesPerCycle c = c := by
    rw [hsender.conf_eq]
    exact wireSequenceCounter_of_limit hn hn' (Nat.lt_of_lt_of_le hlt hle)
  cases e with
  | referenceReceives r =>
    obtain ⟨hcarried', hunique⟩ := receive_again hreference r hcarried hwire hsealed
    exact ⟨⟨hready, r.encryptCall_peer hreference, hmirror, hle, hcarried'⟩, hunique⟩
  | mirrorReceives r =>
    obtain ⟨hcarried', hunique⟩ := receive_again hmirror r hcarried hwire hsealed
    exact ⟨⟨hready, hreference, r.encryptCall_peer hmirror, hle, hcarried'⟩, hunique⟩
  | generate p =>
    obtain ⟨k, hk, hcarry⟩ := passEncryptCalls_carry hsender hc hm hready p monitor
    have hlimit := counterLimit_lt conf.numFramesPerCycle.toNat
    have hbound : pair.generator.sequenceCounter.toNat +
        (if p.sends sender then conf.numFramesPerCycle.toNat else 0) ≤
          counterLimit conf.numFramesPerCycle.toNat := by
      rw [← hsender.conf_eq] at hle ⊢
      split
      · rename_i hsends
        exact hcounters hsends
      · exact hle
    have hcounter : ((generator build monitor sender).step pair.generator p).1.sequenceCounter.toNat
        = pair.generator.sequenceCounter.toNat +
          if p.sends sender then conf.numFramesPerCycle.toNat else 0 := by
      rw [generator_counter, hsender.conf_eq]
      split at hbound
      · rename_i hsends
        rw [if_pos hsends, if_pos hsends, UInt64.toNat_add, Nat.mod_eq_of_lt (by omega)]
      · rename_i hsends
        rw [if_neg hsends, if_neg hsends]
        exact congrArg UInt64.toNat (UInt64.add_zero _)
    have hfresh (call : EncryptCall) (i : Nat)
        (hi : (passEncryptCalls build monitor sender pair.generator p)[i]? = some call) :
        ∃ c : UInt64, c.toNat = pair.generator.sequenceCounter.toNat + i ∧ i < k ∧
          call.Carries sender c := by
      obtain ⟨hlt, hcarries⟩ := carries_getElem? hcarry hi
      exact ⟨_, toNat_add_ofNat (by omega), hlt, hcarries⟩
    have h48 : counterLimit conf.numFramesPerCycle.toNat ≤ 2 ^ 48 := Nat.min_le_left _ _
    refine ⟨⟨generator_ready hsender hc hready p monitor, hreference, hmirror, ?_, ?_⟩, ?_⟩
    · exact Nat.le_trans (Nat.le_of_eq hcounter) hbound
    · intro call hcall
      change ∃ c : UInt64, c.toNat <
        ((generator build monitor sender).step pair.generator p).1.sequenceCounter.toNat ∧ _
      rw [hcounter]
      rcases List.mem_append.mp hcall with hcall | hcall
      · obtain ⟨c, hlt, hcarries⟩ := hcarried call hcall
        exact ⟨c, by omega, hcarries⟩
      · obtain ⟨i, hi⟩ := List.mem_iff_getElem?.mp hcall
        obtain ⟨c, heq, hlt, hcarries⟩ := hfresh call i hi
        exact ⟨c, by omega, hcarries⟩
    · change IvsUnique (pair.calls ++ passEncryptCalls build monitor sender pair.generator p) ↔ _
      rw [ivsUnique_append]
      · exact (and_iff_left trivial).symm
      · intro call hcall call' hcall' heq
        obtain ⟨c, hlt, hcarries⟩ := hcarried call hcall
        obtain ⟨i, hi⟩ := List.mem_iff_getElem?.mp hcall'
        obtain ⟨c', heq', hlt', hcarries'⟩ := hfresh call' i hi
        have hsame := hcarries.counter_inj hprefix hcarries' (by omega) (by omega) heq
        rw [hsame] at hlt
        omega
      · intro call hcall call' hcall' heq
        obtain ⟨i, hi⟩ := List.mem_iff_getElem?.mp hcall
        obtain ⟨i', hi'⟩ := List.mem_iff_getElem?.mp hcall'
        obtain ⟨c, hc, hlt, hcarries⟩ := hfresh call i hi
        obtain ⟨c', hc', hlt', hcarries'⟩ := hfresh call' i' hi'
        have hsame := hcarries.counter_inj hprefix hcarries' (by omega) (by omega) heq
        have hindex : i = i' := by
          rw [hsame] at hc
          omega
        rw [hindex, hi'] at hi
        exact (Option.some.inj hi).symm

theorem securedPair_run {es : List SecuredEvent} (hs : pair.Sound build conf frameType sender)
    (hsealed : (securedPair build monitor sender).Along SealedBefore pair es)
    (hcounters : (securedPair build monitor sender).Along (HasCounters sender) pair es) :
    IvsUnique ((securedPair build monitor sender).run pair es).1.calls ↔
      IvsUnique pair.calls ∧ (securedPair build monitor sender).Along KeepsStamps pair es := by
  have hstep (pair : SecuredPair) (e : SecuredEvent)
      (hs : pair.Sound build conf frameType sender)
      (hQ : SealedBefore pair e ∧ HasCounters sender pair e) :
      let next := ((securedPair build monitor sender).step pair e).1
      next.Sound build conf frameType sender ∧
        (IvsUnique next.calls ↔ IvsUnique pair.calls ∧ KeepsStamps pair e) :=
    securedPair_step hsender hc hm hp hn hn' hs hQ.1 hQ.2
  exact System.run_iff_along (G := fun pair => IvsUnique pair.calls)
    (fun pair e hs hQ => (hstep pair e hs hQ).1) (fun pair e hs hQ => (hstep pair e hs hQ).2) hs
    (hsealed.and hcounters)

end Pair

/-- The passes of a run share out the counters. -/
theorem hasCounters_of_count {es : List SecuredEvent}
    (h : pair.generator.sequenceCounter.toNat + es.countP (·.generates sender) *
        sender.conf.numFramesPerCycle.toNat ≤
      counterLimit sender.conf.numFramesPerCycle.toNat) :
    (securedPair build monitor sender).Along (HasCounters sender) pair es := by
  induction es generalizing pair with
  | nil => trivial
  | cons e es ih =>
    have hlimit := counterLimit_lt sender.conf.numFramesPerCycle.toNat
    rw [List.countP_cons, Nat.add_mul] at h
    constructor
    · intro he
      rw [if_pos he] at h
      omega
    · apply ih
      cases e with
      | referenceReceives r =>
        exact Nat.le_trans (Nat.add_le_add_left (Nat.le_add_right _ _) _) h
      | mirrorReceives r =>
        exact Nat.le_trans (Nat.add_le_add_left (Nat.le_add_right _ _) _) h
      | generate p =>
        change ((generator build monitor sender).step pair.generator p).1.sequenceCounter.toNat + _
          ≤ _
        rw [generator_counter]
        rw [SecuredEvent.generates] at h
        split at h
        · rename_i hsends
          rw [if_pos hsends, UInt64.toNat_add, Nat.mod_eq_of_lt (by omega)]
          omega
        · rename_i hsends
          rw [if_neg hsends, UInt64.add_zero]
          omega

/-- The part of a frame on the wire that its checksum covers without being encrypted. -/
def sealedPart (conf : TrafficClassConfig) (frame : List UInt8) : List UInt8 :=
  slice frame sizeofVlanEthernetHeader
    (if conf.securityMode = .ae then sizeofProfinetSecureHeader
      else conf.frameLength - sizeofVlanEthernetHeader - sizeofSecurityChecksum)

theorem encryptCall_sealed (hctx : ctx.ForClass conf frameType) (hc : CountedClass conf frameType)
    (hm : conf.securityMode ≠ .none) (monitor : Option MacAddress)
    (hcall : (ctx.prepareFrameConfig frame s t).encryptCall = some call) :
    call.ad = sealedPart conf
      (monitorFrame monitor (prepareFrameForTx (ctx.prepareFrameConfig frame s t)).1) := by
  obtain ⟨-, hfits⟩ := hc.secure_layout hm
  have hmonitor (x : List UInt8) : sealedPart conf (monitorFrame monitor x) = sealedPart conf x :=
    slice_monitorFrame _ _ (by decide)
  rw [hmonitor, prepareFrameForTx_encryptCall _ hcall]
  rw [PrepareFrameConfig.encryptCall] at hcall
  split at hcall
  · cases hcall
  · have hmode : (ctx.prepareFrameConfig frame s t).mode = conf.securityMode := by
      rw [← hctx.conf_eq]
      rfl
    have hlength : (ctx.prepareFrameConfig frame s t).frameLength = conf.frameLength := by
      rw [← hctx.conf_eq]
      rfl
    rw [sealedPart, hmode, hlength]
    dsimp only at hcall ⊢
    rw [hmode, hlength] at hcall
    cases hmode' : conf.securityMode with
    | none => exact absurd hmode' hm
    | ao =>
      simp only [hmode', Option.some.injEq] at hcall
      subst hcall
      rw [if_neg (by decide), if_neg (by decide), List.nil_append, slice_writeAll_disjoint]
      intro w hw
      rw [List.mem_singleton.mp hw]
      exact .inl (by change 18 + (conf.frameLength - 18 - 16) ≤ conf.frameLength - 16; omega)
    | ae =>
      simp only [hmode', Option.some.injEq] at hcall
      subst hcall
      rw [if_pos rfl, if_pos rfl, slice_writeAll_disjoint]
      intro w hw
      rcases List.mem_pair.mp hw with rfl | rfl
      · exact .inl (Nat.le_refl 44)
      · exact .inl (by change 18 + 26 ≤ conf.frameLength - 16; omega)

theorem prepareEncryptCalls_sealed (hctx : ctx.ForClass conf frameType)
    (hc : CountedClass conf frameType) (hm : conf.securityMode ≠ .none)
    (hslots : ∀ slot ∈ slots, slotOffset room slot + conf.frameLength ≤ mem.length)
    (hbound : ∀ slot ∈ slots, slot < 2 ^ 19) (hnodup : slots.Nodup) (monitor : Option MacAddress)
    (s t : UInt64) :
    List.Forall₂ (fun f call => call.ad = sealedPart conf f.bytes)
      (sentFrames conf.frameLength room (prepareFrames ctx room t monitor mem slots s) slots s)
      (prepareEncryptCalls ctx room t monitor mem slots s) := by
  induction slots generalizing mem monitor s with
  | nil => exact .nil
  | cons slot slots ih =>
    obtain ⟨hslot, hslots⟩ := List.forall_mem_cons.mp hslots
    obtain ⟨hlt, hbound⟩ := List.forall_mem_cons.mp hbound
    obtain ⟨hnot, hnodup⟩ := List.nodup_cons.mp hnodup
    rw [prepareEncryptCalls, prepareFrames, sentFrames, hctx.conf_eq]
    have hframe := length_slice hslot
    obtain ⟨call, hcall, -⟩ := encryptCall_carries hctx hc hm hframe s t
    have hlater := @slice_prepareFrames ctx room slots slot (hctx.conf_eq ▸ hc.fits_chunk)
      hbound hlt hnot
    rw [hctx.conf_eq] at hlater
    rw [hcall]
    refine .cons ?_ (ih (by simpa only [length_write] using hslots) hbound hnodup none (s + 1))
    dsimp only
    rw [hlater, slice_write_self _ _ ?_ ?_]
    · exact encryptCall_sealed hctx hc hm monitor hcall
    · rw [length_monitorFrame, length_prepareFrameForTx]
      exact Nat.le_trans (Nat.add_le_add_left (Nat.le_of_eq hframe) _) hslot
    · rw [length_monitorFrame, length_prepareFrameForTx]
      exact hframe.symm

/-- Every frame a pass sends was sealed by a call of that pass. -/
theorem generator_sealed (hctx : ctx.ForClass conf frameType) (hc : CountedClass conf frameType)
    (hm : conf.securityMode ≠ .none) (hg : g.Ready build conf frameType) (p : TxPass)
    (monitor : Option MacAddress) :
    List.Forall₂ (fun f call => call.ad = sealedPart conf f.bytes)
      ((generator build monitor ctx).step g p).2 (passEncryptCalls build monitor ctx g p) := by
  have hready := hg.slots
  rw [passEncryptCalls, generator]
  dsimp only
  split
  · exact .nil
  · rw [hctx.conf_eq]
    cases hx : conf.xdpEnabled with
    | true =>
      rw [if_pos rfl, if_pos rfl, tcGenAndSendXdpFrames, hctx.conf_eq]
      dsimp only
      split
      · exact .nil
      · rename_i hlt
        have hle := Nat.le_trans (Nat.not_lt.mp hlt) p.freeDescriptors_le
        obtain ⟨hslots, hnodup, -⟩ := frameNumbers_slots hg.frameNumber.1 hg.frameNumber.2 hle
        have htx : txSlots conf = 4096 := by
          rw [txSlots, hx, if_pos rfl]
          rfl
        exact prepareEncryptCalls_sealed hctx hc hm
          (fun slot hslot => (hready.slot slot (htx ▸ hslots slot hslot)).1)
          (fun slot hslot => (hslots slot hslot).trans (by decide)) hnodup monitor _ _
    | false =>
      rw [if_neg Bool.false_ne_true, if_neg Bool.false_ne_true, tcGenAndSendFrames, hctx.conf_eq]
      have htx : txSlots conf = conf.numFramesPerCycle.toNat := by
        rw [txSlots, hx, if_neg Bool.false_ne_true]
      rw [txMetadataRoom_packet hx] at hready
      have hslots : ∀ slot ∈ List.range conf.numFramesPerCycle.toNat, slot < txSlots conf :=
        fun slot hslot => htx ▸ List.mem_range.mp hslot
      exact prepareEncryptCalls_sealed hctx hc hm
        (fun slot hslot => (hready.slot slot (hslots slot hslot)).1)
        (fun slot hslot => (hslots slot hslot).trans_le hready.bound) List.nodup_range none _ _

/-- The receiver authenticates the part the sender sealed. -/
theorem authenticated_delivered {rx : ThreadContext} (hf : OnWire conf frameType f.bytes s)
    (hc : CountedClass conf frameType) (hm : conf.securityMode ≠ .none)
    (hrx : rx.ForClass (peerConfig conf rxMirrorEnabled xdpEnabled) frameType)
    (hdel : Delivers frameType f r) :
    authenticated rx.conf.securityMode r.frameData r.len = sealedPart conf f.bytes ∧
      metaDataToTxTimestamp r.frameData (sizeOfEthHeader r.frameData + 10) =
        metaDataToTxTimestamp f.bytes 28 ∧
      ∃ call, r.encryptCall rx = some call := by
  obtain ⟨stripped, tail, hdata, hlen⟩ := hdel
  have ht := hc.secured hm
  have hlength := hf.length_eq
  obtain ⟨hoff, hfits⟩ := hc.secure_layout hm
  have hether : wireEtherType conf frameType = some ethPProfinetRt := by
    cases frameType <;> first | rfl | simp at ht
  obtain ⟨htag, hproto⟩ := hf.header _ hether
  have hmode : rx.conf.securityMode = conf.securityMode := by rw [hrx.conf_eq]; rfl
  have hd : Delivered f.bytes stripped r.frameData r.len := by
    rw [hdata, hlen, deliver_secure ht]
    exact delivered_either (by omega) stripped tail
  have hv : SecureView f.bytes rx r.frameData r.len _ :=
    hd.secureView (by rw [hrx.conf_eq]; exact hlength) (by omega) htag hproto rfl
  have hview := hv.view 18
  rw [Nat.sub_self, Nat.add_zero] at hview
  refine ⟨?_, ?_, ?_⟩
  · rw [authenticated, sealedPart, hmode]
    have hsize : r.len - sizeOfEthHeader r.frameData = conf.frameLength - 18 := by
      have hl := hv.len_eq
      omega
    rw [hsize]
    refine hview _ (Nat.le_refl _) ?_
    split
    · change 18 + 26 ≤ f.bytes.length
      omega
    · change 18 + (conf.frameLength - 18 - 16) ≤ f.bytes.length
      omega
  · exact metaDataToTxTimestamp_congr (hv.view 28 16 (by decide) (by omega))
  · rw [Reception.encryptCall, receiveEncryptCall, hv.check, hmode]
    cases hmode' : conf.securityMode with
    | none => exact absurd hmode' hm
    | ao => exact ⟨_, rfl⟩
    | ae => exact ⟨_, rfl⟩

end RtcTestbench
