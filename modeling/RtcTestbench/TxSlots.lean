import RtcTestbench.Generator

namespace RtcTestbench
open Buffer Function Machine
set_option autoImplicit true

def ThreadContext.prepared (ctx : ThreadContext) (frame : List UInt8) (s t : UInt64) : List UInt8 :=
  (prepareFrameForTx (ctx.prepareFrameConfig frame s t)).1

/-- A Tx thread without mirror, with its buffers as a table of frames. -/
structure SlotGenerator where
  sequenceCounter : UInt64
  frameNumber : Nat
  table : Nat → List UInt8

/-- The frames of a cycle are prepared in the given slots. -/
def patchSlots (ctx : ThreadContext) (now : UInt64) :
    Option MacAddress → (Nat → List UInt8) → List Nat → UInt64 →
      (Nat → List UInt8) × List SentFrame
  | _, table, [], _ => (table, [])
  | monitor, table, slot :: slots, s =>
    let frame := monitorFrame monitor (ctx.prepared (table slot) s now)
    let r := patchSlots ctx now none (update table slot frame) slots (s + 1)
    (r.1, ⟨s, frame⟩ :: r.2)

/-- The slots of a pass: from the current chunk on, or always the first ones. -/
def passSlots (ctx : ThreadContext) (frameNumber : Nat) : List Nat :=
  let n := ctx.conf.numFramesPerCycle.toNat
  if ctx.conf.xdpEnabled then (frameNumbers frameNumber n).map (· - xskRingProdDefaultNumDescs)
  else List.range n

def slotGenerator (monitor : Option MacAddress) (ctx : ThreadContext) :
    System SlotGenerator TxPass (List SentFrame) where
  step a p :=
    let n := ctx.conf.numFramesPerCycle
    if tcWaitForTxCycle ctx p = 0 then (a, [])
    else if ctx.conf.xdpEnabled ∧ p.freeDescriptors < n.toNat then
      ({ a with sequenceCounter := a.sequenceCounter + n }, [])
    else
      let r := patchSlots ctx p.now (if ctx.conf.xdpEnabled then monitor else none) a.table
        (passSlots ctx a.frameNumber) a.sequenceCounter
      (⟨a.sequenceCounter + n,
        if ctx.conf.xdpEnabled then nextFrameNumber^[n.toNat] a.frameNumber else a.frameNumber,
        r.1⟩, r.2)

/-- The pass has frames to send and descriptors for them. -/
def TxPass.fills (ctx : ThreadContext) (p : TxPass) : Bool :=
  p.sends ctx && decide (ctx.conf.numFramesPerCycle.toNat ≤ p.freeDescriptors)

/-- The buffers hold the frames of the table. -/
structure HoldsTable (build : BuildConfig) (ctx : ThreadContext) (g : Generator)
    (a : SlotGenerator) : Prop where
  sequenceCounter : g.sequenceCounter = a.sequenceCounter
  frameNumber : g.frameNumber = a.frameNumber
  rotation : 4096 ≤ a.frameNumber ∧ a.frameNumber < 8192
  table : ∀ slot < txSlots ctx.conf,
    slice g.frames (slotOffset (txMetadataRoom build ctx.conf) slot) ctx.conf.frameLength =
      a.table slot

variable {ctx : ThreadContext} {mem : List UInt8} {table : Nat → List UInt8} {slots : List Nat}
  {room numSlots : Nat} {build : BuildConfig} {umem : List UInt8}
  {monitor : Option MacAddress} {a : SlotGenerator} {p : TxPass}

theorem length_patchSlots (t : UInt64) (monitor : Option MacAddress) (table : Nat → List UInt8)
    (slots : List Nat) (s : UInt64) (b : Nat) :
    ((patchSlots ctx t monitor table slots s).1 b).length = (table b).length := by
  induction slots generalizing monitor table s with
  | nil => rfl
  | cons slot slots ih =>
    rw [patchSlots, ih]
    by_cases h : b = slot
    · subst h
      rw [update_self, length_monitorFrame]
      exact length_prepareFrameForTx _
    · rw [update_of_ne h]

theorem patchSlots_other (hb : b ∉ slots) (t : UInt64) (monitor : Option MacAddress)
    (table : Nat → List UInt8) (s : UInt64) :
    (patchSlots ctx t monitor table slots s).1 b = table b := by
  induction slots generalizing monitor table s with
  | nil => rfl
  | cons slot slots ih =>
    obtain ⟨hne, hb⟩ := List.ne_and_not_mem_of_not_mem_cons hb
    rw [patchSlots, ih hb, update_of_ne hne]

theorem getMetaDataOffset_le (frameType : StatFrameType) (mode : SecurityMode) :
    getMetaDataOffset frameType mode ≤ 28 := by
  cases frameType <;> cases mode <;> decide

/-- Preparing a frame leaves what is in front of the meta data. -/
theorem prepared_slice {conf : TrafficClassConfig} {frameType : StatFrameType}
    (hctx : ctx.ForClass conf frameType)
    (hmeta : i + k ≤ getMetaDataOffset frameType conf.securityMode)
    (hchecksum : i + k ≤ conf.frameLength - sizeofSecurityChecksum)
    (hec : frameType = .genericL2 → i + k ≤ 14) (frame : List UInt8) (s t : UInt64) :
    slice (ctx.prepared frame s t) i k = slice frame i k := by
  obtain ⟨rfl, rfl, -, hoff⟩ := hctx
  have hsecure : i + k ≤ sizeofVlanEthernetHeader + 10 :=
    Nat.le_trans hmeta (getMetaDataOffset_le _ _)
  rw [← hoff] at hmeta
  rw [ThreadContext.prepared, prepareFrameForTx]
  split
  · rename_i h
    have hfront := hec h.1
    apply slice_writeAll_disjoint
    simp only [List.forall_mem_cons]
    exact ⟨.inl (by omega), .inl hfront, .inl (by omega), List.forall_mem_nil _⟩
  · cases (ctx.prepareFrameConfig frame s t).mode with
    | none => exact slice_setMetaData (.inl hmeta)
    | ao =>
      exact (slice_write_left _ _ hchecksum).trans (slice_setMetaData (.inl hsecure))
    | ae =>
      refine (slice_writeAll_disjoint _ ?_).trans (slice_setMetaData (.inl hsecure))
      simp only [List.forall_mem_cons]
      exact ⟨.inl (Nat.le_trans hsecure (by decide)), .inl hchecksum, List.forall_mem_nil _⟩

/-- Between the destination and the meta data a frame leaves as it was. -/
theorem monitored_slice {conf : TrafficClassConfig} {frameType : StatFrameType}
    (hctx : ctx.ForClass conf frameType) (hfront : 6 ≤ i)
    (hmeta : i + k ≤ getMetaDataOffset frameType conf.securityMode)
    (hchecksum : i + k ≤ conf.frameLength - sizeofSecurityChecksum)
    (hec : frameType = .genericL2 → i + k ≤ 14) (monitor : Option MacAddress)
    (frame : List UInt8) (s t : UInt64) :
    slice (monitorFrame monitor (ctx.prepared frame s t)) i k = slice frame i k := by
  rw [slice_monitorFrame _ _ hfront]
  exact prepared_slice hctx hmeta hchecksum hec frame s t

theorem patchSlots_counters (ctx : ThreadContext) (t : UInt64) (monitor : Option MacAddress)
    (table : Nat → List UInt8) (slots : List Nat) (s : UInt64) :
    (patchSlots ctx t monitor table slots s).2.map SentFrame.sequenceCounter =
      consecutive s slots.length := by
  induction slots generalizing monitor table s with
  | nil => rfl
  | cons slot slots ih => rw [patchSlots, List.map_cons, ih, List.length_cons, consecutive]

section Frames
variable {P : List UInt8 → Prop} {Q : List UInt8 → UInt64 → UInt64 → Prop}

/-- What is true of every frame in the table, and what follows for one that has been prepared. -/
def KeepsFrames (ctx : ThreadContext) (P : List UInt8 → Prop)
    (Q : List UInt8 → UInt64 → UInt64 → Prop) (monitor : Option MacAddress) : Prop :=
  ∀ frame s t, P frame → P (monitorFrame monitor (ctx.prepared frame s t)) ∧
    Q (monitorFrame monitor (ctx.prepared frame s t)) s t

theorem patchSlots_forall (hnone : KeepsFrames ctx P Q none)
    (hmonitor : KeepsFrames ctx P Q monitor)
    (htable : ∀ slot < numSlots, P (table slot)) (hslots : ∀ slot ∈ slots, slot < numSlots)
    (s t : UInt64) :
    (∀ slot < numSlots, P ((patchSlots ctx t monitor table slots s).1 slot)) ∧
      ∀ f ∈ (patchSlots ctx t monitor table slots s).2, Q f.bytes f.sequenceCounter t := by
  induction slots generalizing monitor table s with
  | nil => exact ⟨htable, nofun⟩
  | cons slot slots ih =>
    obtain ⟨hslot, hslots⟩ := List.forall_mem_cons.mp hslots
    obtain ⟨hkept, hframe⟩ := hmonitor _ s t (htable slot hslot)
    rw [patchSlots]
    dsimp only
    have htable' : ∀ b < numSlots,
        P (update table slot (monitorFrame monitor (ctx.prepared (table slot) s t)) b) := by
      intro b hb
      by_cases h : b = slot
      · subst h
        rw [update_self]
        exact hkept
      · rw [update_of_ne h]
        exact htable b hb
    obtain ⟨hfinal, hsent⟩ := ih hnone htable' hslots (s + 1)
    exact ⟨hfinal, List.forall_mem_cons.mpr ⟨hframe, hsent⟩⟩

end Frames

/-- In memory the loop does what it does in the table. -/
theorem prepareFrames_patchSlots (hL : ctx.conf.frameLength ≤ maxFrameSize)
    (hbound : numSlots ≤ 2 ^ 19)
    (htable : ∀ slot < numSlots, slice mem (slotOffset room slot) ctx.conf.frameLength = table slot)
    (hslots : ∀ slot ∈ slots, slot < numSlots) (hnodup : slots.Nodup) (t : UInt64)
    (monitor : Option MacAddress) (s : UInt64) :
    (∀ slot < numSlots, slice (prepareFrames ctx room t monitor mem slots s)
        (slotOffset room slot) ctx.conf.frameLength =
      (patchSlots ctx t monitor table slots s).1 slot) ∧
    sentFrames ctx.conf.frameLength room (prepareFrames ctx room t monitor mem slots s) slots s =
      (patchSlots ctx t monitor table slots s).2 := by
  induction slots generalizing monitor mem table s with
  | nil => exact ⟨htable, rfl⟩
  | cons slot slots ih =>
    obtain ⟨hslot, hslots⟩ := List.forall_mem_cons.mp hslots
    obtain ⟨hnot, hnodup⟩ := List.nodup_cons.mp hnodup
    rw [prepareFrames, sentFrames, patchSlots, htable slot hslot]
    dsimp only
    have hlen : (monitorFrame monitor (ctx.prepared (table slot) s t)).length =
        (slice mem (slotOffset room slot) ctx.conf.frameLength).length := by
      rw [length_monitorFrame, ThreadContext.prepared, length_prepareFrameForTx, htable slot hslot]
      rfl
    rw [← ThreadContext.prepared]
    generalize monitorFrame monitor (ctx.prepared (table slot) s t) = frame at hlen ⊢
    have hshort : frame.length ≤ ctx.conf.frameLength := hlen ▸ List.length_take_le _ _
    have htable' : ∀ b < numSlots, slice (write mem (slotOffset room slot) frame)
        (slotOffset room b) ctx.conf.frameLength = update table slot frame b := by
      intro b hb
      by_cases h : b = slot
      · subst h
        rw [update_self]
        exact slice_write_slice _ _ hlen
      · rw [update_of_ne h, slice_write_slot hshort hL (hslot.trans_le hbound)
          (hb.trans_le hbound) (Ne.symm h)]
        exact htable b hb
    obtain ⟨hfinal, hsent⟩ := ih htable' hslots hnodup none (s + 1)
    refine ⟨hfinal, ?_⟩
    rw [hsent, hfinal slot hslot, patchSlots_other hnot, update_self]

theorem nextFrameNumber_iterate (h : 4096 ≤ fn ∧ fn < 8192) (k : Nat) :
    4096 ≤ nextFrameNumber^[k] fn ∧ nextFrameNumber^[k] fn < 8192 := by
  cases k with
  | zero => exact h
  | succ k =>
    rw [iterate_succ_apply', nextFrameNumber]
    simp only [xskRingConsDefaultNumDescs, xskRingProdDefaultNumDescs]
    omega

theorem nextFrameNumber_rotation (x k : Nat) :
    nextFrameNumber^[k] (x % 4096 + 4096) = (x + k) % 4096 + 4096 := by
  induction k with
  | zero => rfl
  | succ k ih =>
    rw [iterate_succ_apply', ih, nextFrameNumber]
    simp only [xskRingConsDefaultNumDescs, xskRingProdDefaultNumDescs]
    omega

theorem frameNumbers_rotation (x k : Nat) :
    frameNumbers (x % 4096 + 4096) k = (List.range k).map fun i => (x + i) % 4096 + 4096 := by
  rw [frameNumbers_eq (by omega) (by omega)]
  apply List.map_congr_left
  intro i _
  omega

theorem passSlots_ok (h : 4096 ≤ fn ∧ fn < 8192)
    (hroom : ctx.conf.xdpEnabled = true → ctx.conf.numFramesPerCycle.toNat ≤ 4096) :
    (∀ slot ∈ passSlots ctx fn, slot < txSlots ctx.conf) ∧ (passSlots ctx fn).Nodup := by
  rw [passSlots, txSlots]
  cases hx : ctx.conf.xdpEnabled with
  | true =>
    obtain ⟨hlt, hnodup, -⟩ := frameNumbers_slots h.1 h.2 (hroom hx)
    exact ⟨hlt, hnodup⟩
  | false => exact ⟨fun slot hs => List.mem_range.mp hs, List.nodup_range⟩

theorem fills_bounds (h : p.fills ctx = true) :
    ∃ k, ctx.conf.numFramesPerCycle.toNat = k + 1 ∧ k + 1 ≤ 4096 := by
  obtain ⟨hsends, hroom⟩ := Bool.and_eq_true_iff.mp h
  have hle := Nat.le_trans (of_decide_eq_true hroom) p.freeDescriptors_le
  have hpos : ctx.conf.numFramesPerCycle.toNat ≠ 0 := by
    intro h0
    have hwait := tcWaitForTxCycle_eq hsends
    rw [TxPass.sends, hwait, bne_iff_ne] at hsends
    exact hsends (UInt64.toNat_inj.mp h0)
  obtain ⟨k, hk⟩ := Nat.exists_eq_succ_of_ne_zero hpos
  rw [hk] at hle
  exact ⟨k, hk, hle⟩

theorem step_fills (hx : ctx.conf.xdpEnabled = true) (h : p.fills ctx = true) :
    (slotGenerator monitor ctx).step a p =
      let r := patchSlots ctx p.now monitor a.table (passSlots ctx a.frameNumber)
        a.sequenceCounter
      (⟨a.sequenceCounter + ctx.conf.numFramesPerCycle,
        nextFrameNumber^[ctx.conf.numFramesPerCycle.toNat] a.frameNumber, r.1⟩, r.2) := by
  obtain ⟨hsends, hroom⟩ := Bool.and_eq_true_iff.mp h
  have hfree : ¬ p.freeDescriptors < ctx.conf.numFramesPerCycle.toNat :=
    Nat.not_lt.mpr (of_decide_eq_true hroom)
  simp only [slotGenerator, hx, if_true, true_and]
  rw [if_neg (bne_iff_ne.mp hsends), if_neg hfree]

/-- Without frames or descriptors only the counter may move on. -/
theorem step_idle (monitor : Option MacAddress) (a : SlotGenerator)
    (hx : ctx.conf.xdpEnabled = true)
    (h : ¬ p.fills ctx = true) :
    ∃ s, (slotGenerator monitor ctx).step a p = ({ a with sequenceCounter := s }, []) := by
  simp only [slotGenerator, hx, true_and]
  by_cases hwait : tcWaitForTxCycle ctx p = 0
  · rw [if_pos hwait]
    exact ⟨_, rfl⟩
  · have hfree : p.freeDescriptors < ctx.conf.numFramesPerCycle.toNat := by
      apply Nat.lt_of_not_le
      intro hroom
      exact h (Bool.and_eq_true_iff.mpr ⟨bne_iff_ne.mpr hwait, decide_eq_true hroom⟩)
    rw [if_neg hwait, if_pos hfree]
    exact ⟨_, rfl⟩

theorem slotGenerator_forall {P : List UInt8 → Prop} {Q : List UInt8 → UInt64 → UInt64 → Prop}
    (hnone : KeepsFrames ctx P Q none) (hmonitor : KeepsFrames ctx P Q monitor)
    (hnumber : 4096 ≤ a.frameNumber ∧ a.frameNumber < 8192)
    (htable : ∀ slot < txSlots ctx.conf, P (a.table slot)) (passes : List TxPass) :
    ∀ x ∈ passes.zip ((slotGenerator monitor ctx).run a passes).2, ∀ f ∈ x.2,
      Q f.bytes f.sequenceCounter x.1.now := by
  induction passes generalizing a with
  | nil => nofun
  | cons p passes ih =>
    rw [System.run_cons, List.zip_cons_cons, List.forall_mem_cons]
    generalize hr : (slotGenerator monitor ctx).step a p = r
    simp only [slotGenerator] at hr
    split at hr
    · subst hr
      exact ⟨nofun, ih hnumber htable⟩
    · split at hr
      · subst hr
        exact ⟨nofun, ih hnumber htable⟩
      · rename_i hfree
        have hslots := (@passSlots_ok ctx _ hnumber fun hx =>
          Nat.le_trans (Nat.le_of_not_lt fun h => hfree ⟨hx, h⟩) p.freeDescriptors_le).1
        have hfirst : KeepsFrames ctx P Q (if ctx.conf.xdpEnabled then monitor else none) := by
          split
          · exact hmonitor
          · exact hnone
        obtain ⟨htable', hsent⟩ := patchSlots_forall hnone hfirst htable hslots a.sequenceCounter
          p.now
        subst hr
        refine ⟨hsent, ih ?_ htable'⟩
        dsimp only
        split
        · exact nextFrameNumber_iterate hnumber _
        · exact hnumber

/-- The Tx thread and the table stay together and send the same frames. -/
theorem generator_simulates (build : BuildConfig) (monitor : Option MacAddress)
    (hL : ctx.conf.frameLength ≤ maxFrameSize) (hbound : txSlots ctx.conf ≤ 2 ^ 19) :
    Simulates (generator build monitor ctx) (slotGenerator monitor ctx) (fun _ _ => True)
      (HoldsTable build ctx) := by
  have hstep (g : Generator) (a : SlotGenerator) (p : TxPass) (h : HoldsTable build ctx g a) :
      HoldsTable build ctx ((generator build monitor ctx).step g p).1
          ((slotGenerator monitor ctx).step a p).1 ∧
        ((generator build monitor ctx).step g p).2 = ((slotGenerator monitor ctx).step a p).2 := by
    simp only [generator, slotGenerator]
    by_cases hwait : tcWaitForTxCycle ctx p = 0
    · rw [if_pos hwait, if_pos hwait]
      exact ⟨h, rfl⟩
    · have hn : tcWaitForTxCycle ctx p = ctx.conf.numFramesPerCycle :=
        tcWaitForTxCycle_eq (bne_iff_ne.mpr hwait)
      rw [if_neg hwait, if_neg hwait]
      cases hx : ctx.conf.xdpEnabled with
      | true =>
        simp only [if_true, true_and, tcGenAndSendXdpFrames, hn]
        by_cases hfree : p.freeDescriptors < ctx.conf.numFramesPerCycle.toNat
        · rw [if_pos hfree, if_pos hfree, h.sequenceCounter]
          exact ⟨⟨rfl, h.frameNumber, h.rotation, h.table⟩, rfl⟩
        · have hle : ctx.conf.numFramesPerCycle.toNat ≤ 4096 :=
            Nat.le_trans (Nat.le_of_not_lt hfree) p.freeDescriptors_le
          obtain ⟨hslots, hnodup⟩ := passSlots_ok h.rotation fun _ => hle
          obtain ⟨htable, hsent⟩ := prepareFrames_patchSlots hL hbound h.table hslots hnodup
            p.now monitor a.sequenceCounter
          rw [passSlots, hx, if_pos rfl] at htable hsent
          rw [if_neg hfree, if_neg hfree, h.sequenceCounter, h.frameNumber, passSlots, hx,
            if_pos rfl]
          exact ⟨⟨rfl, rfl, nextFrameNumber_iterate h.rotation _, htable⟩, hsent⟩
      | false =>
        have hroom : txMetadataRoom build ctx.conf = 0 := txMetadataRoom_packet hx
        obtain ⟨hslots, hnodup⟩ := @passSlots_ok ctx _ h.rotation fun ht => by
          rw [hx] at ht
          cases ht
        obtain ⟨htable, hsent⟩ := prepareFrames_patchSlots hL hbound h.table hslots hnodup
          p.now none a.sequenceCounter
        rw [passSlots, hx, if_neg Bool.false_ne_true, hroom] at htable hsent
        simp only [Bool.false_eq_true, false_and, if_false, tcGenAndSendFrames, passSlots, hx,
          h.sequenceCounter]
        refine ⟨⟨rfl, h.frameNumber, h.rotation, ?_⟩, hsent⟩
        rw [hroom]
        exact htable
  exact ⟨fun h _ => (hstep _ _ _ h).1, fun h _ => (hstep _ _ _ h).2⟩

theorem txMetadataRoom_le (build : BuildConfig) (conf : TrafficClassConfig) :
    txMetadataRoom build conf ≤ 24 := by
  rw [txMetadataRoom]
  split
  · rcases build.sizeofXskTxMetadata_eq with h | h <;> omega
  · exact Nat.zero_le _

/-- The table at the start: what the initialisation left in the slots. -/
def startTable (build : BuildConfig) (ctx : ThreadContext) (umem : List UInt8) : SlotGenerator :=
  let g := Generator.start build ctx umem
  ⟨g.sequenceCounter, g.frameNumber, fun slot =>
    slice g.frames (slotOffset (txMetadataRoom build ctx.conf) slot) ctx.conf.frameLength⟩

theorem startTable_rotation :
    4096 ≤ (startTable build ctx umem).frameNumber ∧
      (startTable build ctx umem).frameNumber < 8192 :=
  ⟨Nat.le_refl 4096, (by decide : 4096 < 8192)⟩

section Start
variable {conf : TrafficClassConfig} {frameType : StatFrameType} {source : MacAddress}
  {securityInit : SecurityAlgorithm → List UInt8 → Aead.Cipher} {tx sender : ThreadContext}

theorem tcThreadsCreate_source
    (htx : tcThreadsCreate securityInit conf frameType source = some tx) : tx.source = source := by
  simp only [tcThreadsCreate, Option.bind_eq_bind, Option.bind_eq_some_iff, Option.pure_def,
    Option.some.injEq] at htx
  obtain ⟨txFrameData, -, rxFrameData, -, frameCopy, -, mirrorBuffer, -, rfl⟩ := htx
  rfl

/-- What a run finds in a slot: a frame as the class initialises it, as far as the chunk goes. -/
theorem startTable_chunk (htx : tcThreadsCreate securityInit conf frameType source = some tx)
    (hinit : tcTxThreadInit build tx = some sender)
    (humem : umem.length = xskRingConsDefaultNumDescs * maxFrameSize)
    (hslot : slot < txSlots conf) :
    let room := txMetadataRoom build conf
    let frame := (startTable build sender umem).table slot
    ∃ ctx chunk, ctx.ForClass conf frameType ∧ maxFrameSize ≤ room + chunk.length ∧
      (min conf.frameLength (maxFrameSize - room) ≤ frame.length ∧
        frame.length ≤ conf.frameLength) ∧
      ∀ i k, i + k ≤ conf.frameLength → room + (i + k) ≤ maxFrameSize →
        slice frame i k =
          slice (initializeFrame ctx chunk (maxFrameSize - room) source conf.l2Destination) i
            k := by
  intro room frame
  have hclass := (tcThreadsCreate_created htx).toForClass
  obtain ⟨hsender, -, hbound, -⟩ := tcTxThreadInit_sender hclass hinit
  obtain ⟨ctx, mem, hctx, hm, hframes⟩ := Generator.start_frames htx hinit humem
  rw [tcThreadsCreate_source htx] at hframes
  have hm := Nat.le_of_eq hm.symm
  obtain ⟨chunk, hchunk, hview⟩ := tcInitializeFrames_chunk hframes hm hslot
  rw [hctx.conf_eq] at hchunk hview
  have hframe : frame = slice (Generator.start build sender umem).frames (slotOffset room slot)
      conf.frameLength := by
    simp only [frame, startTable, hsender.conf_eq, room]
  have hend := slot_end_le hm hslot
  refine ⟨ctx, chunk, hctx, hchunk, ?_, fun i k hi hroom => ?_⟩
  · rw [hframe, slice, List.length_take, List.length_drop, length_tcInitializeFrames hframes,
      slotOffset_eq (hslot.trans_le hbound)]
    omega
  · rw [hframe, slice_slice _ hi]
    exact hview i k hroom

end Start

/-- A whole run, seen as one over the table. -/
theorem generator_run_table (hL : ctx.conf.frameLength ≤ maxFrameSize)
    (hbound : txSlots ctx.conf ≤ 2 ^ 19) (monitor : Option MacAddress) (umem : List UInt8)
    (passes : List TxPass) :
    ((generator build monitor ctx).run (Generator.start build ctx umem) passes).2 =
      ((slotGenerator monitor ctx).run (startTable build ctx umem) passes).2 := by
  have hholds : HoldsTable build ctx (Generator.start build ctx umem)
      (startTable build ctx umem) := ⟨rfl, rfl, startTable_rotation, fun slot _ => rfl⟩
  have hall := (generator build monitor ctx).along_of_forall
    (fun _ p (_ : p ∈ passes) => trivial) (Generator.start build ctx umem)
  exact ((generator_simulates build monitor hL hbound).run hholds hall).2

end RtcTestbench
