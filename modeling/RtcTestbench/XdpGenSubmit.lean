import RtcTestbench.Lossless
import RtcTestbench.XdpGenerator

namespace RtcTestbench
open Buffer Function Machine XskRing
set_option autoImplicit true

/-- The frames on their way: submitted, with the kernel, or completed. -/
def XdpGenerator.inFlight (s : XdpGenerator) : List TxDesc :=
  s.tx.submitted ++ s.kernelTx ++ s.cq.entries

def slotAddr (room slot : Nat) : Nat := txUmemStart + (slot * xdpFrameSize + room)

/-- The chunk of the descriptor holds its frame, which asks for a time if it is the first of its
cycle, and one of the batches contains it. -/
structure Prepared (conf : TrafficClassConfig) (frameType : StatFrameType) (room : Nat)
    (s : XdpGenerator) (bs : List SentBatch) (d : TxDesc) : Prop where
  onWire : ∃ slot < 4096, d.addr = slotAddr room slot ∧
    OnWire conf frameType (slice s.gen.frames (slotOffset room slot) conf.frameLength)
      d.sequenceCounter
  flag : d.sequenceCounter.toNat % conf.numFramesPerCycle.toNat = 0 →
    (s.metadata d.addr).timestamp = true
  batch : ∃ b ∈ bs, b.Contains d.sequenceCounter.toNat

variable {build : BuildConfig} {monitor : Option MacAddress} {ctx : ThreadContext}
  {conf : TrafficClassConfig} {frameType : StatFrameType} {s s' : XdpGenerator} {p : XdpGenPass}
  {room : Nat} {bs : List SentBatch} {d : TxDesc} {k : TxKernelStep}

section Kernel

theorem kernelStep_gen (s : XdpGenerator) (k : TxKernelStep) : (s.kernelStep k).gen = s.gen := by
  fun_cases XdpGenerator.kernelStep s k <;> rfl

theorem kernelStep_tx (s : XdpGenerator) (k : TxKernelStep) :
    (s.kernelStep k).tx.size = s.tx.size ∧ (s.kernelStep k).tx.reserved = s.tx.reserved := by
  fun_cases XdpGenerator.kernelStep s k
  case case2 desc tx ht =>
    obtain ⟨hsize, hreserved, -⟩ := Producer.take_spec ht
    exact ⟨hsize, hreserved⟩
  all_goals exact ⟨rfl, rfl⟩

theorem complete_timestamp (m : XskTxMetadata) (hwTs : UInt64) :
    (m.complete hwTs).timestamp = m.timestamp := by
  rw [XskTxMetadata.complete]
  split <;> rfl

theorem kernelStep_timestamp (s : XdpGenerator) (k : TxKernelStep) (addr : Nat) :
    ((s.kernelStep k).metadata addr).timestamp = (s.metadata addr).timestamp := by
  fun_cases XdpGenerator.kernelStep s k
  case case5 i hwTs desc hi cq hp =>
    dsimp only
    by_cases ha : addr = desc.addr
    · rw [ha, update_self, complete_timestamp]
    · rw [update_of_ne ha]
  all_goals rfl

theorem mem_inFlight : d ∈ s.inFlight ↔ d ∈ s.tx.submitted ∨ d ∈ s.kernelTx ∨ d ∈ s.cq.entries := by
  rw [XdpGenerator.inFlight, List.mem_append, List.mem_append, or_assoc]

/-- The kernel moves descriptors and adds none. -/
theorem inFlight_kernelStep (h : d ∈ (s.kernelStep k).inFlight) : d ∈ s.inFlight := by
  rw [mem_inFlight] at h ⊢
  revert h
  fun_cases XdpGenerator.kernelStep s k
  case case2 desc tx ht =>
    obtain ⟨-, -, hsubmitted⟩ := Producer.take_spec ht
    dsimp only
    rw [hsubmitted, List.mem_append, List.mem_singleton, List.mem_cons]
    tauto
  case case5 i hwTs desc hi cq hp =>
    have hentries := Consumer.put_spec hp
    have hdesc := List.mem_of_getElem? hi
    dsimp only
    rw [hentries, List.mem_append, List.mem_singleton]
    rintro (h | h | h | rfl)
    · exact .inl h
    · exact .inr (.inl (List.mem_of_mem_eraseIdx h))
    · exact .inr (.inr h)
    · exact .inr (.inl hdesc)
  all_goals exact id

theorem kernelSteps_invariant {P : XdpGenerator → Prop}
    (hstep : ∀ s k, P s → P (s.kernelStep k)) (h : P s) (ks : List TxKernelStep) :
    P (s.kernelSteps ks) := by
  induction ks generalizing s with
  | nil => exact h
  | cons k ks ih => exact ih (hstep s k h)

end Kernel

/-- Descriptors may have moved on or been given back, and times have come in. -/
structure KernelMoved (s s' : XdpGenerator) : Prop where
  gen : s'.gen = s.gen
  size : s'.tx.size = s.tx.size
  reserved : s'.tx.reserved = s.tx.reserved
  timestamp : ∀ addr, (s'.metadata addr).timestamp = (s.metadata addr).timestamp
  inFlight : ∀ d ∈ s'.inFlight, d ∈ s.inFlight

theorem KernelMoved.refl (s : XdpGenerator) : KernelMoved s s :=
  ⟨rfl, rfl, rfl, fun _ => rfl, fun _ h => h⟩

theorem kernelSteps_moved (s : XdpGenerator) (ks : List TxKernelStep) :
    KernelMoved s (s.kernelSteps ks) := by
  apply kernelSteps_invariant (P := KernelMoved s)
  · intro s' k h
    obtain ⟨hsize, hreserved⟩ := kernelStep_tx s' k
    exact ⟨(kernelStep_gen s' k).trans h.gen, hsize.trans h.size, hreserved.trans h.reserved,
      fun addr => (kernelStep_timestamp s' k addr).trans (h.timestamp addr),
      fun d hd => h.inFlight d (inFlight_kernelStep hd)⟩
  · exact .refl s

theorem Prepared.moved (h : Prepared conf frameType room s bs d) (hm : KernelMoved s s') :
    Prepared conf frameType room s' bs d := by
  refine ⟨?_, fun hf => ?_, h.batch⟩
  · rw [hm.gen]
    exact h.onWire
  · rw [hm.timestamp]
    exact h.flag hf

theorem Prepared.mono (h : Prepared conf frameType room s bs d) (hbs : ∀ b ∈ bs, b ∈ bs') :
    Prepared conf frameType room s bs' d := by
  obtain ⟨b, hb, hcontains⟩ := h.batch
  exact ⟨h.onWire, h.flag, b, hbs b hb, hcontains⟩

section Submit
variable {numbers : List Nat} {c : UInt64} {L : Nat} {mem : List UInt8}

theorem slotAddr_eq {number : Nat} (h : 4096 ≤ number) (room : Nat) :
    number * xdpFrameSize + room = slotAddr room (number - xskRingProdDefaultNumDescs) := by
  simp only [slotAddr, txUmemStart, xskRingProdDefaultNumDescs, xdpFrameSize]
  omega

theorem slotAddr_inj {a b : Nat} (h : slotAddr room a = slotAddr room b) : a = b := by
  simp only [slotAddr, xdpFrameSize] at h
  omega

@[simp] theorem length_txDescs (room L : Nat) (numbers : List Nat) (c : UInt64) :
    (txDescs room L numbers c).length = numbers.length := by
  induction numbers generalizing c with
  | nil => rfl
  | cons number numbers ih => rw [txDescs, List.length_cons, ih, List.length_cons]

theorem txDescs_addr (h : ∀ number ∈ numbers, 4096 ≤ number) (c : UInt64) :
    (txDescs room L numbers c).map TxDesc.addr =
      (numbers.map (· - xskRingProdDefaultNumDescs)).map (slotAddr room) := by
  induction numbers generalizing c with
  | nil => rfl
  | cons number numbers ih =>
    obtain ⟨hnumber, hrest⟩ := List.forall_mem_cons.mp h
    rw [txDescs, List.map_cons, ih hrest, slotAddr_eq hnumber, List.map_cons, List.map_cons]

/-- A descriptor points to its frame. -/
theorem mem_txDescs_sent (h : ∀ number ∈ numbers, 4096 ≤ number) (mem : List UInt8)
    (hd : d ∈ txDescs room L numbers c) :
    ∃ slot ∈ numbers.map (· - xskRingProdDefaultNumDescs), d.addr = slotAddr room slot ∧
      ⟨d.sequenceCounter, slice mem (slotOffset room slot) L⟩ ∈
        sentFrames L room mem (numbers.map (· - xskRingProdDefaultNumDescs)) c := by
  induction numbers generalizing c with
  | nil => cases hd
  | cons number numbers ih =>
    obtain ⟨hnumber, hrest⟩ := List.forall_mem_cons.mp h
    rw [List.map_cons, sentFrames]
    rcases List.mem_cons.mp hd with rfl | hd
    · exact ⟨_, List.mem_cons_self, slotAddr_eq hnumber room, List.mem_cons_self⟩
    · obtain ⟨slot, hslot, haddr, hsent⟩ := ih hrest hd
      exact ⟨slot, List.mem_cons_of_mem _ hslot, haddr, List.mem_cons_of_mem _ hsent⟩

theorem mem_txDescs_counter (hd : d ∈ txDescs room L numbers c)
    (hc : c.toNat + numbers.length ≤ 2 ^ 64) :
    c.toNat ≤ d.sequenceCounter.toNat ∧ d.sequenceCounter.toNat < c.toNat + numbers.length := by
  induction numbers generalizing c with
  | nil => cases hd
  | cons number numbers ih =>
    rw [List.length_cons] at hc ⊢
    rcases List.mem_cons.mp hd with rfl | hd
    · exact ⟨Nat.le_refl _, by dsimp only; omega⟩
    · by_cases hlast : numbers = []
      · subst hlast
        cases hd
      · have hpos : 0 < numbers.length := List.length_pos_of_ne_nil hlast
        have hnext : (c + 1).toNat = c.toNat + 1 := by
          rw [UInt64.toNat_add, UInt64.toNat_one]
          exact Nat.mod_eq_of_lt (by omega)
        have hrec := ih hd (by omega)
        omega

theorem prepareMetadata_other {hwMode : Bool} {n i addr : Nat} {metadata : Nat → XskTxMetadata}
    {descs : List TxDesc} (h : addr ∉ descs.map TxDesc.addr) :
    prepareMetadata hwMode n i metadata descs addr = metadata addr := by
  induction descs generalizing i metadata with
  | nil => rfl
  | cons desc descs ih =>
    rw [List.map_cons, List.mem_cons, not_or] at h
    rw [prepareMetadata, ih h.2, update_of_ne h.1]

theorem add_le_of_dvd_of_lt {a b n : Nat} (ha : n ∣ a) (hb : n ∣ b) (hlt : a < b) : a + n ≤ b :=
  Nat.le_of_lt_add_of_dvd (Nat.add_lt_add_right hlt n) (ha.add (Nat.dvd_refl n)) hb

/-- The first frame of a cycle is the first of its pass, so it asks for a time. -/
theorem prepareMetadata_first {metadata : Nat → XskTxMetadata}
    (hnodup : ((txDescs room L numbers c).map TxDesc.addr).Nodup)
    (hn : numbers.length = n) (haligned : n ∣ c.toNat) (hcount : c.toNat + n < 2 ^ 64)
    (hd : d ∈ txDescs room L numbers c) (hfirst : d.sequenceCounter.toNat % n = 0) :
    (prepareMetadata true n 0 metadata (txDescs room L numbers c) d.addr).timestamp = true := by
  cases numbers with
  | nil => cases hd
  | cons number numbers =>
    rw [List.length_cons] at hn
    rw [txDescs] at hd hnodup ⊢
    rw [List.map_cons, List.nodup_cons] at hnodup
    rw [prepareMetadata]
    rcases List.mem_cons.mp hd with rfl | hd
    · rw [prepareMetadata_other hnodup.1, update_self]
      rfl
    · have hnext : (c + 1).toNat = c.toNat + 1 := by
        rw [UInt64.toNat_add, UInt64.toNat_one]
        exact Nat.mod_eq_of_lt (by omega)
      have hrange := mem_txDescs_counter hd (by omega)
      have hle := add_le_of_dvd_of_lt haligned (Nat.dvd_of_mod_eq_zero hfirst) (by omega)
      omega

theorem frameNumbers_ge {fn : Nat} (h : 4096 ≤ fn) (k : Nat) :
    ∀ number ∈ frameNumbers fn k, 4096 ≤ number := by
  induction k generalizing fn with
  | zero => exact nofun
  | succ k ih =>
    rw [frameNumbers]
    apply List.forall_mem_cons.mpr ⟨h, ih ?_⟩
    simp only [nextFrameNumber, xskRingConsDefaultNumDescs, xskRingProdDefaultNumDescs]
    omega

theorem length_frameNumbers (fn k : Nat) : (frameNumbers fn k).length = k := by
  induction k generalizing fn with
  | zero => rfl
  | succ k ih => rw [frameNumbers, List.length_cons, ih]

end Submit

/-- The frames of a pass are in different chunks. -/
theorem descs_nodup (hnumber : 4096 ≤ s.gen.frameNumber ∧ s.gen.frameNumber < 8192)
    (hle : ctx.conf.numFramesPerCycle.toNat ≤ 4096) :
    ((s.descs build ctx).map TxDesc.addr).Nodup := by
  rw [XdpGenerator.descs, txDescs_addr (frameNumbers_ge hnumber.1 _)]
  exact (frameNumbers_slots hnumber.1 hnumber.2 hle).2.1.map fun a b => slotAddr_inj

/-- What is left after `xdp_gen_and_send_frames` up to the kick: the counter has moved on, the
frames on their way are untouched, and the new ones are prepared. -/
structure Submitted (build : BuildConfig) (conf : TrafficClassConfig) (frameType : StatFrameType)
    (s : XdpGenerator) (r : XdpGenerator × Bool) : Prop where
  ready : r.1.gen.Ready build conf frameType
  counter : r.1.gen.sequenceCounter = s.gen.sequenceCounter + conf.numFramesPerCycle
  size : r.1.tx.size = s.tx.size
  reserved : r.1.tx.reserved = []
  fits : r.2 = true → conf.numFramesPerCycle.toNat ≤ 4096
  old : ∀ d bs, d ∈ s.inFlight → Prepared conf frameType (txMetadataRoom build conf) s bs d →
    Prepared conf frameType (txMetadataRoom build conf) r.1 bs d
  new : ∀ d ∈ r.1.inFlight, d ∈ s.inFlight ∨ r.2 = true ∧ ∀ t,
    Prepared conf frameType (txMetadataRoom build conf) r.1
      [⟨s.gen.sequenceCounter, conf.numFramesPerCycle, t⟩] d

theorem txMetadataRoom_pos (hx : conf.xdpEnabled = true)
    (hmode : txHwtstampMode build conf = true) :
    0 < txMetadataRoom build conf := by
  rw [txHwtstampMode, Bool.and_eq_true] at hmode
  rw [txMetadataRoom, hmode.1, hmode.2, hx]
  simp only [Bool.or_true, Bool.and_self, ↓reduceIte]
  rcases build.sizeofXskTxMetadata_eq with h | h <;> omega

theorem length_descs (build : BuildConfig) (ctx : ThreadContext) (s : XdpGenerator) :
    (s.descs build ctx).length = ctx.conf.numFramesPerCycle.toNat := by
  rw [XdpGenerator.descs, length_txDescs, length_frameNumbers]

/-- The chunks of the Tx half a pass fills. -/
def XdpGenerator.slots (ctx : ThreadContext) (s : XdpGenerator) : List Nat :=
  (frameNumbers s.gen.frameNumber ctx.conf.numFramesPerCycle.toNat).map
    (· - xskRingProdDefaultNumDescs)

section Pass
variable (hctx : ctx.ForClass ctx.conf frameType) (hc : CountedClass ctx.conf frameType)
  (hx : ctx.conf.xdpEnabled = true) (hmode : txHwtstampMode build ctx.conf = true)
  (hready : s.gen.Ready build ctx.conf frameType) (hsize : s.tx.size = 4096)
  (hreserved : s.tx.reserved = []) (hsends : tcWaitForTxCycle ctx (p.txPass s) ≠ 0)

include hsize hreserved in
theorem reserve_iff (p : XdpGenPass) :
    (∃ tx, s.tx.reserve (s.descs build ctx) = some tx) ↔
      ctx.conf.numFramesPerCycle.toNat ≤ (p.txPass s).freeDescriptors := by
  have hring := s.tx.fits
  rw [hsize, hreserved, List.length_nil] at hring
  simp only [Producer.reserve, length_descs, XdpGenPass.txPass, hsize, hreserved, List.length_nil,
    xskRingProdDefaultNumDescs]
  split
  · exact iff_of_true ⟨_, rfl⟩ (by omega)
  · exact iff_of_false (by rintro ⟨_, h⟩; cases h) (by omega)

include hsize hreserved hsends hready in
theorem xdpSubmitFrames_full (hr : s.tx.reserve (s.descs build ctx) = none) :
    Submitted build ctx.conf frameType s (xdpSubmitFrames build monitor ctx s p) := by
  have hfull : (p.txPass s).freeDescriptors < ctx.conf.numFramesPerCycle.toNat := by
    rw [← Nat.not_le, ← @reserve_iff build ctx s hsize hreserved p, hr]
    rintro ⟨_, h⟩
    cases h
  have hwait := tcWaitForTxCycle_eq (bne_iff_ne.mpr hsends)
  simp only [xdpSubmitFrames, hr, tcGenAndSendXdpFrames, if_pos hfull, hwait]
  exact ⟨⟨hready.slots, hready.frameNumber⟩, rfl, rfl, hreserved,
    fun h => absurd h Bool.false_ne_true,
    fun d bs _ hd => ⟨hd.onWire, hd.flag, hd.batch⟩, fun d hd => .inl hd⟩

include hx hmode hsends in
theorem xdpSubmitFrames_eq {tx : Producer TxDesc}
    (hr : s.tx.reserve (s.descs build ctx) = some tx)
    (hroom : ctx.conf.numFramesPerCycle.toNat ≤ (p.txPass s).freeDescriptors) :
    xdpSubmitFrames build monitor ctx s p =
      ({ s with
          gen :=
            { sequenceCounter := s.gen.sequenceCounter + ctx.conf.numFramesPerCycle
              frameNumber := nextFrameNumber^[ctx.conf.numFramesPerCycle.toNat] s.gen.frameNumber
              frames := prepareFrames ctx (txMetadataRoom build ctx.conf) p.now monitor
                s.gen.frames (s.slots ctx) s.gen.sequenceCounter }
          tx := tx.submit ctx.conf.numFramesPerCycle.toNat
          outstandingTx := s.outstandingTx + ctx.conf.numFramesPerCycle
          metadata := prepareMetadata true ctx.conf.numFramesPerCycle.toNat 0 s.metadata
            (s.descs build ctx) }, true) := by
  have hlater : ¬ (p.txPass s).freeDescriptors < ctx.conf.numFramesPerCycle.toNat :=
    Nat.not_lt.mpr hroom
  have hwait := tcWaitForTxCycle_eq (bne_iff_ne.mpr hsends)
  simp only [xdpSubmitFrames, hr, tcGenAndSendXdpFrames, if_neg hlater, hwait,
    if_pos (txMetadataRoom_pos hx hmode), hmode]
  rfl

include hctx hc hx hmode hready hsize hreserved hsends

theorem xdpSubmitFrames_room {tx : Producer TxDesc}
    (hr : s.tx.reserve (s.descs build ctx) = some tx)
    (hunused : ∀ d ∈ s.descs build ctx, ∀ d' ∈ s.inFlight, d.addr ≠ d'.addr)
    (haligned : ctx.conf.numFramesPerCycle.toNat ∣ s.gen.sequenceCounter.toNat)
    (hcount : s.gen.sequenceCounter.toNat + ctx.conf.numFramesPerCycle.toNat < 2 ^ 64) :
    Submitted build ctx.conf frameType s (xdpSubmitFrames build monitor ctx s p) := by
  have hroom := (reserve_iff hsize hreserved p).mp ⟨tx, hr⟩
  have hle : ctx.conf.numFramesPerCycle.toNat ≤ 4096 :=
    Nat.le_trans hroom (p.txPass s).freeDescriptors_le
  obtain ⟨hslotsLt, hslotsNodup, -⟩ : (∀ slot ∈ s.slots ctx, slot < 4096) ∧
      (s.slots ctx).Nodup ∧ _ :=
    frameNumbers_slots hready.frameNumber.1 hready.frameNumber.2 hle
  have hge := frameNumbers_ge hready.frameNumber.1 ctx.conf.numFramesPerCycle.toNat
  have hslotsReady : SlotsReady ctx.conf frameType (txMetadataRoom build ctx.conf) 4096
      s.gen.frames := by
    have h := hready.slots
    rw [txSlots, hx, if_pos rfl] at h
    exact h
  obtain ⟨-, hsent⟩ := prepareFrames_sent hctx hc hslotsReady hslotsLt hslotsNodup monitor
    s.gen.sequenceCounter p.now
  have hready' : (xdpSubmitFrames build monitor ctx s p).1.gen.Ready build ctx.conf frameType := by
    simp only [xdpSubmitFrames, hr]
    exact (tcGenAndSendXdpFrames_spec hctx hc hx hready (bne_iff_ne.mpr hsends) hroom monitor).ready
  have haddr : (s.descs build ctx).map TxDesc.addr =
      (s.slots ctx).map (slotAddr (txMetadataRoom build ctx.conf)) := txDescs_addr hge _
  have hnodup := @descs_nodup build ctx s hready.frameNumber hle
  obtain ⟨hnone, hsubmitted⟩ := Producer.reserve_submit hr hreserved
  rw [length_descs] at hnone hsubmitted
  obtain ⟨htxsize, -, -⟩ := Producer.reserve_spec hr
  rw [xdpSubmitFrames_eq hx hmode hsends hr hroom] at hready' ⊢
  refine ⟨hready', rfl, htxsize, hnone, fun _ => hle, ?_, ?_⟩
  · intro d bs hd hprep
    obtain ⟨slot, hslot, hdaddr, honWire⟩ := hprep.onWire
    have hfree : d.addr ∉ (s.descs build ctx).map TxDesc.addr := by
      intro hmem
      obtain ⟨d', hd', heq⟩ := List.mem_map.mp hmem
      exact hunused d' hd' d hd heq
    have hother : slot ∉ s.slots ctx := by
      intro hmem
      rw [haddr, hdaddr] at hfree
      exact hfree (List.mem_map_of_mem hmem)
    refine ⟨⟨slot, hslot, hdaddr, ?_⟩, fun hf => ?_, hprep.batch⟩
    · dsimp only
      rw [slice_prepareFrames hc.fits_chunk (fun b hb => (hslotsLt b hb).trans (by decide))
        (hslot.trans (by decide)) hother]
      exact honWire
    · dsimp only
      rw [prepareMetadata_other hfree]
      exact hprep.flag hf
  · intro d hd
    rw [mem_inFlight, hsubmitted, List.mem_append, or_assoc] at hd
    rcases hd with hd | hd | hd
    · exact .inl (mem_inFlight.mpr (.inl hd))
    · refine .inr ⟨rfl, fun t => ?_⟩
      obtain ⟨slot, hslot, hdaddr, hmem⟩ := mem_txDescs_sent hge
        (prepareFrames ctx (txMetadataRoom build ctx.conf) p.now monitor s.gen.frames
          (s.slots ctx) s.gen.sequenceCounter) hd
      have hrange := mem_txDescs_counter hd (by rw [length_frameNumbers]; omega)
      rw [length_frameNumbers] at hrange
      refine ⟨⟨slot, hslotsLt slot hslot, hdaddr, hsent _ hmem⟩, fun hf => ?_,
        _, List.mem_singleton_self _, hrange⟩
      exact prepareMetadata_first hnodup (length_frameNumbers _ _) haligned hcount hd hf
    · exact .inl (mem_inFlight.mpr (.inr hd))

end Pass

theorem xdpCompleteTxOnly_moved (hwtstampMode : Bool) (s : XdpGenerator) (p : XdpGenPass) :
    KernelMoved s (xdpCompleteTxOnly hwtstampMode s p).1 := by
  have hm := kernelSteps_moved s p.sendto
  simp only [xdpCompleteTxOnly]
  split
  · exact .refl s
  · split
    · exact hm
    · refine ⟨hm.gen, hm.size, hm.reserved, hm.timestamp, fun d hd => hm.inFlight d ?_⟩
      rw [mem_inFlight] at hd ⊢
      rcases hd with hd | hd | hd
      · exact .inl hd
      · exact .inr (.inl hd)
      · exact .inr (.inr (List.mem_of_mem_drop hd))

/-- The state in which a pass looks at the completion ring. -/
def XdpGenerator.kicked (build : BuildConfig) (monitor : Option MacAddress) (ctx : ThreadContext)
    (s : XdpGenerator) (p : XdpGenPass) : XdpGenerator :=
  (xdpSubmitFrames build monitor ctx s p).1.kernelSteps p.sendto

theorem mem_peeked {c : CompletedDesc} (h : c ∈ s.peeked build monitor ctx p) :
    c.desc ∈ (s.kicked build monitor ctx p).inFlight ∧
      c = (s.kicked build monitor ctx p).completed c.desc := by
  rw [XdpGenerator.peeked] at h
  split at h
  · cases h
  · dsimp only at h
    split at h
    · cases h
    · obtain ⟨d, hd, rfl⟩ := List.mem_map.mp h
      exact ⟨mem_inFlight.mpr (.inr (.inr (List.mem_of_mem_take hd))), rfl⟩

end RtcTestbench
