import RtcTestbench.InPlace
import RtcTestbench.XdpUmem

namespace RtcTestbench
open Buffer Machine XskRing
set_option autoImplicit true

/-- What `receive_function` says to the packets of a pass. -/
def receiveVerdicts (env : Nat → RxEnv) : Nat → ThreadContext → List UInt8 → List XdpDesc →
    List Bool
  | _, _, _, [] => []
  | i, ctx, umem, desc :: descs =>
    let packet := xskUmemAddOffsetToAddr desc.addr
    match receiveFrame (env i) ctx (umem.drop packet) desc.len with
    | .error _ => false :: receiveVerdicts env (i + 1) ctx umem descs
    | .ok acc =>
      true :: receiveVerdicts env (i + 1) acc.ctx (umem.take packet ++ acc.frameData) descs

/-- What happens to a frame between its reception and its way back, `len` being the length it was
received with. -/
structure Mirrored (ctx : ThreadContext) (len : Nat) (before after : List UInt8) : Prop where
  destination : ctx.Accepts before len → slice after 0 6 = slice before 6 6
  source : ctx.Accepts before len → slice after 6 6 = slice before 0 6
  counter : ctx.Accepts before len → getSequenceCounter after ctx.metaDataOffset
    ctx.conf.numFramesPerCycle = ctx.rxCounter before
  refused : ¬ ctx.Accepts before len → after = before

/-- The frames of a pass do not touch each other. -/
def Apart (len : Nat) (descs : List XdpDesc) : Prop :=
  descs.Pairwise fun d d' => d.addr + len ≤ d'.addr ∨ d'.addr + len ≤ d.addr

/-- The counters of the packets of a pass that are accepted. -/
def acceptedCounters (ctx : ThreadContext) (umem : List UInt8) (descs : List XdpDesc) :
    List UInt64 :=
  descs.filterMap fun d =>
    let frame := slice umem d.addr ctx.conf.frameLength
    if ctx.Accepts frame d.len then some (ctx.rxCounter frame) else none

/-- The outcome of the calls of `receive_function` for the packets of a pass. -/
structure PacketsReceived (ctx : ThreadContext) (umem : List UInt8) (descs : List XdpDesc)
    (ctx' : ThreadContext) (umem' : List UInt8) (verdicts : List Bool) : Prop where
  same : ctx.SameClass ctx'
  length_eq : umem'.length = umem.length
  outside : ∀ a k, a + k ≤ umem.length →
    (∀ d ∈ descs, a + k ≤ d.addr ∨ d.addr + ctx.conf.frameLength ≤ a) →
    slice umem' a k = slice umem a k
  mirrored : ∀ d ∈ descs, Mirrored ctx d.len (slice umem d.addr ctx.conf.frameLength)
    (slice umem' d.addr ctx.conf.frameLength)
  verdicts_eq : verdicts = descs.map fun d =>
    decide (ctx.Accepts (slice umem d.addr ctx.conf.frameLength) d.len)
  expected : ctx'.rxSequenceCounter =
    expectedAfter ctx.rxSequenceCounter (acceptedCounters ctx umem descs)

variable {ctx ctx' : ThreadContext} {umem umem' : List UInt8} {desc : XdpDesc}
  {descs : List XdpDesc} {env : Nat → RxEnv}

section Packets
variable (h : ctx.VlanReceiver) (hm : ctx.conf.rxMirrorEnabled = true)
  (hx : ctx.conf.xdpEnabled = true)
include h hm hx

/-- One accepted packet, seen from the whole memory. -/
theorem receivePacket_inPlace {e : RxEnv} (hroom : desc.addr + ctx.conf.frameLength ≤ umem.length)
    (hok : receiveFrame e ctx (umem.drop desc.addr) desc.len = .ok acc) :
    (umem.take desc.addr ++ acc.frameData).length = umem.length ∧
    (∀ a k, a + k ≤ umem.length → a + k ≤ desc.addr ∨ desc.addr + ctx.conf.frameLength ≤ a →
      slice (umem.take desc.addr ++ acc.frameData) a k = slice umem a k) ∧
    Mirrored ctx desc.len (slice umem desc.addr ctx.conf.frameLength)
      (slice (umem.take desc.addr ++ acc.frameData) desc.addr ctx.conf.frameLength) := by
  have hbuf : (umem.drop desc.addr).length = umem.length - desc.addr := List.length_drop
  have hp := receiveFrame_inPlace h hm hx (show _ ≤ (umem.drop desc.addr).length by omega) hok
  have hlen := hp.length_eq
  have htake : (umem.take desc.addr).length = desc.addr := by rw [List.length_take]; omega
  obtain ⟨hfits, hbehind, hshift⟩ := h.metaData_fits (umem.drop desc.addr)
  have hacc := (receiveFrame_accepts_iff h e _ _).mp ⟨acc, hok⟩
  have hown (i k : Nat) : slice (umem.take desc.addr ++ acc.frameData) (desc.addr + i) k =
      slice acc.frameData i k := by
    rw [slice_append_right _ _ (by omega), htake, Nat.add_sub_cancel_left]
  have hafter : slice (umem.take desc.addr ++ acc.frameData) desc.addr ctx.conf.frameLength =
      acc.frameData.take ctx.conf.frameLength := hown 0 ctx.conf.frameLength
  refine ⟨?_, ?_, ?_⟩
  · rw [List.length_append, htake, hlen, hbuf]
    omega
  · intro a k hak haway
    rcases haway with haway | haway
    · rw [slice_append_left _ _ (by omega), take_slice _ haway]
    · obtain ⟨i, rfl⟩ := Nat.exists_eq_add_of_le (show desc.addr ≤ a by omega)
      rw [hown, hp.behind i k (by omega), drop_slice]
  · rw [hafter]
    change Mirrored ctx desc.len ((umem.drop desc.addr).take ctx.conf.frameLength) _
    refine ⟨fun _ => ?_, fun _ => ?_, fun _ => ?_, fun hnot => ?_⟩
    · rw [take_slice _ (by omega), take_slice _ (by omega), hp.destination]
    · rw [take_slice _ (by omega), take_slice _ (by omega), hp.source]
    · rw [rxCounter_take ctx _ (by omega) (by omega), ← hp.counter]
      simp only [getSequenceCounter, metaDataToSequenceCounter]
      rw [take_slice _ (by omega), take_slice _ (by omega)]
    · rw [accepts_take ctx _ (by omega)] at hnot
      exact absurd hacc hnot

end Packets

theorem packetsReceived_nil (ctx : ThreadContext) (umem : List UInt8) :
    PacketsReceived ctx umem [] ctx umem [] :=
  ⟨.refl ctx, rfl, fun _ _ _ _ => rfl, nofun, rfl, rfl⟩

theorem ThreadContext.SameClass.mirrored (hs : ctx.SameClass ctx')
    (h : Mirrored ctx' len before after) : Mirrored ctx len before after := by
  refine ⟨fun ha => h.destination ?_, fun ha => h.source ?_, fun ha => ?_, fun ha => h.refused ?_⟩
  · exact (hs.accepts _ _).mpr ha
  · exact (hs.accepts _ _).mpr ha
  · rw [← hs.rxCounter, ← hs.metaDataOffset_eq, ← hs.conf_eq]
    exact h.counter ((hs.accepts _ _).mpr ha)
  · exact fun ha' => ha ((hs.accepts _ _).mp ha')

/-- The first packet leaves those behind it alone, and they leave it alone. -/
theorem PacketsReceived.cons {ctx₁ : ThreadContext} {umem₁ : List UInt8}
    (hs : ctx.SameClass ctx₁) (hlength : umem₁.length = umem.length)
    (houtside : ∀ a k, a + k ≤ umem.length →
      a + k ≤ desc.addr ∨ desc.addr + ctx.conf.frameLength ≤ a →
      slice umem₁ a k = slice umem a k)
    (hmirrored : Mirrored ctx desc.len (slice umem desc.addr ctx.conf.frameLength)
      (slice umem₁ desc.addr ctx.conf.frameLength))
    (hexpected : ctx₁.rxSequenceCounter =
      if ctx.Accepts (slice umem desc.addr ctx.conf.frameLength) desc.len then
        nextSequenceCounter ctx.rxSequenceCounter
          (ctx.rxCounter (slice umem desc.addr ctx.conf.frameLength))
      else ctx.rxSequenceCounter)
    (hroom : ∀ d ∈ desc :: descs, d.addr + ctx.conf.frameLength ≤ umem.length)
    (hapart : Apart ctx.conf.frameLength (desc :: descs))
    (hrest : PacketsReceived ctx₁ umem₁ descs ctx' umem' verdicts) :
    PacketsReceived ctx umem (desc :: descs) ctx' umem'
      (decide (ctx.Accepts (slice umem desc.addr ctx.conf.frameLength) desc.len) :: verdicts) := by
  obtain ⟨hfirst, -⟩ := List.pairwise_cons.mp hapart
  have hregion (d : XdpDesc) (hd : d ∈ descs) : slice umem₁ d.addr ctx.conf.frameLength =
      slice umem d.addr ctx.conf.frameLength := by
    apply houtside _ _ (hroom d (List.mem_cons_of_mem _ hd))
    exact (hfirst d hd).symm
  have hverdicts := hrest.verdicts_eq
  have hcounters := hrest.expected
  have hmir := hrest.mirrored
  have hout := hrest.outside
  rw [hs.conf_eq] at hverdicts hmir hout
  refine ⟨hs.trans hrest.same, hrest.length_eq.trans hlength, ?_, ?_, ?_, ?_⟩
  · intro a k hak haway
    obtain ⟨hhead, htail⟩ := List.forall_mem_cons.mp haway
    rw [hout a k (by omega) htail, houtside a k hak hhead]
  · intro d hd
    rcases List.mem_cons.mp hd with rfl | hd
    · have hkept := hout d.addr ctx.conf.frameLength (by rw [hlength]; exact hroom d hd)
        fun d' hd' => hfirst d' hd'
      rw [hkept]
      exact hmirrored
    · have hlater := hs.mirrored (hmir d hd)
      rwa [hregion d hd] at hlater
  · rw [hverdicts, List.map_cons]
    congr 1
    apply List.map_congr_left
    intro d hd
    rw [hregion d hd, decide_eq_decide, hs.accepts]
  · have hsame : acceptedCounters ctx₁ umem₁ descs = acceptedCounters ctx umem descs := by
      apply List.filterMap_congr
      intro d hd
      simp only [hs.conf_eq, hregion d hd, hs.accepts, hs.rxCounter]
    rw [hcounters, hsame, hexpected, acceptedCounters, acceptedCounters, List.filterMap_cons]
    dsimp only
    by_cases ha : ctx.Accepts (slice umem desc.addr ctx.conf.frameLength) desc.len
    · rw [if_pos ha, if_pos ha]
      rfl
    · rw [if_neg ha, if_neg ha]

theorem receivePackets_received (h : ctx.VlanReceiver) (hm : ctx.conf.rxMirrorEnabled = true)
    (hx : ctx.conf.xdpEnabled = true) (env : Nat → RxEnv) (i : Nat)
    (hroom : ∀ d ∈ descs, d.addr + ctx.conf.frameLength ≤ umem.length)
    (haddr : ∀ d ∈ descs, xskUmemAddOffsetToAddr d.addr = d.addr)
    (hapart : Apart ctx.conf.frameLength descs) :
    PacketsReceived ctx umem descs (receivePackets env i ctx umem descs).1
      (receivePackets env i ctx umem descs).2.1 (receiveVerdicts env i ctx umem descs) := by
  induction descs generalizing ctx umem i with
  | nil => exact packetsReceived_nil ctx umem
  | cons desc descs ih =>
    obtain ⟨hroomd, hroom'⟩ := List.forall_mem_cons.mp hroom
    obtain ⟨haddrd, haddr'⟩ := List.forall_mem_cons.mp haddr
    obtain ⟨-, hapart'⟩ := List.pairwise_cons.mp hapart
    obtain ⟨hfits, hbehind, hshift⟩ := h.metaData_fits (umem.drop desc.addr)
    have hiff : ctx.Accepts (slice umem desc.addr ctx.conf.frameLength) desc.len ↔
        ctx.Accepts (umem.drop desc.addr) desc.len := accepts_take ctx _ (by omega) _
    rw [receivePackets, receiveVerdicts, haddrd]
    cases hr : receiveFrame (env i) ctx (umem.drop desc.addr) desc.len with
    | error message =>
      have hnot : ¬ ctx.Accepts (slice umem desc.addr ctx.conf.frameLength) desc.len := by
        rw [hiff, ← receiveFrame_accepts_iff h (env i)]
        rintro ⟨acc, hok⟩
        cases hr.symm.trans hok
      have hrest := ih h hm hx (i + 1) hroom' haddr' hapart'
      have hcons := PacketsReceived.cons (.refl ctx) rfl (fun _ _ _ _ => rfl)
        ⟨fun ha => absurd ha hnot, fun ha => absurd ha hnot, fun ha => absurd ha hnot, fun _ => rfl⟩
        (if_neg hnot).symm hroom hapart hrest
      rwa [decide_eq_false hnot] at hcons
    | ok acc =>
      have hacc : ctx.Accepts (slice umem desc.addr ctx.conf.frameLength) desc.len := by
        rw [hiff, ← receiveFrame_accepts_iff h (env i)]
        exact ⟨acc, hr⟩
      obtain ⟨hlength, houtside, hmirrored⟩ := receivePacket_inPlace h hm hx hroomd hr
      have hchecked := receiveFrame_checked hr
      have hsame := hchecked.sameClass
      have hrest : PacketsReceived acc.ctx (umem.take desc.addr ++ acc.frameData) descs _ _ _ :=
        ih (hsame.vlanReceiver h) (by rw [hsame.conf_eq]; exact hm)
          (by rw [hsame.conf_eq]; exact hx)
          (i + 1) (by rw [hlength, hsame.conf_eq]; exact hroom') haddr'
          (by rw [hsame.conf_eq]; exact hapart')
      have hcounter : acc.ctx.rxSequenceCounter = nextSequenceCounter ctx.rxSequenceCounter
          (ctx.rxCounter (slice umem desc.addr ctx.conf.frameLength)) := by
        rw [hchecked.expected, receiveFrame_counter h hr]
        exact congrArg _ (rxCounter_take ctx _ (by omega) (by omega)).symm
      have hcons := PacketsReceived.cons hsame hlength houtside hmirrored
        (hcounter.trans (if_pos hacc).symm) hroom hapart hrest
      rwa [decide_eq_true hacc] at hcons

inductive XdpTrafficEvent where
  | dma (i offset : Nat) (bytes : List UInt8)
  | threads (e : XdpEvent)

/-- The kernel writes into a chunk it may receive into, and not past its end. -/
def kernelWrite (s : XdpThreads) (i offset : Nat) (bytes : List UInt8) : XdpThreads :=
  match s.xsk.kernelRx[i]? with
  | none => s
  | some addr =>
    if offset + bytes.length ≤ xdpFrameSize then
      { s with umem := write s.umem (chunkOf addr * xdpFrameSize + offset) bytes }
    else s

def XdpThreads.frameAt (s : XdpThreads) (desc : XdpDesc) : List UInt8 :=
  slice s.umem desc.addr desc.len

def XdpThreads.peek (s : XdpThreads) (p : XdpRxPass) : List XdpDesc :=
  s.xsk.rx.peek xdpBatchSize p.visible

/-- A frame as an Rx pass finds it, and what `receive_function` says to it. -/
structure FoundFrame where
  bytes : List UInt8
  accepted : Bool

def XdpThreads.found (s : XdpThreads) (p : XdpRxPass) : List FoundFrame :=
  List.zipWith (fun desc accepted => ⟨s.frameAt desc, accepted⟩) (s.peek p)
    (receiveVerdicts p.env 0 s.ctx s.umem (s.peek p))

def foundFrames (s : XdpThreads) : XdpEvent → XdpOutput → List FoundFrame
  | .rx p, .received n _ _ _ => if n = 0 then [] else s.found p
  | _, _ => []

def XdpOutput.batch : XdpOutput → Option (UInt64 × Nat)
  | .sent _ batch _ => batch
  | _ => none

/-- What goes through the mirror: the frames an Rx pass finds, those a Tx pass sends and what the
statistics are told about them. -/
structure XdpTraffic where
  found : List FoundFrame
  sent : List (List UInt8)
  batch : Option (UInt64 × Nat)

/-- The threads of a class and the kernel with the bytes it writes. -/
def xdpTraffic (conf : TrafficClassConfig) : System XdpThreads XdpTrafficEvent XdpTraffic where
  step s
    | .dma i offset bytes => (kernelWrite s i offset bytes, ⟨[], [], none⟩)
    | .threads e =>
      let r := (xdpThreads conf).step s e
      (r.1, ⟨foundFrames s e r.2, r.2.submitted.map s.frameAt, r.2.batch⟩)

/-- The kernel keeps a frame, and the one that goes back from its place, within the chunk. -/
def XdpDesc.FitsChunk (conf : TrafficClassConfig) (desc : XdpDesc) : Prop :=
  desc.addr % xdpFrameSize + desc.len ≤ xdpFrameSize ∧
    desc.addr % xdpFrameSize + conf.frameLength ≤ xdpFrameSize

def InChunk (conf : TrafficClassConfig) (s : XdpThreads) : XdpTrafficEvent → Prop
  | .threads (.rx p) => ∀ desc ∈ s.peek p, desc.FitsChunk conf
  | _ => True

/-- The frames on the Tx ring that are not submitted yet. -/
def XdpThreads.waiting (s : XdpThreads) : List (List UInt8) := s.xsk.tx.reserved.map s.frameAt

/-- What holds between the steps of a mirror. -/
structure TrafficInv (conf : TrafficClassConfig) (s : XdpThreads) : Prop where
  inv : XdpInv conf s
  conf_eq : s.ctx.conf = conf
  receiver : s.ctx.VlanReceiver
  room : xskRingProdDefaultNumDescs * xdpFrameSize ≤ s.umem.length
  fits : ∀ desc ∈ s.xsk.tx.reserved, desc.FitsChunk conf

variable {xsk : XdpSocket} {conf : TrafficClassConfig} {s s' : XdpThreads} {place place' : XdpPlace}
  {a b : Nat}

/-- Chunks at different places are different. -/
theorem UmemInv.chunk_ne (h : UmemInv xsk) (hne : place ≠ place') (ha : a ∈ xsk.addrsAt place)
    (hb : b ∈ xsk.addrsAt place') : chunkOf a ≠ chunkOf b := by
  intro heq
  have hall := Multiset.nodup_range xskRingProdDefaultNumDescs
  have hboth := Multiset.nodup_of_le (h.conserved.add_le hne) hall
  apply Multiset.disjoint_left.mp (Multiset.nodup_add.mp hboth).2.2
  · exact Multiset.mem_coe.mpr (List.mem_map_of_mem ha)
  · rw [heq]
    exact Multiset.mem_coe.mpr (List.mem_map_of_mem hb)

theorem UmemInv.nodup_chunks (h : UmemInv xsk) (place : XdpPlace) : (xsk.chunksAt place).Nodup :=
  Multiset.coe_nodup.mp
    (h.conserved.nodup (Multiset.nodup_range xskRingProdDefaultNumDescs) place)

/-- A region within one chunk is apart from a region within another. -/
theorem apart_of_chunk (hne : c ≠ chunkOf b) (ha : offset + k ≤ xdpFrameSize)
    (hb : b % xdpFrameSize + l ≤ xdpFrameSize) :
    c * xdpFrameSize + offset + k ≤ b ∨ b + l ≤ c * xdpFrameSize + offset := by
  have hdb := Nat.div_add_mod' b xdpFrameSize
  rw [chunkOf] at hne
  rcases Nat.lt_or_gt_of_ne hne with hlt | hlt
  · have hnext := Nat.mul_le_mul_right xdpFrameSize (Nat.succ_le_of_lt hlt)
    rw [Nat.succ_mul] at hnext
    omega
  · have hnext := Nat.mul_le_mul_right xdpFrameSize (Nat.succ_le_of_lt hlt)
    rw [Nat.succ_mul] at hnext
    omega

theorem apart_of_chunk_ne (hne : chunkOf a ≠ chunkOf b) (ha : a % xdpFrameSize + k ≤ xdpFrameSize)
    (hb : b % xdpFrameSize + l ≤ xdpFrameSize) : a + k ≤ b ∨ b + l ≤ a := by
  have happart := apart_of_chunk hne ha hb
  rwa [chunkOf, Nat.div_add_mod'] at happart

theorem XdpThreads.peek_sublist (s : XdpThreads) (p : XdpRxPass) :
    (s.peek p).Sublist s.xsk.rx.entries := List.take_sublist _ _

theorem XdpThreads.length_found_le (s : XdpThreads) (p : XdpRxPass) :
    (s.found p).length ≤ xdpBatchSize := by
  rw [XdpThreads.found, List.length_zipWith]
  exact Nat.le_trans (Nat.min_le_left _ _) (Consumer.length_peek_le _ _ _)

/-- A region that fits its chunk ends within the Rx half. -/
theorem UmemInv.region_lt (h : UmemInv xsk) (ha : a ∈ xsk.addrsAt place)
    (hfit : a % xdpFrameSize + k ≤ xdpFrameSize) :
    a + k ≤ xskRingProdDefaultNumDescs * xdpFrameSize := by
  have hlt := (Nat.div_lt_iff_lt_mul (by decide)).mpr (h.addr_lt ha)
  have hd := Nat.div_add_mod a xdpFrameSize
  have hnext := Nat.mul_le_mul_left xdpFrameSize (Nat.succ_le_of_lt hlt)
  rw [Nat.mul_succ, Nat.mul_comm _ xskRingProdDefaultNumDescs] at hnext
  omega

theorem UmemInv.packet_addr (h : UmemInv xsk) (ha : a ∈ xsk.addrsAt place) :
    xskUmemAddOffsetToAddr a = a ∧ xskUmemExtractAddr a = a := by
  have hextract := xskUmemExtractAddr_of_lt (h.addr_lt ha)
  have hoffset : a / 2 ^ 48 = 0 := Nat.div_eq_of_lt (Nat.lt_trans (h.addr_lt ha) (by decide))
  rw [xskUmemAddOffsetToAddr, hextract, hoffset]
  exact ⟨rfl, rfl⟩

theorem XdpThreads.peek_mem (p : XdpRxPass) (hd : desc ∈ s.peek p) :
    desc.addr ∈ s.xsk.addrsAt .rxRing :=
  List.mem_map_of_mem ((s.peek_sublist p).subset hd)

theorem UmemInv.peek_apart (h : UmemInv s.xsk) (p : XdpRxPass)
    (hfits : ∀ desc ∈ s.peek p, desc.FitsChunk conf) : Apart conf.frameLength (s.peek p) := by
  have hnodup := h.nodup_chunks .rxRing
  rw [XdpSocket.chunksAt, XdpSocket.addrsAt, List.map_map] at hnodup
  have hpeek : (s.peek p).Pairwise fun d d' => chunkOf d.addr ≠ chunkOf d'.addr :=
    List.pairwise_map.mp (hnodup.sublist ((s.peek_sublist p).map _))
  apply List.pairwise_iff_forall_sublist.mpr
  intro d d' hsub
  have hne := List.pairwise_iff_forall_sublist.mp hpeek hsub
  exact apart_of_chunk_ne hne (hfits d (hsub.subset (by simp))).2
    (hfits d' (hsub.subset (by simp))).2

/-- An Rx pass of the mirror: every frame it finds is put on the Tx ring, whatever the verdict. -/
structure RxPassEffect (conf : TrafficClassConfig) (s : XdpThreads) (p : XdpRxPass)
    (s' : XdpThreads) (out : XdpOutput) : Prop where
  received : out.count = (s.peek p).length
  queued : out.queued = (s.peek p).map fun desc => ⟨desc.addr, conf.frameLength⟩
  reserved : s'.xsk.tx.reserved = s.xsk.tx.reserved ++ out.queued
  waiting : s'.receivedFrames = (s.peek p).length
  packets : PacketsReceived s.ctx s.umem (s.peek p) s'.ctx s'.umem
    (receiveVerdicts p.env 0 s.ctx s.umem (s.peek p))

theorem tcXdpRxPass_effect (h : TrafficInv conf s) (hm : conf.rxMirrorEnabled = true)
    (hx : conf.xdpEnabled = true) (p : XdpRxPass)
    (hfits : ∀ desc ∈ s.peek p, desc.FitsChunk conf) :
    RxPassEffect conf s p (tcXdpRxPass conf s p).1 (tcXdpRxPass conf s p).2 := by
  have hmem {desc : XdpDesc} (hd : desc ∈ s.peek p) := XdpThreads.peek_mem p hd
  have hlength : conf.frameLength % 2 ^ 32 = conf.frameLength := by
    have hmax := h.receiver.counted.fits_chunk
    rw [h.conf_eq, maxFrameSize] at hmax
    exact Nat.mod_eq_of_lt (by omega)
  have hqueued : ((s.peek p).map fun desc => xskUmemExtractAddr desc.addr).map
      (fun orig => (⟨orig, conf.frameLength % 2 ^ 32⟩ : XdpDesc)) =
      (s.peek p).map fun desc => ⟨desc.addr, conf.frameLength⟩ := by
    rw [List.map_map, hlength]
    apply List.map_congr_left
    intro desc hd
    rw [Function.comp_apply, (h.inv.umem.packet_addr (hmem hd)).2]
  have hpackets := @receivePackets_received s.ctx s.umem (s.peek p) h.receiver
    (by rw [h.conf_eq]; exact hm) (by rw [h.conf_eq]; exact hx) p.env 0
    (fun d hd => by
      rw [h.conf_eq]
      exact Nat.le_trans (h.inv.umem.region_lt (hmem hd) (hfits d hd).2) h.room)
    (fun d hd => (h.inv.umem.packet_addr (hmem hd)).1)
    (by rw [h.conf_eq]; exact h.inv.umem.peek_apart p hfits)
  obtain ⟨tx, htx, hreserve⟩ := h.inv.umem.reserveTx
    ((s.peek p).map fun desc => ⟨desc.addr, conf.frameLength⟩)
    (by rw [List.length_map]; exact (s.peek_sublist p).length_le)
  have hpeek : s.xsk.rx.peek xdpBatchSize p.visible = s.peek p := rfl
  have hreserved := (Producer.reserve_spec htx).2.1
  simp only [tcXdpRxPass, xdpReceiveFrames, hpeek, hm, if_true, hqueued]
  by_cases hz : (s.peek p).length = 0
  · rw [if_pos hz]
    rw [List.eq_nil_of_length_eq_zero hz] at hpackets
    refine ⟨hz.symm, ?_, ?_, hz.symm, ?_⟩
    · rw [List.eq_nil_of_length_eq_zero hz]
      rfl
    · exact (List.append_nil _).symm
    · rw [List.eq_nil_of_length_eq_zero hz]
      exact hpackets
  · rw [if_neg hz, reserveRetry_of_some hreserve]
    exact ⟨rfl, rfl, hreserved, rfl, hpackets⟩

/-- The frame `sent` is what the mirror made of the frame `f`. One that is not accepted goes back
as it came, with the configured length. -/
structure MirroredFrame (ctx : ThreadContext) (f : FoundFrame) (sent : List UInt8) : Prop where
  verdict : f.accepted = decide (ctx.Accepts f.bytes f.bytes.length)
  length_eq : sent.length = ctx.conf.frameLength
  destination : f.accepted = true → slice sent 0 6 = slice f.bytes 6 6
  source : f.accepted = true → slice sent 6 6 = slice f.bytes 0 6
  counter : f.accepted = true → getSequenceCounter sent ctx.metaDataOffset
    ctx.conf.numFramesPerCycle = ctx.rxCounter f.bytes
  refused : f.accepted = false → sent.take f.bytes.length = f.bytes.take sent.length

/-- An accepted frame shows its counter within the received length. -/
theorem ThreadContext.VlanReceiver.rxCounter_region (h : ctx.VlanReceiver)
    (hacc : ctx.Accepts (slice umem a ctx.conf.frameLength) len) :
    ctx.rxCounter (slice umem a ctx.conf.frameLength) = ctx.rxCounter (slice umem a len) := by
  obtain ⟨hfits, hbehind, hshift⟩ := h.metaData_fits (umem.drop a)
  have hwide : ctx.Accepts (umem.drop a) len := (accepts_take ctx _ (by omega) _).mp hacc
  have hwithin := h.metaData_within hwide
  exact (rxCounter_take ctx _ (by omega) (by omega)).trans
    (rxCounter_take ctx _ hacc.1 (by omega)).symm

/-- The frame in a chunk, seen with its received length. -/
theorem Mirrored.frame (h : ctx.VlanReceiver) (hroom : desc.addr + desc.len ≤ umem.length)
    (hroom' : desc.addr + ctx.conf.frameLength ≤ umem.length) (hlen : umem'.length = umem.length)
    (hm : Mirrored ctx desc.len (slice umem desc.addr ctx.conf.frameLength)
      (slice umem' desc.addr ctx.conf.frameLength)) :
    MirroredFrame ctx ⟨slice umem desc.addr desc.len,
        decide (ctx.Accepts (slice umem desc.addr ctx.conf.frameLength) desc.len)⟩
      (slice umem' desc.addr ctx.conf.frameLength) := by
  obtain ⟨hfits, hbehind, hshift⟩ := h.metaData_fits (umem.drop desc.addr)
  have hbytes : (slice umem desc.addr desc.len).length = desc.len := length_slice hroom
  have hiff : ctx.Accepts (slice umem desc.addr ctx.conf.frameLength) desc.len ↔
      ctx.Accepts (slice umem desc.addr desc.len) desc.len := by
    by_cases hshort : 18 ≤ desc.len
    · exact (accepts_take ctx (umem.drop desc.addr) (by omega) _).trans
        (accepts_take ctx _ hshort _).symm
    · exact iff_of_false (fun ha => hshort ha.1) fun ha => hshort ha.1
  have hslice (i k : Nat) (hi : i + k ≤ desc.len) (hi' : i + k ≤ ctx.conf.frameLength) :
      slice (slice umem desc.addr ctx.conf.frameLength) i k =
        slice (slice umem desc.addr desc.len) i k := by
    rw [slice_slice _ hi, slice_slice _ hi']
  refine ⟨?_, length_slice (by omega), fun ha => ?_, fun ha => ?_, fun ha => ?_, fun ha => ?_⟩
  · rw [hbytes, decide_eq_decide]
    exact hiff
  · have hacc := of_decide_eq_true ha
    have h18 := hacc.1
    rw [hm.destination hacc, hslice 6 6 (by omega) (by omega)]
  · have hacc := of_decide_eq_true ha
    have h18 := hacc.1
    rw [hm.source hacc, hslice 0 6 (by omega) (by omega)]
  · have hacc := of_decide_eq_true ha
    rw [hm.counter hacc]
    exact h.rxCounter_region hacc
  · rw [hm.refused (of_decide_eq_false ha), hbytes, length_slice hroom', slice, slice,
      List.take_take, List.take_take, Nat.min_comm]

/-- What a step does to the traffic: frames that are found join those that wait, and those that are
sent leave them in their order. -/
structure TrafficStep (conf : TrafficClassConfig) (s s' : XdpThreads) (out : XdpTraffic) :
    Prop where
  inv : TrafficInv conf s'
  same : s.ctx.SameClass s'.ctx
  moved : ∃ mirrored, s.waiting ++ mirrored = out.sent ++ s'.waiting ∧
    List.Forall₂ (MirroredFrame s.ctx) out.found mirrored

/-- A step that neither finds nor sends. -/
theorem TrafficInv.idle (h : TrafficInv conf s) (hinv : XdpInv conf s') (hctx : s'.ctx = s.ctx)
    (hlength : s'.umem.length = s.umem.length) (hreserved : s'.xsk.tx.reserved = s.xsk.tx.reserved)
    (hframes : ∀ desc ∈ s.xsk.tx.reserved, s'.frameAt desc = s.frameAt desc) :
    TrafficStep conf s s' ⟨[], [], none⟩ := by
  have hwaiting : s'.waiting = s.waiting := by
    rw [XdpThreads.waiting, hreserved]
    exact List.map_congr_left hframes
  refine ⟨⟨hinv, ?_, ?_, ?_, ?_⟩, ?_, [], ?_, .nil⟩
  · rw [hctx]
    exact h.conf_eq
  · rw [hctx]
    exact h.receiver
  · rw [hlength]
    exact h.room
  · rw [hreserved]
    exact h.fits
  · rw [hctx]
    exact .refl _
  · rw [hwaiting, List.append_nil, List.nil_append]

theorem TrafficInv.dma (h : TrafficInv conf s) (i offset : Nat) (bytes : List UInt8) :
    TrafficStep conf s (kernelWrite s i offset bytes) ⟨[], [], none⟩ := by
  rw [kernelWrite]
  split
  · exact h.idle h.inv rfl rfl rfl fun _ _ => rfl
  · rename_i addr haddr
    split
    · rename_i hfit
      refine h.idle ⟨h.inv.umem, h.inv.covered⟩ rfl (length_write _ _ _) rfl ?_
      intro desc hdesc
      have hne : chunkOf addr ≠ chunkOf desc.addr :=
        h.inv.umem.chunk_ne (show XdpPlace.kernelRx ≠ .txReserved by decide)
          (List.mem_of_getElem? haddr) (List.mem_map_of_mem hdesc)
      rcases apart_of_chunk hne hfit (h.fits desc hdesc).1 with hleft | hright
      · exact slice_write_right _ _ hleft
      · exact slice_write_left _ _ hright
    · exact h.idle h.inv rfl rfl rfl fun _ _ => rfl

theorem foundFrames_rx (s : XdpThreads) (p : XdpRxPass) (out : XdpOutput) :
    foundFrames s (.rx p) out = if out.count = 0 then [] else s.found p := by
  cases out <;> rfl

section Found
variable {out : XdpOutput} (h : RxPassEffect conf s p s' out)
include h

theorem RxPassEffect.found_map : s.found p = (s.peek p).map fun desc => ⟨s.frameAt desc,
    decide (s.ctx.Accepts (slice s.umem desc.addr s.ctx.conf.frameLength) desc.len)⟩ := by
  rw [XdpThreads.found, h.packets.verdicts_eq, List.zipWith_map_right, List.zipWith_self]

theorem RxPassEffect.found_eq : foundFrames s (.rx p) out = s.found p := by
  rw [foundFrames_rx, h.received]
  split
  · rename_i hz
    rw [h.found_map, List.eq_nil_of_length_eq_zero hz]
    rfl
  · rfl

end Found

theorem xdpTraffic_tx (hm : conf.rxMirrorEnabled = true) (s : XdpThreads) (p : XdpTxPass) :
    (xdpTraffic conf).step s (.threads (.tx p)) =
      ((tcXdpMirrorPass s p).1, ⟨[], (s.xsk.tx.reserved.take s.receivedFrames).map s.frameAt,
        (tcXdpMirrorPass s p).2.batch⟩) := by
  simp only [xdpTraffic, xdpThreads_tx hm]
  rfl

section Pass
variable (h : TrafficInv conf s) (hm : conf.rxMirrorEnabled = true)
include h hm

theorem TrafficInv.txPass (p : XdpTxPass) :
    TrafficStep conf s (tcXdpMirrorPass s p).1
      ⟨[], (s.xsk.tx.reserved.take s.receivedFrames).map s.frameAt, batch⟩ := by
  have hinv := h.inv.step (.tx p)
  rw [xdpThreads_tx hm] at hinv
  have hreserved : (tcXdpMirrorPass s p).1.xsk.tx.reserved =
      s.xsk.tx.reserved.drop s.receivedFrames := xdpCompleteTx_reserved _ p
  refine ⟨⟨hinv, h.conf_eq, h.receiver, h.room, ?_⟩, .refl _, [], ?_, .nil⟩
  · rw [hreserved]
    exact fun desc hdesc => h.fits desc (List.mem_of_mem_drop hdesc)
  · rw [XdpThreads.waiting, XdpThreads.waiting, hreserved, List.append_nil]
    change s.xsk.tx.reserved.map s.frameAt = _ ++ (s.xsk.tx.reserved.drop _).map s.frameAt
    rw [← List.map_append, List.take_append_drop]

theorem TrafficInv.rxPass (hx : conf.xdpEnabled = true) (p : XdpRxPass)
    (hfits : ∀ desc ∈ s.peek p, desc.FitsChunk conf) :
    TrafficStep conf s (tcXdpRxPass conf s p).1
      ⟨foundFrames s (.rx p) (tcXdpRxPass conf s p).2, [], none⟩ := by
  have heffect := tcXdpRxPass_effect h hm hx p hfits
  have hinv := h.inv.step (.rx p)
  change XdpInv conf (tcXdpRxPass conf s p).1 at hinv
  generalize (tcXdpRxPass conf s p).1 = s', (tcXdpRxPass conf s p).2 = out at heffect hinv ⊢
  have hpackets := heffect.packets
  have hroom : xskRingProdDefaultNumDescs * xdpFrameSize ≤ s'.umem.length := by
    rw [hpackets.length_eq]
    exact h.room
  have hkept : s.xsk.tx.reserved.map s'.frameAt = s.waiting := by
    apply List.map_congr_left
    intro desc hdesc
    have hplace : desc.addr ∈ s.xsk.addrsAt .txReserved := List.mem_map_of_mem hdesc
    apply hpackets.outside
    · exact Nat.le_trans (h.inv.umem.region_lt hplace (h.fits desc hdesc).1) h.room
    · intro d hd
      rw [h.conf_eq]
      exact apart_of_chunk_ne (h.inv.umem.chunk_ne (by decide) hplace (XdpThreads.peek_mem p hd))
        (h.fits desc hdesc).1 (hfits d hd).2
  refine ⟨⟨hinv, ?_, hpackets.same.vlanReceiver h.receiver, hroom, ?_⟩, hpackets.same,
    out.queued.map s'.frameAt, ?_, ?_⟩
  · rw [hpackets.same.conf_eq]
    exact h.conf_eq
  · rw [heffect.reserved, heffect.queued]
    intro desc hdesc
    rcases List.mem_append.mp hdesc with hdesc | hdesc
    · exact h.fits desc hdesc
    · obtain ⟨d, hd, rfl⟩ := List.mem_map.mp hdesc
      exact ⟨(hfits d hd).2, (hfits d hd).2⟩
  · rw [XdpThreads.waiting, XdpThreads.waiting, heffect.reserved, List.map_append, hkept]
    rfl
  · rw [heffect.found_eq, heffect.found_map, heffect.queued, List.map_map,
      List.forall₂_map_left_iff, List.forall₂_map_right_iff, List.forall₂_same]
    intro d hd
    have hplace := XdpThreads.peek_mem p hd
    have hmirrored := hpackets.mirrored d hd
    have hlength := Nat.le_trans (h.inv.umem.region_lt hplace (hfits d hd).2) h.room
    rw [← h.conf_eq] at hlength
    have hframe := hmirrored.frame h.receiver
      (Nat.le_trans (h.inv.umem.region_lt hplace (hfits d hd).1) h.room) hlength hpackets.length_eq
    rw [h.conf_eq] at hframe ⊢
    exact hframe

theorem xdpTraffic_step (hx : conf.xdpEnabled = true) (e : XdpTrafficEvent)
    (hin : InChunk conf s e) :
    TrafficStep conf s ((xdpTraffic conf).step s e).1 ((xdpTraffic conf).step s e).2 := by
  cases e with
  | dma i offset bytes => exact h.dma i offset bytes
  | threads e =>
    cases e with
    | kernel k =>
      exact h.idle (h.inv.step (.kernel k)) rfl rfl (kernelStep_reserved s.xsk k) fun _ _ => rfl
    | rx p =>
      have hstep := h.rxPass hm hx p hin
      have hnone : (tcXdpRxPass conf s p).2.submitted = [] := by
        have hover := tcXdpRxPass_handOver hm s p
        generalize (tcXdpRxPass conf s p).1 = s', (tcXdpRxPass conf s p).2 = out at hover
        cases hover
        rfl
      refine ⟨hstep.inv, hstep.same, ?_⟩
      change ∃ mirrored, _ = (tcXdpRxPass conf s p).2.submitted.map s.frameAt ++ _ ∧ _
      rw [hnone]
      exact hstep.moved
    | tx p =>
      rw [xdpTraffic_tx hm]
      exact h.txPass hm p

end Pass

def allTraffic (outs : List XdpTraffic) : XdpTraffic :=
  ⟨outs.flatMap (·.found), outs.flatMap (·.sent), none⟩

theorem ThreadContext.SameClass.mirroredFrame {f : FoundFrame} {sent : List UInt8}
    (hs : ctx.SameClass ctx') (h : MirroredFrame ctx' f sent) : MirroredFrame ctx f sent := by
  refine ⟨?_, ?_, h.destination, h.source, ?_, h.refused⟩
  · rw [h.verdict, decide_eq_decide, hs.accepts]
  · rw [h.length_eq, hs.conf_eq]
  · rw [← hs.metaDataOffset_eq, ← hs.conf_eq, ← hs.rxCounter]
    exact h.counter

/-- Over a whole run the frames sent are the frames found, in their order, each as the mirror made
it; the rest waits. -/
theorem xdpTraffic_run (hm : conf.rxMirrorEnabled = true) (hx : conf.xdpEnabled = true)
    (es : List XdpTrafficEvent) (h : TrafficInv conf s)
    (ha : (xdpTraffic conf).Along (InChunk conf) s es) :
    TrafficStep conf s ((xdpTraffic conf).run s es).1
      (allTraffic ((xdpTraffic conf).run s es).2) := by
  induction es generalizing s with
  | nil => exact ⟨h, .refl _, [], List.append_nil _, .nil⟩
  | cons e es ih =>
    have hstep := xdpTraffic_step h hm hx e ha.1
    have hrest := ih hstep.inv ha.2
    obtain ⟨mirrored, heq, hfound⟩ := hstep.moved
    obtain ⟨mirrored', heq', hfound'⟩ := hrest.moved
    refine ⟨hrest.inv, hstep.same.trans hrest.same, mirrored ++ mirrored', ?_, ?_⟩
    · rw [← List.append_assoc, heq, List.append_assoc, heq', ← List.append_assoc]
      rfl
    · exact List.rel_append hfound (hfound'.imp fun f q hq => hstep.same.mirroredFrame hq)

/-- A class that mirrors in place, and an UMEM area with room for its chunks. -/
structure MirrorsInPlace (ctx : ThreadContext) (umem : List UInt8) : Prop where
  receiver : ctx.VlanReceiver
  mirror : ctx.conf.rxMirrorEnabled = true
  xdp : ctx.conf.xdpEnabled = true
  room : xskRingProdDefaultNumDescs * xdpFrameSize ≤ umem.length

theorem MirrorsInPlace.start (h : MirrorsInPlace ctx umem) (build : BuildConfig) :
    TrafficInv ctx.conf (XdpThreads.start build ctx umem) :=
  ⟨xdpThreads_inv build ctx umem [], rfl, h.receiver, h.room, nofun⟩

/-- What the create function sets up for a configuration that passes the checks, with a cipher that
keeps lengths. -/
theorem tcThreadsCreate_vlanReceiver
    (hc : tcThreadsCreate securityInit conf frameType source = some ctx)
    (hvlan : frameType ∈ [.tsnHigh, .tsnLow, .rtc, .rta, .genericL2])
    (hcounted : CountedClass conf frameType)
    (hcipher : Aead.Ideal (securityInit conf.securityAlgorithm conf.securityKey.bytes)) :
    ctx.VlanReceiver := by
  have hclass := (tcThreadsCreate_created hc).toForClass
  obtain ⟨-, hpattern, htx, hrx⟩ := tcThreadsCreate_secure hc
  refine ⟨?_, ?_, ?_, ?_, ?_, ?_⟩
  · rw [hclass.frameType_eq]
    exact hvlan
  · rw [hclass.conf_eq, hclass.frameType_eq]
    exact hcounted
  · rw [hclass.metaDataOffset_eq, hclass.frameType_eq, hclass.conf_eq]
  · rw [hclass.conf_eq, ← hpattern]
    exact List.length_take_le _ _
  · rw [hrx, htx]
    exact hcipher.length_ciphertext
  · rw [hrx, htx]
    exact hcipher.length_tag

def l2MirrorConfig : AppConfig :=
  (configSetDefaults true).setClass .genericL2 fun c =>
    { c with enabled := true, xdpEnabled := true, txHwtstampEnabled := true, etherType := 0xb62c }

theorem l2Mirror_isSome :
    (threadsCreate chachaInit l2MirrorConfig .genericL2 defaultDestination).isSome = true := by
  decide +kernel

/-- A mirror for OPC UA PubSub frames on AF_XDP. -/
def l2Mirror : ThreadContext :=
  (threadsCreate chachaInit l2MirrorConfig .genericL2 defaultDestination).get l2Mirror_isSome

def l2Umem : List UInt8 := List.replicate (xskRingProdDefaultNumDescs * xdpFrameSize) 0

theorem l2Mirror_created :
    threadsCreate chachaInit l2MirrorConfig .genericL2 defaultDestination = some l2Mirror :=
  (Option.some_get _).symm

theorem l2Mirror_mirrors : MirrorsInPlace l2Mirror l2Umem where
  receiver := tcThreadsCreate_vlanReceiver l2Mirror_created (by decide)
    ⟨by decide, by decide, by decide, by decide, by decide⟩ (ChaCha20Poly1305.ideal _)
  mirror := by decide +kernel
  xdp := by decide +kernel
  room := Nat.le_of_eq List.length_replicate.symm

def l2Frame (c : UInt64) : List UInt8 :=
  generateFrame l2Mirror (List.replicate 128 0) 128 defaultDestination c 0

/-- The kernel takes a chunk, writes a frame into it and hands it over. -/
def arrival (frame : List UInt8) : List XdpTrafficEvent :=
  [.threads (.kernel .takeFill), .dma 0 256 frame,
    .threads (.kernel (.deliver 0 ⟨256, xdpPacketHeadroom_lt⟩ frame.length))]

theorem arrival_inChunk : (xdpTraffic l2Mirror.conf).Along (InChunk l2Mirror.conf)
    (XdpThreads.start fullBuild l2Mirror l2Umem)
    (arrival (l2Frame 0) ++ [.threads (.rx plainRxPass)]) := by
  have hpeek : ((xdpTraffic l2Mirror.conf).run (XdpThreads.start fullBuild l2Mirror l2Umem)
      (arrival (l2Frame 0))).1.peek plainRxPass = [⟨256, 128⟩] := by decide +kernel
  apply (System.along_append _ _ _ _).mpr
  refine ⟨⟨trivial, trivial, trivial, trivial⟩, ?_, trivial⟩
  intro desc hdesc
  rw [hpeek] at hdesc
  cases List.mem_singleton.mp hdesc
  exact ⟨by decide, by decide +kernel⟩

end RtcTestbench
