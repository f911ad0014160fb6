import RtcTestbench.Lib.Flow
import RtcTestbench.XdpDelivery
import RtcTestbench.XdpTraffic

namespace RtcTestbench
open Buffer Flow Machine XskRing
set_option autoImplicit true

variable {conf : TrafficClassConfig} {frameType : StatFrameType} {cipher : Aead.Cipher}
  {frame buf umem : List UInt8} {len : Nat} {c : UInt64} {ctx : ThreadContext} {env : RxEnv}
  {acc : RxAccepted} {stripped : Bool} {s s' : XdpThreads} {p : XdpRxPass} {etherType : UInt16}
  {descs : List XdpDesc}

section Chunk
variable (hm : ctx.conf.rxMirrorEnabled = true) (hx : ctx.conf.xdpEnabled = true)
include hm hx

theorem receiveProfinetFrame_chunk (hok : receiveProfinetFrame env ctx buf len = .ok acc) :
    acc.frameData = swapMacAddresses (if vlanTagMissing buf then
        insertVlanTag (decodeProfinetFrame env ctx buf len).frameData len ethPProfinetRt
          ctx.conf.vlanTci
      else (decodeProfinetFrame env ctx buf len).frameData) len := by
  rw [receiveProfinetFrame] at hok
  split at hok
  · cases hok
  · cases hok
    rw [storeVlanFrame_xdp _ _ _ _ hm hx]
    rfl

theorem genericL2RxFrame_chunk (hok : genericL2RxFrame env ctx buf len = .ok acc) :
    acc.frameData = swapMacAddresses (if vlanTagMissing buf then
        insertVlanTag (decodeGenericL2Frame env ctx buf).frameData len
          ctx.conf.etherType.toUInt16 ctx.conf.vlanTci
      else (decodeGenericL2Frame env ctx buf).frameData) len := by
  simp only [genericL2RxFrame] at hok
  split at hok
  · cases hok
  · cases hok
    rw [storeVlanFrame_xdp _ _ _ _ hm hx]
    rfl

end Chunk

/-- The frame that goes back from its place has the body of the one that was received, whether its
tag had to be put back or not. -/
theorem sameBody_inPlace (ht : frameType ≠ .lldp) (h : Delivered frame stripped buf len)
    (hl : 18 ≤ frame.length) (hmax : frame.length ≤ maxFrameSize)
    (hroom : frame.length ≤ buf.length) (htag : be16At frame 12 = ethP8021Q)
    (hproto : be16At frame 16 = etherType) (vlanTci : UInt16) :
    SameBody frameType frame (slice (swapMacAddresses (if stripped then
      insertVlanTag buf len etherType vlanTci else buf) len) 0 frame.length) := by
  have hlen := h.len_eq
  have h14 : 14 ≤ len := by
    rw [hlen]
    split <;> omega
  have hrest {i k : Nat} (mem : List UInt8) (hi : 12 ≤ i) (hk : i + k ≤ frame.length) :
      slice (slice (swapMacAddresses mem len) 0 frame.length) i k = slice mem i k := by
    rw [slice_slice _ (by omega), Nat.zero_add, slice_swapMacAddresses_rest h14 mem hi]
  have hlength (mem : List UInt8) (hmem : mem.length = buf.length) :
      (slice (swapMacAddresses mem len) 0 frame.length).length = frame.length := by
    apply length_slice
    rw [swapMacAddresses_eq h14, length_writeAll]
    omega
  cases stripped with
  | false =>
    simp only [Bool.false_eq_true, ↓reduceIte]
    apply sameBody_of_slice
    · exact hlength buf rfl
    · rw [be16At, hrest buf (by decide) (by omega), h.tag rfl, be16At]
    · rw [bodyOffset, if_neg ht, hrest buf (by decide) (by omega)]
      exact h.view 16 _ (Nat.le_refl _) (by omega)
  | true =>
    simp only [↓reduceIte] at hlen ⊢
    have hfit : len + 4 ≤ maxFrameSize := by omega
    have hlast : len + 4 ≤ buf.length := by omega
    have htags := slice_insertVlanTag_tag etherType vlanTci h14 hfit hlast
    generalize hmem : insertVlanTag buf len etherType vlanTci = mem at htags
    have hmoved : slice mem 18 (frame.length - 18) = slice frame 18 (frame.length - 18) := by
      rw [← hmem, slice_insertVlanTag_moved _ _ h14 hfit hlast (by decide) (by omega)]
      exact h.view 18 _ (by decide) (by omega)
    have hfirst : slice mem 12 2 = be16 ethP8021Q := by
      rw [← Nat.add_zero 12, ← slice_slice mem (show 0 + 2 ≤ 6 by decide), htags]
      rfl
    have hether : slice mem 16 2 = slice frame 16 2 := by
      rw [show 16 = 12 + 4 from rfl, ← slice_slice mem (show 4 + 2 ≤ 6 by decide), htags]
      exact (congrArg be16 hproto.symm).trans (be16_be16At (by omega))
    apply sameBody_of_slice
    · apply hlength
      rw [← hmem, insertVlanTag_eq _ _ hfit, length_writeAll]
    · rw [be16At, hrest mem (by decide) (by omega), hfirst, be16toh_be16, htag]
    · rw [bodyOffset, if_neg ht, hrest mem (by decide) (by omega),
        show frame.length - 16 = 2 + (frame.length - 18) by omega, slice_add, slice_add, hether,
        hmoved]

/-- The bytes a socket sees of a frame, with or without its tag. -/
def Brings (frameType : StatFrameType) (frame bytes : List UInt8) : Prop :=
  ∃ stripped, bytes = deliver frameType stripped frame

theorem deliver_vlan (ht : frameType ∈ tcXdp) (stripped : Bool) (frame : List UInt8) :
    deliver frameType stripped frame = if stripped then stripVlanTag frame else frame := by
  cases frameType <;> first | rfl | exact absurd ht (by decide)

theorem wireEtherType_xdp (ht : frameType ∈ tcXdp) (conf : TrafficClassConfig) :
    ∃ etherType, wireEtherType conf frameType = some etherType := by
  cases frameType <;> first | exact ⟨_, rfl⟩ | exact absurd ht (by decide)

section InPlace
variable (h : Intact conf frameType cipher frame c) (hc : CarriedClass conf frameType)
  (ht : frameType ∈ tcXdp)
include h hc ht

theorem Intact.brings_length (hb : Brings frameType frame bytes) :
    bytes.length ≤ conf.frameLength := by
  obtain ⟨stripped, rfl⟩ := hb
  obtain ⟨etherType, he⟩ := wireEtherType_xdp ht conf
  have hl := h.tagged hc.toCountedClass he
  rw [deliver_vlan ht, ← h.length_eq]
  split
  · rw [length_stripVlanTag (by omega)]
    omega
  · exact Nat.le_refl _

/-- What decoding leaves in the chunk is intact again once the tag is back. -/
theorem Intact.swapped (hrestamp : Intact conf frameType cipher frame' c)
    (he : wireEtherType conf frameType = some etherType) (hne : etherType ≠ ethP8021Q)
    (hd : Delivered frame stripped buf len) (hroom : conf.frameLength ≤ buf.length)
    (hlen : decoded.length = buf.length) (hdecoded : Delivered frame' stripped decoded len)
    (vlanTci : UInt16) :
    Intact conf frameType cipher (slice (swapMacAddresses (if vlanTagMissing buf then
      insertVlanTag decoded len etherType vlanTci else decoded) len) 0 conf.frameLength) c := by
  have hlldp : frameType ≠ .lldp := by
    rintro rfl
    exact absurd ht (by decide)
  obtain ⟨htag, hproto⟩ := h.header etherType he
  obtain ⟨htag', hproto'⟩ := hrestamp.header etherType he
  have hlength := hrestamp.length_eq
  have hbody := sameBody_inPlace hlldp hdecoded (hrestamp.tagged hc.toCountedClass he)
    (hlength.trans_le hc.fits_chunk) (by omega) htag' hproto' vlanTci
  rw [hlength] at hbody
  rw [(hd.header (h.tagged hc.toCountedClass he) htag hproto hne).1]
  exact hrestamp.sameBody hbody hc.toCountedClass

section Ready
variable (hready : MirrorReady conf true frameType cipher ctx) (hideal : Aead.Ideal cipher)
  (hroom : conf.frameLength ≤ buf.length)
include hready hideal hroom

theorem Intact.chunk (hd : Delivered frame stripped buf len)
    (hok : receiveFrame env ctx buf len = .ok acc) :
    Intact conf frameType cipher (slice acc.frameData 0 conf.frameLength) c := by
  obtain ⟨hctx, hkey, hp⟩ := hready
  have hm : ctx.conf.rxMirrorEnabled = true := by rw [hctx.conf_eq]; rfl
  have hx : ctx.conf.xdpEnabled = true := by rw [hctx.conf_eq]; rfl
  have hrestamp := h.restamp hc hctx hkey hideal hp env
  rw [receiveFrame, hctx.frameType_eq] at hok
  have hprofinet (hpn : frameType ∈ tcProfinet)
      (hok : receiveProfinetFrame env ctx buf len = .ok acc) :
      Intact conf frameType cipher (slice acc.frameData 0 conf.frameLength) c := by
    have he := wireEtherType_profinet conf hpn
    rw [receiveProfinetFrame_chunk hm hx hok]
    apply h.swapped hc ht hrestamp he (by decide) hd hroom (length_decodeProfinetFrame _ _ _ _)
    rw [← h.restamp_counter hc hctx hd]
    exact decodeProfinetFrame_delivered hctx hpn
      ⟨hc.not_udp, hc.secured, hc.not_ethercat, hc.fits, hc.fits_chunk⟩ h.length_eq hd
      (h.header_size hc.toCountedClass he (by decide) hd)
  cases frameType with
  | tsnHigh => exact hprofinet (by decide) hok
  | tsnLow => exact hprofinet (by decide) hok
  | rtc => exact hprofinet (by decide) hok
  | rta => exact hprofinet (by decide) hok
  | genericL2 =>
    have hnone : conf.securityMode = .none := by
      by_contra hsec
      exact absurd (hc.secured hsec) (by decide)
    have hne := etherType_ne (hc.ether rfl)
    rw [show ctx.conf.protocolType = .genericL2 by rw [hctx.conf_eq]; exact hc.not_ethercat rfl]
      at hok
    rw [genericL2RxFrame_chunk hm hx hok,
      show ctx.conf.etherType = conf.etherType by rw [hctx.conf_eq]; rfl]
    exact h.swapped hc ht hrestamp rfl hne hd hroom (length_setMirrorTxTimestampEst _ _ _)
      (decodeGenericL2Frame_delivered hctx hnone hd
        (h.header_size hc.toCountedClass rfl hne hd)) _
  | dcp | lldp | udpHigh | udpLow => exact absurd ht (by decide)

/-- The in-place mirror turns an intact frame into an intact frame of the same counter. -/
theorem Intact.inPlace (hb : Brings frameType frame (slice buf 0 len)) (hlen : len ≤ buf.length)
    (env : RxEnv) :
    ∃ acc, receiveFrame env ctx buf len = .ok acc ∧
      Intact conf frameType cipher (slice acc.frameData 0 conf.frameLength) c := by
  obtain ⟨stripped, hb⟩ := hb
  have hbuf : buf = deliver frameType stripped frame ++ buf.drop len := by
    rw [← hb]
    exact (List.take_append_drop len buf).symm
  have hsize : len = (deliver frameType stripped frame).length := by
    rw [← hb, length_slice (by omega)]
  obtain ⟨acc, hok, -⟩ := h.received hc hready.forClass hready.key
    (show Delivers frameType ⟨c, frame⟩ ⟨env, buf, len⟩ from ⟨stripped, _, hbuf, hsize⟩)
  obtain ⟨etherType, he⟩ := wireEtherType_xdp ht conf
  have hd := delivered_either (h.tagged hc.toCountedClass he) stripped (buf.drop len)
  rw [← deliver_vlan ht, ← hbuf, ← hsize] at hd
  exact ⟨acc, hok, h.chunk hc ht hready hideal hroom hd hok⟩

end Ready

end InPlace

/-- An intact frame comes back as the intact frame of the same counter. -/
def Returns (conf : TrafficClassConfig) (frameType : StatFrameType) (cipher : Aead.Cipher)
    (bytes sent : List UInt8) : Prop :=
  ∀ frame c, Intact conf frameType cipher frame c → Brings frameType frame bytes →
    Intact conf frameType cipher sent c

/-- The calls of `receive_function` for the packets of a pass: each finds its frame as the kernel
left it, and nobody touches the result. -/
theorem receivePackets_returns (hc : CarriedClass conf frameType) (ht : frameType ∈ tcXdp)
    (hideal : Aead.Ideal cipher) (hready : MirrorReady conf true frameType cipher ctx)
    (hv : ctx.VlanReceiver) (env : Nat → RxEnv) (i : Nat)
    (hroom : ∀ d ∈ descs, d.addr + conf.frameLength ≤ umem.length)
    (hlen : ∀ d ∈ descs, d.addr + d.len ≤ umem.length)
    (haddr : ∀ d ∈ descs, xskUmemAddOffsetToAddr d.addr = d.addr)
    (hapart : Apart conf.frameLength descs) :
    let r := receivePackets env i ctx umem descs
    MirrorReady conf true frameType cipher r.1 ∧ ∀ d ∈ descs,
      Returns conf frameType cipher (slice umem d.addr d.len)
        (slice r.2.1 d.addr conf.frameLength) := by
  induction descs generalizing ctx umem i with
  | nil => exact ⟨hready, List.forall_mem_nil _⟩
  | cons desc descs ih =>
    have hconf : ctx.conf.frameLength = conf.frameLength := by
      rw [hready.forClass.conf_eq]
      rfl
    have hm : ctx.conf.rxMirrorEnabled = true := by rw [hready.forClass.conf_eq]; rfl
    have hx : ctx.conf.xdpEnabled = true := by rw [hready.forClass.conf_eq]; rfl
    obtain ⟨hroomd, hroom'⟩ := List.forall_mem_cons.mp hroom
    obtain ⟨hlend, hlen'⟩ := List.forall_mem_cons.mp hlen
    obtain ⟨haddrd, haddr'⟩ := List.forall_mem_cons.mp haddr
    obtain ⟨hfirst, hapart'⟩ := List.pairwise_cons.mp hapart
    have hdrop : (umem.drop desc.addr).length = umem.length - desc.addr := List.length_drop
    have hown (frame : List UInt8) (c : UInt64) (h : Intact conf frameType cipher frame c)
        (hb : Brings frameType frame (slice umem desc.addr desc.len)) :=
      h.inPlace hc ht hready hideal (show conf.frameLength ≤ (umem.drop desc.addr).length by omega)
        (show Brings frameType frame (slice (umem.drop desc.addr) 0 desc.len) by
          rw [drop_slice]; exact hb) (by omega) (env i)
    rw [receivePackets, haddrd]
    cases hr : receiveFrame (env i) ctx (umem.drop desc.addr) desc.len with
    | error message =>
      obtain ⟨hready', hrest⟩ := ih hready hv (i + 1) hroom' hlen' haddr' hapart'
      refine ⟨hready', List.forall_mem_cons.mpr ⟨?_, hrest⟩⟩
      intro frame c h hb
      obtain ⟨acc, hok, -⟩ := hown frame c h hb
      cases hr.symm.trans hok
    | ok acc =>
      obtain ⟨hlength, houtside, -⟩ := receivePacket_inPlace hv hm hx (by omega) hr
      have hchecked := receiveFrame_checked hr
      have hready' := hready.sameClass hchecked
      have hv' := hchecked.sameClass.vlanReceiver hv
      obtain ⟨hready'', hrest⟩ := ih hready' hv' (i + 1) (by rw [hlength]; exact hroom')
        (by rw [hlength]; exact hlen') haddr' hapart'
      have hpackets := receivePackets_received hv' (by rw [hready'.forClass.conf_eq]; rfl)
        (by rw [hready'.forClass.conf_eq]; rfl) env (i + 1)
        (by rw [hlength, hready'.forClass.conf_eq]; exact hroom') haddr'
        (by rw [hready'.forClass.conf_eq]; exact hapart')
      refine ⟨hready'', List.forall_mem_cons.mpr ⟨?_, ?_⟩⟩
      · intro frame c h hb
        obtain ⟨acc', hok, hintact⟩ := hown frame c h hb
        cases hr.symm.trans hok
        have hkept := hpackets.outside desc.addr conf.frameLength (by omega) fun d hd => by
          rw [hready'.forClass.conf_eq]
          exact hfirst d hd
        have htake : (umem.take desc.addr).length = desc.addr := by
          rw [List.length_take]
          omega
        rw [hkept, slice_append_right _ _ (by omega), htake, Nat.sub_self]
        exact hintact
      · intro d hd frame c h hb
        have hshort := h.brings_length hc ht hb
        rw [length_slice (hlen' d hd)] at hshort
        apply hrest d hd frame c h
        rw [houtside d.addr d.len (hlen' d hd) (by have := hfirst d hd; omega)]
        exact hb

theorem tcXdpRxPass_memory (h : TrafficInv conf s) (hm : conf.rxMirrorEnabled = true)
    (p : XdpRxPass) :
    let r := receivePackets p.env 0 s.ctx s.umem (s.peek p)
    (tcXdpRxPass conf s p).1.ctx = r.1 ∧ (tcXdpRxPass conf s p).1.umem = r.2.1 := by
  obtain ⟨tx, -, hreserve⟩ := h.inv.umem.reserveTx
    (((s.peek p).map fun desc => xskUmemExtractAddr desc.addr).map
      fun orig => ⟨orig, conf.frameLength % 2 ^ 32⟩)
    (by rw [List.length_map, List.length_map]; exact (s.peek_sublist p).length_le)
  have hpeek : s.xsk.rx.peek xdpBatchSize p.visible = s.peek p := rfl
  simp only [tcXdpRxPass, xdpReceiveFrames, hpeek, hm, if_true]
  by_cases hz : (s.peek p).length = 0
  · rw [if_pos hz, List.eq_nil_of_length_eq_zero hz]
    exact ⟨rfl, rfl⟩
  · rw [if_neg hz, reserveRetry_of_some hreserve]
    exact ⟨rfl, rfl⟩

/-- A mirror in place for the frames of a class, between two steps. -/
structure ReturnInv (conf : TrafficClassConfig) (frameType : StatFrameType)
    (cipher : Aead.Cipher) (s : XdpThreads) : Prop where
  traffic : TrafficInv (peerConfig conf true true) s
  ready : MirrorReady conf true frameType cipher s.ctx

/-- Frames that are found join those that wait as what they are, and go out in their order. -/
structure ReturnStep (conf : TrafficClassConfig) (frameType : StatFrameType)
    (cipher : Aead.Cipher) (s s' : XdpThreads) (out : XdpTraffic) : Prop where
  inv : ReturnInv conf frameType cipher s'
  moved : ∃ mirrored, s.waiting ++ mirrored = out.sent ++ s'.waiting ∧
    List.Forall₂ (fun f sent => Returns conf frameType cipher f.bytes sent) out.found mirrored

section Run
variable (hc : CarriedClass conf frameType) (ht : frameType ∈ tcXdp) (hideal : Aead.Ideal cipher)

theorem ReturnInv.idle (h : ReturnInv conf frameType cipher s)
    (hstep : TrafficStep (peerConfig conf true true) s s' out) (hctx : s'.ctx = s.ctx)
    (hfound : out.found = []) : ReturnStep conf frameType cipher s s' out := by
  obtain ⟨mirrored, heq, hrel⟩ := hstep.moved
  rw [hfound] at hrel
  cases hrel
  refine ⟨⟨hstep.inv, hctx ▸ h.ready⟩, [], heq, ?_⟩
  rw [hfound]
  exact .nil

include hc ht hideal

theorem ReturnInv.rxPass (h : ReturnInv conf frameType cipher s) (p : XdpRxPass)
    (hfits : ∀ desc ∈ s.peek p, desc.FitsChunk (peerConfig conf true true)) :
    ReturnStep conf frameType cipher s (tcXdpRxPass (peerConfig conf true true) s p).1
      ⟨foundFrames s (.rx p) (tcXdpRxPass (peerConfig conf true true) s p).2, [], none⟩ := by
  have hstep := h.traffic.rxPass rfl rfl p hfits
  have heffect := tcXdpRxPass_effect h.traffic rfl rfl p hfits
  obtain ⟨hctx, humem⟩ := tcXdpRxPass_memory h.traffic rfl p
  have hplace {d : XdpDesc} (hd : d ∈ s.peek p) := XdpThreads.peek_mem p hd
  have hregion {d : XdpDesc} {k : Nat} (hd : d ∈ s.peek p)
      (hk : d.addr % xdpFrameSize + k ≤ xdpFrameSize) : d.addr + k ≤ s.umem.length :=
    Nat.le_trans (h.traffic.inv.umem.region_lt (hplace hd) hk) h.traffic.room
  obtain ⟨hready, hreturns⟩ := receivePackets_returns hc ht hideal h.ready h.traffic.receiver
    p.env 0 (fun d hd => hregion hd (hfits d hd).2) (fun d hd => hregion hd (hfits d hd).1)
    (fun d hd => (h.traffic.inv.umem.packet_addr (hplace hd)).1)
    (h.traffic.inv.umem.peek_apart p hfits)
  rw [← hctx] at hready
  rw [← humem] at hreturns
  obtain ⟨mirrored, heq, -⟩ := hstep.moved
  refine ⟨⟨hstep.inv, hready⟩, mirrored, heq, ?_⟩
  generalize (tcXdpRxPass (peerConfig conf true true) s p).1 = s',
    (tcXdpRxPass (peerConfig conf true true) s p).2 = out at *
  -- the frames that join those that wait are the regions the pass queued
  have hmirrored : mirrored = out.queued.map s'.frameAt := by
    rw [XdpThreads.waiting, XdpThreads.waiting, heffect.reserved, List.map_append,
      List.nil_append] at heq
    exact List.append_inj_right heq (by rw [List.length_map, List.length_map])
  change List.Forall₂ _ (foundFrames s (.rx p) out) mirrored
  rw [hmirrored, heffect.found_eq, heffect.found_map, heffect.queued, List.map_map,
    List.forall₂_map_left_iff, List.forall₂_map_right_iff, List.forall₂_same]
  exact hreturns

theorem ReturnInv.step (h : ReturnInv conf frameType cipher s) (e : XdpTrafficEvent)
    (hin : InChunk (peerConfig conf true true) s e) :
    ReturnStep conf frameType cipher s ((xdpTraffic (peerConfig conf true true)).step s e).1
      ((xdpTraffic (peerConfig conf true true)).step s e).2 := by
  have hstep := xdpTraffic_step h.traffic rfl rfl e hin
  cases e with
  | dma i offset bytes =>
    refine h.idle hstep ?_ rfl
    simp only [xdpTraffic, kernelWrite]
    split
    · rfl
    · split <;> rfl
  | threads e =>
    cases e with
    | kernel k => exact h.idle hstep rfl rfl
    | tx p =>
      rw [xdpTraffic_tx rfl] at hstep ⊢
      exact h.idle hstep rfl rfl
    | rx p =>
      have hrx := h.rxPass hc ht hideal p hin
      have hmirror : (peerConfig conf true true).rxMirrorEnabled = true := rfl
      have hover := tcXdpRxPass_handOver hmirror s p
      refine ⟨hrx.inv, ?_⟩
      change ∃ mirrored, _ = (tcXdpRxPass (peerConfig conf true true) s p).2.submitted.map
        s.frameAt ++ _ ∧ _
      have hnone : (tcXdpRxPass (peerConfig conf true true) s p).2.submitted = [] := by
        generalize (tcXdpRxPass (peerConfig conf true true) s p).1 = s',
          (tcXdpRxPass (peerConfig conf true true) s p).2 = out at hover
        cases hover
        rfl
      rw [hnone]
      exact hrx.moved

/-- Over a whole run, in any order of kernel, threads and writes to the memory. -/
theorem ReturnInv.run (h : ReturnInv conf frameType cipher s) (es : List XdpTrafficEvent)
    (ha : (xdpTraffic (peerConfig conf true true)).Along (InChunk (peerConfig conf true true)) s
      es) :
    ReturnStep conf frameType cipher s ((xdpTraffic (peerConfig conf true true)).run s es).1
      (allTraffic ((xdpTraffic (peerConfig conf true true)).run s es).2) := by
  induction es generalizing s with
  | nil => exact ⟨h, [], List.append_nil _, .nil⟩
  | cons e es ih =>
    have hstep := h.step hc ht hideal e ha.1
    have hrest := ih hstep.inv ha.2
    obtain ⟨mirrored, heq, hfound⟩ := hstep.moved
    obtain ⟨mirrored', heq', hfound'⟩ := hrest.moved
    refine ⟨hrest.inv, mirrored ++ mirrored', ?_, List.rel_append hfound hfound'⟩
    rw [← List.append_assoc, heq, List.append_assoc, heq', ← List.append_assoc]
    rfl

end Run

/-- One class of the reference and of an AF_XDP mirror, as their threads are when the traffic
starts. -/
structure XdpDeployment (securityInit : SecurityAlgorithm → List UInt8 → Aead.Cipher)
    (build : BuildConfig) (app app' : AppConfig) (frameType : StatFrameType)
    (sender mirror : ThreadContext) : Prop
    extends Sending securityInit build app frameType sender where
  xdp : frameType ∈ tcXdp
  peer : app'.classes frameType = peerConfig (app.classes frameType) true true
  mirrorPattern : (app.classes frameType).securityMode = .ae →
    txMetadataRoom build (app'.classes frameType) = 0
  mirror : ∃ source tx, threadsCreate securityInit app' frameType source = some tx ∧
    tcTxThreadInit build tx = some mirror

section Deployed
variable {securityInit : SecurityAlgorithm → List UInt8 → Aead.Cipher} {build : BuildConfig}
  {app app' : AppConfig} {sender mirror rx : ThreadContext} {rxUmem : List UInt8}
  (h : XdpDeployment securityInit build app app' frameType sender mirror)
include h

theorem XdpDeployment.returnInv
    (hroom : xskRingProdDefaultNumDescs * xdpFrameSize ≤ rxUmem.length) :
    ReturnInv (app.classes frameType) frameType
      (securityInit (app.classes frameType).securityAlgorithm
        (app.classes frameType).securityKey.bytes) (XdpThreads.start build mirror rxUmem) := by
  obtain ⟨source, tx, htx, hinit⟩ := h.mirror
  have hcreate := threadsCreate_tc h.not_udp htx
  have hpattern := h.mirrorPattern
  rw [h.peer] at hcreate hpattern
  have hc := h.carried
  have hready := mirrorReady_init hcreate hinit hc hpattern
  have hclass := hready.forClass
  have hlength : mirror.payloadPatternLength = (app.classes frameType).frameLength - 60 := by
    obtain ⟨-, frames, frameCopy, -, -, rfl⟩ := tcTxThreadInit_eq_some.mp hinit
    exact (tcThreadsCreate_secure hcreate).2.1
  have hreceiver : mirror.VlanReceiver := by
    refine ⟨?_, ?_, ?_, ?_, ?_, ?_⟩
    · rw [hclass.frameType_eq]
      exact h.xdp
    · rw [hclass.frameType_eq, hclass.conf_eq]
      exact ⟨hc.not_udp, hc.secured, hc.not_ethercat, hc.fits, hc.fits_chunk⟩
    · rw [hclass.metaDataOffset_eq, hclass.frameType_eq, hclass.conf_eq]
    · rw [hclass.conf_eq, ThreadContext.payloadPattern, hlength]
      exact List.length_take_le _ _
    · rw [hready.key]
      exact h.ideal.length_ciphertext
    · rw [hready.key]
      exact h.ideal.length_tag
  have hstart : MirrorsInPlace mirror rxUmem :=
    ⟨hreceiver, by rw [hclass.conf_eq]; rfl, by rw [hclass.conf_eq]; rfl, hroom⟩
  have htraffic := hstart.start build
  rw [hclass.conf_eq] at htraffic
  exact ⟨htraffic, hready⟩

/-- Frames that reach an AF_XDP mirror come back as what they are, in their order, whatever the
kernel, the two threads and the network card do in between; each is received by the reference with
the counter it was sent with and nothing to complain about. -/
theorem xdp_loop_returns_generated
    (humem : umem.length = xskRingConsDefaultNumDescs * maxFrameSize)
    (hroom : xskRingProdDefaultNumDescs * xdpFrameSize ≤ rxUmem.length)
    (hrx : rx.ForClass (peerConfig (app.classes frameType) rxMirrorEnabled xdpEnabled) frameType)
    (hkey : rx.rxSecurityContext = securityInit (app.classes frameType).securityAlgorithm
      (app.classes frameType).securityKey.bytes)
    (monitor : Option MacAddress) (passes : List TxPass) (es : List XdpTrafficEvent)
    (ha : (xdpTraffic (app'.classes frameType)).Along (InChunk (app'.classes frameType))
      (XdpThreads.start build mirror rxUmem) es)
    (reached : List SentFrame)
    (hsub : reached.Sublist
      ((generator build monitor sender).run (Generator.start build sender umem) passes).2.flatten)
    (hwire : (app.classes frameType).securityMode ≠ .none → ∀ f ∈ reached,
      wireSequenceCounter (app.classes frameType).numFramesPerCycle f.sequenceCounter =
        f.sequenceCounter)
    (hfound : List.Forall₂ (fun f found => Brings frameType f.bytes found.bytes) reached
      (allTraffic ((xdpTraffic (app'.classes frameType)).run
        (XdpThreads.start build mirror rxUmem) es).2).found) :
    let conf := app.classes frameType
    let r := (xdpTraffic (app'.classes frameType)).run (XdpThreads.start build mirror rxUmem) es
    let sent := (allTraffic r.2).sent
    List.Forall₂ (fun f q => Intact conf frameType (securityInit conf.securityAlgorithm
      conf.securityKey.bytes) q f.sequenceCounter) reached (sent ++ r.1.waiting) ∧
    List.Forall₂ (fun f q => ∀ rc, Delivers frameType ⟨f.sequenceCounter, q⟩ rc →
      ReceivedClean conf f.sequenceCounter (receiveFrame rc.env rx rc.frameData rc.len))
      (reached.take sent.length) sent := by
  intro conf r sent
  have hreturn := (h.returnInv hroom).run h.carried h.xdp h.ideal es (by rw [← h.peer]; exact ha)
  rw [← h.peer] at hreturn
  obtain ⟨mirrored, heq, hrel⟩ := hreturn.moved
  obtain ⟨etherType, he⟩ := wireEtherType_xdp h.xdp conf
  have hintact (f : SentFrame) (hf : f ∈ reached) : Intact conf frameType
      (securityInit conf.securityAlgorithm conf.securityKey.bytes) f.bytes f.sequenceCounter := by
    obtain ⟨frames, hframes, hmem⟩ := List.mem_flatten.mp (hsub.subset hf)
    exact (h.run_tagged he humem monitor passes frames hframes f hmem).1 fun hm => hwire hm f hf
  have hall : List.Forall₂ (fun f q => Intact conf frameType (securityInit conf.securityAlgorithm
      conf.securityKey.bytes) q f.sequenceCounter) reached (sent ++ r.1.waiting) := by
    rw [← show mirrored = sent ++ r.1.waiting from heq]
    refine forall₂_trans ?_ ((List.forall₂_and_left _ _).mpr ⟨hintact, hfound⟩) hrel
    intro f found q hf hreturns
    exact hreturns f.bytes f.sequenceCounter hf.1 hf.2
  refine ⟨hall, (List.forall₂_take_append _ _ _ hall).imp ?_⟩
  intro f q hq rc hd
  exact hq.received h.carried hrx hkey hd

end Deployed

theorem xdpOpenSocket_take (build : BuildConfig) (conf : TrafficClassConfig) :
    ∃ fq, (xdpOpenSocket build conf).fq.take = some (txMetadataRoom build conf, fq) := by
  have hsubmitted : (xdpOpenSocket build conf).fq.submitted =
      (List.range xskRingProdDefaultNumDescs).map fun i =>
        i * xdpFrameSize + txMetadataRoom build conf := by
    rw [xdpOpenSocket]
  obtain ⟨n, hn⟩ : ∃ n, xskRingProdDefaultNumDescs = n + 1 := ⟨4095, rfl⟩
  rw [hn, List.range_succ_eq_map, List.map_cons, Nat.zero_mul, Nat.zero_add] at hsubmitted
  exact Producer.take_of_submitted hsubmitted

/-- After an arrival the frame is in the first chunk, and the Rx ring shows it. -/
theorem arrival_state (conf : TrafficClassConfig) (build : BuildConfig) (ctx : ThreadContext)
    (umem frame : List UInt8) (hfit : 256 + frame.length ≤ xdpFrameSize) :
    let s := ((xdpTraffic conf).run (XdpThreads.start build ctx umem) (arrival frame)).1
    s.umem = write umem 256 frame ∧ s.xsk.rx.entries = [⟨256, frame.length⟩] := by
  obtain ⟨fq, htake⟩ := xdpOpenSocket_take build ctx.conf
  have hchunk : txMetadataRoom build ctx.conf / xdpFrameSize = 0 := by
    have hroom := txMetadataRoom_le build ctx.conf
    exact Nat.div_eq_of_lt (by rw [xdpFrameSize]; omega)
  have hput : ∃ rx, (xdpOpenSocket build ctx.conf).rx.put ⟨256, frame.length⟩ = some rx := by
    exact ⟨_, dif_pos (show 0 < xskRingConsDefaultNumDescs by decide)⟩
  obtain ⟨rx, hput⟩ := hput
  have hentries := Consumer.put_spec hput
  have hstart : (XdpThreads.start build ctx umem).xsk = xdpOpenSocket build ctx.conf := rfl
  have hnone : (xdpOpenSocket build ctx.conf).kernelRx = [] := rfl
  simp only [arrival, System.run, xdpTraffic, xdpThreads, kernelStep, hstart, htake, kernelWrite,
    hnone, List.nil_append, List.getElem?_cons_zero, chunkOf, hchunk, Nat.zero_mul, Nat.zero_add,
    if_pos hfit, hput, hentries]
  exact ⟨rfl, rfl⟩

/-- The encrypted class of the reference, mirrored on AF_XDP. -/
def encryptedXdpConfig : AppConfig :=
  (encryptedConfig false).setClass .tsnHigh fun c =>
    { c with rxMirrorEnabled := true, xdpEnabled := true }

theorem encrypted_xdpDeployment :
    ∃ sender mirror, XdpDeployment chachaInit fullBuild (encryptedConfig false) encryptedXdpConfig
      .tsnHigh sender mirror := by
  obtain ⟨tx, sender, htx, hinit, -⟩ := encryptedConfig_threads
  obtain ⟨mx, hmx⟩ : ∃ mx, threadsCreate chachaInit encryptedXdpConfig .tsnHigh
      defaultDestination = some mx := Option.isSome_iff_exists.mp (by decide +kernel)
  obtain ⟨mirror, hminit⟩ : ∃ mirror, tcTxThreadInit fullBuild mx = some mirror := by
    have hcreated := tcThreadsCreate_created (threadsCreate_tc (by decide) hmx)
    rw [tcTxThreadInit_isSome, initializedLength, hcreated.conf_eq, hcreated.frameType_eq]
    decide
  exact ⟨sender, mirror, ⟨by decide, by decide, by decide, by decide, by decide, by decide,
    by decide, ChaCha20Poly1305.ideal _, ⟨_, tx, htx, hinit⟩⟩, by decide, rfl, by decide,
    ⟨_, mx, hmx, hminit⟩⟩

theorem XdpDeployment.first_frame {sender mirror : ThreadContext}
    (h : XdpDeployment chachaInit fullBuild (encryptedConfig false) encryptedXdpConfig .tsnHigh
      sender mirror) (humem : umem.length = xskRingConsDefaultNumDescs * maxFrameSize) :
    ∃ f ∈ ((generator fullBuild none sender).run (Generator.start fullBuild sender umem)
      [readyPass]).2.flatten, f.sequenceCounter = 0 := by
  have hclass := h.paired.forClass
  obtain ⟨source, tx, htx, hinit⟩ := h.sender
  have hstart := Generator.start_ready (threadsCreate_tc h.not_udp htx) hinit
    h.carried.toCountedClass h.room humem
  obtain ⟨hcount, hroom⟩ := readyPass_runs hclass 1
  have hpass := generator_step hclass h.carried.toCountedClass hstart
    (hroom _ (List.mem_singleton_self _)) none
  have hsends : readyPass.sends sender = true :=
    List.countP_eq_length.mp hcount _ (List.mem_singleton_self _)
  have hmem : (0 : UInt64) ∈ ((generator fullBuild none sender).step
      (Generator.start fullBuild sender umem) readyPass).2.map SentFrame.sequenceCounter := by
    rw [hpass.counters, mem_consecutive, hsends]
    exact ⟨0, by decide, rfl⟩
  obtain ⟨f, hf, hzero⟩ := List.mem_map.mp hmem
  exact ⟨f, List.mem_flatten.mpr ⟨_, List.mem_singleton_self _, hf⟩, hzero⟩

theorem RxPassEffect.found_single {out : XdpOutput} (h : RxPassEffect conf s p s' out)
    (hpeek : s.peek p = [desc]) (hbytes : slice s.umem desc.addr desc.len = frame) :
    (foundFrames s (.rx p) out).map FoundFrame.bytes = [frame] := by
  rw [h.found_eq, h.found_map, hpeek, ← hbytes]
  rfl

theorem XdpDeployment.turn {sender mirror : ThreadContext}
    (h : XdpDeployment chachaInit fullBuild (encryptedConfig false) encryptedXdpConfig .tsnHigh
      sender mirror)
    (hlen : frame.length = ((encryptedConfig false).classes .tsnHigh).frameLength)
    (hroom : xskRingProdDefaultNumDescs * xdpFrameSize ≤ umem.length) :
    let conf := encryptedXdpConfig.classes .tsnHigh
    let start := XdpThreads.start fullBuild mirror umem
    (xdpTraffic conf).Along (InChunk conf) start (l2Turn frame) ∧
      (allTraffic ((xdpTraffic conf).run start (l2Turn frame)).2).found.map (·.bytes) =
        [frame] := by
  intro conf start
  have hshort : 256 + frame.length ≤ xdpFrameSize := by
    rw [hlen]
    decide
  obtain ⟨hmem, hentries⟩ := arrival_state conf fullBuild mirror umem frame hshort
  have hinv := ((h.returnInv hroom).run h.carried h.xdp h.ideal (arrival frame)
    ⟨trivial, trivial, trivial, trivial⟩).inv.traffic
  rw [← h.peer] at hinv
  have hpeek : ((xdpTraffic conf).run start (arrival frame)).1.peek plainRxPass =
      [⟨256, frame.length⟩] := by
    rw [XdpThreads.peek, Consumer.peek, hentries]
    rfl
  have hfits : ∀ desc ∈ ((xdpTraffic conf).run start (arrival frame)).1.peek plainRxPass,
      desc.FitsChunk conf := by
    rw [hpeek]
    intro desc hdesc
    cases List.mem_singleton.mp hdesc
    rw [XdpDesc.FitsChunk, show 256 % xdpFrameSize = 256 by decide]
    exact ⟨hshort, by decide⟩
  have hrx := tcXdpRxPass_effect hinv rfl rfl plainRxPass hfits
  constructor
  · apply (System.along_append _ _ _ _).mpr
    refine ⟨(System.along_append _ _ _ _).mpr ⟨⟨trivial, trivial, trivial, trivial⟩, hfits,
      trivial⟩, trivial, trivial⟩
  · have hframe : slice (write umem 256 frame) 256 frame.length = frame := by
      apply slice_write_self _ _ ?_ rfl
      have := Nat.le_trans (show xdpFrameSize ≤ xskRingProdDefaultNumDescs * xdpFrameSize by
        decide) hroom
      omega
    have harrival : ((xdpTraffic conf).run start (arrival frame)).2.flatMap (·.found) = [] := rfl
    have hfound (s : XdpThreads) :
        ((xdpTraffic conf).step s (.threads (.rx plainRxPass))).2.found =
          foundFrames s (.rx plainRxPass) (tcXdpRxPass conf s plainRxPass).2 := rfl
    have htx (s : XdpThreads) :
        ((xdpTraffic conf).step s (.threads (.tx plainTxPass))).2.found = [] := by
      rw [xdpTraffic_tx rfl]
    rw [l2Turn, System.run_append, System.run_append]
    simp only [allTraffic, List.flatMap_append, harrival, System.run, List.flatMap_cons,
      List.flatMap_nil, hfound, htx, List.append_nil, List.nil_append]
    exact hrx.found_single hpeek (by rw [hmem, hframe])

theorem xdp_loop_returns_generated_encrypted :
    ∃ sender mirror, XdpDeployment chachaInit fullBuild (encryptedConfig false) encryptedXdpConfig
        .tsnHigh sender mirror ∧
      ∃ f ∈ ((generator fullBuild none sender).run (Generator.start fullBuild sender
          (List.replicate (xskRingConsDefaultNumDescs * maxFrameSize) 0)) [readyPass]).2.flatten,
        let conf := (encryptedConfig false).classes .tsnHigh
        let r := (xdpTraffic (encryptedXdpConfig.classes .tsnHigh)).run
          (XdpThreads.start fullBuild mirror l2Umem) (l2Turn f.bytes)
        List.Forall₂ (fun f q => Intact conf .tsnHigh (chachaInit conf.securityAlgorithm
          conf.securityKey.bytes) q f.sequenceCounter) [f]
            ((allTraffic r.2).sent ++ r.1.waiting) := by
  obtain ⟨sender, mirror, h⟩ := encrypted_xdpDeployment
  obtain ⟨f, hf, hzero⟩ := h.first_frame List.length_replicate
  refine ⟨sender, mirror, h, f, hf, ?_⟩
  have hwire : wireSequenceCounter ((encryptedConfig false).classes .tsnHigh).numFramesPerCycle
      f.sequenceCounter = f.sequenceCounter := by
    rw [hzero]
    decide
  have hlength : f.bytes.length = ((encryptedConfig false).classes .tsnHigh).frameLength := by
    obtain ⟨frames, hframes, hmem⟩ := List.mem_flatten.mp hf
    exact ((h.run_tagged rfl List.length_replicate none [readyPass] frames hframes f hmem).1
      fun _ => hwire).length_eq
  have hroom : xskRingProdDefaultNumDescs * xdpFrameSize ≤ l2Umem.length :=
    Nat.le_of_eq List.length_replicate.symm
  obtain ⟨halong, hfound⟩ := h.turn hlength hroom
  obtain ⟨source, tx, htx, hinit⟩ := h.sender
  obtain ⟨-, -, hkey, hsame⟩ := tcThreadsCreate_secure (threadsCreate_tc h.not_udp htx)
  apply (xdp_loop_returns_generated h List.length_replicate hroom h.paired.forClass
    ((tcTxThreadInit_keys hinit).2.1.trans (hsame.trans hkey)) none [readyPass] (l2Turn f.bytes)
    halong [f] (List.singleton_sublist.mpr hf) (fun _ g hg => ?_) ?_).1
  · obtain ⟨found, hsingle, hbytes⟩ := List.map_eq_singleton_iff.mp hfound
    rw [hsingle]
    exact .cons ⟨false, hbytes⟩ .nil
  · cases List.mem_singleton.mp hg
    exact hwire

end RtcTestbench
