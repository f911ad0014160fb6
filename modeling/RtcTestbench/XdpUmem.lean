import RtcTestbench.Lib.Ownership
import RtcTestbench.XdpMirror

namespace RtcTestbench
open Machine Ownership XskRing
set_option autoImplicit true

/-- The chunk of the UMEM area an address lies in. -/
def chunkOf (addr : Nat) : Nat := addr / xdpFrameSize

inductive XdpPlace where
  | fillRing | kernelRx | rxRing | txReserved | txSubmitted | kernelTx | completionRing
  deriving DecidableEq

instance : Fintype XdpPlace where
  elems := {.fillRing, .kernelRx, .rxRing, .txReserved, .txSubmitted, .kernelTx, .completionRing}
  complete place := by cases place <;> decide

def XdpSocket.addrsAt (xsk : XdpSocket) : XdpPlace → List Nat
  | .fillRing => xsk.fq.reserved ++ xsk.fq.submitted
  | .kernelRx => xsk.kernelRx
  | .rxRing => xsk.rx.entries.map (·.addr)
  | .txReserved => xsk.tx.reserved.map (·.addr)
  | .txSubmitted => xsk.tx.submitted.map (·.addr)
  | .kernelTx => xsk.kernelTx
  | .completionRing => xsk.cq.entries

def XdpSocket.chunksAt (xsk : XdpSocket) (place : XdpPlace) : List Nat :=
  (xsk.addrsAt place).map chunkOf

/-- Each chunk the socket was opened with is at one place. -/
def XdpSocket.Conserved (xsk : XdpSocket) : Prop :=
  Conserves (fun place => (xsk.chunksAt place : Multiset Nat))
    (Multiset.range xskRingProdDefaultNumDescs)

/-- All chunks are accounted for, and so are the frames the kernel has not handed back yet. -/
structure UmemInv (xsk : XdpSocket) : Prop where
  conserved : xsk.Conserved
  fq_size : xsk.fq.size = xskRingProdDefaultNumDescs
  tx_size : xsk.tx.size = xskRingProdDefaultNumDescs
  outstanding : xsk.outstandingTx.toNat =
    xsk.tx.submitted.length + xsk.kernelTx.length + xsk.cq.entries.length

variable {xsk xsk' : XdpSocket} {i j : XdpPlace}

theorem sum_places [AddCommMonoid M] (f : XdpPlace → M) : ∑ place, f place =
    f .fillRing + (f .kernelRx + (f .rxRing + (f .txReserved + (f .txSubmitted +
      (f .kernelTx + f .completionRing))))) := by
  simp [Finset.univ, Fintype.elems]

theorem UmemInv.total (h : UmemInv xsk) :
    xsk.fq.reserved.length + xsk.fq.submitted.length + xsk.kernelRx.length +
      xsk.rx.entries.length + xsk.tx.reserved.length + xsk.tx.submitted.length +
      xsk.kernelTx.length + xsk.cq.entries.length = xskRingProdDefaultNumDescs := by
  have hsum := Conserves.sum_card h.conserved
  rw [sum_places, Multiset.card_range] at hsum
  simp only [XdpSocket.chunksAt, XdpSocket.addrsAt, Multiset.coe_card, List.length_map,
    List.length_append] at hsum
  omega

theorem UmemInv.addr_lt (h : UmemInv xsk) (ha : addr ∈ xsk.addrsAt i) :
    addr < xskRingProdDefaultNumDescs * xdpFrameSize := by
  have hmem : chunkOf addr ∈ (xsk.chunksAt i : Multiset Nat) := by
    rw [Multiset.mem_coe]
    exact List.mem_map_of_mem ha
  have hlt := Multiset.mem_range.mp (Conserves.mem h.conserved hmem)
  exact (Nat.div_lt_iff_lt_mul (by decide)).mp hlt

/-- A step that moves chunks from one place to another. -/
theorem XdpSocket.Conserved.move (h : xsk.Conserved) (i j : XdpPlace) (l l' : List Nat)
    (hij : i ≠ j) (hi : (xsk.addrsAt i).Perm (xsk'.addrsAt i ++ l))
    (hj : (xsk'.addrsAt j).Perm (xsk.addrsAt j ++ l')) (hl : l.map chunkOf = l'.map chunkOf)
    (hother : ∀ k, k ≠ i → k ≠ j → xsk'.addrsAt k = xsk.addrsAt k) : xsk'.Conserved := by
  apply Conserves.move h (l.map chunkOf : List Nat) hij
  · rw [Multiset.coe_add, Multiset.coe_eq_coe, XdpSocket.chunksAt, XdpSocket.chunksAt,
      ← List.map_append]
    exact hi.map chunkOf
  · rw [Multiset.coe_add, Multiset.coe_eq_coe, XdpSocket.chunksAt, XdpSocket.chunksAt, hl,
      ← List.map_append]
    exact hj.map chunkOf
  · intro k hki hkj
    rw [XdpSocket.chunksAt, XdpSocket.chunksAt, hother k hki hkj]

theorem UmemInv.takeFill (h : UmemInv xsk) (ht : xsk.fq.take = some (addr, fq)) :
    UmemInv { xsk with fq, kernelRx := xsk.kernelRx ++ [addr] } := by
  obtain ⟨hsize, hreserved, hsubmitted⟩ := Producer.take_spec ht
  refine ⟨?_, hsize.trans h.fq_size, h.tx_size, h.outstanding⟩
  apply h.conserved.move .fillRing .kernelRx [addr] [addr]
  · decide
  · simp only [XdpSocket.addrsAt, hreserved, hsubmitted, List.append_assoc]
    exact List.Perm.append_left _ (List.perm_append_singleton addr fq.submitted).symm
  · exact List.Perm.refl _
  · rfl
  · intro place hfrom hto
    cases place <;> first | rfl | contradiction

theorem UmemInv.deliver (h : UmemInv xsk) {i : Nat} (hi : xsk.kernelRx[i]? = some addr)
    (offset : Fin xdpFrameSize)
    (hp : xsk.rx.put ⟨addr / xdpFrameSize * xdpFrameSize + offset, len⟩ = some rx) :
    UmemInv { xsk with rx, kernelRx := xsk.kernelRx.eraseIdx i } := by
  have hentries := Consumer.put_spec hp
  refine ⟨?_, h.fq_size, h.tx_size, h.outstanding⟩
  apply h.conserved.move .kernelRx .rxRing [addr] [addr / xdpFrameSize * xdpFrameSize + offset]
  · decide
  · obtain ⟨hlt, rfl⟩ := List.getElem?_eq_some_iff.mp hi
    exact ((List.getElem_cons_eraseIdx_perm hlt).symm).trans (List.perm_append_singleton _ _).symm
  · simp only [XdpSocket.addrsAt, hentries, List.map_append]
    exact List.Perm.refl _
  · have hchunk : chunkOf (addr / xdpFrameSize * xdpFrameSize + offset) = chunkOf addr := by
      rw [chunkOf, Nat.mul_comm, Nat.mul_add_div (by decide), Nat.div_eq_of_lt offset.isLt,
        Nat.add_zero]
      rfl
    rw [List.map_singleton, List.map_singleton, hchunk]
  · intro place hfrom hto
    cases place <;> first | rfl | contradiction

theorem UmemInv.takeTx (h : UmemInv xsk) (ht : xsk.tx.take = some (desc, tx)) :
    UmemInv { xsk with tx, kernelTx := xsk.kernelTx ++ [desc.addr] } := by
  obtain ⟨hsize, hreserved, hsubmitted⟩ := Producer.take_spec ht
  refine ⟨?_, h.fq_size, hsize.trans h.tx_size, ?_⟩
  · apply h.conserved.move .txSubmitted .kernelTx [desc.addr] [desc.addr]
    · decide
    · simp only [XdpSocket.addrsAt, hsubmitted, List.map_cons]
      exact (List.perm_append_singleton _ _).symm
    · exact List.Perm.refl _
    · rfl
    · intro place hfrom hto
      cases place <;> first | rfl | contradiction | (simp only [XdpSocket.addrsAt, hreserved])
  · have hout := h.outstanding
    rw [hsubmitted, List.length_cons] at hout
    change xsk.outstandingTx.toNat = _
    rw [hout, List.length_append, List.length_singleton]
    dsimp only
    omega

theorem UmemInv.complete (h : UmemInv xsk) {i : Nat} (hi : xsk.kernelTx[i]? = some addr)
    (hp : xsk.cq.put addr = some cq) :
    UmemInv { xsk with cq, kernelTx := xsk.kernelTx.eraseIdx i } := by
  have hentries := Consumer.put_spec hp
  obtain ⟨hlt, haddr⟩ := List.getElem?_eq_some_iff.mp hi
  refine ⟨?_, h.fq_size, h.tx_size, ?_⟩
  · apply h.conserved.move .kernelTx .completionRing [addr] [addr]
    · decide
    · rw [← haddr]
      exact ((List.getElem_cons_eraseIdx_perm hlt).symm).trans (List.perm_append_singleton _ _).symm
    · simp only [XdpSocket.addrsAt, hentries]
      exact List.Perm.refl _
    · rfl
    · intro place hfrom hto
      cases place <;> first | rfl | contradiction
  · have hout := h.outstanding
    change xsk.outstandingTx.toNat = _
    rw [hout, hentries, List.length_append, List.length_singleton, List.length_eraseIdx, if_pos hlt]
    dsimp only
    omega

theorem UmemInv.kernelStep (h : UmemInv xsk) (k : KernelStep) : UmemInv (kernelStep xsk k) := by
  fun_cases RtcTestbench.kernelStep xsk k
  case case2 addr fq ht => exact h.takeFill ht
  case case5 i offset len addr hi rx hp => exact h.deliver hi offset hp
  case case7 desc tx ht => exact h.takeTx ht
  case case10 i addr hi cq hp => exact h.complete hi hp
  all_goals exact h

theorem UmemInv.kernelSteps (h : UmemInv xsk) (ks : List KernelStep) :
    UmemInv (kernelSteps xsk ks) := by
  induction ks generalizing xsk with
  | nil => exact h
  | cons k ks ih => exact ih (h.kernelStep k)

theorem reserveRetry_of_some (h : reserve xsk = some xsk') (thread : String)
    (wakeup : List KernelStep) : reserveRetry thread reserve wakeup xsk = (xsk', true, []) := by
  rw [reserveRetry, h]

theorem UmemInv.reserveTx (h : UmemInv xsk) (descs : List XdpDesc)
    (hlen : descs.length ≤ xsk.rx.entries.length) :
    ∃ tx, xsk.tx.reserve descs = some tx ∧ xsk.reserveTx descs = some { xsk with tx } := by
  have htotal := h.total
  have hsize := h.tx_size
  obtain ⟨tx, htx⟩ := xsk.tx.reserve_of_fits descs (by omega)
  refine ⟨tx, htx, ?_⟩
  rw [XdpSocket.reserveTx, htx]
  rfl

theorem UmemInv.reserveFill (h : UmemInv xsk) (addrs : List Nat)
    (hlen : addrs.length ≤ xsk.rx.entries.length + xsk.cq.entries.length) :
    ∃ fq, xsk.fq.reserve addrs = some fq ∧ xsk.reserveFill addrs = some { xsk with fq } := by
  have htotal := h.total
  have hsize := h.fq_size
  obtain ⟨fq, hfq⟩ := xsk.fq.reserve_of_fits addrs (by omega)
  refine ⟨fq, hfq, ?_⟩
  rw [XdpSocket.reserveFill, hfq]
  rfl

theorem xskUmemExtractAddr_of_lt (h : addr < xskRingProdDefaultNumDescs * xdpFrameSize) :
    xskUmemExtractAddr addr = addr := by
  apply Nat.mod_eq_of_lt
  exact Nat.lt_trans h (by decide)

theorem UmemInv.extract_batch (h : UmemInv xsk) (hbatch : batch ++ rest = xsk.rx.entries) :
    (batch.map (·.addr)).map chunkOf =
      (batch.map fun desc => xskUmemExtractAddr desc.addr).map chunkOf := by
  rw [List.map_map, List.map_map]
  apply List.map_congr_left
  intro desc hdesc
  have hmem : desc.addr ∈ xsk.addrsAt .rxRing := by
    apply List.mem_map_of_mem
    rw [← hbatch]
    exact List.mem_append_left _ hdesc
  exact congrArg chunkOf (xskUmemExtractAddr_of_lt (h.addr_lt hmem)).symm

theorem refill_perm {fq fq' : Producer Nat} (h : fq.reserve addrs = some fq') (n : Nat) :
    ((fq'.submit n).reserved ++ (fq'.submit n).submitted).Perm
      (fq.reserved ++ fq.submitted ++ addrs) := by
  obtain ⟨-, hreserved, hsubmitted⟩ := Producer.reserve_spec h
  apply (fq'.submit_perm n).trans
  rw [hreserved, hsubmitted, List.append_assoc, List.append_assoc]
  exact List.perm_append_comm.append_left _

/-- Received frames go to the Tx ring. -/
theorem UmemInv.queue (h : UmemInv xsk) (htx : xsk.tx.reserve descs = some tx)
    (hbatch : batch ++ (xsk.rx.release n).entries = xsk.rx.entries)
    (hdescs : descs.map (·.addr) = batch.map fun desc => xskUmemExtractAddr desc.addr) :
    UmemInv { xsk with tx, rx := xsk.rx.release n } := by
  obtain ⟨hsize, hreserved, hsubmitted⟩ := Producer.reserve_spec htx
  refine ⟨?_, h.fq_size, hsize.trans h.tx_size, ?_⟩
  · apply h.conserved.move .rxRing .txReserved (batch.map (·.addr)) (descs.map (·.addr))
    · decide
    · simp only [XdpSocket.addrsAt, ← hbatch, List.map_append]
      exact List.perm_append_comm
    · simp only [XdpSocket.addrsAt, hreserved, List.map_append]
      exact List.Perm.refl _
    · rw [hdescs]
      exact h.extract_batch hbatch
    · intro place hfrom hto
      cases place <;> first | rfl | contradiction | (simp only [XdpSocket.addrsAt, hsubmitted])
  · simp only [hsubmitted]
    exact h.outstanding

/-- Received frames go straight back to the fill ring. -/
theorem UmemInv.recycle (h : UmemInv xsk)
    (hbatch : batch ++ (xsk.rx.release n).entries = xsk.rx.entries)
    (hfq : xsk.fq.reserve (batch.map fun desc => xskUmemExtractAddr desc.addr) = some fq) :
    UmemInv { xsk with fq := fq.submit n, rx := xsk.rx.release n } := by
  obtain ⟨hsize, -, -⟩ := Producer.reserve_spec hfq
  refine ⟨?_, hsize.trans h.fq_size, h.tx_size, h.outstanding⟩
  apply h.conserved.move .rxRing .fillRing (batch.map (·.addr))
    (batch.map fun desc => xskUmemExtractAddr desc.addr)
  · decide
  · simp only [XdpSocket.addrsAt, ← hbatch, List.map_append]
    exact List.perm_append_comm
  · exact refill_perm hfq n
  · exact h.extract_batch hbatch
  · intro place hfrom hto
    cases place <;> first | rfl | contradiction

theorem UmemInv.submit (h : UmemInv xsk) (hk : k ≤ xsk.tx.reserved.length) :
    UmemInv { xsk with
      tx := xsk.tx.submit k
      outstandingTx := xsk.outstandingTx + UInt64.ofNat k } := by
  refine ⟨?_, h.fq_size, h.tx_size, ?_⟩
  · apply h.conserved.move .txReserved .txSubmitted ((xsk.tx.reserved.take k).map (·.addr))
      ((xsk.tx.reserved.take k).map (·.addr))
    · decide
    · have hsplit : (xsk.tx.reserved.take k ++ xsk.tx.reserved.drop k).Perm
          (xsk.tx.reserved.drop k ++ xsk.tx.reserved.take k) := List.perm_append_comm
      rw [List.take_append_drop] at hsplit
      simp only [XdpSocket.addrsAt, Producer.submit, ← List.map_append]
      exact hsplit.map _
    · simp only [XdpSocket.addrsAt, Producer.submit, ← List.map_append]
      exact List.Perm.refl _
    · rfl
    · intro place hfrom hto
      cases place <;> first | rfl | contradiction
  · have htotal := h.total
    have hout := h.outstanding
    have hdescs : xskRingProdDefaultNumDescs = 4096 := rfl
    simp only [Producer.submit, List.length_append, List.length_take, UInt64.toNat_add,
      UInt64.toNat_ofNat']
    omega

/-- Completed frames go back to the fill ring. -/
theorem UmemInv.reap (h : UmemInv xsk)
    (hbatch : batch ++ (xsk.cq.release batch.length).entries = xsk.cq.entries)
    (hfq : xsk.fq.reserve batch = some fq) :
    UmemInv { xsk with
      fq := fq.submit batch.length
      cq := xsk.cq.release batch.length
      outstandingTx := xsk.outstandingTx - UInt64.ofNat batch.length } := by
  obtain ⟨hsize, -, -⟩ := Producer.reserve_spec hfq
  refine ⟨?_, hsize.trans h.fq_size, h.tx_size, ?_⟩
  · apply h.conserved.move .completionRing .fillRing batch batch
    · decide
    · simp only [XdpSocket.addrsAt, ← hbatch]
      exact List.perm_append_comm
    · exact refill_perm hfq _
    · rfl
    · intro place hfrom hto
      cases place <;> first | rfl | contradiction
  · have hout := h.outstanding
    have htotal := h.total
    have hdescs : xskRingProdDefaultNumDescs = 4096 := rfl
    have hlen := congrArg List.length hbatch
    rw [List.length_append] at hlen
    have hreaped : (UInt64.ofNat batch.length).toNat = batch.length := by
      rw [UInt64.toNat_ofNat']
      omega
    have hle : UInt64.ofNat batch.length ≤ xsk.outstandingTx := by
      rw [UInt64.le_iff_toNat_le, hreaped]
      omega
    rw [UInt64.toNat_sub_of_le _ _ hle, hreaped]
    dsimp only
    omega

theorem xdpReceiveFrames_umem {s : XdpThreads} (h : UmemInv s.xsk) (conf : TrafficClassConfig)
    (p : XdpRxPass) :
    UmemInv (xdpReceiveFrames conf s p).1.xsk ∧ (xdpReceiveFrames conf s p).2.logs = [] := by
  have hbatch := s.xsk.rx.peek_append_release xdpBatchSize p.visible
  unfold xdpReceiveFrames
  generalize s.xsk.rx.peek xdpBatchSize p.visible = batch at hbatch
  dsimp only
  have hlen := congrArg List.length hbatch
  rw [List.length_append] at hlen
  split
  · exact ⟨h, rfl⟩
  · cases hm : conf.rxMirrorEnabled with
    | true =>
      simp only [↓reduceIte]
      generalize hdescs : List.map (fun orig => (⟨orig, conf.frameLength % 2 ^ 32⟩ : XdpDesc)) _ =
        descs
      have haddrs : descs.map (·.addr) = batch.map fun desc => xskUmemExtractAddr desc.addr := by
        rw [← hdescs, List.map_map]
        exact List.map_id' _
      have hcount : descs.length = batch.length := by
        rw [← hdescs, List.length_map, List.length_map]
      obtain ⟨tx, htx, hreserve⟩ := h.reserveTx descs (by omega)
      rw [reserveRetry_of_some hreserve]
      exact ⟨h.queue htx hbatch haddrs, rfl⟩
    | false =>
      simp only [Bool.false_eq_true, ↓reduceIte]
      generalize horigs :
        List.map (fun desc : XdpDesc => xskUmemExtractAddr desc.addr) batch = origs
      have hcount : origs.length = batch.length := by rw [← horigs, List.length_map]
      obtain ⟨fq, hfq, hreserve⟩ := h.reserveFill origs (by omega)
      rw [reserveRetry_of_some hreserve]
      refine ⟨h.recycle hbatch ?_, rfl⟩
      rw [horigs]
      exact hfq

/-- What is taken off the completion ring fits the fill ring. -/
theorem UmemInv.refill (h : UmemInv xsk) (n visible : Nat) :
    ∃ fq, xsk.fq.reserve (xsk.cq.peek n visible) = some fq ∧
      xsk.reserveFill (xsk.cq.peek n visible) = some { xsk with fq } := by
  apply h.reserveFill
  have hlen := congrArg List.length (xsk.cq.peek_append_release n visible)
  rw [List.length_append] at hlen
  omega

theorem xdpCompleteTx_umem (h : UmemInv xsk) (p : XdpTxPass) :
    UmemInv (xdpCompleteTx xsk p).1 ∧ (xdpCompleteTx xsk p).2 = [] := by
  unfold xdpCompleteTx
  dsimp only
  split
  · exact ⟨h, rfl⟩
  · have hsent := h.kernelSteps p.sendto
    generalize kernelSteps xsk p.sendto = sent at hsent
    split
    · exact ⟨hsent, rfl⟩
    · obtain ⟨fq, hfq, hreserve⟩ := hsent.refill (xsk.outstandingTx.toNat % 2 ^ 32) p.visible
      rw [reserveRetry_of_some hreserve]
      exact ⟨hsent.reap (sent.cq.peek_append_release _ _) hfq, rfl⟩

theorem txMetadataRoom_lt (build : BuildConfig) (conf : TrafficClassConfig) :
    txMetadataRoom build conf < xdpFrameSize := by
  unfold txMetadataRoom
  split
  · obtain hsize | hsize := build.sizeofXskTxMetadata_eq <;> rw [hsize] <;> decide
  · decide

theorem xdpOpenSocket_umem (build : BuildConfig) (conf : TrafficClassConfig) :
    UmemInv (xdpOpenSocket build conf) := by
  have hroom := txMetadataRoom_lt build conf
  have hfill (n : Nat) : ((List.range n).map fun i =>
      i * xdpFrameSize + txMetadataRoom build conf).map chunkOf = List.range n := by
    rw [List.map_map]
    apply (List.map_congr_left fun i _ => ?_).trans (List.map_id _)
    rw [Function.comp_apply, chunkOf, Nat.mul_comm, Nat.mul_add_div (by decide),
      Nat.div_eq_of_lt hroom]
    rfl
  refine ⟨?_, rfl, rfl, rfl⟩
  rw [XdpSocket.Conserved, Conserves, sum_places]
  simp only [XdpSocket.chunksAt, XdpSocket.addrsAt, xdpOpenSocket, Producer.empty, Consumer.empty,
    List.nil_append, List.map_nil, Multiset.coe_nil, add_zero, hfill]
  rfl

/-- What holds between the passes of the threads. -/
structure XdpInv (conf : TrafficClassConfig) (s : XdpThreads) : Prop where
  umem : UmemInv s.xsk
  covered : conf.rxMirrorEnabled = true → s.receivedFrames ≤ s.xsk.tx.reserved.length

theorem XdpInv.mirrorPass (h : XdpInv conf s) (hm : conf.rxMirrorEnabled = true) (p : XdpTxPass) :
    UmemInv (tcXdpMirrorPass s p).1.xsk ∧ (tcXdpMirrorPass s p).2.logs = [] :=
  xdpCompleteTx_umem (h.umem.submit (h.covered hm)) p

theorem XdpInv.step (h : XdpInv conf s) (e : XdpEvent) :
    XdpInv conf ((xdpThreads conf).step s e).1 := by
  refine ⟨?_, fun hm => ?_⟩
  · cases e with
    | kernel k => exact h.umem.kernelStep k
    | rx p => exact (xdpReceiveFrames_umem h.umem conf p).1
    | tx p =>
      by_cases hm : conf.rxMirrorEnabled = true
      · rw [xdpThreads_tx hm]
        exact (h.mirrorPass hm p).1
      · have hstep : (xdpThreads conf).step s (.tx p) = (s, .kernel) := if_neg hm
        rw [hstep]
        exact h.umem
  · have hcovered := h.covered hm
    have hstep := xdpThreads_handOver hm s e
    generalize ((xdpThreads conf).step s e).1 = s', ((xdpThreads conf).step s e).2 = out at hstep ⊢
    cases hstep with
    | kernel k hr hn => rw [hr, hn]; exact hcovered
    | rx p n queued reports logs hr hn =>
      rw [hr, hn, List.length_append]
      exact Nat.le_add_left _ _
    | tx p batch logs hr hn =>
      rw [hn]
      exact Nat.zero_le _

theorem xdpThreads_inv (build : BuildConfig) (ctx : ThreadContext) (umem : List UInt8)
    (es : List XdpEvent) :
    XdpInv ctx.conf ((xdpThreads ctx.conf).run (XdpThreads.start build ctx umem) es).1 := by
  apply System.run_invariant _ (XdpInv ctx.conf) (fun s e h => h.step e)
  exact ⟨xdpOpenSocket_umem build ctx.conf, fun _ => Nat.zero_le _⟩

/-- In every interleaving of the passes with the kernel each chunk of the Rx half of the UMEM area
is at exactly one place; hence no ring is ever too full, and `outstanding_tx` counts the frames
that were submitted and not reaped yet. -/
theorem umem_conserved (build : BuildConfig) (ctx : ThreadContext) (umem : List UInt8)
    (es : List XdpEvent) :
    let s := ((xdpThreads ctx.conf).run (XdpThreads.start build ctx umem) es).1
    (∀ chunk < xskRingProdDefaultNumDescs, ∃! place, chunk ∈ s.xsk.chunksAt place) ∧
    (∀ place, (s.xsk.chunksAt place).Nodup ∧
      ∀ chunk ∈ s.xsk.chunksAt place, chunk < xskRingProdDefaultNumDescs) ∧
    (∀ p, (tcXdpRxPass ctx.conf s p).2.logs = []) ∧
    (ctx.conf.rxMirrorEnabled = true → ∀ p, (tcXdpMirrorPass s p).2.logs = []) ∧
    s.xsk.outstandingTx.toNat =
      s.xsk.tx.submitted.length + s.xsk.kernelTx.length + s.xsk.cq.entries.length := by
  intro s
  have hs : XdpInv ctx.conf s := xdpThreads_inv build ctx umem es
  have hall := Multiset.nodup_range xskRingProdDefaultNumDescs
  refine ⟨fun chunk hchunk => ?_, fun place => ⟨?_, fun chunk hchunk => ?_⟩, fun p => ?_,
    fun hm p => ?_, hs.umem.outstanding⟩
  · exact Conserves.existsUnique hs.umem.conserved hall (Multiset.mem_range.mpr hchunk)
  · exact Multiset.coe_nodup.mp (Conserves.nodup hs.umem.conserved hall place)
  · exact Multiset.mem_range.mp (Conserves.mem hs.umem.conserved (Multiset.mem_coe.mpr hchunk))
  · exact (xdpReceiveFrames_umem hs.umem ctx.conf p).2
  · exact (hs.mirrorPass hm p).2

end RtcTestbench
