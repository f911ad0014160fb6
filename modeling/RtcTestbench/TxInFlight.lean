import RtcTestbench.MonitorMark
import RtcTestbench.XdpGenSubmit

namespace RtcTestbench
open Buffer Function Machine Rotation XskRing
set_option autoImplicit true

/-- The descriptors in flight, the oldest first. -/
def XdpGenerator.flightOrder (s : XdpGenerator) : List TxDesc :=
  s.cq.entries ++ s.kernelTx ++ s.tx.submitted

def TxDesc.chunk (desc : TxDesc) : Nat := desc.addr / xdpFrameSize

/-- The chunks `xdp_gen_and_send_frames` writes frames into. -/
def XdpGenerator.writtenChunks (ctx : ThreadContext) (s : XdpGenerator) : XdpGenEvent → List Nat
  | .kernel _ => []
  | .pass p =>
    if (p.txPass s).fills ctx then
      frameNumbers s.gen.frameNumber ctx.conf.numFramesPerCycle.toNat
    else []

/-- The kernel completes the descriptors in the order in which it took them. -/
def TxKernelStep.InOrder : TxKernelStep → Prop
  | .takeTx => True
  | .complete i _ => i = 0

def XdpGenEvent.InOrder : XdpGenEvent → Prop
  | .kernel k => k.InOrder
  | .pass p => ∀ k ∈ p.sendto, k.InOrder

/-- The frames `a` to `t` are in flight, and `t` is the next one. -/
structure InTurn (a t : Nat) (s : XdpGenerator) : Prop where
  le : a ≤ t
  frameNumber : s.gen.frameNumber = t % 4096 + 4096
  chunks : s.flightOrder.map TxDesc.chunk = (List.range' a (t - a)).map fun x => x % 4096 + 4096
  size : s.tx.size = 4096
  reserved : s.tx.reserved = []

variable {build : BuildConfig} {monitor : Option MacAddress} {ctx : ThreadContext}
  {s : XdpGenerator} {p : XdpGenPass}

theorem chunk_txDescs (hroom : room < xdpFrameSize) (frameLength : Nat) (numbers : List Nat)
    (s : UInt64) : (txDescs room frameLength numbers s).map TxDesc.chunk = numbers := by
  induction numbers generalizing s with
  | nil => rfl
  | cons number numbers ih =>
    rw [txDescs, List.map_cons, ih, TxDesc.chunk]
    dsimp only
    rw [Nat.mul_comm, Nat.mul_add_div (by decide), Nat.div_eq_of_lt hroom, Nat.add_zero]

theorem flightOrder_perm (s : XdpGenerator) : s.flightOrder.Perm s.inFlight := by
  rw [XdpGenerator.flightOrder, XdpGenerator.inFlight, List.append_assoc]
  apply List.perm_append_comm.trans
  exact List.perm_append_comm.append_right _

/-- A kernel step in order moves a descriptor on, but not past another one. -/
theorem kernelStep_flightOrder (s : XdpGenerator) (hk : k.InOrder) :
    (s.kernelStep k).flightOrder = s.flightOrder := by
  cases k with
  | takeTx =>
    rw [XdpGenerator.kernelStep]
    cases htake : s.tx.take with
    | none => rfl
    | some taken =>
      obtain ⟨-, -, hsubmitted⟩ := Producer.take_spec htake
      simp only [XdpGenerator.flightOrder, hsubmitted, List.append_assoc, List.cons_append,
        List.nil_append]
  | complete i hwTs =>
    cases hk
    rw [XdpGenerator.kernelStep]
    cases hhead : s.kernelTx with
    | nil => rfl
    | cons desc rest =>
      rw [List.getElem?_cons_zero]
      dsimp only
      cases hput : s.cq.put desc with
      | none => rfl
      | some cq =>
        simp only [XdpGenerator.flightOrder, Consumer.put_spec hput, hhead,
          List.eraseIdx_cons_zero, List.append_assoc, List.cons_append, List.nil_append]

theorem kernelSteps_flightOrder (s : XdpGenerator) (hks : ∀ k ∈ ks, TxKernelStep.InOrder k) :
    (s.kernelSteps ks).flightOrder = s.flightOrder := by
  induction ks generalizing s with
  | nil => rfl
  | cons k ks ih =>
    obtain ⟨hk, hks⟩ := List.forall_mem_cons.mp hks
    exact (ih (s.kernelStep k) hks).trans (kernelStep_flightOrder s hk)

theorem InTurn.moved (h : InTurn a t s) (hm : KernelMoved s s')
    (horder : s'.flightOrder = s.flightOrder) : InTurn a t s' := by
  refine ⟨h.le, ?_, ?_, hm.size.trans h.size, hm.reserved.trans h.reserved⟩
  · rw [hm.gen]
    exact h.frameNumber
  · rw [horder]
    exact h.chunks

theorem InTurn.length_flightOrder (h : InTurn a t s) : s.flightOrder.length = t - a := by
  have hlen := congrArg List.length h.chunks
  rwa [List.length_map, List.length_map, List.length_range'] at hlen

/-- Reaping takes the oldest descriptors away. -/
theorem InTurn.complete (h : InTurn a t s) (hp : ∀ k ∈ p.sendto, TxKernelStep.InOrder k)
    (hwtstampMode : Bool) : ∃ a', InTurn a' t (xdpCompleteTxOnly hwtstampMode s p).1 := by
  rw [xdpCompleteTxOnly]
  split
  · exact ⟨a, h⟩
  · have hk := h.moved (kernelSteps_moved s p.sendto) (kernelSteps_flightOrder s hp)
    generalize s.kernelSteps p.sendto = sent at hk
    dsimp only
    split
    · exact ⟨a, hk⟩
    · generalize hr : (sent.peek p).length = received
      have hle : received ≤ sent.cq.entries.length := by
        rw [← hr, XdpGenerator.peek, Consumer.peek]
        exact List.length_take_le' _ _
      have hflight := hk.length_flightOrder
      have hall : sent.cq.entries.length ≤ sent.flightOrder.length := by
        rw [XdpGenerator.flightOrder, List.append_assoc, List.length_append]
        exact Nat.le_add_right _ _
      refine ⟨a + received, by have := hk.le; omega, hk.frameNumber, ?_, hk.size, hk.reserved⟩
      have hdrop := congrArg (List.drop received) hk.chunks
      rw [← List.map_drop, ← List.map_drop, XdpGenerator.flightOrder, List.append_assoc,
        List.drop_append_of_le_length hle, List.drop_range', Nat.mul_one] at hdrop
      rw [XdpGenerator.flightOrder, List.append_assoc, ← Nat.sub_sub]
      exact hdrop

theorem fills_iff (hsize : s.tx.size = 4096) (hreserved : s.tx.reserved = []) :
    (p.txPass s).fills ctx = true ↔ tcWaitForTxCycle ctx (p.txPass s) ≠ 0 ∧
      s.tx.submitted.length + ctx.conf.numFramesPerCycle.toNat ≤ 4096 := by
  have hfits := s.tx.fits
  rw [hsize, hreserved, List.length_nil, Nat.zero_add] at hfits
  have hfree : (p.txPass s).freeDescriptors = 4096 - s.tx.submitted.length := by
    change min (s.tx.size - (s.tx.reserved.length + s.tx.submitted.length)) 4096 = _
    rw [hsize, hreserved, List.length_nil, Nat.zero_add]
    exact Nat.min_eq_left (Nat.sub_le _ _)
  rw [TxPass.fills, TxPass.sends, Bool.and_eq_true, bne_iff_ne, decide_eq_true_iff, hfree]
  apply and_congr_right
  intro _
  omega

/-- The frames of a pass go behind those in flight. -/
theorem InTurn.submit (h : InTurn a t s) (hwait : tcWaitForTxCycle ctx (p.txPass s) ≠ 0) :
    ∃ t', InTurn a t' (xdpSubmitFrames build monitor ctx s p).1 := by
  have hlen := length_descs build ctx s
  have hfills := @fills_iff ctx s p h.size h.reserved
  have hgen : (tcGenAndSendXdpFrames build monitor ctx s.gen (p.txPass s)).1.frameNumber =
      if (p.txPass s).fills ctx then
        nextFrameNumber^[ctx.conf.numFramesPerCycle.toNat] s.gen.frameNumber
      else s.gen.frameNumber := by
    rw [tcGenAndSendXdpFrames, TxPass.fills, TxPass.sends, bne_iff_ne.mpr hwait, Bool.true_and]
    by_cases hfree : (p.txPass s).freeDescriptors < ctx.conf.numFramesPerCycle.toNat
    · rw [if_pos hfree, if_neg (by rw [decide_eq_true_iff]; omega)]
    · rw [if_neg hfree, if_pos (by rw [decide_eq_true_iff]; omega)]
  rw [xdpSubmitFrames]
  cases hreserve : s.tx.reserve (s.descs build ctx) with
  | none =>
    have hno : ¬ (p.txPass s).fills ctx = true := by
      rw [hfills]
      rintro ⟨-, hfit⟩
      obtain ⟨tx, htx⟩ := s.tx.reserve_of_fits (s.descs build ctx) (by
        rw [h.reserved, hlen, h.size, List.length_nil, Nat.zero_add]
        exact hfit)
      rw [hreserve] at htx
      cases htx
    rw [if_neg hno] at hgen
    exact ⟨t, h.le, hgen.trans h.frameNumber, h.chunks, h.size, h.reserved⟩
  | some tx =>
    obtain ⟨hsize, hres, -⟩ := Producer.reserve_spec hreserve
    have hyes : (p.txPass s).fills ctx = true := by
      rw [hfills]
      refine ⟨hwait, ?_⟩
      have hfit := tx.fits
      rw [hsize, hres, (Producer.reserve_spec hreserve).2.2, h.reserved, List.nil_append, hlen,
        h.size] at hfit
      omega
    obtain ⟨hempty, hsubmitted⟩ := Producer.reserve_submit hreserve h.reserved
    rw [hlen] at hempty hsubmitted
    rw [if_pos hyes, h.frameNumber, nextFrameNumber_rotation] at hgen
    have hle := h.le
    refine ⟨t + ctx.conf.numFramesPerCycle.toNat, by omega, hgen, ?_, ?_, hempty⟩
    · have hdescs : (s.descs build ctx).map TxDesc.chunk = _ :=
        chunk_txDescs (txMetadataRoom_lt build ctx.conf) _ _ _
      change (s.cq.entries ++ s.kernelTx ++ _).map TxDesc.chunk = _
      rw [hsubmitted, ← List.append_assoc, ← XdpGenerator.flightOrder, List.map_append, h.chunks,
        hdescs, h.frameNumber, frameNumbers_rotation, Nat.sub_add_comm hle, ← List.range'_append_1,
        List.map_append, Nat.add_sub_cancel' hle]
      simp only [List.range'_eq_map_range, List.map_map]
      rfl
    · exact hsize.trans h.size

theorem InTurn.step (h : InTurn a t s) (he : e.InOrder) :
    ∃ a' t', InTurn a' t' ((xdpGenerator build monitor ctx).step s e).1 := by
  cases e with
  | kernel k =>
    exact ⟨a, t, h.moved (kernelSteps_moved s [k]) (kernelStep_flightOrder s he)⟩
  | pass p =>
    simp only [xdpGenerator, tcXdpGenPass]
    split
    · exact ⟨a, t, h⟩
    · rename_i hwait
      obtain ⟨t', hsubmit⟩ := @InTurn.submit build monitor ctx s p a t h hwait
      obtain ⟨a', hcomplete⟩ := hsubmit.complete he (txHwtstampMode build ctx.conf)
      exact ⟨a', t', hcomplete⟩

/-- A pass that writes keeps clear of what is in flight exactly if both fit in the Tx half of the
UMEM area. -/
theorem InTurn.writes_clear_iff (h : InTurn a t s) (e : XdpGenEvent) :
    (∀ chunk ∈ s.writtenChunks ctx e, ∀ desc ∈ s.inFlight, desc.chunk ≠ chunk) ↔
      (s.writtenChunks ctx e ≠ [] →
        s.inFlight.length + ctx.conf.numFramesPerCycle.toNat ≤ 4096) := by
  cases e with
  | kernel k => exact iff_of_true nofun (fun h => absurd rfl h)
  | pass p =>
    rw [XdpGenerator.writtenChunks]
    by_cases hfills : (p.txPass s).fills ctx = true
    · obtain ⟨k, hk, hle⟩ := fills_bounds hfills
      rw [if_pos hfills, ← (flightOrder_perm s).length_eq, h.length_flightOrder, h.frameNumber,
        frameNumbers_rotation, hk]
      have hmeets : (∃ x y, a ≤ x ∧ x < t ∧ t ≤ y ∧ y < t + (k + 1) ∧ y % 4096 = x % 4096) ↔ _ :=
        meets_iff hle
      have hclear : (∀ chunk ∈ (List.range (k + 1)).map fun i => (t + i) % 4096 + 4096,
          ∀ desc ∈ s.inFlight, desc.chunk ≠ chunk) ↔
          ¬ ∃ x y, a ≤ x ∧ x < t ∧ t ≤ y ∧ y < t + (k + 1) ∧ y % 4096 = x % 4096 := by
        have hmem (c : Nat) : (∃ desc ∈ s.inFlight, desc.chunk = c) ↔
            ∃ x, (a ≤ x ∧ x < t) ∧ x % 4096 + 4096 = c := by
          simp only [← (flightOrder_perm s).mem_iff]
          rw [← List.mem_map, h.chunks, List.mem_map]
          apply exists_congr
          intro x
          rw [List.mem_range'_1, Nat.add_sub_cancel' h.le]
        constructor
        · rintro hall ⟨x, y, hax, hxt, hty, hy, hslot⟩
          obtain ⟨desc, hdesc, hchunk⟩ := (hmem (x % 4096 + 4096)).mpr ⟨x, ⟨hax, hxt⟩, rfl⟩
          refine hall (y % 4096 + 4096) (List.mem_map.mpr ⟨y - t, ?_, ?_⟩) desc hdesc ?_
          · rw [List.mem_range]
            omega
          · rw [Nat.add_sub_cancel' hty]
          · rw [hchunk, hslot]
        · intro hnone chunk hchunk desc hdesc heq
          obtain ⟨i, hi, rfl⟩ := List.mem_map.mp hchunk
          rw [List.mem_range] at hi
          obtain ⟨x, ⟨hax, hxt⟩, hx⟩ := (hmem _).mp ⟨desc, hdesc, heq⟩
          exact hnone ⟨x, t + i, hax, hxt, by omega, by omega, by omega⟩
      rw [hclear, hmeets]
      have hne : (List.range (k + 1)).map (fun i => (t + i) % 4096 + 4096) ≠ [] := by simp
      have hat := h.le
      constructor
      · intro hno _
        omega
      · intro hfit hboth
        have := hfit hne
        omega
    · rw [if_neg hfills]
      exact iff_of_true nofun (fun h => absurd rfl h)

/-- A pass leaves the frames in all other chunks as they are. -/
theorem InTurn.keeps_other_chunks (h : InTurn a t s) (hL : ctx.conf.frameLength ≤ maxFrameSize)
    (hlt : b < 4096) (hb : b + 4096 ∉ s.writtenChunks ctx (.pass p)) :
    let off := slotOffset (txMetadataRoom build ctx.conf) b
    slice ((xdpGenerator build monitor ctx).step s (.pass p)).1.gen.frames off
        ctx.conf.frameLength =
      slice s.gen.frames off ctx.conf.frameLength := by
  intro off
  have hgen : (xdpSubmitFrames build monitor ctx s p).1.gen =
      (tcGenAndSendXdpFrames build monitor ctx s.gen (p.txPass s)).1 := by
    rw [xdpSubmitFrames]
    cases s.tx.reserve (s.descs build ctx) <;> rfl
  simp only [xdpGenerator, tcXdpGenPass]
  split
  · rfl
  · rename_i hwait
    dsimp only
    rw [(xdpCompleteTxOnly_moved _ _ _).gen, hgen, tcGenAndSendXdpFrames]
    split
    · rfl
    · rename_i hfree
      have hfills : (p.txPass s).fills ctx = true :=
        Bool.and_eq_true_iff.mpr ⟨bne_iff_ne.mpr hwait, decide_eq_true (Nat.le_of_not_lt hfree)⟩
      rw [XdpGenerator.writtenChunks, if_pos hfills] at hb
      obtain ⟨k, hk, hle⟩ := fills_bounds hfills
      have hrotation : 4096 ≤ s.gen.frameNumber ∧ s.gen.frameNumber < 8192 := by
        rw [h.frameNumber]
        omega
      have hslots := (frameNumbers_slots hrotation.1 hrotation.2 (hk ▸ hle)).1
      refine slice_prepareFrames hL (fun slot hslot => (hslots slot hslot).trans (by decide))
        (hlt.trans (by decide)) ?_ _ _ _ _
      intro hmem
      obtain ⟨number, hnumber, heq⟩ := List.mem_map.mp hmem
      have hge := frameNumbers_ge hrotation.1 _ number hnumber
      have hsame : number = b + 4096 := by
        rw [xskRingProdDefaultNumDescs] at heq
        omega
      exact hb (hsame ▸ hnumber)

theorem InTurn.chunk_lt (h : InTurn a t s) (hdesc : desc ∈ s.inFlight) : desc.chunk < 8192 := by
  have hmem : desc.chunk ∈ s.flightOrder.map TxDesc.chunk :=
    List.mem_map_of_mem ((flightOrder_perm s).mem_iff.mpr hdesc)
  rw [h.chunks] at hmem
  obtain ⟨x, -, hx⟩ := List.mem_map.mp hmem
  omega

/-- Where the writes are clear of the frames in flight, the kernel sends what was submitted. -/
theorem InTurn.keeps_inFlight (h : InTurn a t s) (hL : ctx.conf.frameLength ≤ maxFrameSize)
    (hclear : ∀ chunk ∈ s.writtenChunks ctx (.pass p), ∀ desc ∈ s.inFlight, desc.chunk ≠ chunk)
    (hdesc : desc ∈ s.inFlight) (hb : desc.chunk = b + 4096) :
    let off := slotOffset (txMetadataRoom build ctx.conf) b
    slice ((xdpGenerator build monitor ctx).step s (.pass p)).1.gen.frames off
        ctx.conf.frameLength =
      slice s.gen.frames off ctx.conf.frameLength :=
  have hlt := h.chunk_lt hdesc
  h.keeps_other_chunks hL (by omega) fun hmem => hclear _ hmem desc hdesc hb

theorem start_inTurn (build : BuildConfig) (ctx : ThreadContext) (umem : List UInt8)
    (metadata : Nat → XskTxMetadata) : InTurn 0 0 (.start build ctx umem metadata) :=
  ⟨Nat.le_refl 0, rfl, rfl, rfl, rfl⟩

/-- With a kernel that completes in order, no pass writes into a chunk in flight exactly if before
every pass that writes, the frames in flight and those of the pass fit in the Tx half together. -/
theorem in_flight_not_rewritten (build : BuildConfig) (monitor : Option MacAddress)
    (ctx : ThreadContext) (umem : List UInt8) (metadata : Nat → XskTxMetadata)
    (es : List XdpGenEvent) (hes : ∀ e ∈ es, e.InOrder) :
    (xdpGenerator build monitor ctx).Along (fun s e =>
        ∀ chunk ∈ s.writtenChunks ctx e, ∀ desc ∈ s.inFlight, desc.chunk ≠ chunk)
      (.start build ctx umem metadata) es ↔
    (xdpGenerator build monitor ctx).Along (fun s e => s.writtenChunks ctx e ≠ [] →
        s.inFlight.length + ctx.conf.numFramesPerCycle.toNat ≤ 4096)
      (.start build ctx umem metadata) es := by
  apply System.along_congr (I := fun s => ∃ a t, InTurn a t s) (Q := fun _ e => e.InOrder)
  · rintro s e ⟨a, t, h⟩ he
    exact h.step he
  · rintro s e ⟨a, t, h⟩ _
    exact h.writes_clear_iff e
  · exact ⟨0, 0, start_inTurn build ctx umem metadata⟩
  · exact System.along_of_forall _ (fun _ => hes) _

/-- Two frames go out and come back before the next pass. -/
theorem in_flight_not_rewritten_drained :
    (xdpGenerator fullBuild none (stampedContext 2)).Along (fun s e =>
        ∀ chunk ∈ s.writtenChunks (stampedContext 2) e, ∀ desc ∈ s.inFlight, desc.chunk ≠ chunk)
      (freshGenerator 2)
      [.pass (kickedPass 1000 [.takeTx, .takeTx, .complete 0 2000, .complete 0 2100]),
        .pass (kickedPass 3000 [])] := by
  apply (in_flight_not_rewritten fullBuild none (stampedContext 2) [] _ _ _).mpr
  · refine ⟨fun _ => by decide +kernel, fun _ => by decide +kernel, trivial⟩
  · rintro e he
    simp only [List.mem_cons, List.not_mem_nil, or_false] at he
    rcases he with rfl | rfl
    · simp [XdpGenEvent.InOrder, kickedPass, TxKernelStep.InOrder]
    · exact nofun

/-- The kernel takes everything that is submitted. -/
theorem kernelSteps_takeAll (s : XdpGenerator) :
    let s' := s.kernelSteps (List.replicate s.tx.submitted.length .takeTx)
    s'.tx.submitted = [] ∧ s'.cq = s.cq ∧ s'.outstandingTx = s.outstandingTx := by
  generalize hn : s.tx.submitted.length = n
  induction n generalizing s with
  | zero => exact ⟨List.eq_nil_of_length_eq_zero hn, rfl, rfl⟩
  | succ n ih =>
    obtain ⟨desc, rest, hsubmitted⟩ := List.exists_cons_of_length_eq_add_one hn
    obtain ⟨tx, htake⟩ := Producer.take_of_submitted hsubmitted
    have hrest : tx.submitted.length = n := by
      have hlen := hn
      rw [(Producer.take_spec htake).2.2, List.length_cons] at hlen
      omega
    have hstep : s.kernelStep .takeTx = { s with tx, kernelTx := s.kernelTx ++ [desc] } := by
      rw [XdpGenerator.kernelStep, htake]
    have hrec := ih (s.kernelStep .takeTx) (by rw [hstep]; exact hrest)
    rw [hstep] at hrec
    rw [List.replicate_succ, XdpGenerator.kernelSteps, List.foldl_cons, hstep]
    exact hrec

/-- A pass with empty rings in which the kernel takes all the frames and completes none. -/
theorem tcXdpGenPass_taken (hwait : tcWaitForTxCycle ctx (p.txPass s) ≠ 0)
    (hflight : s.flightOrder = []) (hreserved : s.tx.reserved = [])
    (hfits : ctx.conf.numFramesPerCycle.toNat ≤ s.tx.size)
    (hout : s.outstandingTx + ctx.conf.numFramesPerCycle ≠ 0)
    (hsendto : p.sendto = List.replicate ctx.conf.numFramesPerCycle.toNat .takeTx) :
    let s' := (tcXdpGenPass build monitor ctx s p).1
    s'.tx.submitted = [] ∧ s'.inFlight.length = ctx.conf.numFramesPerCycle.toNat := by
  rw [XdpGenerator.flightOrder, List.append_eq_nil_iff, List.append_eq_nil_iff] at hflight
  obtain ⟨⟨hcq, hkernel⟩, hsubmitted⟩ := hflight
  have hlen := length_descs build ctx s
  obtain ⟨tx, htx⟩ := s.tx.reserve_of_fits (s.descs build ctx) (by
    rw [hlen, hreserved, hsubmitted, List.length_nil, Nat.zero_add]
    exact hfits)
  obtain ⟨-, hdescs⟩ := Producer.reserve_submit htx hreserved
  rw [hlen, hsubmitted, List.nil_append] at hdescs
  -- the state after the submission
  generalize hsub : (xdpSubmitFrames build monitor ctx s p).1 = s1
  have hparts : s1.tx.submitted = s.descs build ctx ∧ s1.cq.entries = [] ∧ s1.kernelTx = [] ∧
      s1.outstandingTx ≠ 0 := by
    rw [← hsub, xdpSubmitFrames, htx]
    exact ⟨hdescs, hcq, hkernel, hout⟩
  obtain ⟨hsub1, hcq1, hkernel1, hout1⟩ := hparts
  rw [← hlen, ← hsub1] at hsendto
  obtain ⟨hnone, hcq', -⟩ := kernelSteps_takeAll s1
  have horder : (s1.kernelSteps p.sendto).flightOrder = s1.flightOrder := by
    apply kernelSteps_flightOrder
    intro k hk
    rw [hsendto] at hk
    rw [List.eq_of_mem_replicate hk]
    trivial
  rw [← hsendto] at hnone hcq'
  have hpass : (tcXdpGenPass build monitor ctx s p).1 = s1.kernelSteps p.sendto := by
    have hpeek : ((s1.kernelSteps p.sendto).peek p).length = 0 := by
      rw [XdpGenerator.peek, hcq', Consumer.peek, hcq1, List.take_nil, List.length_nil]
    rw [tcXdpGenPass, if_neg hwait]
    dsimp only
    rw [hsub, xdpCompleteTxOnly, if_neg hout1]
    dsimp only
    rw [if_pos hpeek]
  rw [hpass]
  refine ⟨hnone, ?_⟩
  rw [← (flightOrder_perm _).length_eq, horder, XdpGenerator.flightOrder, hcq1, hkernel1, hsub1]
  exact hlen

theorem step_pass (build : BuildConfig) (monitor : Option MacAddress) (ctx : ThreadContext)
    (s : XdpGenerator) (p : XdpGenPass) :
    (xdpGenerator build monitor ctx).step s (.pass p) = tcXdpGenPass build monitor ctx s p := rfl

theorem stamped_frames : (stampedContext 4096).conf.numFramesPerCycle.toNat = 4096 := by decide

/-- The kernel has all the chunks when the next pass starts, but the Tx ring is empty again. -/
theorem in_flight_rewritten_overload :
    configSanityCheck fullBuild (stampedConfig 4096) = true ∧
    (XdpGenEvent.pass (kickedPass 1000 (List.replicate 4096 .takeTx))).InOrder ∧
    let s := ((xdpGenerator fullBuild none (stampedContext 4096)).step (freshGenerator 4096)
      (.pass (kickedPass 1000 (List.replicate 4096 .takeTx)))).1
    ∃ chunk ∈ s.writtenChunks (stampedContext 4096) (.pass (kickedPass 2000 [])),
      ∃ desc ∈ s.inFlight, desc.chunk = chunk := by
  have horder : (XdpGenEvent.pass (kickedPass 1000 (List.replicate 4096 .takeTx))).InOrder := by
    intro k hk
    rw [List.eq_of_mem_replicate hk]
    trivial
  refine ⟨by decide, horder, ?_⟩
  have hstart : InTurn 0 0 (freshGenerator 4096) := start_inTurn _ _ _ _
  obtain ⟨a, t, hturn⟩ := @InTurn.step fullBuild none (stampedContext 4096) _ _ _ _ hstart horder
  have htaken := @tcXdpGenPass_taken fullBuild none (stampedContext 4096) (freshGenerator 4096)
    (kickedPass 1000 (List.replicate 4096 .takeTx)) (by decide) rfl rfl (by decide) (by decide)
    (by rw [kickedPass, stamped_frames])
  rw [stamped_frames, ← step_pass] at htaken
  dsimp only at htaken ⊢
  generalize ((xdpGenerator fullBuild none (stampedContext 4096)).step (freshGenerator 4096)
    (.pass (kickedPass 1000 (List.replicate 4096 .takeTx)))).1 = s at htaken hturn ⊢
  obtain ⟨hnone, hlen⟩ := htaken
  by_contra hno
  have hclear : ∀ chunk ∈ s.writtenChunks (stampedContext 4096) (.pass (kickedPass 2000 [])),
      ∀ desc ∈ s.inFlight, desc.chunk ≠ chunk :=
    fun chunk hc desc hd heq => hno ⟨chunk, hc, desc, hd, heq⟩
  have hfit := (hturn.writes_clear_iff _).mp hclear
  rw [hlen] at hfit
  have hfills : ((kickedPass 2000 []).txPass s).fills (stampedContext 4096) = true := by
    rw [fills_iff hturn.size hturn.reserved, hnone]
    refine ⟨?_, by decide⟩
    change (stampedContext 4096).conf.numFramesPerCycle ≠ 0
    decide
  refine absurd (hfit ?_) (by decide)
  change (if _ then _ else _) ≠ []
  rw [if_pos hfills]
  intro hnil
  have hzero := congrArg List.length hnil
  rw [length_frameNumbers] at hzero
  exact absurd hzero (by decide)

end RtcTestbench
