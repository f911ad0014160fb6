import RtcTestbench.IntactMirror
import RtcTestbench.IntactSender
import RtcTestbench.Lib.Flow
import RtcTestbench.TimestampRequest

namespace RtcTestbench
open Buffer Machine DropOldest Flow
set_option autoImplicit true

/-- A reference and a mirror on AF_PACKET, with the frames under way between them. -/
structure Testbed where
  generator : Generator
  outbound : List (List UInt8)
  mirror : ThreadContext
  inbound : List (List UInt8)
  reference : ThreadContext

/-- The threads make their passes, and the links lose and deliver frames, in any order. -/
inductive TestbedEvent where
  | generate (p : TxPass)
  | loseOutbound (i : Nat)
  | mirrorReceives (env : RxEnv) (tail : List UInt8)
  | mirrorSends (now : UInt64)
  | loseInbound (i : Nat)
  | referenceReceives (stripped : Bool) (env : RxEnv) (tail : List UInt8)

structure TestbedOutput where
  generated : List SentFrame
  mirrored : List (Except LogMessage RxAccepted)
  received : List (Except LogMessage RxAccepted)

/-- A frame as a link hands it to the receive function of a class. -/
def linkReception (frameType : StatFrameType) (stripped : Bool) (frame : List UInt8) (env : RxEnv)
    (tail : List UInt8) : Reception :=
  let received := deliver frameType stripped frame
  ⟨env, received ++ tail, received.length⟩

def testbed (build : BuildConfig) (monitor : Option MacAddress) (sender : ThreadContext) :
    System Testbed TestbedEvent TestbedOutput where
  step tb
    | .generate p =>
      let r := (generator build monitor sender).step tb.generator p
      ({ tb with generator := r.1, outbound := tb.outbound ++ r.2.map SentFrame.bytes },
        ⟨r.2, [], []⟩)
    | .loseOutbound i => ({ tb with outbound := tb.outbound.eraseIdx i }, ⟨[], [], []⟩)
    | .mirrorReceives env tail =>
      match tb.outbound with
      | [] => (tb, ⟨[], [], []⟩)
      | frame :: rest =>
        let r := linkReception sender.frameType true frame env tail
        ({ tb with outbound := rest, mirror := (rxSystem.step tb.mirror r).1 },
          ⟨[], [receiveFrame r.env tb.mirror r.frameData r.len], []⟩)
    | .mirrorSends now =>
      let r := tcMirrorPass tb.mirror now
      ({ tb with mirror := r.1, inbound := tb.inbound ++ r.2 }, ⟨[], [], []⟩)
    | .loseInbound i => ({ tb with inbound := tb.inbound.eraseIdx i }, ⟨[], [], []⟩)
    | .referenceReceives stripped env tail =>
      match tb.inbound with
      | [] => (tb, ⟨[], [], []⟩)
      | frame :: rest =>
        let r := linkReception sender.frameType stripped frame env tail
        ({ tb with inbound := rest, reference := (rxSystem.step tb.reference r).1 },
          ⟨[], [], [receiveFrame r.env tb.reference r.frameData r.len]⟩)

/-- Both sides once their Tx threads have set up their frames. -/
def Testbed.start (build : BuildConfig) (sender mirror : ThreadContext) (umem : List UInt8) :
    Testbed :=
  ⟨Generator.start build sender umem, [], mirror, [], sender⟩

/-- The frames in the mirror buffer. -/
def Testbed.stored (tb : Testbed) : Nat :=
  match tb.mirror.mirrorBuffer with
  | none => 0
  | some rb => rb.count / tb.mirror.conf.frameLength

def Testbed.underWay (tb : Testbed) : Nat := tb.inbound.length + (tb.stored + tb.outbound.length)

/-- The next frame fits into the mirror buffer. -/
def Testbed.HasRoom (tb : Testbed) : Prop :=
  ∃ rb, tb.mirror.mirrorBuffer = some rb ∧ rb.count + tb.mirror.conf.frameLength ≤ rb.size

/-- The wire carries the counters that frames are sealed with, and the mirror buffer is not cut in
the middle of a frame. -/
def Fed (build : BuildConfig) (monitor : Option MacAddress) (sender : ThreadContext)
    (tb : Testbed) : TestbedEvent → Prop
  | .generate p => sender.conf.securityMode ≠ .none →
      ∀ f ∈ ((generator build monitor sender).step tb.generator p).2,
        wireSequenceCounter sender.conf.numFramesPerCycle f.sequenceCounter = f.sequenceCounter
  | .mirrorReceives env _ => env.newFrame.length = maxFrameSize ∧
      (tb.outbound ≠ [] → MirrorAligned tb.mirror.conf tb.mirror.mirrorBuffer (.rx []))
  | _ => True

/-- Nothing is lost: not on the links, not in the mirror buffer, not for want of descriptors. The
wire carries every counter. -/
def Lossless (build : BuildConfig) (monitor : Option MacAddress) (sender : ThreadContext)
    (tb : Testbed) : TestbedEvent → Prop
  | .generate p => p.HasRoom sender ∧
    ∀ f ∈ ((generator build monitor sender).step tb.generator p).2,
      wireSequenceCounter sender.conf.numFramesPerCycle f.sequenceCounter = f.sequenceCounter
  | .mirrorReceives _ _ => tb.outbound ≠ [] → tb.HasRoom
  | .loseOutbound _ | .loseInbound _ => False
  | _ => True

section Stamps
variable {conf : TrafficClassConfig} {frameType : StatFrameType} {cipher : Aead.Cipher}
  {data frame : List UInt8} {size off : Nat} {s : UInt64} {ctx : ThreadContext}

theorem slice_stamp_other (hfit : off + 16 ≤ size) (hne : i ≠ j) (data : List UInt8)
    (now : UInt64) : slice (txTimestampToMetaData data (i * size + off) now) (j * size) size =
      slice data (j * size) size := by
  apply slice_txTimestampToMetaData
  rcases Nat.lt_or_gt_of_ne hne with hlt | hlt
  · have hnext := Nat.mul_le_mul_right size (Nat.succ_le_of_lt hlt)
    rw [Nat.succ_mul] at hnext
    omega
  · have hnext := Nat.mul_le_mul_right size (Nat.succ_le_of_lt hlt)
    rw [Nat.succ_mul] at hnext
    omega

/-- Each frame of the buffer gets its time stamp, the ones behind it are left alone. -/
theorem slice_setMirrorTxTimestamp_block (hm : conf.securityMode = .none)
    (hfit : off + 16 ≤ size) (numFrames j : Nat) (now : UInt64) :
    slice (setMirrorTxTimestamp conf data size numFrames off now) (j * size) size =
      if j < numFrames then txTimestampToMetaData (slice data (j * size) size) off now
      else slice data (j * size) size := by
  rw [setMirrorTxTimestamp, if_neg (not_not_intro hm)]
  induction numFrames with
  | zero => rfl
  | succ numFrames ih =>
    rw [List.range_succ, List.foldl_append, List.foldl_cons, List.foldl_nil]
    by_cases hj : j = numFrames
    · subst hj
      rw [if_neg (Nat.lt_irrefl _)] at ih
      rw [if_pos (Nat.lt_succ_self _), ← ih, txTimestampToMetaData, Nat.add_assoc,
        slice_write_shift]
      rfl
    · rw [slice_stamp_other hfit (Ne.symm hj), ih]
      simp only [Nat.lt_succ_iff_lt_or_eq, hj, or_false]

/-- What a mirroring pass sends: the frames of the buffer, with a new time stamp if this does not
break a seal. -/
theorem tcMirrorPass_frames (hfit : ctx.metaDataOffset + 16 ≤ ctx.conf.frameLength)
    (now : UInt64) :
    (tcMirrorPass ctx now).2 = (mirrorTxPass ctx.conf ctx.mirrorBuffer).2.map fun frame =>
      if ctx.conf.securityMode = .none then txTimestampToMetaData frame ctx.metaDataOffset now
      else frame := by
  simp only [tcMirrorPass, mirrorTxPass, List.map_map]
  apply List.map_congr_left
  intro i hi
  rw [Function.comp_apply]
  by_cases hm : ctx.conf.securityMode = .none
  · rw [if_pos hm, slice_setMirrorTxTimestamp_block hm hfit, if_pos (List.mem_range.mp hi)]
  · rw [if_neg hm, setMirrorTxTimestamp, if_pos hm]

/-- A frame goes out of the mirror as intact as it was stored. -/
theorem Intact.sent (h : Intact conf frameType cipher frame s) (now : UInt64) :
    Intact conf frameType cipher (if conf.securityMode = .none then
      txTimestampToMetaData frame (getMetaDataOffset frameType conf.securityMode) now
      else frame) s := by
  by_cases hm : conf.securityMode = .none
  · rw [if_pos hm]
    refine ⟨h.toFilled.stamped now, fun hao => ?_, fun hae => ?_⟩
    · cases hm.symm.trans hao
    · cases hm.symm.trans hae
  · rw [if_neg hm]
    exact h

theorem add_contents_room (q : Queue α cap) (x : α) (h : 1 ≤ cap) :
    ((q.add [x]).contents).Sublist (q.contents ++ [x]) ∧
      (q.contents.length + 1 ≤ cap → (q.add [x]).contents = q.contents ++ [x]) := by
  rw [q.add_contents (show [x].length ≤ cap from h), lastN]
  refine ⟨List.drop_sublist _ _, fun hroom => ?_⟩
  rw [List.length_append, List.length_singleton, Nat.min_eq_left hroom, Nat.sub_self,
    List.drop_zero]

theorem HoldsFrames.count (h : HoldsFrames conf (some rb) q) :
    rb.count = q.contents.length * conf.frameLength ∧ rb.size = conf.mirrorSize := by
  obtain ⟨bytes, ⟨rb', he, _, hsize, hcontents⟩, hflat, huniform⟩ := h
  cases he
  rw [← rb.length_contents, hcontents, hflat, huniform.length_flatten]
  exact ⟨rfl, hsize⟩

section Buffered
variable {R : List UInt8 → α → Prop} {inbound : List (List UInt8)} {front : List α} {x : α}
  {q : Queue (List UInt8) (conf.mirrorSize / conf.frameLength)}

/-- A frame goes into the mirror buffer, behind those that wait there or are on their way back.
Only a full buffer loses one. -/
theorem HoldsFrames.stores (hholds : HoldsFrames conf buffer q)
    (hframes : List.Forall₂ R (inbound ++ q.contents) front) (hpos : 0 < conf.frameLength)
    (hroom : conf.frameLength ≤ conf.mirrorSize) (hlen : stored.length = conf.frameLength)
    (halign : MirrorAligned conf buffer (.rx [])) (hstored : R stored x) :
    ∃ q' front', HoldsFrames conf (ringBufferAdd buffer stored) q' ∧
      List.Forall₂ R (inbound ++ q'.contents) front' ∧ front'.Sublist (front ++ [x]) ∧
      ((q.contents.length + 1) * conf.frameLength ≤ conf.mirrorSize → front' = front ++ [x]) := by
  have hcap : 1 ≤ conf.mirrorSize / conf.frameLength :=
    (Nat.le_div_iff_mul_le hpos).mpr ((Nat.one_mul _).trans_le hroom)
  have hholds' := hholds.rx hpos hroom hlen halign
  obtain ⟨hsub, hkeep⟩ := add_contents_room q stored hcap
  have hall : List.Forall₂ R (inbound ++ (q.contents ++ [stored])) (front ++ [x]) := by
    rw [← List.append_assoc]
    exact List.rel_append hframes (.cons hstored .nil)
  by_cases hle : (q.contents.length + 1) * conf.frameLength ≤ conf.mirrorSize
  · rw [← hkeep ((Nat.le_div_iff_mul_le hpos).mpr hle)] at hall
    exact ⟨_, _, hholds', hall, .refl _, fun _ => rfl⟩
  · obtain ⟨front', hsub', hleft⟩ := forall₂_sublist hall ((List.Sublist.refl inbound).append hsub)
    exact ⟨_, front', hholds', hleft, hsub', fun h => absurd h hle⟩

/-- A mirroring pass sends all that waits, and what it does to a frame it does to each. -/
theorem HoldsFrames.sends (hholds : HoldsFrames conf ctx.mirrorBuffer q)
    (hframes : List.Forall₂ R (inbound ++ q.contents) front) (hctx : ctx.ForClass conf frameType)
    (hfit : getMetaDataOffset frameType conf.securityMode + 16 ≤ conf.frameLength)
    (hsent : ∀ frame x, R frame x → R (if conf.securityMode = .none then
      txTimestampToMetaData frame (getMetaDataOffset frameType conf.securityMode) now
      else frame) x) :
    ∃ q', HoldsFrames conf (tcMirrorPass ctx now).1.mirrorBuffer q' ∧
      List.Forall₂ R ((inbound ++ (tcMirrorPass ctx now).2) ++ q'.contents) front := by
  obtain ⟨hholds', hblocks⟩ := hholds.tx (show 0 < conf.frameLength by omega)
  have hall : (tcMirrorPass ctx now).2 = _ := tcMirrorPass_frames
    (by rw [hctx.metaDataOffset_eq, hctx.conf_eq]; exact hfit) now
  rw [hctx.conf_eq, hblocks, q.fetch_all, hctx.metaDataOffset_eq] at hall
  have hbuffer : (tcMirrorPass ctx now).1.mirrorBuffer =
      (mirrorTxPass conf ctx.mirrorBuffer).1 := by
    rw [← hctx.conf_eq]
    rfl
  refine ⟨_, hbuffer ▸ hholds', ?_⟩
  rw [q.fetch_all_contents, List.append_nil, hall]
  apply forall₂_replace hframes
  rw [List.forall₂_map_right_iff, List.forall₂_same]
  exact fun frame _ => hsent frame

end Buffered

theorem MirrorReady.sends (h : MirrorReady conf xdpEnabled frameType cipher ctx) (now : UInt64) :
    MirrorReady conf xdpEnabled frameType cipher (tcMirrorPass ctx now).1 :=
  ⟨⟨h.forClass.conf_eq, h.forClass.frameType_eq, h.forClass.frameId_eq,
    h.forClass.metaDataOffset_eq⟩, h.key, h.pattern⟩

end Stamps

/-- The frames under way are intact: `back` are the counters of those on their way to the mirror,
`front` of those that have been there, oldest first. -/
structure Carries (build : BuildConfig) (conf : TrafficClassConfig) (frameType : StatFrameType)
    (cipher : Aead.Cipher) (sender : ThreadContext) (tb : Testbed) (front back : List UInt64) :
    Prop where
  ready : GeneratorReady build conf frameType sender tb.generator
  mirror : MirrorReady conf false frameType cipher tb.mirror
  reference : tb.reference.ForClass conf frameType ∧ tb.reference.rxSecurityContext = cipher
  toMirror : List.Forall₂ (Intact conf frameType cipher) tb.outbound back
  fromMirror : ∃ q, HoldsFrames (peerConfig conf true false) tb.mirror.mirrorBuffer q ∧
    List.Forall₂ (Intact conf frameType cipher) (tb.inbound ++ q.contents) front

/-- A frame was received in its place, and there is nothing to log. -/
def ReceivedInOrder (s : UInt64) (r : Except LogMessage RxAccepted) : Prop :=
  ∃ acc, r = .ok acc ∧ acc.report.sequenceCounter = s ∧ acc.report.outOfOrder = false ∧
    acc.report.payloadMismatch = false ∧ acc.report.frameIdMismatch = false ∧ acc.logs = []

/-- What a step shows of the frames that enter, pass the mirror and leave. -/
structure Shows (R : UInt64 → Except LogMessage RxAccepted → Prop) (out : TestbedOutput)
    (entered passed left : List UInt64) : Prop where
  generated : out.generated.map SentFrame.sequenceCounter = entered
  mirrored : List.Forall₂ R passed out.mirrored
  received : List.Forall₂ R left out.received

variable {build : BuildConfig} {conf : TrafficClassConfig} {frameType : StatFrameType}
  {cipher : Aead.Cipher} {sender : ThreadContext} {tb : Testbed} {front back : List UInt64}
  {monitor : Option MacAddress} {a : SlotGenerator}

theorem Carries.generate (h : Carries build conf frameType cipher sender tb front back)
    (hpair : Paired conf frameType cipher sender)
    (hfed : Fed build monitor sender tb (.generate p)) :
    let r := (generator build monitor sender).step tb.generator p
    Carries build conf frameType cipher sender
      { tb with generator := r.1, outbound := tb.outbound ++ r.2.map SentFrame.bytes } front
      (back ++ r.2.map SentFrame.sequenceCounter) := by
  intro r
  rw [Fed, hpair.forClass.conf_eq] at hfed
  obtain ⟨hready, hsent⟩ := h.ready.step hpair p hfed
  exact ⟨hready, h.mirror, h.reference, List.rel_append h.toMirror hsent, h.fromMirror⟩

theorem Carries.loseOutbound (h : Carries build conf frameType cipher sender tb front back)
    (hout : outbound.Sublist tb.outbound) :
    ∃ back', back'.Sublist back ∧
      Carries build conf frameType cipher sender { tb with outbound } front back' := by
  obtain ⟨back', hsub, hleft⟩ := forall₂_sublist h.toMirror hout
  exact ⟨back', hsub, h.ready, h.mirror, h.reference, hleft, h.fromMirror⟩

theorem Carries.loseInbound (h : Carries build conf frameType cipher sender tb front back)
    (hin : inbound.Sublist tb.inbound) :
    ∃ front', front'.Sublist front ∧
      Carries build conf frameType cipher sender { tb with inbound } front' back := by
  obtain ⟨q, hholds, hframes⟩ := h.fromMirror
  obtain ⟨front', hsub, hleft⟩ := forall₂_sublist hframes (hin.append (.refl q.contents))
  exact ⟨front', hsub, h.ready, h.mirror, h.reference, h.toMirror, q, hholds, hleft⟩

theorem Carries.mirrorSends (h : Carries build conf frameType cipher sender tb front back)
    (hpair : Paired conf frameType cipher sender) (now : UInt64) :
    let r := tcMirrorPass tb.mirror now
    Carries build conf frameType cipher sender
      { tb with mirror := r.1, inbound := tb.inbound ++ r.2 } front back := by
  intro r
  obtain ⟨q, hholds, hframes⟩ := h.fromMirror
  have hsent := hholds.sends hframes h.mirror.forClass hpair.carried.metaData_fits
    (fun frame s hframe => hframe.sent now)
  exact ⟨h.ready, h.mirror.sends now, h.reference, h.toMirror, hsent⟩

/-- The mirror takes the next frame from the link. Only a full buffer loses a frame. -/
theorem Carries.mirrorReceives (h : Carries build conf frameType cipher sender tb front back)
    (hpair : Paired conf frameType cipher sender) (hout : tb.outbound = frame :: rest)
    (hnew : env.newFrame.length = maxFrameSize)
    (halign : MirrorAligned tb.mirror.conf tb.mirror.mirrorBuffer (.rx [])) (tail : List UInt8) :
    let r := linkReception frameType true frame env tail
    ∃ acc s front' back', receiveFrame r.env tb.mirror r.frameData r.len = .ok acc ∧
      CleanReceipt acc (wireSequenceCounter conf.numFramesPerCycle s) ∧ back = s :: back' ∧
      Carries build conf frameType cipher sender { tb with outbound := rest, mirror := acc.ctx }
        front' back' ∧
      front'.Sublist (front ++ [s]) ∧ (tb.HasRoom → front' = front ++ [s]) := by
  intro r
  have hclass := h.mirror.forClass
  obtain ⟨q, hholds, hframes⟩ := h.fromMirror
  have hback := h.toMirror
  rw [hout] at hback
  obtain ⟨s, back', hframe, hrest, rfl⟩ := List.forall₂_cons_left_iff.mp hback
  obtain ⟨acc, stored, hok, hclean, hadd, hstored⟩ := hframe.mirrored hpair.carried hclass
    h.mirror.key hpair.ideal h.mirror.pattern hnew tail
  rw [hclass.conf_eq] at halign
  have hfits := hpair.carried.metaData_fits
  obtain ⟨q', front', hholds', hframes', hsub, hkeep⟩ := hholds.stores hframes
    (show 0 < conf.frameLength by omega) hpair.room hstored.length_eq halign hstored
  rw [← hadd] at hholds'
  refine ⟨acc, s, front', back', hok, hclean, rfl, ⟨h.ready,
    h.mirror.sameClass (receiveFrame_checked hok), h.reference, hrest, q', hholds', hframes'⟩,
    hsub, fun hroom => hkeep ?_⟩
  obtain ⟨rb, hb, hle⟩ := hroom
  obtain ⟨hcount, hsize⟩ := (hb ▸ hholds).count
  rw [hclass.conf_eq, hcount, hsize, ← Nat.succ_mul] at hle
  exact hle

theorem Carries.referenceReceives (h : Carries build conf frameType cipher sender tb front back)
    (hpair : Paired conf frameType cipher sender) (hin : tb.inbound = frame :: rest)
    (stripped : Bool) (env : RxEnv) (tail : List UInt8) :
    let r := linkReception frameType stripped frame env tail
    ∃ acc s front', receiveFrame r.env tb.reference r.frameData r.len = .ok acc ∧
      CleanReceipt acc (wireSequenceCounter conf.numFramesPerCycle s) ∧ front = s :: front' ∧
      Carries build conf frameType cipher sender
        { tb with inbound := rest, reference := acc.ctx } front' back := by
  intro r
  obtain ⟨hclass, hkey⟩ := h.reference
  obtain ⟨q, hholds, hframes⟩ := h.fromMirror
  rw [hin] at hframes
  cases hframes with
  | cons hframe hrest =>
    have hpeer : tb.reference.ForClass (peerConfig conf conf.rxMirrorEnabled conf.xdpEnabled)
        frameType := hclass
    obtain ⟨acc, hok, hclean⟩ := hframe.received hpair.carried hpeer hkey
      (show Delivers frameType ⟨_, frame⟩ r from ⟨stripped, tail, rfl, rfl⟩)
    have hchecked := receiveFrame_checked hok
    have hkey' := hchecked.sameClass.rxSecurityContext_eq.trans hkey
    exact ⟨acc, _, _, hok, hclean, rfl, h.ready, h.mirror, ⟨hchecked.forClass hclass, hkey'⟩,
      h.toMirror, q, hholds, hrest⟩

theorem Carries.underWay (h : Carries build conf frameType cipher sender tb front back)
    (hpair : Paired conf frameType cipher sender) :
    tb.underWay = front.length + back.length := by
  have hfits := hpair.carried.metaData_fits
  have hpos : 0 < conf.frameLength := by omega
  obtain ⟨q, hholds, hframes⟩ := h.fromMirror
  have ⟨_, ⟨rb, hb, _⟩, _⟩ := hholds
  have hstored : tb.stored = q.contents.length := by
    obtain ⟨hcount, -⟩ := (hb ▸ hholds).count
    rw [Testbed.stored, hb, h.mirror.forClass.conf_eq]
    dsimp only
    rw [hcount]
    exact Nat.mul_div_cancel _ hpos
  rw [Testbed.underWay, hstored, ← hframes.length_eq, ← h.toMirror.length_eq, List.length_append,
    Nat.add_assoc]

/-- Whatever happens, counters may get lost but are never changed, doubled or exchanged. -/
theorem Carries.step (h : Carries build conf frameType cipher sender tb front back)
    (hpair : Paired conf frameType cipher sender) (hfed : Fed build monitor sender tb e) :
    let r := (testbed build monitor sender).step tb e
    ∃ i m o front' back', Carries build conf frameType cipher sender r.1 front' back' ∧
      Shows (ReceivedClean conf) r.2 i m o ∧
      Passes List.Sublist back i m back' ∧ Passes List.Sublist front m o front' := by
  have hsame := passes_keep (r := List.Sublist) (List.Sublist.refl front)
  have hsame' := passes_keep (r := List.Sublist) (List.Sublist.refl back)
  cases e with
  | generate p =>
    exact ⟨_, [], [], front, _, h.generate hpair hfed, ⟨rfl, .nil, .nil⟩,
      passes_enter order_sublist _ _, hsame⟩
  | loseOutbound i =>
    obtain ⟨back', hsub, hnext⟩ := h.loseOutbound (List.eraseIdx_sublist tb.outbound i)
    exact ⟨[], [], [], front, back', hnext, ⟨rfl, .nil, .nil⟩, passes_keep hsub, hsame⟩
  | loseInbound i =>
    obtain ⟨front', hsub, hnext⟩ := h.loseInbound (List.eraseIdx_sublist tb.inbound i)
    exact ⟨[], [], [], front', back, hnext, ⟨rfl, .nil, .nil⟩, hsame', passes_keep hsub⟩
  | mirrorSends now =>
    exact ⟨[], [], [], front, back, h.mirrorSends hpair now, ⟨rfl, .nil, .nil⟩, hsame', hsame⟩
  | mirrorReceives env tail =>
    cases hout : tb.outbound with
    | nil =>
      simp only [testbed, hout]
      exact ⟨[], [], [], front, back, h, ⟨rfl, .nil, .nil⟩, hsame', hsame⟩
    | cons frame rest =>
      obtain ⟨hnew, halign⟩ := hfed
      obtain ⟨acc, s, front', back', hok, hclean, rfl, hnext, hsub, -⟩ :=
        h.mirrorReceives hpair hout hnew (halign (by rw [hout]; exact List.cons_ne_nil _ _)) tail
      simp only [testbed, hout, hpair.forClass.frameType_eq]
      rw [rxSystem_step_ok hok]
      exact ⟨[], [s], [], front', back', hnext, ⟨rfl, .cons ⟨acc, hok, hclean⟩ .nil, .nil⟩,
        passes_leave order_sublist [s] back', hsub⟩
  | referenceReceives stripped env tail =>
    cases hin : tb.inbound with
    | nil =>
      simp only [testbed, hin]
      exact ⟨[], [], [], front, back, h, ⟨rfl, .nil, .nil⟩, hsame', hsame⟩
    | cons frame rest =>
      obtain ⟨acc, s, front', hok, hclean, rfl, hnext⟩ :=
        h.referenceReceives hpair hin stripped env tail
      simp only [testbed, hin, hpair.forClass.frameType_eq]
      rw [rxSystem_step_ok hok]
      exact ⟨[], [], [s], front', back, hnext, ⟨rfl, .nil, .cons ⟨acc, hok, hclean⟩ .nil⟩,
        hsame', passes_leave order_sublist [s] front'⟩

end RtcTestbench
