import RtcTestbench.Lib.Blocks
import RtcTestbench.Thread

namespace RtcTestbench
open Buffer DropOldest
set_option autoImplicit true

/-- `received_frames_length`, which is also the size of the mirror buffer. -/
def TrafficClassConfig.mirrorSize (conf : TrafficClassConfig) : Nat :=
  maxFrameSize * conf.numFramesPerCycle.toNat

inductive MirrorEvent where
  | rx (frame : List UInt8)
  | tx

/-- A mirroring pass of `tc_tx_thread` and `udp_tx_thread_routine`: the blocks handed to the
send functions. -/
def mirrorTxPass (conf : TrafficClassConfig) (mirrorBuffer : Option RingBuffer) :
    Option RingBuffer × List (List UInt8) :=
  let fetched := ringBufferFetch mirrorBuffer (conf.mirrorSize % 2 ^ 64)
  let len := fetched.2.length
  let numFrames := len / conf.frameLength
  (fetched.1,
    (List.range numFrames).map fun i => slice fetched.2 (i * conf.frameLength) conf.frameLength)

def mirrorSystem (conf : TrafficClassConfig) :
    Machine.System (Option RingBuffer) MirrorEvent (List (List UInt8)) where
  step mirrorBuffer
    | .rx frame => (ringBufferAdd mirrorBuffer frame, [])
    | .tx => mirrorTxPass conf mirrorBuffer

/-- What the mirror is for: a queue of whole frames that forgets the oldest ones. -/
def frameQueueSystem (cap : Nat) :
    Machine.System (Queue (List UInt8) cap) MirrorEvent (List (List UInt8)) where
  step q
    | .rx frame => (q.add [frame], [])
    | .tx => q.fetch cap

def addedFrames : List MirrorEvent → List (List UInt8)
  | [] => []
  | .rx frame :: es => frame :: addedFrames es
  | .tx :: es => addedFrames es

/-- The receive functions add frames of the configured length only. -/
def MirrorEvent.Whole (conf : TrafficClassConfig) : MirrorEvent → Prop
  | .rx frame => frame.length = conf.frameLength
  | .tx => True

/-- The buffer holds a whole number of frames, or it has room for the next one. -/
def MirrorAligned (conf : TrafficClassConfig) (mirrorBuffer : Option RingBuffer) :
    MirrorEvent → Prop
  | .rx _ => conf.frameLength ∣ conf.mirrorSize ∨
      ∃ rb, mirrorBuffer = some rb ∧ rb.count + conf.frameLength ≤ rb.size
  | .tx => True

/-- The blocks sent are added frames in order, none twice, and the passes are those of the frame
queue: only whole frames are ever dropped, the oldest ones first. -/
structure MirrorIntegrity (conf : TrafficClassConfig) (es : List MirrorEvent)
    (sent : List (List (List UInt8))) : Prop where
  sublist : sent.flatten.Sublist (addedFrames es)
  drops_oldest :
    sent = ((frameQueueSystem (conf.mirrorSize / conf.frameLength)).run .empty es).2

variable {conf : TrafficClassConfig} {rb : RingBuffer} {s : Option RingBuffer}
  {es : List MirrorEvent}

theorem frameQueue_sublist (q : Queue (List UInt8) cap) (es : List MirrorEvent) :
    ((frameQueueSystem cap).run q es).2.flatten.Sublist (q.contents ++ addedFrames es) := by
  induction es generalizing q with
  | nil => exact List.nil_sublist _
  | cons e es ih =>
    rw [Machine.System.run_cons]
    cases e with
    | rx frame =>
      refine (ih (q.add [frame])).trans ?_
      change List.Sublist _ (q.contents ++ ([frame] ++ addedFrames es))
      rw [← List.append_assoc]
      refine List.Sublist.append_right ?_ _
      by_cases hc : 1 ≤ cap
      · rw [q.add_contents (show [frame].length ≤ cap from hc)]
        exact List.drop_sublist _ _
      · rw [q.add_of_gt (show cap < [frame].length from Nat.lt_of_not_le hc)]
        exact List.sublist_append_left _ _
    | tx =>
      change ((q.fetch cap).2 ++ _).Sublist _
      rw [q.fetch_all]
      refine List.Sublist.append_left ?_ _
      have h := ih (q.fetch cap).1
      rw [q.fetch_all_contents, List.nil_append] at h
      exact h

def HoldsFrames (conf : TrafficClassConfig) (s : Option RingBuffer)
    (q : Queue (List UInt8) (conf.mirrorSize / conf.frameLength)) : Prop :=
  ∃ bytes : Queue UInt8 conf.mirrorSize, Represents s bytes ∧
    bytes.contents = q.contents.flatten ∧ Uniform conf.frameLength q.contents

theorem mirrorSize_lt (h : Represents s (bytes : Queue UInt8 conf.mirrorSize)) :
    conf.mirrorSize < 2 ^ 64 := by
  obtain ⟨rb, _, hi, hsz, _⟩ := h
  have hle := hi.size_le
  rw [hsz] at hle
  exact Nat.lt_of_le_of_lt hle (by decide)

theorem min_frames (hl : 0 < len) (h : len ∣ size ∨ k * len + len ≤ size) :
    min (k * len + len) size = min (k + 1) (size / len) * len := by
  rw [← Nat.succ_mul]
  rcases h with ⟨m, rfl⟩ | h
  · rw [Nat.mul_div_cancel_left m hl, Nat.mul_comm len m, Nat.mul_min_mul_right]
  · rw [← Nat.succ_mul] at h
    rw [Nat.min_eq_left h, Nat.min_eq_left ((Nat.le_div_iff_mul_le hl).mpr h)]

variable {q : Queue (List UInt8) (conf.mirrorSize / conf.frameLength)}

theorem HoldsFrames.rx (h : HoldsFrames conf s q) (hl : 0 < conf.frameLength)
    (hle : conf.frameLength ≤ conf.mirrorSize) (hf : frame.length = conf.frameLength)
    (ha : MirrorAligned conf s (.rx frame)) :
    HoldsFrames conf (ringBufferAdd s frame) (q.add [frame]) := by
  obtain ⟨bytes, hr, hc, hu⟩ := h
  have hu' := hu.append_singleton hf
  have hlen : bytes.contents.length = q.contents.length * conf.frameLength := by
    rw [hc, hu.length_flatten]
  have hroom : conf.frameLength ∣ conf.mirrorSize ∨
      q.contents.length * conf.frameLength + conf.frameLength ≤ conf.mirrorSize := by
    rcases ha with ha | ⟨rb, rfl, ha⟩
    · exact .inl ha
    · obtain ⟨rb', he, _, hsz, hcont⟩ := hr
      cases he
      rw [← rb.length_contents, hcont, hlen, hsz] at ha
      exact .inr ha
  have hone : [frame].length ≤ conf.mirrorSize / conf.frameLength := by
    rw [List.length_singleton, Nat.le_div_iff_mul_le hl, Nat.one_mul]
    exact hle
  refine ⟨bytes.add frame, hr.add frame, ?_, ?_⟩
  · have hflat : bytes.contents ++ frame = (q.contents ++ [frame]).flatten := by
      rw [hc, List.flatten_append, List.flatten_singleton]
    rw [bytes.add_contents (by rw [hf]; exact hle), q.add_contents hone, hflat, hlen, hf,
      min_frames hl hroom, hu'.lastN_flatten, List.length_singleton]
  · rw [q.add_contents hone]
    exact hu'.of_subset (List.drop_sublist _ _).subset

theorem HoldsFrames.tx (h : HoldsFrames conf s q) (hl : 0 < conf.frameLength) :
    HoldsFrames conf (mirrorTxPass conf s).1 (q.fetch (conf.mirrorSize / conf.frameLength)).1 ∧
      (mirrorTxPass conf s).2 = (q.fetch (conf.mirrorSize / conf.frameLength)).2 := by
  obtain ⟨bytes, hr, hc, hu⟩ := h
  obtain ⟨hr', ho⟩ := hr.fetch conf.mirrorSize
  have hsize := Nat.mod_eq_of_lt (mirrorSize_lt hr)
  simp only [mirrorTxPass, hsize]
  constructor
  · refine ⟨_, hr', ?_, ?_⟩
    · rw [bytes.fetch_all_contents, q.fetch_all_contents, List.flatten_nil]
    · rw [q.fetch_all_contents]
      exact fun _ hx => absurd hx List.not_mem_nil
  · rw [ho, bytes.fetch_all, hc, q.fetch_all]
    exact hu.blocks_flatten hl

theorem mirror_simulates (hl : 0 < conf.frameLength) (hle : conf.frameLength ≤ conf.mirrorSize) :
    Machine.Simulates (mirrorSystem conf)
      (frameQueueSystem (conf.mirrorSize / conf.frameLength))
      (fun s e => e.Whole conf ∧ MirrorAligned conf s e) (HoldsFrames conf) where
  related {s q e} h he := by
    cases e with
    | rx frame => exact h.rx hl hle he.1 he.2
    | tx => exact (h.tx hl).1
  observed {s q e} h he := by
    cases e with
    | rx frame => rfl
    | tx => exact (h.tx hl).2

theorem mirror_run_rx {frames : List (List UInt8)} {bytes : Queue UInt8 conf.mirrorSize}
    (hr : Represents s bytes) (hb : bytes.contents = lastN conf.mirrorSize xs)
    (hf : ∀ f ∈ frames, f.length ≤ conf.mirrorSize) :
    ∃ bytes' : Queue UInt8 conf.mirrorSize,
      Represents ((mirrorSystem conf).run s (frames.map .rx)).1 bytes' ∧
      bytes'.contents = lastN conf.mirrorSize (xs ++ frames.flatten) := by
  induction frames generalizing s bytes xs with
  | nil => exact ⟨bytes, hr, by rw [List.flatten_nil, List.append_nil, hb]⟩
  | cons f frames ih =>
    have hstep := bytes.add_lastN hb (hf f List.mem_cons_self)
    obtain ⟨bytes', hr', hb'⟩ := ih (hr.add f) hstep fun g hg => hf g (List.mem_cons_of_mem _ hg)
    refine ⟨bytes', hr', ?_⟩
    rw [hb', List.flatten_cons, List.append_assoc]

def markedFrame (len : Nat) : List UInt8 := 1 :: List.replicate (len - 1) 0

/-- One frame more than the buffer can hold, then a Tx pass. -/
def overflowRun (conf : TrafficClassConfig) : List MirrorEvent :=
  (List.replicate (conf.mirrorSize / conf.frameLength + 1) (markedFrame conf.frameLength)).map
    .rx ++ [.tx]

theorem length_markedFrame (hl : 0 < len) : (markedFrame len).length = len := by
  simp only [markedFrame, List.length_cons, List.length_replicate]
  omega

theorem addedFrames_append (es fs : List MirrorEvent) :
    addedFrames (es ++ fs) = addedFrames es ++ addedFrames fs := by
  induction es with
  | nil => rfl
  | cons e es ih => cases e <;> simp only [List.cons_append, addedFrames, ih]

theorem addedFrames_map_rx (frames : List (List UInt8)) :
    addedFrames (frames.map .rx) = frames := by
  induction frames with
  | nil => rfl
  | cons f frames ih => rw [List.map_cons, addedFrames, ih]

theorem overflowRun_whole (hl : 0 < conf.frameLength) :
    ∀ e ∈ overflowRun conf, e.Whole conf := by
  intro e he
  rcases List.mem_append.mp he with he | he
  · obtain ⟨f, hf, rfl⟩ := List.mem_map.mp he
    rw [List.eq_of_mem_replicate hf]
    exact length_markedFrame hl
  · rw [List.mem_singleton.mp he]
    trivial

theorem markedFrame_getElem? (hi : 0 < i) (hl : i < len) : (markedFrame len)[i]? = some 0 := by
  obtain ⟨i, rfl⟩ := Nat.exists_eq_succ_of_ne_zero (Nat.ne_of_gt hi)
  rw [markedFrame, List.getElem?_cons_succ, List.getElem?_replicate, if_pos (by omega)]

theorem overflow_head (hl : 0 < len) (hnd : ¬ len ∣ size) :
    (lastN size (List.replicate (size / len + 1) (markedFrame len)).flatten)[0]? = some 0 := by
  have hu : Uniform len (List.replicate (size / len + 1) (markedFrame len)) := by
    intro f hf
    rw [List.eq_of_mem_replicate hf, length_markedFrame hl]
  have hmod : 0 < size % len := Nat.pos_of_ne_zero fun h => hnd (Nat.dvd_of_mod_eq_zero h)
  have hlt := Nat.mod_lt size hl
  have hdm := Nat.div_add_mod' size len
  have hflat := hu.length_flatten
  rw [List.length_replicate, Nat.succ_mul] at hflat
  rw [getElem?_lastN, Nat.add_zero, hflat, List.replicate_succ, List.flatten_cons,
    List.getElem?_append_left (by rw [length_markedFrame hl]; omega)]
  exact markedFrame_getElem? (by omega) (by omega)

theorem mirrorTxPass_head (hl : 0 < conf.frameLength) {bytes : Queue UInt8 conf.mirrorSize}
    (hr : Represents s bytes) (hlen : conf.frameLength ≤ bytes.contents.length) :
    ∃ block ∈ (mirrorTxPass conf s).2, block[0]? = bytes.contents[0]? := by
  have hsize := Nat.mod_eq_of_lt (mirrorSize_lt hr)
  have ho := (hr.fetch conf.mirrorSize).2
  rw [bytes.fetch_all] at ho
  refine ⟨slice bytes.contents 0 conf.frameLength, ?_, ?_⟩
  · simp only [mirrorTxPass, hsize, ho]
    refine List.mem_map.mpr ⟨0, ?_, by rw [Nat.zero_mul]⟩
    exact List.mem_range.mpr (Nat.div_pos hlen hl)
  · rw [getElem?_slice, if_pos hl, Nat.add_zero]

/-- If frames do not fill the buffer evenly, an overflow cuts a frame in two and the next pass
sends a block that nobody added. -/
theorem overflowRun_breaks (hl : 0 < conf.frameLength)
    (hle : conf.frameLength ≤ conf.mirrorSize) (hnd : ¬ conf.frameLength ∣ conf.mirrorSize)
    (hr : Represents s (Queue.empty : Queue UInt8 conf.mirrorSize)) :
    ∃ block ∈ ((mirrorSystem conf).run s (overflowRun conf)).2.flatten,
      block ∉ addedFrames (overflowRun conf) := by
  let frames := List.replicate (conf.mirrorSize / conf.frameLength + 1)
    (markedFrame conf.frameLength)
  have hu : Uniform conf.frameLength frames := by
    intro f hf
    rw [List.eq_of_mem_replicate hf, length_markedFrame hl]
  have hempty : (Queue.empty : Queue UInt8 conf.mirrorSize).contents =
      lastN conf.mirrorSize [] := by rw [lastN, List.drop_nil]; rfl
  obtain ⟨bytes, hr', hb⟩ := mirror_run_rx hr hempty fun f hf => by
    rw [hu f hf]
    exact hle
  have hlen : conf.frameLength ≤ bytes.contents.length := by
    have hdm := Nat.lt_div_mul_add (a := conf.mirrorSize) hl
    rw [hb, length_lastN, List.nil_append, hu.length_flatten, List.length_replicate,
      Nat.succ_mul]
    omega
  obtain ⟨block, hmem, hhead⟩ := mirrorTxPass_head hl hr' hlen
  refine ⟨block, ?_, ?_⟩
  · rw [overflowRun, Machine.System.run_append, List.flatten_append]
    refine List.mem_append_right _ ?_
    rw [Machine.System.run_cons, List.flatten_cons]
    exact List.mem_append_left _ hmem
  · intro hadded
    rw [overflowRun, addedFrames_append, addedFrames_map_rx, addedFrames, addedFrames,
      List.append_nil] at hadded
    rw [List.eq_of_mem_replicate hadded, hb, List.nil_append, overflow_head hl hnd] at hhead
    cases hhead

theorem mirror_run_integrity (hl : 0 < conf.frameLength)
    (hle : conf.frameLength ≤ conf.mirrorSize)
    (hr : Represents s (Queue.empty : Queue UInt8 conf.mirrorSize))
    (ha : (mirrorSystem conf).Along (fun s e => e.Whole conf ∧ MirrorAligned conf s e) s es) :
    MirrorIntegrity conf es ((mirrorSystem conf).run s es).2 := by
  have hh : HoldsFrames conf s Queue.empty :=
    ⟨_, hr, rfl, fun _ hx => absurd hx List.not_mem_nil⟩
  obtain ⟨_, ho⟩ := (mirror_simulates hl hle).run hh ha
  refine ⟨?_, ho⟩
  rw [ho]
  exact frameQueue_sublist Queue.empty es

variable {build : BuildConfig} {app : AppConfig} {ctx : ThreadContext} {source : MacAddress}
  {securityInit : SecurityAlgorithm → List UInt8 → Aead.Cipher}

theorem minFrameSize_pos (conf : TrafficClassConfig) (frameType : StatFrameType) :
    0 < minFrameSize conf frameType := by
  cases frameType <;> simp only [minFrameSize, profinetMinFrameSize] <;> first | split | skip
  all_goals decide

/-- The buffer a class starts with. -/
theorem threadsCreate_mirrorBuffer (hs : configSanityCheck build app = true)
    (hc : threadsCreate securityInit app frameType source = some ctx)
    (hb : ctx.mirrorBuffer = some rb) :
    0 < ctx.conf.frameLength ∧ ctx.conf.frameLength ≤ ctx.conf.mirrorSize ∧
      Represents (some rb) (Queue.empty : Queue UInt8 ctx.conf.mirrorSize) := by
  have hcr := threadsCreate_created hc
  have hn := configIsTcActive_pos (threadsCreate_active hc)
  obtain ⟨hmax, hmin⟩ := configSanityCheck_frameLength hs frameType
  have hpos := minFrameSize_pos (app.classes frameType) frameType
  rw [hcr.conf_eq]
  have hl : 0 < (app.classes frameType).frameLength := by omega
  have hle : (app.classes frameType).frameLength ≤ (app.classes frameType).mirrorSize :=
    Nat.le_trans hmax (Nat.le_mul_of_pos_right _ hn)
  exact ⟨hl, hle, ringBufferAllocate_represents (Nat.lt_of_lt_of_le hl hle)
    (hcr.mirrorBuffer_eq rb hb)⟩

/-- Every run whose additions find the buffer aligned mirrors faithfully, and all runs do exactly
if a whole number of frames fills the buffer. -/
theorem mirror_integrity (hs : configSanityCheck build app = true)
    (hc : threadsCreate securityInit app frameType source = some ctx)
    (hb : ctx.mirrorBuffer = some rb) :
    (∀ es, (∀ e ∈ es, e.Whole ctx.conf) →
      (mirrorSystem ctx.conf).Along (MirrorAligned ctx.conf) (some rb) es →
      MirrorIntegrity ctx.conf es ((mirrorSystem ctx.conf).run (some rb) es).2) ∧
    ((∀ es, (∀ e ∈ es, e.Whole ctx.conf) →
        MirrorIntegrity ctx.conf es ((mirrorSystem ctx.conf).run (some rb) es).2) ↔
      ctx.conf.frameLength ∣ maxFrameSize * ctx.conf.numFramesPerCycle.toNat) := by
  obtain ⟨hl, hle, hr⟩ := threadsCreate_mirrorBuffer hs hc hb
  refine ⟨fun es hw ha => mirror_run_integrity hl hle hr (ha.and_forall hw), ?_, ?_⟩
  · intro h
    by_contra hnd
    obtain ⟨block, hsent, hnot⟩ := overflowRun_breaks hl hle hnd hr
    exact hnot ((h _ (overflowRun_whole hl)).sublist.subset hsent)
  · intro hd es hw
    refine mirror_run_integrity hl hle hr (Machine.System.along_of_forall _ ?_ _)
    intro s e he
    refine ⟨hw e he, ?_⟩
    cases e with
    | rx frame => exact .inl hd
    | tx => trivial

def dcpMirrorConfig (frameLength : Nat) : AppConfig :=
  (configSetDefaults true).setClass .dcp fun c => { c with enabled := true, frameLength }

theorem dcpMirror_created (frameLength : Nat) :
    ∃ ctx rb, threadsCreate chachaInit (dcpMirrorConfig frameLength) .dcp defaultDestination =
        some ctx ∧ ctx.mirrorBuffer = some rb ∧
      ctx.conf = (dcpMirrorConfig frameLength).classes .dcp := by
  let conf := (dcpMirrorConfig frameLength).classes .dcp
  have hn : (1 : UInt64).toNat * maxFrameSize ≤ ptrdiffMax := by decide
  obtain ⟨ctx, rb, hc, hb⟩ := tcThreadsCreate_mirror chachaInit .dcp defaultDestination
    (show conf.xdpEnabled = false from rfl) rfl hn
  exact ⟨ctx, rb, hc, hb, (tcThreadsCreate_created hc).conf_eq⟩

/-- Frames of 1024 bytes fill the buffer evenly: every interleaving mirrors faithfully. -/
theorem mirror_integrity_aligned :
    ∃ ctx rb, threadsCreate chachaInit (dcpMirrorConfig 1024) .dcp defaultDestination =
        some ctx ∧ ctx.mirrorBuffer = some rb ∧
      ∀ es, (∀ e ∈ es, e.Whole ctx.conf) →
        MirrorIntegrity ctx.conf es ((mirrorSystem ctx.conf).run (some rb) es).2 := by
  obtain ⟨ctx, rb, hc, hb, hconf⟩ := dcpMirror_created 1024
  have hs : configSanityCheck fullBuild (dcpMirrorConfig 1024) = true := by decide
  refine ⟨ctx, rb, hc, hb, (mirror_integrity hs hc hb).2.mpr ?_⟩
  rw [hconf]
  decide

/-- With frames of 1500 bytes three additions in a row make the next pass send a block that is
none of the frames added. -/
theorem mirror_splits_frame :
    configSanityCheck fullBuild (dcpMirrorConfig 1500) = true ∧
    ∃ ctx rb, threadsCreate chachaInit (dcpMirrorConfig 1500) .dcp defaultDestination =
        some ctx ∧ ctx.mirrorBuffer = some rb ∧
      overflowRun ctx.conf = [.rx (markedFrame 1500), .rx (markedFrame 1500),
        .rx (markedFrame 1500), .tx] ∧
      ∃ block ∈ ((mirrorSystem ctx.conf).run (some rb) (overflowRun ctx.conf)).2.flatten,
        block ≠ markedFrame 1500 := by
  obtain ⟨ctx, rb, hc, hb, hconf⟩ := dcpMirror_created 1500
  have hs : configSanityCheck fullBuild (dcpMirrorConfig 1500) = true := by decide
  refine ⟨hs, ctx, rb, hc, hb, by rw [hconf]; rfl, ?_⟩
  obtain ⟨hl, hle, hr⟩ := threadsCreate_mirrorBuffer hs hc hb
  obtain ⟨block, hsent, hnot⟩ := overflowRun_breaks hl hle (by rw [hconf]; decide) hr
  refine ⟨block, hsent, ?_⟩
  rintro rfl
  refine hnot ?_
  rw [hconf]
  exact List.mem_cons_self

end RtcTestbench
