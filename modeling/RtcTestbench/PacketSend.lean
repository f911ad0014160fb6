import RtcTestbench.LaunchTime

namespace RtcTestbench
open Machine
set_option autoImplicit true

/-- `struct packet_send_request`. The memory around `frame_data` is addressed by the distance from
it, and `now` is what the clock reads when frame `idx` is prepared. -/
structure PacketSendRequest where
  mem : Int → UInt8
  numFrames : Nat
  frameLength : Nat
  duration : UInt64
  opts : TxTimeOptions
  metaDataOffset : Nat
  mirrorEnabled : Bool
  txTimeEnabled : Bool
  txHwtstampEnabled : Bool
  now : Nat → UInt64

/-- An entry of `tx_msgs`: where its frame is, and the launch time and the time stamp request among
its control messages. -/
structure PacketMessage where
  base : Int
  length : Nat
  txTime : Option UInt64
  timestamping : Bool
  deriving DecidableEq

section Request
variable (n : UInt64) (req : PacketSendRequest)

def PacketSendRequest.bytes (base : Int) (len : Nat) : List UInt8 :=
  (List.range len).map fun i => req.mem (base + i)

def PacketSendRequest.sequenceCounter (base : Int) : UInt64 :=
  getSequenceCounter (req.bytes base (req.metaDataOffset + sizeofReferenceMetaData))
    req.metaDataOffset n

/-- The test of `packet_send_messages`, by the counter in the frame. -/
def packetWantsTimestamp (sequenceCounter : UInt64) : Bool :=
  let frameInCycle := sequenceCounter % n
  frameInCycle = 0 || frameInCycle = n - 1

/-- The message for the frame at `base`. -/
def PacketSendRequest.messageFor (base : Int) (now : UInt64) : PacketMessage :=
  let sequenceCounter := req.sequenceCounter n base
  { base
    length := req.frameLength
    txTime := if req.txTimeEnabled then
      some (txTimeGetFrameTxTime req.opts sequenceCounter req.duration n now) else none
    timestamping := req.txHwtstampEnabled && packetWantsTimestamp n sequenceCounter }

/-- The body of the loop that fills the array, for frame number `sent + i`. -/
def PacketSendRequest.message (number : Nat) : PacketMessage :=
  let idx := cInt number
  let frame := if req.mirrorEnabled then idx * req.frameLength else frameIdx idx
  req.messageFor n frame (req.now number)

def PacketSendRequest.fill (sent toBeSent : Nat) (msgs : List PacketMessage) :
    List PacketMessage :=
  (List.range toBeSent).foldl (fun msgs i => msgs.set i (req.message n (sent + i))) msgs

end Request

/-- What `sendmmsg` returns: a number of messages, or -1 with an error number. -/
inductive SendResult where
  | accepted (len : Nat)
  | failed (errno : Nat)
  deriving DecidableEq

/-- The locals of `packet_send_messages` at its next call of `sendmmsg`, with the array of the
context, or its return value. -/
structure SendLoop where
  sent : Nat
  toBeSent : Nat
  innerSent : Nat
  msgs : List PacketMessage
  returned : Option Int

/-- The head of the outer loop and the loop that fills the array. -/
def SendLoop.next (n : UInt64) (req : PacketSendRequest) (st : SendLoop) : SendLoop :=
  if st.sent < req.numFrames then
    let toBeSent := min (req.numFrames - st.sent) n.toNat
    { st with toBeSent, innerSent := 0, msgs := req.fill n st.sent toBeSent st.msgs }
  else { st with toBeSent := 0, innerSent := 0, returned := some (cInt st.sent) }

/-- `packet_send_messages` between two calls of `sendmmsg`; what is observed are the messages the
kernel takes. -/
def packetSend (n : UInt64) (req : PacketSendRequest) :
    System SendLoop SendResult (List PacketMessage) where
  step st result :=
    match st.returned, result with
    | some _, _ => (st, [])
    | none, .failed errno => ({ st with returned := some (-errno) }, [])
    | none, .accepted len =>
      let innerSent := st.innerSent + len
      let taken := Buffer.slice st.msgs st.innerSent len
      if innerSent < st.toBeSent then ({ st with innerSent }, taken)
      else (({ st with sent := st.sent + innerSent }).next n req, taken)

def SendLoop.start (n : UInt64) (req : PacketSendRequest) (msgs : List PacketMessage) : SendLoop :=
  SendLoop.next n req ⟨0, 0, 0, msgs, none⟩

/-- The kernel takes at least one message and no more than it is offered. -/
def TakesSome (st : SendLoop) (result : SendResult) : Prop :=
  st.returned = none → ∃ len, result = .accepted len ∧ 1 ≤ len ∧ len ≤ st.toBeSent - st.innerSent

/-- Frame `i` of the request, with its own control data. -/
def PacketSendRequest.frame (n : UInt64) (req : PacketSendRequest) (i : Nat) : PacketMessage :=
  let stride := if req.mirrorEnabled then req.frameLength else maxFrameSize
  req.messageFor n (i * stride) (req.now i)

variable {n : UInt64} {req : PacketSendRequest} {st : SendLoop} {msgs : List PacketMessage}

theorem length_fill (sent toBeSent : Nat) (msgs : List PacketMessage) :
    (req.fill n sent toBeSent msgs).length = msgs.length := by
  rw [PacketSendRequest.fill]
  induction toBeSent with
  | zero => rfl
  | succ k ih => rw [List.range_succ, List.foldl_append, List.foldl_cons, List.foldl_nil,
      List.length_set, ih]

theorem getElem?_fill (hk : toBeSent ≤ msgs.length) (hi : i < toBeSent) :
    (req.fill n sent toBeSent msgs)[i]? = some (req.message n (sent + i)) := by
  induction toBeSent with
  | zero => cases hi
  | succ k ih =>
    have hstep : req.fill n sent (k + 1) msgs =
        (req.fill n sent k msgs).set k (req.message n (sent + k)) := by
      rw [PacketSendRequest.fill, List.range_succ, List.foldl_append]
      rfl
    rw [hstep, List.getElem?_set, length_fill]
    by_cases hik : k = i
    · rw [if_pos hik, if_pos (by omega), hik]
    · rw [if_neg hik]
      exact ih (by omega) (by omega)

/-- The number of messages taken so far. -/
def SendLoop.done (st : SendLoop) : Nat := st.sent + st.innerSent

/-- The array holds the messages of the current chunk, of which some are left. -/
structure SendLoop.Running (n : UInt64) (req : PacketSendRequest) (st : SendLoop) : Prop where
  returned_eq : st.returned = none
  left : st.innerSent < st.toBeSent
  chunk : st.sent + st.toBeSent ≤ req.numFrames
  length_eq : st.msgs.length = n.toNat
  filled : ∀ i < st.toBeSent, st.msgs[i]? = some (req.message n (st.sent + i))

structure SendLoop.Finished (req : PacketSendRequest) (st : SendLoop) : Prop where
  returned_eq : st.returned = some (cInt req.numFrames)
  done_eq : st.done = req.numFrames

theorem SendLoop.next_spec (hn : 1 ≤ n.toNat) (hmsgs : st.msgs.length = n.toNat)
    (hret : st.returned = none) (hle : st.sent ≤ req.numFrames) :
    (st.next n req).done = st.sent ∧
      ((st.next n req).Running n req ∨ (st.next n req).Finished req) := by
  rw [SendLoop.next]
  by_cases hlt : st.sent < req.numFrames
  · rw [if_pos hlt]
    refine ⟨rfl, .inl ⟨hret, ?_, ?_, (length_fill _ _ _).trans hmsgs, ?_⟩⟩
    · dsimp only
      omega
    · dsimp only
      omega
    · intro i hi
      exact getElem?_fill (by rw [hmsgs]; exact Nat.min_le_right _ _) hi
  · rw [if_neg hlt]
    have heq : st.sent = req.numFrames := by omega
    refine ⟨rfl, .inr ⟨?_, heq⟩⟩
    rw [heq]

theorem SendLoop.Running.taken (h : st.Running n req) (hlen : len ≤ st.toBeSent - st.innerSent) :
    Buffer.slice st.msgs st.innerSent len = (List.range' st.done len).map (req.message n) := by
  apply List.ext_getElem?
  intro i
  rw [Buffer.getElem?_slice, List.getElem?_map]
  by_cases hi : i < len
  · rw [if_pos hi, h.filled _ (by omega), List.getElem?_range' hi, Option.map_some,
      SendLoop.done, Nat.one_mul, Nat.add_assoc]
  · rw [if_neg hi, List.getElem?_eq_none (by rw [List.length_range']; omega), Option.map_none]

theorem packetSend_accepted (hn : 1 ≤ n.toNat) (h : st.Running n req) (hpos : 1 ≤ len)
    (hlen : len ≤ st.toBeSent - st.innerSent) :
    let r := (packetSend n req).step st (.accepted len)
    r.2 = (List.range' st.done len).map (req.message n) ∧ r.1.done = st.done + len ∧
      (r.1.Running n req ∨ r.1.Finished req) := by
  intro r
  have htaken := h.taken hlen
  have hr : r = if st.innerSent + len < st.toBeSent then
      ({ st with innerSent := st.innerSent + len }, Buffer.slice st.msgs st.innerSent len)
      else (SendLoop.next n req { st with sent := st.sent + (st.innerSent + len) },
        Buffer.slice st.msgs st.innerSent len) := by
    simp only [r, packetSend, h.returned_eq]
  have hchunk := h.chunk
  rw [hr]
  by_cases hlt : st.innerSent + len < st.toBeSent
  · rw [if_pos hlt]
    refine ⟨htaken, (Nat.add_assoc _ _ _).symm, .inl ?_⟩
    exact ⟨h.returned_eq, hlt, h.chunk, h.length_eq, h.filled⟩
  · rw [if_neg hlt]
    obtain ⟨hdone, hnext⟩ := @SendLoop.next_spec n req
      { st with sent := st.sent + (st.innerSent + len) } hn h.length_eq h.returned_eq
      (by dsimp only; omega)
    exact ⟨htaken, hdone.trans (Nat.add_assoc _ _ _).symm, hnext⟩

theorem packetSend_returned (h : st.returned = some v) (results : List SendResult) :
    ((packetSend n req).run st results).1 = st ∧
      ((packetSend n req).run st results).2.flatten = [] := by
  induction results with
  | nil => exact ⟨rfl, rfl⟩
  | cons result results ih =>
    have hstep : (packetSend n req).step st result = (st, []) := by
      simp only [packetSend, h]
    rw [System.run_cons, hstep]
    exact ⟨ih.1, ih.2⟩

/-- As long as the kernel takes something, the frames leave one after the other, and the call
returns after the last one. -/
theorem packetSend_run (hn : 1 ≤ n.toNat) {results : List SendResult}
    (h : st.Running n req ∨ st.Finished req)
    (hsome : (packetSend n req).Along TakesSome st results) :
    ∃ k, ((packetSend n req).run st results).2.flatten =
        (List.range' st.done k).map (req.message n) ∧
      ((packetSend n req).run st results).1.done = st.done + k ∧
      (((packetSend n req).run st results).1.Running n req ∧ results.length ≤ k ∨
        ((packetSend n req).run st results).1.Finished req) := by
  induction results generalizing st with
  | nil => exact ⟨0, rfl, rfl, h.imp (fun h => ⟨h, Nat.le_refl 0⟩) id⟩
  | cons result results ih =>
    rcases h with h | h
    · obtain ⟨len, rfl, hpos, hlen⟩ := hsome.1 h.returned_eq
      obtain ⟨htaken, hdone, hnext⟩ := packetSend_accepted hn h hpos hlen
      obtain ⟨k, hflat, hdone', hstate⟩ := ih hnext hsome.2
      rw [hdone] at hflat hdone'
      refine ⟨len + k, ?_, ?_, ?_⟩
      · rw [System.run_cons, List.flatten_cons, htaken, hflat, ← List.map_append,
          List.range'_append_1]
      · rw [← Nat.add_assoc]
        exact hdone'
      · refine hstate.imp (fun hrun => ⟨hrun.1, ?_⟩) id
        rw [List.length_cons]
        omega
    · have hreturned : ((packetSend n req).run st (result :: results)).1 = st ∧
          ((packetSend n req).run st (result :: results)).2.flatten = [] :=
        packetSend_returned h.returned_eq _
      obtain ⟨hstay, hnone⟩ := hreturned
      refine ⟨0, ?_, ?_, .inr ?_⟩
      · rw [hnone]
        rfl
      · rw [hstay]
        rfl
      · rw [hstay]
        exact h

theorem SendLoop.start_spec (req : PacketSendRequest) (hn : 1 ≤ n.toNat)
    (hmsgs : msgs.length = n.toNat) :
    (SendLoop.start n req msgs).done = 0 ∧
      ((SendLoop.start n req msgs).Running n req ∨ (SendLoop.start n req msgs).Finished req) :=
  SendLoop.next_spec hn hmsgs rfl (Nat.zero_le _)

/-- The call returns after at most one `sendmmsg` for each frame. -/
theorem packetSend_terminates (hn : 1 ≤ n.toNat) (hmsgs : msgs.length = n.toNat)
    {results : Nat → SendResult}
    (hsome : ∀ N, (packetSend n req).Along TakesSome (SendLoop.start n req msgs)
      ((List.range N).map results)) :
    ((packetSend n req).run (SendLoop.start n req msgs)
      ((List.range req.numFrames).map results)).1.Finished req := by
  obtain ⟨hdone, hstart⟩ := SendLoop.start_spec req hn hmsgs
  obtain ⟨k, -, hdone', hrun | hfinished⟩ := packetSend_run hn hstart (hsome req.numFrames)
  · obtain ⟨hrunning, hlength⟩ := hrun
    rw [List.length_map, List.length_range] at hlength
    rw [SendLoop.done, hdone] at hdone'
    have hleft := hrunning.left
    have hchunk := hrunning.chunk
    omega
  · exact hfinished

/-- Whenever the call has returned without an error, all messages were taken in order. -/
theorem packetSend_messages (hn : 1 ≤ n.toNat) (hmsgs : msgs.length = n.toNat)
    {results : List SendResult}
    (hsome : (packetSend n req).Along TakesSome (SendLoop.start n req msgs) results)
    (hreturned : ((packetSend n req).run (SendLoop.start n req msgs) results).1.returned ≠ none) :
    ((packetSend n req).run (SendLoop.start n req msgs) results).2.flatten =
      (List.range req.numFrames).map (req.message n) := by
  obtain ⟨hdone, hstart⟩ := SendLoop.start_spec req hn hmsgs
  obtain ⟨k, hflat, hdone', hrun | hfinished⟩ := packetSend_run hn hstart hsome
  · exact absurd hrun.1.returned_eq hreturned
  · rw [hdone, hfinished.done_eq, Nat.zero_add] at hdone'
    rw [hflat, hdone, ← hdone', List.range_eq_range']

theorem cInt_lt (x : Int) : cInt x < 2 ^ 31 := by
  rw [cInt, Int.bmod_def]
  split
  · omega
  · omega

theorem base_messageFor (base : Int) (now : UInt64) :
    (req.messageFor n base now).base = base := rfl

/-- In the layout with one frame in each 4096 bytes the distance of a frame has to be an `int`. -/
theorem message_eq_frame_iff (hi : i < 2 ^ 31) :
    req.message n i = req.frame n i ↔ req.mirrorEnabled = true ∨ i < 2 ^ 19 := by
  have hidx := cInt_of_lt hi
  rw [PacketSendRequest.message, PacketSendRequest.frame, hidx]
  cases hm : req.mirrorEnabled with
  | true => simp
  | false =>
    simp only [Bool.false_eq_true, if_false, false_or]
    constructor
    · intro h
      have hbase := congrArg PacketMessage.base h
      rw [base_messageFor, base_messageFor, frameIdx, cInt, Int.bmod_def] at hbase
      simp only [maxFrameSize] at hbase
      omega
    · intro hlt
      have hbase : frameIdx i = (i : Int) * maxFrameSize := by
        rw [frameIdx, ← Int.natCast_mul]
        exact cInt_of_lt (by simp only [maxFrameSize]; omega)
      rw [hbase]

theorem messages_eq_frames_iff (n : UInt64) (hframes : req.numFrames < 2 ^ 31) :
    (List.range req.numFrames).map (req.message n) =
        (List.range req.numFrames).map (req.frame n) ↔
      req.mirrorEnabled = true ∨ req.numFrames ≤ 2 ^ 19 := by
  rw [List.map_inj_left]
  constructor
  · intro h
    by_contra hnot
    obtain ⟨hmirror, hmany⟩ := not_or.mp hnot
    have hlast := h (2 ^ 19) (List.mem_range.mpr (by omega))
    rcases (message_eq_frame_iff (by omega)).mp hlast with hm | hlt
    · exact hmirror hm
    · omega
  · intro h i hi
    have hi := List.mem_range.mp hi
    refine (message_eq_frame_iff (by omega)).mpr (h.imp id fun hle => ?_)
    omega

/-- However the kernel takes the messages, the call returns, and every frame was sent once and in
order, exactly if the frames are those of the mirror or at most 2 ^ 19. -/
theorem messages_sent_in_order (n : UInt64) (hn : 1 ≤ n.toNat) (req : PacketSendRequest)
    (hframes : req.numFrames < 2 ^ 31) (msgs : List PacketMessage) (hmsgs : msgs.length = n.toNat)
    (results : Nat → SendResult)
    (hsome : ∀ N, (packetSend n req).Along TakesSome (SendLoop.start n req msgs)
      ((List.range N).map results)) :
    (∃ N ≤ req.numFrames,
      let r := (packetSend n req).run (SendLoop.start n req msgs) ((List.range N).map results)
      r.2.flatten = (List.range req.numFrames).map (req.frame n) ∧
        r.1.returned = some (req.numFrames : Int)) ↔
    req.mirrorEnabled = true ∨ req.numFrames ≤ 2 ^ 19 := by
  rw [← messages_eq_frames_iff n hframes]
  constructor
  · rintro ⟨N, -, hflat, hreturned⟩
    rw [← hflat]
    exact (packetSend_messages hn hmsgs (hsome N) (by rw [hreturned]; nofun)).symm
  · intro heq
    have hfinished := packetSend_terminates hn hmsgs hsome
    refine ⟨req.numFrames, Nat.le_refl _, ?_, ?_⟩
    · rw [← heq]
      exact packetSend_messages hn hmsgs (hsome _) (by rw [hfinished.returned_eq]; nofun)
    · rw [hfinished.returned_eq, cInt_of_lt hframes]

/-- A kernel that takes the messages one by one. -/
theorem along_one_by_one (hn : 1 ≤ n.toNat) (h : st.Running n req ∨ st.Finished req) (N : Nat) :
    (packetSend n req).Along TakesSome st ((List.range N).map fun _ => .accepted 1) := by
  rw [List.map_const', List.length_range]
  induction N generalizing st with
  | zero => trivial
  | succ N ih =>
    rcases h with h | h
    · have hleft := h.left
      refine ⟨fun _ => ⟨1, rfl, Nat.le_refl 1, by omega⟩, ih ?_⟩
      exact (packetSend_accepted hn h (Nat.le_refl 1) (by omega)).2.2
    · have hstep : (packetSend n req).step st (.accepted 1) = (st, []) := by
        simp only [packetSend, h.returned_eq]
      refine ⟨fun hnone => ?_, ih ?_⟩
      · rw [h.returned_eq] at hnone
        cases hnone
      · rw [hstep]
        exact .inr h

def plainRequest (numFrames : Nat) (mirrorEnabled : Bool) : PacketSendRequest where
  mem := fun _ => 0
  numFrames
  frameLength := 128
  duration := 1024
  opts := ⟨0, 1000000, 250000, 1000⟩
  metaDataOffset := 20
  mirrorEnabled
  txTimeEnabled := true
  txHwtstampEnabled := false
  now := fun _ => 1700000000000000000

def emptyMessages (n : UInt64) : List PacketMessage := List.replicate n.toNat ⟨0, 0, none, false⟩

theorem plainRequest_one_by_one (n : UInt64) (hn : 1 ≤ n.toNat) (numFrames : Nat)
    (mirrorEnabled : Bool) (N : Nat) :
    (packetSend n (plainRequest numFrames mirrorEnabled)).Along TakesSome
      (SendLoop.start n (plainRequest numFrames mirrorEnabled) (emptyMessages n))
      ((List.range N).map fun _ => .accepted 1) :=
  along_one_by_one hn (SendLoop.start_spec _ hn List.length_replicate).2 N

/-- Five frames of the mirror in chunks of two. -/
theorem messages_sent_in_order_chunks :
    ∃ N ≤ 5,
      let r := (packetSend 2 (plainRequest 5 true)).run
        (SendLoop.start 2 (plainRequest 5 true) (emptyMessages 2))
        ((List.range N).map fun _ => .accepted 1)
      r.2.flatten = (List.range 5).map ((plainRequest 5 true).frame 2) ∧ r.1.returned = some 5 :=
  (messages_sent_in_order 2 (by decide) (plainRequest 5 true) (by decide) (emptyMessages 2)
    List.length_replicate _ (plainRequest_one_by_one 2 (by decide) 5 true)).mpr (.inl rfl)

/-- Frame 2 ^ 19 of a cycle is taken from 2 GiB before the buffer. -/
theorem messages_sent_in_order_overflow :
    let n : UInt64 := 524289
    let req := plainRequest 524289 false
    ¬ (∃ N ≤ req.numFrames,
      let r := (packetSend n req).run (SendLoop.start n req (emptyMessages n))
        ((List.range N).map fun _ => .accepted 1)
      r.2.flatten = (List.range req.numFrames).map (req.frame n) ∧
        r.1.returned = some (req.numFrames : Int)) ∧
      (req.message n 524288).base = -2147483648 := by
  intro n req
  refine ⟨?_, by decide⟩
  rintro ⟨N, -, hflat, hreturned⟩
  have hmessages := packetSend_messages (show 1 ≤ n.toNat by decide)
    (show (emptyMessages n).length = _ from List.length_replicate)
    (plainRequest_one_by_one n (by decide) 524289 false N) (by rw [hreturned]; nofun)
  rw [hflat] at hmessages
  rcases (messages_eq_frames_iff n (by decide)).mp hmessages.symm with hm | hle
  · cases hm
  · exact absurd hle (by decide)

end RtcTestbench
