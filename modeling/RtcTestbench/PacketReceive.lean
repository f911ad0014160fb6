import RtcTestbench.ConfigFile
import RtcTestbench.InPlace
import RtcTestbench.Lib.HostWord
import RtcTestbench.Lib.Slots
import RtcTestbench.LogReport
import RtcTestbench.Timespec

namespace RtcTestbench
open Buffer Machine Slots
set_option autoImplicit true

/-- `sizeof(struct packet_rx_meta)`: the two time stamps in front of a frame. -/
def sizeofPacketRxMeta : Nat := 16

def packetRxSlot : Nat := maxFrameSize + sizeofPacketRxMeta

def packetRxPayload (idx : Nat) : Nat := idx * packetRxSlot + sizeofPacketRxMeta

/-- A control message: `SCM_TIMESTAMPING` with the first and the last of its three times, or
another one. -/
inductive ControlMessage where
  | timestamping (software hardware : Timespec)
  | other

/-- A frame in the queue of the socket, and what its receive function finds around it. -/
structure RxMessage where
  frame : List UInt8
  control : List ControlMessage
  env : RxEnv

/-- `msg_len`: a frame that is too long is cut. -/
def RxMessage.msgLen (m : RxMessage) : Nat := min m.frame.length maxFrameSize

def Timespec.isSet (ts : Timespec) : Bool := ts.tvSec != 0 || ts.tvNsec != 0

/-- A member of `struct packet_rx_meta` is set on a condition. -/
def storeIf (c : Bool) (mem : List UInt8) (off : Nat) (x : UInt64) : List UInt8 :=
  if c then storeLe mem off 8 x.toNat else mem

section Timestamps
variable (taiOffsetNs : UInt64)

/-- The loop over the control messages of one frame, which ends at the first time stamps. -/
def storeControlTimestamps (mem : List UInt8) (off : Nat) : List ControlMessage → List UInt8
  | [] => mem
  | .other :: control => storeControlTimestamps mem off control
  | .timestamping software hardware :: _ =>
    let mem := storeIf hardware.isSet mem off (tsToNs hardware).toUInt64
    storeIf software.isSet mem (off + 8) ((tsToNs software).toUInt64 + taiOffsetNs)

def storeRxTimestamps (mem : List UInt8) (i : Nat) (m : RxMessage) : List UInt8 :=
  let off := packetRxPayload i - sizeofPacketRxMeta
  let mem := storeLe mem off 8 0
  let mem := storeLe mem (off + 8) 8 0
  storeControlTimestamps taiOffsetNs mem off m.control

def packetStoreRxTimestamps (mem : List UInt8) (msgs : List RxMessage) : List UInt8 :=
  sweep (storeRxTimestamps taiOffsetNs) mem 0 msgs

end Timestamps

def packetGetTimestampMetadata (mem : List UInt8) (data : Nat) : UInt64 × UInt64 :=
  let metaData := data - sizeofPacketRxMeta
  (UInt64.ofNat (loadLe mem metaData 8), UInt64.ofNat (loadLe mem (metaData + 8) 8))

/-- What `recvmmsg` answers. -/
inductive RecvResult where
  | received (msgs : List RxMessage)
  | wouldBlock
  | failed (errno : String)

/-- The frames go to their slots. -/
def recvmmsg (mem : List UInt8) (msgs : List RxMessage) : List UInt8 :=
  sweep (fun mem i m => write mem (packetRxPayload i) (m.frame.take maxFrameSize)) mem 0 msgs

/-- The thread context with the receive buffers of its packet context. -/
structure PacketRx where
  ctx : ThreadContext
  rxFrames : List UInt8

/-- The receive function on every frame of a batch. It works in the slot of the frame. -/
def processMessages (s : PacketRx) : Nat → List RxMessage →
    PacketRx × List (Except LogMessage RxAccepted)
  | _, [] => (s, [])
  | i, m :: msgs =>
    let data := packetRxPayload i
    let timestamps := packetGetTimestampMetadata s.rxFrames data
    let env := { m.env with rxHwTimestamp := timestamps.1, rxSwTimestamp := timestamps.2 }
    let result := receiveFrame env s.ctx (slice s.rxFrames data maxFrameSize) m.msgLen
    let s' := match result with
      | .ok acc => ⟨acc.ctx, write s.rxFrames data acc.frameData⟩
      | .error _ => s
    let r := processMessages s' (i + 1) msgs
    (r.1, result :: r.2)

structure PacketRxOutput where
  results : List (Except LogMessage RxAccepted)
  received : Nat
  logs : List LogMessage

/-- The loop of `packet_receive_messages`, which ends when there are no more frames. -/
def packetReceiveMessages (rxHwtstampEnabled : Bool) (taiOffsetNs : UInt64) :
    PacketRx → List RecvResult → PacketRx × PacketRxOutput
  | s, .received msgs :: rest =>
    let mem := recvmmsg s.rxFrames msgs
    let mem := if rxHwtstampEnabled then packetStoreRxTimestamps taiOffsetNs mem msgs else mem
    let r := processMessages { s with rxFrames := mem } 0 msgs
    let rs := packetReceiveMessages rxHwtstampEnabled taiOffsetNs r.1 rest
    (rs.1, ⟨r.2 ++ rs.2.results, msgs.length + rs.2.received, rs.2.logs⟩)
  | s, .failed errno :: _ =>
    (s, ⟨[], 0, [⟨.error, s.ctx.trafficClass ++ "Rx: recvmmsg() failed: " ++ errno ++ "\n"⟩]⟩)
  | s, .wouldBlock :: _ | s, [] => (s, ⟨[], 0, []⟩)

/-- The loop of `tc_rx_thread`: in every period a call, with the answers that `recvmmsg` gives. -/
def tcRxThread (rxHwtstampEnabled : Bool) (taiOffsetNs : UInt64) :
    System PacketRx (List RecvResult) PacketRxOutput where
  step s answers := packetReceiveMessages rxHwtstampEnabled taiOffsetNs s answers

/-- The time stamps that come with a frame: those of the first such control message. -/
def controlTimestamps (taiOffsetNs : UInt64) : List ControlMessage → UInt64 × UInt64
  | [] => (0, 0)
  | .other :: control => controlTimestamps taiOffsetNs control
  | .timestamping software hardware :: _ =>
    (if hardware.isSet then (tsToNs hardware).toUInt64 else 0,
      if software.isSet then (tsToNs software).toUInt64 + taiOffsetNs else 0)

/-- The call of the receive function that a frame is due: once, with its own bytes and its own time
stamps. What follows the frame in its slot is left over from earlier ones. -/
structure Due (rxHwtstampEnabled : Bool) (taiOffsetNs : UInt64) (m : RxMessage) (r : Reception) :
    Prop where
  env_eq : r.env = { m.env with
    rxHwTimestamp := r.env.rxHwTimestamp, rxSwTimestamp := r.env.rxSwTimestamp }
  timestamps : rxHwtstampEnabled = true →
    (r.env.rxHwTimestamp, r.env.rxSwTimestamp) = controlTimestamps taiOffsetNs m.control
  bytes : ∃ tail, r.frameData = m.frame.take maxFrameSize ++ tail
  len_eq : r.len = m.msgLen

/-- The frames of the answers up to the first that is not one. -/
def answeredMessages : List RecvResult → List RxMessage
  | .received msgs :: rest => msgs ++ answeredMessages rest
  | _ => []

variable {taiOffsetNs : UInt64} {mem : List UInt8} {m : RxMessage} {msgs : List RxMessage}
  {s : PacketRx} {i n off : Nat} {env : RxEnv} {ctx : ThreadContext} {acc : RxAccepted}
  {enabled : Bool}

section Store
variable (c : Bool) (mem : List UInt8) (x : UInt64)

theorem length_storeIf (off : Nat) : (storeIf c mem off x).length = mem.length := by
  cases c with
  | false => rfl
  | true => exact length_storeLe _ _ _ _

theorem slot_storeIf_self (i off : Nat) :
    slot packetRxSlot (storeIf c mem (i * packetRxSlot + off) x) i =
      storeIf c (slot packetRxSlot mem i) off x := by
  cases c with
  | false => rfl
  | true => exact slot_write_self _ _ _ _

theorem slot_storeIf_other (h : off + 8 ≤ packetRxSlot) (hne : j ≠ i) :
    slot packetRxSlot (storeIf c mem (i * packetRxSlot + off) x) j = slot packetRxSlot mem j := by
  cases c with
  | false => rfl
  | true => exact slot_write_other (by rw [length_leBytes]; exact h) hne mem

theorem slice_storeIf_behind (h : off + 8 ≤ i) (k : Nat) :
    slice (storeIf c mem off x) i k = slice mem i k := by
  cases c with
  | false => rfl
  | true => exact slice_storeLe_other (.inr h) _ _

theorem loadLe_storeIf_self (h : off + 8 ≤ mem.length) :
    UInt64.ofNat (loadLe (storeIf c mem off x) off 8) =
      if c then x else UInt64.ofNat (loadLe mem off 8) := by
  cases c with
  | false => rfl
  | true => exact loadLe_storeLe_word h x

theorem loadLe_storeIf_other (h : off + 8 ≤ i ∨ i + 8 ≤ off) :
    loadLe (storeIf c mem i x) off 8 = loadLe mem off 8 := by
  cases c with
  | false => rfl
  | true => exact loadLe_storeLe_other h _ _

end Store

/-- What the loop over the control messages does to the slot of a frame: nothing but the time
stamps change, and they are those of the frame. -/
structure Stamped (taiOffsetNs : UInt64) (control : List ControlMessage) (old new : List UInt8) :
    Prop where
  length_eq : new.length = old.length
  behind : ∀ i k, 16 ≤ i → slice new i k = slice old i k
  timestamps : 16 ≤ old.length → loadLe old 0 8 = 0 → loadLe old 8 8 = 0 →
    (UInt64.ofNat (loadLe new 0 8), UInt64.ofNat (loadLe new 8 8)) =
      controlTimestamps taiOffsetNs control

theorem storeControlTimestamps_stamped (taiOffsetNs : UInt64) (mem : List UInt8)
    (control : List ControlMessage) :
    Stamped taiOffsetNs control mem (storeControlTimestamps taiOffsetNs mem 0 control) := by
  induction control with
  | nil =>
    refine ⟨rfl, fun _ _ _ => rfl, fun _ hhw hsw => ?_⟩
    rw [storeControlTimestamps, hhw, hsw]
    rfl
  | cons c control ih =>
    cases c with
    | other => exact ⟨ih.length_eq, ih.behind, ih.timestamps⟩
    | timestamping software hardware =>
      refine ⟨?_, ?_, ?_⟩
      · rw [storeControlTimestamps, length_storeIf, length_storeIf]
      · intro i k hi
        rw [storeControlTimestamps, slice_storeIf_behind _ _ _ (by omega),
          slice_storeIf_behind _ _ _ (by omega)]
      · intro hlen hhw hsw
        have hlen' := length_storeIf hardware.isSet mem (tsToNs hardware).toUInt64 0
        simp only [storeControlTimestamps, controlTimestamps]
        rw [loadLe_storeIf_other _ _ _ (by omega), loadLe_storeIf_self _ _ _ (by omega),
          loadLe_storeIf_self _ _ _ (by omega), loadLe_storeIf_other _ _ _ (by omega), hhw, hsw]
        rfl

theorem slot_storeControlTimestamps (taiOffsetNs : UInt64) (mem : List UInt8) (i : Nat)
    (control : List ControlMessage) :
    slot packetRxSlot (storeControlTimestamps taiOffsetNs mem (i * packetRxSlot + 0) control) i =
        storeControlTimestamps taiOffsetNs (slot packetRxSlot mem i) 0 control ∧
      ∀ j, j ≠ i → slot packetRxSlot
        (storeControlTimestamps taiOffsetNs mem (i * packetRxSlot + 0) control) j =
          slot packetRxSlot mem j := by
  induction control with
  | nil => exact ⟨rfl, fun _ _ => rfl⟩
  | cons c control ih =>
    cases c with
    | other => exact ih
    | timestamping software hardware =>
      simp only [storeControlTimestamps]
      rw [Nat.add_assoc]
      refine ⟨?_, fun j hne => ?_⟩
      · rw [slot_storeIf_self, slot_storeIf_self]
      · rw [slot_storeIf_other _ _ _ (by decide) hne, slot_storeIf_other _ _ _ (by decide) hne]

theorem length_storeControlTimestamps (taiOffsetNs : UInt64) (mem : List UInt8) (off : Nat)
    (control : List ControlMessage) :
    (storeControlTimestamps taiOffsetNs mem off control).length = mem.length := by
  induction control with
  | nil => rfl
  | cons c control ih =>
    cases c with
    | other => exact ih
    | timestamping software hardware =>
      rw [storeControlTimestamps, length_storeIf, length_storeIf]

/-- `storeRxTimestamps` inside of the slot. -/
def stampRxSlot (taiOffsetNs : UInt64) (m : RxMessage) (header : List UInt8) : List UInt8 :=
  storeControlTimestamps taiOffsetNs (storeLe (storeLe header 0 8 0) 8 8 0) 0 m.control

theorem storeRxTimestamps_eq (taiOffsetNs : UInt64) (mem : List UInt8) (i : Nat) (m : RxMessage) :
    storeRxTimestamps taiOffsetNs mem i m = storeControlTimestamps taiOffsetNs
      (storeLe (storeLe mem (i * packetRxSlot + 0) 8 0) (i * packetRxSlot + 8) 8 0)
      (i * packetRxSlot + 0) m.control := by
  simp only [storeRxTimestamps, packetRxPayload, Nat.add_sub_cancel, Nat.add_zero]

theorem confined_storeRxTimestamps (taiOffsetNs : UInt64) :
    Confined packetRxSlot (storeRxTimestamps taiOffsetNs) (stampRxSlot taiOffsetNs) where
  length_eq mem i m := by
    rw [storeRxTimestamps, length_storeControlTimestamps, length_storeLe, length_storeLe]
  self mem i m := by
    rw [storeRxTimestamps_eq, (slot_storeControlTimestamps taiOffsetNs _ i m.control).1, storeLe,
      slot_write_self, storeLe, slot_write_self]
    rfl
  other mem i m j hne := by
    rw [storeRxTimestamps_eq, (slot_storeControlTimestamps taiOffsetNs _ i m.control).2 j hne,
      storeLe, slot_write_other (by rw [length_leBytes]; decide) hne, storeLe,
      slot_write_other (by rw [length_leBytes]; decide) hne]

theorem confined_recvmmsg : Confined packetRxSlot
    (fun mem i (m : RxMessage) => write mem (packetRxPayload i) (m.frame.take maxFrameSize))
    (fun m mem => write mem sizeofPacketRxMeta (m.frame.take maxFrameSize)) := by
  apply confined_write
  intro m
  rw [List.length_take, packetRxSlot]
  omega

/-- A slot with a received frame and, where they are asked for, its time stamps. -/
structure HoldsMessage (enabled : Bool) (taiOffsetNs : UInt64) (m : RxMessage)
    (mem : List UInt8) : Prop where
  timestamps : enabled = true →
    packetGetTimestampMetadata mem sizeofPacketRxMeta = controlTimestamps taiOffsetNs m.control
  bytes : slice mem sizeofPacketRxMeta (m.frame.take maxFrameSize).length =
    m.frame.take maxFrameSize

theorem HoldsMessage.stamp (h : HoldsMessage false taiOffsetNs m mem)
    (hlen : mem.length = packetRxSlot) :
    HoldsMessage true taiOffsetNs m (stampRxSlot taiOffsetNs m mem) := by
  have hlong : 16 ≤ mem.length := by rw [hlen]; decide
  have hstamped := storeControlTimestamps_stamped taiOffsetNs
    (storeLe (storeLe mem 0 8 0) 8 8 0) m.control
  constructor
  · intro _
    apply hstamped.timestamps
    · rw [length_storeLe, length_storeLe]
      exact hlong
    · rw [loadLe_storeLe_other (.inl (by omega)), loadLe_storeLe (by omega), Nat.zero_mod]
    · rw [loadLe_storeLe (by rw [length_storeLe]; omega), Nat.zero_mod]
  · have hbytes := h.bytes
    rw [sizeofPacketRxMeta] at hbytes ⊢
    rw [stampRxSlot, hstamped.behind _ _ (Nat.le_refl _), slice_storeLe_other (.inr (by omega)),
      slice_storeLe_other (.inr (by omega)), hbytes]

/-- What `packet_receive_messages` has in the buffers when the receive function is called. -/
theorem holdsMessage_received (hmem : mem.length = n * packetRxSlot) (hfit : msgs.length ≤ n)
    (hm : msgs[j]? = some m) (enabled : Bool) :
    HoldsMessage enabled taiOffsetNs m (slot packetRxSlot
      (if enabled then packetStoreRxTimestamps taiOffsetNs (recvmmsg mem msgs) msgs
        else recvmmsg mem msgs) j) := by
  have hj : j < n := Nat.lt_of_lt_of_le (List.getElem?_eq_some_iff.mp hm).1 hfit
  have hlen : (recvmmsg mem msgs).length = n * packetRxSlot :=
    (length_sweep confined_recvmmsg mem 0 msgs).trans hmem
  have hslot := slot_sweep confined_recvmmsg hm mem 0
  rw [Nat.zero_add] at hslot
  have hframe : HoldsMessage false taiOffsetNs m (slot packetRxSlot (recvmmsg mem msgs) j) := by
    refine ⟨fun h => (by cases h), ?_⟩
    rw [recvmmsg, hslot]
    apply slice_write_self _ _ _ rfl
    rw [length_slot hmem hj, List.length_take, packetRxSlot]
    omega
  cases enabled with
  | false => exact hframe
  | true =>
    have hstamp := slot_sweep (confined_storeRxTimestamps taiOffsetNs) hm (recvmmsg mem msgs) 0
    rw [Nat.zero_add] at hstamp
    rw [if_pos rfl, packetStoreRxTimestamps, hstamp]
    exact hframe.stamp (length_slot hlen hj)

theorem length_decodeProfinetFrame (env : RxEnv) (ctx : ThreadContext) (frameData : List UInt8)
    (len : Nat) : (decodeProfinetFrame env ctx frameData len).frameData.length =
      frameData.length := by
  rw [decodeProfinetFrame]
  split
  · exact length_setMirrorTxTimestampEst _ _ _
  · exact (length_write _ _ _).trans (length_setMirrorTxTimestampEst _ _ _)
  · exact (length_writeAll _ _).trans (length_setMirrorTxTimestampEst _ _ _)

theorem length_storeVlanFrame (env : RxEnv) (etherType : UInt16) (len : Nat) (missing : Bool)
    (r : RxAccepted) :
    (storeVlanFrame env etherType len missing r).frameData.length = r.frameData.length := by
  simp only [storeVlanFrame, swapMacAddresses, insertVlanTag]
  split_ifs <;> simp only [length_writeAll]

/-- What a receive function does with the slot of a frame it accepts: it writes within the frame,
and if it reports time stamps they are those in front of it. -/
structure UsesSlot (env : RxEnv) (ctx : ThreadContext) (frameData : List UInt8)
    (acc : RxAccepted) : Prop where
  length_eq : acc.frameData.length = frameData.length
  timestamps : ctx.frameType ∈ tcXdp →
    (ctx.frameType = .genericL2 → ctx.conf.protocolType = .genericL2) →
    (acc.report.rxHwTimestamp, acc.report.rxSwTimestamp) = rxTimestamps env

theorem usesSlot_storeVlanFrame (hd : d.frameData.length = frameData.length) (name : String)
    (idMismatch : Bool) (etherType : UInt16) (len : Nat) (missing : Bool) :
    UsesSlot env ctx frameData (storeVlanFrame env etherType len missing
      (reportFrame name ctx d idMismatch (rxTimestamps env).1 (rxTimestamps env).2)) where
  length_eq := (length_storeVlanFrame _ _ _ _ _).trans hd
  timestamps _ _ := by
    rw [(storeVlanFrame_extends env etherType len missing _).report_eq]
    rfl

theorem receiveProfinetFrame_usesSlot
    (h : receiveProfinetFrame env ctx frameData len = .ok acc) :
    UsesSlot env ctx frameData acc := by
  rw [receiveProfinetFrame] at h
  split at h
  · cases h
  · cases h
    exact usesSlot_storeVlanFrame (length_decodeProfinetFrame _ _ _ _) _ _ _ _ _

theorem genericL2RxFrame_usesSlot (h : genericL2RxFrame env ctx frameData len = .ok acc) :
    UsesSlot env ctx frameData acc := by
  rw [genericL2RxFrame] at h
  split at h
  · cases h
  · cases h
    exact usesSlot_storeVlanFrame (length_setMirrorTxTimestampEst _ _ _) _ _ _ _ _

theorem dcpRxFrame_length (h : dcpRxFrame env ctx frameData len = .ok acc) :
    acc.frameData.length = frameData.length := by
  simp only [dcpRxFrame] at h
  split_ifs at h
  · cases h
    rfl
  · cases h
    rfl

theorem lldpRxFrame_length (h : lldpRxFrame env ctx frameData len = .ok acc) :
    acc.frameData.length = frameData.length := by
  simp only [lldpRxFrame] at h
  split_ifs at h
  · cases h
    rfl
  · cases h
    exact (length_setMirrorTxTimestampEst _ _ _).trans (length_write _ _ _)

theorem udpRxFrame_length (h : udpRxFrame env ctx frameData len = .ok acc) :
    acc.frameData.length = frameData.length := by
  simp only [udpRxFrame] at h
  split_ifs at h
  · cases h
    exact length_setMirrorTxTimestampEst _ _ _
  · cases h
    exact length_setMirrorTxTimestampEst _ _ _

theorem receiveEthercatFrame_length (h : receiveEthercatFrame env ctx frameData len = .ok acc) :
    acc.frameData.length = frameData.length := by
  simp only [receiveEthercatFrame] at h
  split_ifs at h
  cases h
  rfl

theorem receiveFrame_usesSlot (h : receiveFrame env ctx frameData len = .ok acc) :
    UsesSlot env ctx frameData acc := by
  have outside (hlen : acc.frameData.length = frameData.length) (ht : ctx.frameType ∉ tcXdp) :
      UsesSlot env ctx frameData acc := ⟨hlen, fun hin _ => absurd hin ht⟩
  rw [receiveFrame] at h
  split at h
  iterate 4 exact receiveProfinetFrame_usesSlot h
  · rename_i ht
    exact outside (dcpRxFrame_length h) (by rw [ht]; decide)
  · rename_i ht
    exact outside (lldpRxFrame_length h) (by rw [ht]; decide)
  iterate 2
    rename_i ht
    exact outside (udpRxFrame_length h) (by rw [ht]; decide)
  · rename_i ht
    split at h
    · rename_i hp
      exact ⟨receiveEthercatFrame_length h, fun _ hl2 => by cases hp.symm.trans (hl2 ht)⟩
    · exact genericL2RxFrame_usesSlot h

def resultReport (result : Except LogMessage RxAccepted) : Option RxReport :=
  result.toOption.map RxAccepted.report

/-- The call of the receive function in `processMessages`. -/
def slotReception (mem : List UInt8) (i : Nat) (m : RxMessage) : Reception :=
  let timestamps := packetGetTimestampMetadata mem (packetRxPayload i)
  ⟨{ m.env with rxHwTimestamp := timestamps.1, rxSwTimestamp := timestamps.2 },
    slice mem (packetRxPayload i) maxFrameSize, m.msgLen⟩

theorem packetGetTimestampMetadata_slot (mem : List UInt8) (i : Nat) :
    packetGetTimestampMetadata mem (packetRxPayload i) =
      packetGetTimestampMetadata (slot packetRxSlot mem i) sizeofPacketRxMeta := by
  have hload (off : Nat) (h : off + 8 ≤ packetRxSlot) :
      loadLe (slot packetRxSlot mem i) off 8 = loadLe mem (i * packetRxSlot + off) 8 := by
    rw [loadLe, slot, slice_slice _ h, loadLe]
  simp only [packetGetTimestampMetadata, packetRxPayload, Nat.add_sub_cancel, Nat.sub_self,
    hload _ (show 0 + 8 ≤ packetRxSlot by decide),
    hload _ (show 8 + 8 ≤ packetRxSlot by decide), Nat.add_zero, Nat.zero_add]

theorem due_slotReception (h : HoldsMessage enabled taiOffsetNs m (slot packetRxSlot mem i)) :
    Due enabled taiOffsetNs m (slotReception mem i m) := by
  refine ⟨rfl, fun he => ?_, ?_, rfl⟩
  · exact (packetGetTimestampMetadata_slot mem i).trans (h.timestamps he)
  · have hbytes := h.bytes
    obtain ⟨k, hk⟩ := Nat.le.dest (List.length_take_le maxFrameSize m.frame)
    rw [slot, slice_slice _ (by rw [packetRxSlot]; omega)] at hbytes
    have hsplit := slice_add mem (packetRxPayload i) (m.frame.take maxFrameSize).length k
    rw [hk, packetRxPayload, hbytes] at hsplit
    exact ⟨_, hsplit⟩

/-- A call leaves the other slots alone. -/
theorem processMessages_cons (s : PacketRx) (i : Nat) (m : RxMessage) (msgs : List RxMessage) :
    ∃ mem', mem'.length = s.rxFrames.length ∧
      (∀ j, j ≠ i → slot packetRxSlot mem' j = slot packetRxSlot s.rxFrames j) ∧
      let r := slotReception s.rxFrames i m
      let rest := processMessages ⟨(rxSystem.step s.ctx r).1, mem'⟩ (i + 1) msgs
      processMessages s i (m :: msgs) =
        (rest.1, receiveFrame r.env s.ctx r.frameData r.len :: rest.2) ∧
      resultReport (receiveFrame r.env s.ctx r.frameData r.len) = (rxSystem.step s.ctx r).2 := by
  cases hr : receiveFrame (slotReception s.rxFrames i m).env s.ctx
      (slotReception s.rxFrames i m).frameData (slotReception s.rxFrames i m).len with
  | error message =>
    refine ⟨s.rxFrames, rfl, fun _ _ => rfl, ?_⟩
    have hstep := rxSystem_step_error hr
    simp only [slotReception] at hr hstep
    simp only [slotReception, processMessages, hr, hstep]
    exact ⟨trivial, rfl⟩
  | ok acc =>
    refine ⟨write s.rxFrames (packetRxPayload i) acc.frameData, length_write _ _ _, ?_, ?_⟩
    · intro j hne
      apply slot_write_other _ hne
      rw [(receiveFrame_usesSlot hr).length_eq]
      have hle := length_slice_le s.rxFrames (packetRxPayload i) maxFrameSize
      simp only [slotReception, packetRxSlot]
      omega
    · have hstep := rxSystem_step_ok hr
      simp only [slotReception] at hr hstep
      simp only [slotReception, processMessages, hr, hstep]
      exact ⟨trivial, rfl⟩

theorem processMessages_refines (hmem : s.rxFrames.length = n * packetRxSlot)
    (hfit : i + msgs.length ≤ n)
    (hholds : ∀ j m, msgs[j]? = some m →
      HoldsMessage enabled taiOffsetNs m (slot packetRxSlot s.rxFrames (i + j))) :
    ∃ rs, List.Forall₂ (Due enabled taiOffsetNs) msgs rs ∧
      (processMessages s i msgs).1.rxFrames.length = n * packetRxSlot ∧
      rxSystem.run s.ctx rs =
        ((processMessages s i msgs).1.ctx, (processMessages s i msgs).2.map resultReport) := by
  induction msgs generalizing s i with
  | nil => exact ⟨[], .nil, hmem, rfl⟩
  | cons m msgs ih =>
    rw [List.length_cons] at hfit
    obtain ⟨mem', hlen, hother, heq, hreported⟩ := processMessages_cons s i m msgs
    have hdue : Due enabled taiOffsetNs m (slotReception s.rxFrames i m) :=
      due_slotReception (hholds 0 m rfl)
    obtain ⟨rs, hrs, hmem', hrun⟩ := ih
      (s := ⟨(rxSystem.step s.ctx (slotReception s.rxFrames i m)).1, mem'⟩) (i := i + 1)
      (hlen.trans hmem) (by omega) (fun j m' hm' => by
        have h := hholds (j + 1) m' hm'
        rw [Nat.add_right_comm, Nat.add_assoc]
        rw [hother _ (by omega)]
        exact h)
    refine ⟨_, .cons hdue hrs, ?_, ?_⟩
    · rw [heq]
      exact hmem'
    · rw [System.run_cons, hrun, heq, List.map_cons, hreported]

/-- A call answers with one frame for each of the buffers at most. -/
def FitsBuffers (n : Nat) (answers : List RecvResult) : Prop :=
  ∀ msgs, .received msgs ∈ answers → msgs.length ≤ n

theorem length_prepared (hmem : mem.length = n * packetRxSlot) (enabled : Bool)
    (msgs : List RxMessage) :
    (if enabled then packetStoreRxTimestamps taiOffsetNs (recvmmsg mem msgs) msgs
      else recvmmsg mem msgs).length = n * packetRxSlot := by
  have hlen := (length_sweep confined_recvmmsg mem 0 msgs).trans hmem
  cases enabled with
  | false => exact hlen
  | true => exact (length_sweep (confined_storeRxTimestamps taiOffsetNs) _ 0 msgs).trans hlen

theorem packetReceiveMessages_refines (hmem : s.rxFrames.length = n * packetRxSlot)
    (hfit : FitsBuffers n answers) (enabled : Bool) (taiOffsetNs : UInt64) :
    let r := packetReceiveMessages enabled taiOffsetNs s answers
    ∃ rs, List.Forall₂ (Due enabled taiOffsetNs) (answeredMessages answers) rs ∧
      r.1.rxFrames.length = n * packetRxSlot ∧
      rxSystem.run s.ctx rs = (r.1.ctx, r.2.results.map resultReport) ∧
      r.2.received = (answeredMessages answers).length := by
  induction answers generalizing s with
  | nil => exact ⟨[], .nil, hmem, rfl, rfl⟩
  | cons answer rest ih =>
    cases answer with
    | wouldBlock => exact ⟨[], .nil, hmem, rfl, rfl⟩
    | failed errno => exact ⟨[], .nil, hmem, rfl, rfl⟩
    | received msgs =>
      have hmsgs : msgs.length ≤ n := hfit msgs List.mem_cons_self
      obtain ⟨rs, hrs, hmem', hrun⟩ := processMessages_refines
        (s := ⟨s.ctx, if enabled then
          packetStoreRxTimestamps taiOffsetNs (recvmmsg s.rxFrames msgs) msgs
          else recvmmsg s.rxFrames msgs⟩)
        (i := 0) (length_prepared hmem enabled msgs) (by rw [Nat.zero_add]; exact hmsgs)
        (fun j m hm => by
          rw [Nat.zero_add]
          exact holdsMessage_received hmem hmsgs hm enabled)
      obtain ⟨rs', hrs', hmem'', hrun', hreceived⟩ := ih hmem'
        (fun batch hb => hfit batch (List.mem_cons_of_mem _ hb))
      refine ⟨rs ++ rs', List.rel_append hrs hrs', hmem'', ?_, ?_⟩
      · rw [System.run_append, hrun, hrun', packetReceiveMessages, List.map_append]
      · rw [packetReceiveMessages, answeredMessages, List.length_append, hreceived]

theorem tcRxThread_refines (hmem : s.rxFrames.length = n * packetRxSlot)
    (hfit : ∀ call ∈ calls, FitsBuffers n call) (enabled : Bool) (taiOffsetNs : UInt64) :
    let r := (tcRxThread enabled taiOffsetNs).run s calls
    ∃ rs, List.Forall₂ (Due enabled taiOffsetNs) (calls.flatMap answeredMessages) rs ∧
      rxSystem.run s.ctx rs = (r.1.ctx, (r.2.flatMap PacketRxOutput.results).map resultReport) ∧
      r.2.map PacketRxOutput.received =
        calls.map fun call => (answeredMessages call).length := by
  induction calls generalizing s with
  | nil => exact ⟨[], .nil, rfl, rfl⟩
  | cons call calls ih =>
    obtain ⟨rs, hrs, hmem', hrun, hreceived⟩ := packetReceiveMessages_refines hmem
      (hfit call List.mem_cons_self) enabled taiOffsetNs
    obtain ⟨rs', hrs', hrun', hreceived'⟩ := ih hmem'
      (fun c hc => hfit c (List.mem_cons_of_mem _ hc))
    refine ⟨rs ++ rs', ?_, ?_, ?_⟩
    · rw [List.flatMap_cons]
      exact List.rel_append hrs hrs'
    · rw [System.run_append, hrun, hrun', System.run_cons, List.flatMap_cons, List.map_append]
      rfl
    · exact List.cons_eq_cons.mpr ⟨hreceived, hreceived'⟩

/-- A report, if there is one, has these time stamps. -/
def HasTimestamps (timestamps : UInt64 × UInt64) (report : Option RxReport) : Prop :=
  ∀ r, report = some r → (r.rxHwTimestamp, r.rxSwTimestamp) = timestamps

theorem rxSystem_timestamps (hx : ctx.frameType ∈ tcXdp)
    (hl2 : ctx.frameType = .genericL2 → ctx.conf.protocolType = .genericL2) (rs : List Reception) :
    List.Forall₂ (fun r report => HasTimestamps (rxTimestamps r.env) report) rs
      (rxSystem.run ctx rs).2 := by
  induction rs generalizing ctx with
  | nil => exact .nil
  | cons r rs ih =>
    cases hr : receiveFrame r.env ctx r.frameData r.len with
    | error message =>
      rw [System.run_cons, rxSystem_step_error hr]
      exact .cons (fun _ h => by cases h) (ih hx hl2)
    | ok acc =>
      have hctx := (receiveFrame_checked hr).ctx_eq
      rw [System.run_cons, rxSystem_step_ok hr]
      refine .cons (fun report h => ?_) (ih (by rw [hctx]; exact hx) (by rw [hctx]; exact hl2))
      cases h
      exact (receiveFrame_usesSlot hr).timestamps hx hl2

theorem Due.rxTimestamps (h : Due (configClassRxTimestampEnabled m.env.build frameType) taiOffsetNs
    m r) (hx : frameType ∈ tcXdp) :
    rxTimestamps r.env =
      if m.env.build.rxTimestamp then controlTimestamps taiOffsetNs m.control else (0, 0) := by
  have hbuild : r.env.build = m.env.build := by rw [h.env_eq]
  rw [RtcTestbench.rxTimestamps, hbuild]
  cases hts : m.env.build.rxTimestamp with
  | false => rfl
  | true =>
    apply h.timestamps
    rw [configClassRxTimestampEnabled, hts, Bool.true_and]
    exact List.contains_iff_mem.mpr hx

theorem reports_of_due (hx : frameType ∈ tcXdp)
    (hrs : List.Forall₂ (Due (configClassRxTimestampEnabled build frameType) taiOffsetNs) msgs rs)
    (hbuild : ∀ m ∈ msgs, m.env.build = build)
    (htimes : List.Forall₂ (fun r report => HasTimestamps (rxTimestamps r.env) report) rs reports) :
    List.Forall₂ (fun m report => HasTimestamps
      (if build.rxTimestamp then controlTimestamps taiOffsetNs m.control else (0, 0)) report)
      msgs reports := by
  induction hrs generalizing reports with
  | nil =>
    cases htimes
    exact .nil
  | @cons m r msgs rs hdue hrs ih =>
    rcases htimes with _ | ⟨hreport, htimes⟩
    refine .cons (fun report h => ?_) (ih (fun m hm => hbuild m (List.mem_cons_of_mem _ hm)) htimes)
    have hm := hbuild m List.mem_cons_self
    subst hm
    exact (hreport report h).trans (hdue.rxTimestamps hx)

/-- However the frames arrive in calls and batches, a run of the AF_PACKET receive thread is a run
of the receive function on every frame, once and in order, with the bytes and the time stamps of
this frame, and that is what is reported about it. -/
theorem tc_rx_thread_receives_each (build : BuildConfig) (taiOffsetNs : UInt64) (s : PacketRx)
    (calls : List (List RecvResult)) (hmem : s.rxFrames.length = n * packetRxSlot)
    (hfit : ∀ call ∈ calls, FitsBuffers n call)
    (hbuild : ∀ m ∈ calls.flatMap answeredMessages, m.env.build = build) :
    let enabled := configClassRxTimestampEnabled build s.ctx.frameType
    let r := (tcRxThread enabled taiOffsetNs).run s calls
    let msgs := calls.flatMap answeredMessages
    let reports := (r.2.flatMap PacketRxOutput.results).map resultReport
    (∃ rs, List.Forall₂ (Due enabled taiOffsetNs) msgs rs ∧
      rxSystem.run s.ctx rs = (r.1.ctx, reports)) ∧
    (s.ctx.frameType ∈ tcXdp →
      (s.ctx.frameType = .genericL2 → s.ctx.conf.protocolType = .genericL2) →
      List.Forall₂ (fun m report => HasTimestamps
        (if build.rxTimestamp then controlTimestamps taiOffsetNs m.control else (0, 0)) report)
        msgs reports) ∧
    r.2.map PacketRxOutput.received =
      calls.map fun call => (answeredMessages call).length := by
  intro enabled r msgs reports
  obtain ⟨rs, hrs, hrun, hreceived⟩ := tcRxThread_refines hmem hfit enabled taiOffsetNs
  refine ⟨⟨rs, hrs, hrun⟩, fun hx hl2 => ?_, hreceived⟩
  have htimes := rxSystem_timestamps hx hl2 rs
  rw [hrun] at htimes
  exact reports_of_due hx hrs hbuild htimes

/-- A frame with both time stamps, 37 seconds and a little ahead of UTC. -/
def stampedMessage : RxMessage where
  frame := List.replicate 60 0xaa
  control := [.other, .timestamping ⟨1700000000, 5000⟩ ⟨1700000037, 2000⟩]
  env := quietEnv

/-- Two batches in one call, then a call that fails. -/
def stampedCalls : List (List RecvResult) :=
  [[.received [stampedMessage, stampedMessage], .received [stampedMessage], .wouldBlock],
    [.failed "Network is down"]]

theorem stampedCalls_fit : ∀ call ∈ stampedCalls, FitsBuffers 2 call := by
  intro call hcall msgs hmsgs
  simp only [stampedCalls, List.mem_cons, List.not_mem_nil, or_false] at hcall
  rcases hcall with rfl | rfl
  · simp only [List.mem_cons, RecvResult.received.injEq, List.not_mem_nil, or_false,
      reduceCtorEq] at hmsgs
    rcases hmsgs with rfl | rfl
    · decide
    · decide
  · simp only [List.mem_cons, List.not_mem_nil, or_false, reduceCtorEq] at hmsgs

theorem stampedCalls_answered : stampedCalls.flatMap answeredMessages =
    [stampedMessage, stampedMessage, stampedMessage] := rfl

theorem tc_rx_thread_receives_each_stamped :
    let s : PacketRx := ⟨l2Context 0xb62c, List.replicate (2 * packetRxSlot) 0⟩
    let r := (tcRxThread true 37000000000).run s stampedCalls
    List.Forall₂ (fun m report => HasTimestamps
        (if fullBuild.rxTimestamp then controlTimestamps 37000000000 m.control else (0, 0)) report)
        [stampedMessage, stampedMessage, stampedMessage]
        ((r.2.flatMap PacketRxOutput.results).map resultReport) ∧
      r.2.map PacketRxOutput.received = [3, 0] ∧
      controlTimestamps 37000000000 stampedMessage.control =
        (1700000037000002000, 1700000037000005000) := by
  intro s r
  have hbuild : ∀ m ∈ stampedCalls.flatMap answeredMessages, m.env.build = fullBuild := by
    rw [stampedCalls_answered]
    intro m hm
    rw [List.eq_of_mem_replicate (n := 3) hm]
    rfl
  have h := tc_rx_thread_receives_each fullBuild 37000000000 s stampedCalls List.length_replicate
    stampedCalls_fit hbuild
  exact ⟨h.2.1 (by decide) fun _ => rfl, h.2.2, by decide⟩

end RtcTestbench
