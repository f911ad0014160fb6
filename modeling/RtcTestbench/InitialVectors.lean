import RtcTestbench.SecuredPair

namespace RtcTestbench
open Buffer Machine
set_option autoImplicit true

def SecuredPair.start (build : BuildConfig) (sender : ThreadContext) (umem : List UInt8)
    (reference mirror : ThreadContext) : SecuredPair :=
  ⟨Generator.start build sender umem, reference, mirror, []⟩

section Deployed
variable {build : BuildConfig} {app : AppConfig} {frameType : StatFrameType}
  {securityInit : SecurityAlgorithm → List UInt8 → Aead.Cipher} {source : MacAddress}
  {tx sender reference mirror : ThreadContext} {umem : List UInt8}

theorem secured_tc (ht : frameType ∈ [.tsnHigh, .tsnLow, .rtc, .rta]) :
    frameType ≠ .udpHigh ∧ frameType ≠ .udpLow := by
  constructor
  · rintro rfl
    simp at ht
  · rintro rfl
    simp at ht

theorem peer_of_forClass (hsender : sender.ForClass conf frameType)
    (hc : CountedClass conf frameType) (hm : conf.securityMode ≠ .none)
    (hpeer : peer.ForClass (peerConfig conf rxMirrorEnabled xdpEnabled) frameType)
    (hpattern : peer.payloadPattern = sender.payloadPattern) : Peer sender peer := by
  refine ⟨?_, ?_, ?_, hpattern, ?_⟩
  · rw [hpeer.conf_eq, hsender.conf_eq]
    rfl
  · rw [hpeer.conf_eq, hsender.conf_eq]
    rfl
  · rw [hpeer.conf_eq, hsender.conf_eq]
    rfl
  · rw [hpeer.conf_eq]
    exact (hc.secure_layout hm).2

variable (hs : configSanityCheck build app = true)
  (ht : frameType ∈ [.tsnHigh, .tsnLow, .rtc, .rta])
  (hmode : (app.classes frameType).securityMode ≠ .none)
  (hroom : txMetadataRoom build (app.classes frameType) +
    (app.classes frameType).frameLength ≤ maxFrameSize)
  (htx : threadsCreate securityInit app frameType source = some tx)
  (hinit : tcTxThreadInit build tx = some sender)
  (humem : umem.length = xskRingConsDefaultNumDescs * maxFrameSize)
include hs ht hmode htx hinit

theorem secured_class : sender.ForClass (app.classes frameType) frameType ∧
      CountedClass (app.classes frameType) frameType ∧
      (app.classes frameType).securityIvPrefix.bytes.length = 6 ∧
      1 ≤ (app.classes frameType).numFramesPerCycle.toNat := by
  have hc := countedClass_of_sane hs (secured_tc ht) (fun _ => ht)
    (by rintro ⟨rfl, -⟩; simp at ht)
  have hcreate := threadsCreate_tc (secured_tc ht) htx
  obtain ⟨hsender, -⟩ := tcTxThreadInit_sender (tcThreadsCreate_created hcreate).toForClass hinit
  exact ⟨hsender, hc, configSanityCheck_ivLength hs (by simpa using ht) hmode,
    configIsTcActive_pos (threadsCreate_active htx)⟩

include hroom humem

theorem SecuredPair.start_sound (hreference : Peer sender reference)
    (hmirror : Peer sender mirror) :
    (SecuredPair.start build sender umem reference mirror).Sound build (app.classes frameType)
      frameType sender := by
  obtain ⟨-, hc, -, -⟩ := secured_class hs ht hmode htx hinit
  exact ⟨Generator.start_ready (threadsCreate_tc (secured_tc ht) htx) hinit hc hroom humem,
    hreference, hmirror, Nat.zero_le _, nofun⟩

end Deployed

def mirrorOf (ctx : ThreadContext) : ThreadContext :=
  { ctx with conf := { ctx.conf with rxMirrorEnabled := true } }

/-- The frame reaches the mirror with its tag stripped, `delay` after the time at which the
estimated send time is the one it is stamped with. -/
def receivedAfter (f : SentFrame) (delay : UInt64) : Reception where
  env := { quietEnv with
    now := metaDataToTxTimestamp f.bytes 28 + delay -
      (quietEnv.applicationTxBaseOffsetNs - quietEnv.applicationRxBaseOffsetNs) }
  frameData := deliver .tsnHigh true f.bytes
  len := (deliver .tsnHigh true f.bytes).length

def encryptedUmem : List UInt8 := List.replicate (xskRingConsDefaultNumDescs * maxFrameSize) 0

def encryptedStart (sender : ThreadContext) (umem : List UInt8) : SecuredPair :=
  SecuredPair.start fullBuild sender umem sender (mirrorOf sender)

theorem mirrorOf_forClass (hsender : sender.ForClass ((encryptedConfig false).classes .tsnHigh)
      .tsnHigh) :
    (mirrorOf sender).ForClass (peerConfig ((encryptedConfig false).classes .tsnHigh) true true)
      .tsnHigh := by
  refine ⟨?_, hsender.frameType_eq, hsender.frameId_eq, hsender.metaDataOffset_eq⟩
  rw [mirrorOf, hsender.conf_eq]
  rfl

theorem receivedAfter_estimate (f : SentFrame) (delay : UInt64) :
    metaDataToTxTimestamp f.bytes 28 = (receivedAfter f delay).env.now +
        ((receivedAfter f delay).env.applicationTxBaseOffsetNs -
          (receivedAfter f delay).env.applicationRxBaseOffsetNs) ↔ delay = 0 := by
  rw [receivedAfter, UInt64.sub_add_cancel]
  constructor
  · intro h
    exact UInt64.left_eq_add.mp h
  · rintro rfl
    exact (UInt64.add_zero _).symm

/-- One encrypted frame over AF_XDP and its way to the mirror. -/
theorem encryptedPair_frame
    (humem : umem.length = xskRingConsDefaultNumDescs * maxFrameSize) :
    ∃ tx sender f, threadsCreate chachaInit (encryptedConfig false) .tsnHigh defaultDestination =
        some tx ∧
      tcTxThreadInit fullBuild tx = some sender ∧
      sender.ForClass ((encryptedConfig false).classes .tsnHigh) .tsnHigh ∧
      ((generator fullBuild none sender).step (Generator.start fullBuild sender umem)
        readyPass).2 = [f] ∧
      ∀ delay, (securedPair fullBuild none sender).Along SealedBefore (encryptedStart sender umem)
          [.generate readyPass, .mirrorReceives (receivedAfter f delay)] ∧
        ((securedPair fullBuild none sender).Along KeepsStamps (encryptedStart sender umem)
          [.generate readyPass, .mirrorReceives (receivedAfter f delay)] ↔ delay = 0) := by
  obtain ⟨tx, sender, htx, hinit, hsender, -⟩ := encryptedConfig_threads
  have hs : configSanityCheck fullBuild (encryptedConfig false) = true := by decide
  obtain ⟨-, hc, -, -⟩ := secured_class hs (by simp) (by decide) htx hinit
  have hready := Generator.start_ready (threadsCreate_tc (by decide) htx) hinit hc (by decide) humem
  obtain ⟨-, hroom⟩ := readyPass_runs hsender 1
  have hpass := generator_step hsender hc hready (hroom readyPass (by simp)) none
  have hone : ∃ f, ((generator fullBuild none sender).step (Generator.start fullBuild sender umem)
      readyPass).2 = [f] := by
    have hlength := congrArg List.length hpass.counters
    have hsends : readyPass.sends sender = true := by
      rw [TxPass.sends, tcWaitForTxCycle, hsender.frameType_eq, hsender.conf_eq]
      decide
    rw [List.length_map, length_consecutive, if_pos hsends] at hlength
    exact List.length_eq_one_iff.mp hlength
  obtain ⟨f, hf⟩ := hone
  refine ⟨tx, sender, f, htx, hinit, hsender, hf, fun delay => ?_⟩
  have hwire := hpass.onWire f (by rw [hf]; exact List.mem_singleton_self f)
  obtain ⟨had, hstamp, call, hcall⟩ := authenticated_delivered hwire hc (by decide)
    (mirrorOf_forClass hsender)
    (show Delivers .tsnHigh f (receivedAfter f delay) from
      ⟨true, [], (List.append_nil _).symm, rfl⟩)
  have hsealed := generator_sealed hsender hc (by decide) hready readyPass none
  rw [hf] at hsealed
  obtain ⟨call', rest, hcall', -, hcalls⟩ := List.forall₂_cons_left_iff.mp hsealed
  refine ⟨⟨trivial, fun _ => ⟨call', ?_, had.trans hcall'.symm⟩, trivial⟩, ?_⟩
  · change call' ∈ [] ++ passEncryptCalls fullBuild none sender
      (Generator.start fullBuild sender umem) readyPass
    rw [hcalls]
    exact List.mem_cons_self
  · change True ∧ (receivedAfter f delay).KeepsStamp (mirrorOf sender) ∧ True ↔ _
    rw [true_and, and_true, Reception.KeepsStamp, hcall, hstamp, receivedAfter_estimate]
    exact ⟨fun h => h rfl, fun h _ => h⟩

end RtcTestbench
