import RtcTestbench.InPlace

namespace RtcTestbench
open Buffer Machine
set_option autoImplicit true

/-- The arguments of a call of `security_encrypt`. -/
structure EncryptCall where
  iv : List UInt8
  ad : List UInt8
  plaintext : Option (List UInt8)
  deriving DecidableEq

/-- No initial vector is used for two different inputs. -/
def IvsUnique (calls : List EncryptCall) : Prop :=
  ∀ call ∈ calls, ∀ call' ∈ calls, call.iv = call'.iv → call = call'

/-- The call `prepare_frame_for_tx` makes, if any. -/
def PrepareFrameConfig.encryptCall (c : PrepareFrameConfig) : Option EncryptCall :=
  if c.frameType = .genericL2 ∧ c.protocolType = .etherCat then none
  else
    let iv := prepareIv c.ivPrefix c.sequenceCounter
    let frame := c.adjustMetaData (sizeofVlanEthernetHeader + 10)
    match c.mode with
    | .none => none
    | .ao =>
      let sizeOfAadData := c.frameLength - sizeofVlanEthernetHeader - sizeofSecurityChecksum
      some ⟨iv, slice frame sizeofVlanEthernetHeader sizeOfAadData, none⟩
    | .ae =>
      some ⟨iv, slice frame sizeofVlanEthernetHeader sizeofProfinetSecureHeader,
        some c.payloadPattern⟩

theorem prepareFrameForTx_encryptCall (c : PrepareFrameConfig) (h : c.encryptCall = some call) :
    let e := c.securityContext.encrypt call.plaintext call.ad call.iv
    let ciphertext := if c.mode = .ae then
      [(sizeofVlanEthernetHeader + sizeofProfinetSecureHeader, e.ciphertext)] else []
    prepareFrameForTx c =
      (writeAll (c.adjustMetaData (sizeofVlanEthernetHeader + 10))
        (ciphertext ++ [(c.frameLength - sizeofSecurityChecksum, e.tag)]), e.ret) := by
  rw [PrepareFrameConfig.encryptCall] at h
  rw [prepareFrameForTx]
  split at h
  · cases h
  · rename_i hne
    rw [if_neg hne]
    cases hm : c.mode with
    | none => simp only [hm, reduceCtorEq] at h
    | ao =>
      simp only [hm, Option.some.injEq] at h
      subst h
      rfl
    | ae =>
      simp only [hm, Option.some.injEq] at h
      subst h
      rfl

/-- What the checksum of a received frame is to cover, apart from a payload that is encrypted. -/
def authenticated (mode : SecurityMode) (frameData : List UInt8) (len : Nat) : List UInt8 :=
  let srt := sizeOfEthHeader frameData
  slice frameData srt
    (if mode = .ae then sizeofProfinetSecureHeader else len - srt - sizeofSecurityChecksum)

/-- The call `receive_profinet_frame` makes, if any. -/
def receiveEncryptCall (env : RxEnv) (ctx : ThreadContext) (frameData : List UInt8) (len : Nat) :
    Option EncryptCall :=
  match checkVlanFrame ctx.conf (ctx.trafficClass ++ "Rx") ": Not a Profinet frame received!\n"
    ethPProfinetRt frameData len with
  | some _ => none
  | none =>
    let srt := sizeOfEthHeader frameData
    let iv := secureIv ctx frameData
    let frame := setMirrorTxTimestampEst env frameData (srt + 10)
    match ctx.conf.securityMode with
    | .none => none
    | .ao => some ⟨iv, slice frame srt (len - srt - sizeofSecurityChecksum), none⟩
    | .ae => some ⟨iv, slice frame srt sizeofProfinetSecureHeader, some ctx.payloadPattern⟩

/-- The calls of the loop that prepares the frames of a cycle. -/
def prepareEncryptCalls (ctx : ThreadContext) (room : Nat) (now : UInt64) :
    Option MacAddress → List UInt8 → List Nat → UInt64 → List EncryptCall
  | _, _, [], _ => []
  | monitor, mem, slot :: slots, s =>
    let frame := slice mem (slotOffset room slot) ctx.conf.frameLength
    let c := ctx.prepareFrameConfig frame s now
    c.encryptCall.toList ++ prepareEncryptCalls ctx room now none
      (write mem (slotOffset room slot) (monitorFrame monitor (prepareFrameForTx c).1)) slots
      (s + 1)

/-- The calls of one pass of a Tx thread without mirror. -/
def passEncryptCalls (build : BuildConfig) (monitor : Option MacAddress) (ctx : ThreadContext)
    (g : Generator) (p : TxPass) : List EncryptCall :=
  let n := ctx.conf.numFramesPerCycle.toNat
  if tcWaitForTxCycle ctx p = 0 then []
  else if ctx.conf.xdpEnabled then
    if p.freeDescriptors < n then []
    else prepareEncryptCalls ctx (txMetadataRoom build ctx.conf) p.now monitor g.frames
      ((frameNumbers g.frameNumber n).map (· - xskRingProdDefaultNumDescs)) g.sequenceCounter
  else prepareEncryptCalls ctx 0 p.now none g.frames (List.range n) g.sequenceCounter

/-- A reference and its mirror, with the calls both made so far. -/
structure SecuredPair where
  generator : Generator
  reference : ThreadContext
  mirror : ThreadContext
  calls : List EncryptCall

inductive SecuredEvent where
  | generate (p : TxPass)
  | referenceReceives (r : Reception)
  | mirrorReceives (r : Reception)

def Reception.encryptCall (ctx : ThreadContext) (r : Reception) : Option EncryptCall :=
  receiveEncryptCall r.env ctx r.frameData r.len

/-- The Tx thread of the reference and the Rx threads of both sides, in any interleaving. A frame
the mirror sends was sealed when it was received. -/
def securedPair (build : BuildConfig) (monitor : Option MacAddress) (sender : ThreadContext) :
    System SecuredPair SecuredEvent (List EncryptCall) where
  step pair
    | .generate p =>
      let calls := passEncryptCalls build monitor sender pair.generator p
      ({ pair with
          generator := ((generator build monitor sender).step pair.generator p).1
          calls := pair.calls ++ calls }, calls)
    | .referenceReceives r =>
      let calls := (r.encryptCall pair.reference).toList
      ({ pair with
          reference := (rxSystem.step pair.reference r).1
          calls := pair.calls ++ calls }, calls)
    | .mirrorReceives r =>
      let calls := (r.encryptCall pair.mirror).toList
      ({ pair with
          mirror := (rxSystem.step pair.mirror r).1
          calls := pair.calls ++ calls }, calls)

/-- The network delivers what one of the two sides sealed: late, twice, out of order or not at
all. -/
def SealedBefore (pair : SecuredPair) : SecuredEvent → Prop
  | .generate _ => True
  | .referenceReceives r => (r.encryptCall pair.reference).isSome →
      ∃ call ∈ pair.calls,
        authenticated pair.reference.conf.securityMode r.frameData r.len = call.ad
  | .mirrorReceives r => (r.encryptCall pair.mirror).isSome →
      ∃ call ∈ pair.calls, authenticated pair.mirror.conf.securityMode r.frameData r.len = call.ad

/-- The estimated send time is the time stamp the frame came with. -/
def Reception.KeepsStamp (ctx : ThreadContext) (r : Reception) : Prop :=
  (r.encryptCall ctx).isSome →
    metaDataToTxTimestamp r.frameData (sizeOfEthHeader r.frameData + 10) =
      r.env.now + (r.env.applicationTxBaseOffsetNs - r.env.applicationRxBaseOffsetNs)

def KeepsStamps (pair : SecuredPair) : SecuredEvent → Prop
  | .generate _ => True
  | .referenceReceives r => r.KeepsStamp pair.reference
  | .mirrorReceives r => r.KeepsStamp pair.mirror

section Unique
variable {calls fresh : List EncryptCall} {call call' : EncryptCall}

theorem ivsUnique_append (hfresh : ∀ call ∈ calls, ∀ call' ∈ fresh, call.iv ≠ call'.iv)
    (hunique : IvsUnique fresh) : IvsUnique (calls ++ fresh) ↔ IvsUnique calls := by
  constructor
  · intro h call hcall call' hcall'
    exact h call (List.mem_append_left _ hcall) call' (List.mem_append_left _ hcall')
  · intro h call hcall call' hcall' heq
    rcases List.mem_append.mp hcall with hcall | hcall
    · rcases List.mem_append.mp hcall' with hcall' | hcall'
      · exact h call hcall call' hcall' heq
      · exact absurd heq (hfresh call hcall call' hcall')
    · rcases List.mem_append.mp hcall' with hcall' | hcall'
      · exact absurd heq.symm (hfresh call' hcall' call hcall)
      · exact hunique call hcall call' hcall' heq

/-- A further call with a vector already in use has to repeat the earlier one. -/
theorem ivsUnique_again (hcall : call ∈ calls) (hiv : call'.iv = call.iv) :
    IvsUnique (calls ++ [call']) ↔ IvsUnique calls ∧ call' = call := by
  constructor
  · intro h
    refine ⟨fun x hx y hy => h x (List.mem_append_left _ hx) y (List.mem_append_left _ hy), ?_⟩
    exact h call' (List.mem_append_right _ (List.mem_singleton_self _)) call
      (List.mem_append_left _ hcall) hiv
  · rintro ⟨h, rfl⟩ x hx y hy
    have hmem (z : EncryptCall) (hz : z ∈ calls ++ [call']) : z ∈ calls := by
      rcases List.mem_append.mp hz with hz | hz
      · exact hz
      · rw [List.mem_singleton.mp hz]
        exact hcall
    exact h x (hmem x hx) y (hmem y hy)

end Unique

/-- What a call made for the frame with counter `s` looks like, on either side. -/
structure EncryptCall.Carries (ctx : ThreadContext) (call : EncryptCall) (s : UInt64) : Prop where
  iv_eq : call.iv = prepareIv ctx.conf.securityIvPrefix.bytes s
  counter : metaDataToSequenceCounter call.ad 10 ctx.conf.numFramesPerCycle =
    wireSequenceCounter ctx.conf.numFramesPerCycle s
  stamped : 10 + 16 ≤ call.ad.length
  plaintext_eq : call.plaintext =
    if ctx.conf.securityMode = .ae then some ctx.payloadPattern else none

/-- Both sides of a class run with one configuration as far as the seal is concerned. -/
structure Peer (ctx peer : ThreadContext) : Prop where
  securityMode_eq : peer.conf.securityMode = ctx.conf.securityMode
  ivPrefix_eq : peer.conf.securityIvPrefix = ctx.conf.securityIvPrefix
  numFramesPerCycle_eq : peer.conf.numFramesPerCycle = ctx.conf.numFramesPerCycle
  payloadPattern_eq : peer.payloadPattern = ctx.payloadPattern
  frameLength_fits : 60 ≤ peer.conf.frameLength

section Calls
variable {conf : TrafficClassConfig} {frameType : StatFrameType} {ctx peer : ThreadContext}
  {call : EncryptCall} {s s' t : UInt64} {frame mem : List UInt8}

theorem slice_adjusted (c : PrepareFrameConfig) (k : Nat) :
    slice (c.adjustMetaData (18 + 10)) 18 k =
      setMetaData (slice c.frameData 18 k) 10 c.sequenceCounter c.numFramesPerCycle
        c.txTimestamp := by
  simp only [PrepareFrameConfig.adjustMetaData, setMetaData, sequenceCounterToMetaData,
    txTimestampToMetaData, Nat.add_assoc, slice_write_shift]

theorem encryptCall_carries (hctx : ctx.ForClass conf frameType) (hc : CountedClass conf frameType)
    (hm : conf.securityMode ≠ .none) (hlen : frame.length = conf.frameLength) (s t : UInt64) :
    ∃ call, (ctx.prepareFrameConfig frame s t).encryptCall = some call ∧ call.Carries ctx s := by
  obtain ⟨-, hfits⟩ := hc.secure_layout hm
  have hne : ¬ ((ctx.prepareFrameConfig frame s t).frameType = .genericL2 ∧
      (ctx.prepareFrameConfig frame s t).protocolType = .etherCat) := by
    rintro ⟨h, he⟩
    have he : conf.protocolType = .etherCat := hctx.conf_eq ▸ he
    cases (hc.not_ethercat (hctx.frameType_eq ▸ h)).symm.trans he
  have hcarries (k : Nat) (hk : 26 ≤ k ∧ 18 + k ≤ conf.frameLength) :
      let ad := slice ((ctx.prepareFrameConfig frame s t).adjustMetaData (18 + 10)) 18 k
      metaDataToSequenceCounter ad 10 ctx.conf.numFramesPerCycle =
        wireSequenceCounter ctx.conf.numFramesPerCycle s ∧ 10 + 16 ≤ ad.length := by
    have hslice : 10 + 16 ≤ (slice frame 18 k).length := by
      rw [length_slice (by omega)]
      exact hk.1
    intro ad
    have had : ad = setMetaData (slice frame 18 k) 10 s ctx.conf.numFramesPerCycle t :=
      slice_adjusted _ k
    rw [had, length_setMetaData]
    exact ⟨(setMetaData_decode hslice).1, hslice⟩
  rw [PrepareFrameConfig.encryptCall, if_neg hne]
  have hmode : (ctx.prepareFrameConfig frame s t).mode = conf.securityMode := by
    rw [← hctx.conf_eq]
    rfl
  have hlength : (ctx.prepareFrameConfig frame s t).frameLength = conf.frameLength := by
    rw [← hctx.conf_eq]
    rfl
  cases hmode' : conf.securityMode with
  | none => exact absurd hmode' hm
  | ao =>
    simp only [hmode, hmode', hlength]
    obtain ⟨hcount, hroom⟩ := hcarries (conf.frameLength - 18 - 16) (by omega)
    refine ⟨_, rfl, rfl, hcount, hroom, ?_⟩
    rw [hctx.conf_eq, hmode', if_neg (by decide)]
  | ae =>
    simp only [hmode, hmode']
    obtain ⟨hcount, hroom⟩ := hcarries 26 (by omega)
    refine ⟨_, rfl, rfl, hcount, hroom, ?_⟩
    rw [hctx.conf_eq, hmode', if_pos rfl]
    rfl

theorem prepareEncryptCalls_carry (hctx : ctx.ForClass conf frameType)
    (hc : CountedClass conf frameType) (hm : conf.securityMode ≠ .none)
    (hslots : ∀ slot ∈ slots, slotOffset room slot + conf.frameLength ≤ mem.length)
    (monitor : Option MacAddress) (s t : UInt64) :
    List.Forall₂ (EncryptCall.Carries ctx) (prepareEncryptCalls ctx room t monitor mem slots s)
      (consecutive s slots.length) := by
  induction slots generalizing mem monitor s with
  | nil => exact .nil
  | cons slot slots ih =>
    obtain ⟨hslot, hslots⟩ := List.forall_mem_cons.mp hslots
    rw [prepareEncryptCalls, hctx.conf_eq]
    obtain ⟨call, hcall, hcarries⟩ :=
      encryptCall_carries hctx hc hm (length_slice hslot) s t
    rw [hcall]
    refine .cons hcarries (ih ?_ none (s + 1))
    simpa only [length_write] using hslots

/-- Two calls with one vector were made for one counter. -/
theorem EncryptCall.Carries.counter_inj (hp : ctx.conf.securityIvPrefix.bytes.length = 6)
    {call' : EncryptCall} (h : call.Carries ctx s) (h' : call'.Carries ctx s')
    (hs : s.toNat < 2 ^ 48) (hs' : s'.toNat < 2 ^ 48) (heq : call.iv = call'.iv) : s = s' := by
  rw [h.iv_eq, h'.iv_eq, prepareIv_eq_iff hp, Nat.mod_eq_of_lt hs, Nat.mod_eq_of_lt hs'] at heq
  exact UInt64.toNat_inj.mp heq

theorem slice_est (env : RxEnv) (frameData : List UInt8) (off k : Nat) :
    slice (setMirrorTxTimestampEst env frameData (off + 10)) off k =
      setMirrorTxTimestampEst env (slice frameData off k) 10 := by
  rw [setMirrorTxTimestampEst, setMirrorTxTimestampEst, txTimestampToMetaData,
    txTimestampToMetaData, Nat.add_assoc, slice_write_shift]

theorem metaDataToSequenceCounter_slice (frameData : List UInt8) (off : Nat) (hk : 26 ≤ k)
    (n : UInt64) :
    metaDataToSequenceCounter (slice frameData off k) 10 n =
      metaDataToSequenceCounter frameData (off + 10) n :=
  metaDataToSequenceCounter_congr (slice_slice _ hk)

theorem metaDataToTxTimestamp_slice (frameData : List UInt8) (off : Nat) (hk : 26 ≤ k) :
    metaDataToTxTimestamp (slice frameData off k) 10 =
      metaDataToTxTimestamp frameData (off + 10) :=
  metaDataToTxTimestamp_congr (slice_slice _ hk)

/-- A frame is sealed again under the vector its own counters give, with the estimated send time
in the part that is authenticated. -/
theorem receiveEncryptCall_eq (hpeer : Peer ctx peer)
    (h : receiveEncryptCall env peer frameData len = some call) :
    let ad := authenticated peer.conf.securityMode frameData len
    call = ⟨prepareIv ctx.conf.securityIvPrefix.bytes
        (metaDataToSequenceCounter ad 10 ctx.conf.numFramesPerCycle),
      setMirrorTxTimestampEst env ad 10,
      if ctx.conf.securityMode = .ae then some ctx.payloadPattern else none⟩ ∧
    metaDataToTxTimestamp ad 10 =
      metaDataToTxTimestamp frameData (sizeOfEthHeader frameData + 10) := by
  rw [receiveEncryptCall] at h
  split at h
  · cases h
  · rename_i hcheck
    have hsize : 26 ≤ len - sizeOfEthHeader frameData - sizeofSecurityChecksum := by
      obtain ⟨-, -, hlen⟩ := (checkVlanFrame_iff _ _ _ _ _ _).mp hcheck
      have hfits := hpeer.frameLength_fits
      rw [hlen, expectedFrameLength, sizeOfEthHeader]
      split
      · change 26 ≤ peer.conf.frameLength - 4 - 14 - 16
        omega
      · change 26 ≤ peer.conf.frameLength - 18 - 16
        omega
    have hiv : secureIv peer frameData = prepareIv ctx.conf.securityIvPrefix.bytes
        (metaDataToSequenceCounter frameData (sizeOfEthHeader frameData + 10)
          ctx.conf.numFramesPerCycle) := by
      rw [secureIv, secureSequenceCounter, hpeer.ivPrefix_eq, hpeer.numFramesPerCycle_eq]
    have hmode := hpeer.securityMode_eq
    rw [authenticated, ← hmode]
    dsimp only at h ⊢
    generalize sizeOfEthHeader frameData = srt at h hiv hsize ⊢
    cases hm : peer.conf.securityMode with
    | none => simp only [hm, reduceCtorEq] at h
    | ao =>
      simp only [hm, Option.some.injEq] at h
      rw [if_neg (by decide), if_neg (by decide), metaDataToSequenceCounter_slice _ _ hsize,
        metaDataToTxTimestamp_slice _ _ hsize, ← hiv, ← slice_est]
      exact ⟨h.symm, rfl⟩
    | ae =>
      simp only [hm, Option.some.injEq] at h
      have hsize : 26 ≤ sizeofProfinetSecureHeader := Nat.le_refl 26
      rw [if_pos rfl, if_pos rfl, metaDataToSequenceCounter_slice _ _ hsize,
        metaDataToTxTimestamp_slice _ _ hsize, ← hiv, ← slice_est, ← hpeer.payloadPattern_eq]
      exact ⟨h.symm, rfl⟩

end Calls

end RtcTestbench
