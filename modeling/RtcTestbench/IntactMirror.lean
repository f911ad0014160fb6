import RtcTestbench.IntactFrame

namespace RtcTestbench
open Buffer DropOldest
set_option autoImplicit true

variable {conf : TrafficClassConfig} {frameType : StatFrameType} {cipher : Aead.Cipher}
  {frame buf tail : List UInt8} {len : Nat} {s : UInt64} {ctx : ThreadContext} {env : RxEnv}
  {acc : RxAccepted} {stripped rxMirrorEnabled xdpEnabled : Bool}

theorem Delivered.room (h : Delivered frame stripped buf len) (hl : 18 ≤ frame.length) :
    len ≤ buf.length := by
  have hlen := h.len_eq
  have hbody : (slice frame 16 (frame.length - 16)).length = frame.length - 16 :=
    length_slice (by omega)
  have hview := congrArg List.length (h.view 16 (frame.length - 16) (Nat.le_refl _) (by omega))
  rw [hbody, slice, List.length_take, List.length_drop] at hview
  cases stripped <;> simp only [Bool.false_eq_true, ↓reduceIte] at hlen hview <;> omega

/-- What is written behind the tag can be written before the tag is back. -/
theorem Delivered.write (h : Delivered frame stripped buf len) (hoff : 16 ≤ off)
    (src : List UInt8) :
    Delivered (write frame off src) stripped
      (write buf (off - if stripped then 4 else 0) src) len := by
  have hle : (if stripped then 4 else 0) ≤ 4 := by split <;> decide
  obtain ⟨hlen, hview, htag⟩ := h
  refine ⟨by rw [length_write]; exact hlen, ?_, ?_⟩
  · generalize (if stripped then 4 else 0) = t at hle hview
    intro i k hi hk
    rw [length_write] at hk
    obtain ⟨a, rfl⟩ := Nat.exists_eq_add_of_le hi
    obtain ⟨b, rfl⟩ := Nat.exists_eq_add_of_le hoff
    have hin : a + k ≤ frame.length - 16 := by omega
    rw [show 16 + a - t = 16 - t + a by omega, show 16 + b - t = 16 - t + b by omega,
      ← slice_slice _ hin, ← slice_slice _ hin, slice_write_shift, slice_write_shift,
      hview 16 _ (Nat.le_refl _) (by omega)]
  · intro hs
    subst hs
    rw [slice_write_left _ _ (by simpa using Nat.le_trans (by decide) hoff),
      slice_write_left _ _ (Nat.le_trans (by decide) hoff), htag rfl]

/-- The time stamp and the seal that a receiver puts into a frame. -/
def restamp (env : RxEnv) (ctx : ThreadContext) (s : UInt64) (frame : List UInt8) : List UInt8 :=
  sealFrame ctx.conf ctx.rxSecurityContext ctx.payloadPattern s
    (txTimestampToMetaData frame ctx.metaDataOffset
      (env.now + (env.applicationTxBaseOffsetNs - env.applicationRxBaseOffsetNs)))

section Sealed
variable (h : Delivered frame stripped buf len) (hlong : 60 ≤ frame.length)
  (hsize : srt = 18 - if stripped then 4 else 0) (c : Aead.Cipher) (iv : List UInt8)
include h hlong hsize

theorem Delivered.sealedAo :
    Delivered
      (Buffer.write frame (frame.length - 16)
        (c.encrypt none (slice frame 18 (frame.length - 34)) iv).tag) stripped
      (Buffer.write buf (len - 16) (c.encrypt none (slice buf srt (len - srt - 16)) iv).tag)
      len := by
  have hle : (if stripped then 4 else 0) ≤ 4 := by split <;> decide
  have hlen := h.len_eq
  have had := h.view 18 (frame.length - 34) (by decide) (by omega)
  rw [hsize, show len - (18 - if stripped then 4 else 0) - 16 = frame.length - 34 by omega, had,
    show len - 16 = frame.length - 16 - if stripped then 4 else 0 by omega]
  exact h.write (by omega) _

theorem Delivered.sealedAe (pattern : List UInt8) :
    Delivered
      (writeAll frame
        [(44, (c.encrypt (some pattern) (slice frame 18 26) iv).ciphertext),
          (frame.length - 16, (c.encrypt (some pattern) (slice frame 18 26) iv).tag)]) stripped
      (writeAll buf
        [(srt + 26, (c.encrypt (some pattern) (slice buf srt 26) iv).ciphertext),
          (len - 16, (c.encrypt (some pattern) (slice buf srt 26) iv).tag)]) len := by
  have hle : (if stripped then 4 else 0) ≤ 4 := by split <;> decide
  have hlen := h.len_eq
  have had := h.view 18 26 (by decide) (by omega)
  rw [hsize, had, show len - 16 = frame.length - 16 - if stripped then 4 else 0 by omega,
    show (18 - if stripped then 4 else 0) + 26 = 44 - if stripped then 4 else 0 by omega]
  exact (h.write (show 16 ≤ 44 by decide) _).write (by omega) _

end Sealed

theorem Delivered.stamped (h : Delivered frame stripped buf len) (hoff : 18 ≤ off)
    (env : RxEnv) :
    Delivered (setMirrorTxTimestampEst env frame off) stripped
      (setMirrorTxTimestampEst env buf (off - if stripped then 4 else 0)) len := by
  have hle : (if stripped then 4 else 0) ≤ 4 := by split <;> decide
  have hwrite := h.write (show 16 ≤ off + 8 by omega)
    (be64 (env.now + (env.applicationTxBaseOffsetNs - env.applicationRxBaseOffsetNs)))
  rwa [show off + 8 - (if stripped then 4 else 0) = off - (if stripped then 4 else 0) + 8 by omega]
    at hwrite

/-- What decoding does to a received frame, with or without its tag, is what it would do to the
frame itself. -/
theorem decodeProfinetFrame_delivered (hctx : ctx.ForClass conf frameType)
    (ht : frameType ∈ [.tsnHigh, .tsnLow, .rtc, .rta]) (hc : CountedClass conf frameType)
    (hlen : frame.length = conf.frameLength) (h : Delivered frame stripped buf len)
    (hsize : sizeOfEthHeader buf = 18 - if stripped then 4 else 0) :
    Delivered (restamp env ctx (secureSequenceCounter ctx buf) frame) stripped
      (decodeProfinetFrame env ctx buf len).frameData len := by
  obtain ⟨rfl, rfl, -, hoff⟩ := hctx
  have hle : (if stripped then 4 else 0) ≤ 4 := by split <;> decide
  have hmeta := getMetaDataOffset_profinet ht ctx.conf.securityMode
  rw [← hoff] at hmeta
  have hstamp := h.stamped (show 18 ≤ ctx.metaDataOffset by omega) env
  have hsame : (setMirrorTxTimestampEst env frame ctx.metaDataOffset).length =
      ctx.conf.frameLength := (length_setMirrorTxTimestampEst _ _ _).trans hlen
  rw [decodeProfinetFrame, restamp, sealFrame]
  generalize hs : txTimestampToMetaData frame ctx.metaDataOffset
    (env.now + (env.applicationTxBaseOffsetNs - env.applicationRxBaseOffsetNs)) = frame'
  rw [show setMirrorTxTimestampEst env frame ctx.metaDataOffset = frame' from hs] at hstamp hsame
  cases hm : ctx.conf.securityMode with
  | none =>
    rw [hm, if_pos rfl] at hmeta
    simp only [decodeRtFrame]
    rw [hsize, show (18 - if stripped then 4 else 0) + 2 =
      ctx.metaDataOffset - if stripped then 4 else 0 by omega]
    exact hstamp
  | ao =>
    obtain ⟨-, hlong⟩ := hc.secure_layout (by rw [hm]; decide)
    rw [hm, if_neg (by decide)] at hmeta
    rw [show ctx.metaDataOffset - (if stripped then 4 else 0) = sizeOfEthHeader buf + 10 by omega]
      at hstamp
    have hseal := hstamp.sealedAo (by omega) hsize ctx.rxSecurityContext (secureIv ctx buf)
    rw [hsame] at hseal
    exact hseal
  | ae =>
    obtain ⟨-, hlong⟩ := hc.secure_layout (by rw [hm]; decide)
    rw [hm, if_neg (by decide)] at hmeta
    rw [show ctx.metaDataOffset - (if stripped then 4 else 0) = sizeOfEthHeader buf + 10 by omega]
      at hstamp
    have hseal := hstamp.sealedAe (by omega) hsize ctx.rxSecurityContext (secureIv ctx buf)
      ctx.payloadPattern
    rw [hsame] at hseal
    exact hseal

theorem decodeGenericL2Frame_delivered (hctx : ctx.ForClass conf .genericL2)
    (hm : conf.securityMode = .none) (h : Delivered frame stripped buf len)
    (hsize : sizeOfEthHeader buf = 18 - if stripped then 4 else 0) :
    Delivered (restamp env ctx s frame) stripped (decodeGenericL2Frame env ctx buf).frameData
      len := by
  have hoff : ctx.metaDataOffset = 18 := by
    rw [hctx.metaDataOffset_eq, hm]
    rfl
  simp only [restamp, sealFrame, hctx.conf_eq, hm, hoff, decodeGenericL2Frame, hsize]
  exact h.stamped (Nat.le_refl 18) env

theorem sameBody_of_slice (hlen : frame'.length = frame.length)
    (htag : be16At frame' 12 = be16At frame 12)
    (hbody : slice frame' (bodyOffset frameType) (frame.length - bodyOffset frameType) =
      slice frame (bodyOffset frameType) (frame.length - bodyOffset frameType)) :
    SameBody frameType frame frame' := by
  refine ⟨hlen, htag, fun i k hi => ?_⟩
  have hdrop : frame'.drop (bodyOffset frameType) = frame.drop (bodyOffset frameType) := by
    rw [Buffer.slice, Buffer.slice, List.take_of_length_le (by rw [List.length_drop]; omega),
      List.take_of_length_le (by rw [List.length_drop])] at hbody
    exact hbody
  obtain ⟨j, rfl⟩ := Nat.exists_eq_add_of_le hi
  rw [← drop_slice, hdrop, drop_slice]

/-- The frame that goes into the mirror buffer has the body of the one that was received. -/
theorem sameBody_buildVlanFrame (ht : frameType ≠ .lldp) (h : Delivered frame true buf len)
    (hl : 18 ≤ frame.length) (hmax : frame.length ≤ maxFrameSize)
    (htag : be16At frame 12 = ethP8021Q) (hproto : be16At frame 16 = etherType)
    (hnew : newFrame.length = maxFrameSize) (vlanTci : UInt16) :
    SameBody frameType frame (slice (buildVlanFrameFromRx buf len newFrame maxFrameSize etherType
      vlanTci) 0 (len + 4)) := by
  have hlen : len + 4 = frame.length := by
    have hlen : len = frame.length - 4 := h.len_eq
    omega
  have hroom := h.room hl
  have hbody : slice buf 12 (frame.length - 16) = slice frame 16 (frame.length - 16) :=
    h.view 16 _ (Nat.le_refl _) (by omega)
  have hether : etherType = be16At buf 12 := by
    rw [← hproto, be16At, ← h.view 16 2 (Nat.le_refl _) hl]
    rfl
  have hbuf : (Buffer.slice buf 0 len).length = len := length_slice (by omega)
  rw [hether, slice_copied (by omega) (by omega) hroom hnew]
  obtain ⟨hfirst, hrest⟩ := slice_reflectFrame (show 12 ≤ (Buffer.slice buf 0 len).length by omega)
    vlanTci
  apply sameBody_of_slice
  · rw [length_reflectFrame (by omega), hbuf, hlen]
  · rw [be16At, hfirst, be16toh_be16, htag]
  · rw [bodyOffset, if_neg ht, hrest 12 _ (Nat.le_refl _), slice_slice _ (by omega), ← hbody]

section Stored
variable (hm : ctx.conf.rxMirrorEnabled = true) (hx : ctx.conf.xdpEnabled = false)
include hm hx

theorem receiveProfinetFrame_stored (hok : receiveProfinetFrame env ctx buf len = .ok acc) :
    acc.ctx.mirrorBuffer = ringBufferAdd ctx.mirrorBuffer
      (slice (buildVlanFrameFromRx (decodeProfinetFrame env ctx buf len).frameData len env.newFrame
        maxFrameSize ethPProfinetRt ctx.conf.vlanTci) 0 (len + 4)) := by
  rw [receiveProfinetFrame] at hok
  split at hok
  · cases hok
  · cases hok
    rw [storeVlanFrame_packet _ _ _ _ hm hx]
    rfl

theorem genericL2RxFrame_stored (hok : genericL2RxFrame env ctx buf len = .ok acc) :
    acc.ctx.mirrorBuffer = ringBufferAdd ctx.mirrorBuffer
      (slice (buildVlanFrameFromRx (decodeGenericL2Frame env ctx buf).frameData len env.newFrame
        maxFrameSize ctx.conf.etherType.toUInt16 ctx.conf.vlanTci) 0 (len + 4)) := by
  simp only [genericL2RxFrame] at hok
  split at hok
  · cases hok
  · cases hok
    rw [storeVlanFrame_packet _ _ _ _ hm hx]
    rfl

end Stored

theorem dcpRxFrame_stored (hm : ctx.conf.rxMirrorEnabled = true)
    (hok : dcpRxFrame env ctx buf len = .ok acc) :
    acc.ctx.mirrorBuffer = ringBufferAdd ctx.mirrorBuffer
      (slice (dcpBuildFrameFromRx env ctx buf len env.newFrame maxFrameSize) 0 (len + 4)) := by
  rw [dcpRxFrame] at hok
  split at hok
  · cases hok
  · simp only [hm, Bool.not_true, Bool.false_eq_true, ↓reduceIte] at hok
    cases hok
    rfl

theorem lldpRxFrame_stored (hm : ctx.conf.rxMirrorEnabled = true)
    (hok : lldpRxFrame env ctx buf len = .ok acc) :
    acc.ctx.mirrorBuffer = ringBufferAdd ctx.mirrorBuffer
      (slice (lldpBuildFrameFromRx env ctx buf) 0 len) := by
  rw [lldpRxFrame] at hok
  split at hok
  · cases hok
  · simp only [hm, Bool.not_true, Bool.false_eq_true, ↓reduceIte] at hok
    cases hok
    rfl

/-- Without a seal only the time stamp changes. -/
theorem restamp_plain (hm : ctx.conf.securityMode = .none) (s : UInt64) (frame : List UInt8) :
    restamp env ctx s frame = setMirrorTxTimestampEst env frame ctx.metaDataOffset := by
  rw [restamp, sealFrame, hm]
  rfl

theorem sameBody_dcpFrame (hoff : ctx.metaDataOffset = 20) (h : Delivered frame true buf len)
    (hl : 36 ≤ frame.length) (hmax : frame.length ≤ maxFrameSize)
    (htag : be16At frame 12 = ethP8021Q) (hproto : be16At frame 16 = ethPProfinetRt)
    (hnew : newFrame.length = maxFrameSize) (hm : ctx.conf.securityMode = .none) :
    SameBody .dcp (restamp env ctx s frame)
      (slice (dcpBuildFrameFromRx env ctx buf len newFrame maxFrameSize) 0 (len + 4)) := by
  have hlen : len + 4 = frame.length := by
    have hlen : len = frame.length - 4 := h.len_eq
    omega
  have hroom := h.room (by omega)
  have hsource := ctx.source.length_eq
  have hdst : (Buffer.slice buf 0 6).length = 6 := length_slice (by omega)
  have hmove : (Buffer.slice buf 12 (len - 12)).length = len - 12 := length_slice (by omega)
  rw [restamp_plain hm, hoff, dcpBuildFrameFromRx,
    if_neg (by rw [sizeofVlanHeader, hlen]; exact Nat.not_lt.mpr hmax)]
  generalize hws : [(16, Buffer.slice buf 12 (len - 12)), (0, Buffer.slice buf 0 6),
    (6, ctx.source.bytes), (12, be16 ethP8021Q), (14, be16 ctx.conf.vlanTci),
    (16, be16 ethPProfinetRt)] = ws
  have hbuilt : (writeAll newFrame ws).length = maxFrameSize := (length_writeAll _ _).trans hnew
  have h₁₂ : be16At (writeAll newFrame ws) 12 = ethP8021Q :=
    be16At_writeAll (k := 3) (by rw [← hws]; rfl) (by omega) (by simp [← hws])
  have h₁₆ : Buffer.slice (writeAll newFrame ws) 16 2 = Buffer.slice frame 16 2 := by
    have hwrite := slice_writeAll_at newFrame 5 (show ws[5]? = some (16, be16 ethPProfinetRt) by
      rw [← hws]; rfl) (by rw [length_be16]; omega) (by simp [← hws])
    rw [length_be16] at hwrite
    rw [hwrite, ← hproto, be16_be16At (by omega)]
  have h₁₈ : Buffer.slice (writeAll newFrame ws) 18 (frame.length - 18) =
      Buffer.slice frame 18 (frame.length - 18) := by
    rw [slice_writeAll_within newFrame 0 (by rw [← hws]; rfl) (by omega) (by decide) (by omega)
      (by simp [← hws, hdst, hsource]), slice_slice buf (by omega),
      ← h.view 18 _ (by decide) (by omega)]
    rfl
  have hbody : Buffer.slice (writeAll newFrame ws) 16 (frame.length - 16) =
      Buffer.slice frame 16 (frame.length - 16) := by
    rw [show frame.length - 16 = 2 + (frame.length - 18) by omega, slice_add, slice_add, h₁₆, h₁₈]
  have hstamp (mem : List UInt8) : setMirrorTxTimestampEst env mem 20 =
      Buffer.write mem (16 + 12)
        (be64 (env.now + (env.applicationTxBaseOffsetNs - env.applicationRxBaseOffsetNs))) := rfl
  simp only [sizeofVlanEthernetHeader]
  have hlength (mem : List UInt8) : (setMirrorTxTimestampEst env mem 20).length = mem.length :=
    length_setMirrorTxTimestampEst _ _ _
  apply sameBody_of_slice
  · rw [length_slice (by rw [hlength, hbuilt]; omega), hlength, hlen]
  · rw [be16At, slice_slice _ (by omega), Nat.zero_add,
      slice_setMirrorTxTimestampEst_keeps (by decide), ← be16At, h₁₂, be16At,
      slice_setMirrorTxTimestampEst_keeps (by decide), ← be16At, htag]
  · rw [hlength, show bodyOffset .dcp = 16 from rfl, slice_slice _ (by omega), Nat.zero_add, hstamp,
      hstamp, slice_write_shift, slice_write_shift, hbody]

theorem sameBody_lldpFrame (hoff : ctx.metaDataOffset = 14) (hl : 30 ≤ frame.length)
    (hm : ctx.conf.securityMode = .none) (tail : List UInt8) :
    SameBody .lldp (restamp env ctx s frame)
      (slice (lldpBuildFrameFromRx env ctx (frame ++ tail)) 0 frame.length) := by
  have hsource := ctx.source.length_eq
  have hlength (mem : List UInt8) : (setMirrorTxTimestampEst env mem 14).length = mem.length :=
    length_setMirrorTxTimestampEst _ _ _
  have hstamp (mem : List UInt8) : setMirrorTxTimestampEst env mem 14 =
      Buffer.write mem (14 + 8)
        (be64 (env.now + (env.applicationTxBaseOffsetNs - env.applicationRxBaseOffsetNs))) := rfl
  have hfront (i k : Nat) (hi : 12 ≤ i) (hk : i + k ≤ frame.length) :
      Buffer.slice (Buffer.write (frame ++ tail) 6 ctx.source.bytes) i k =
        Buffer.slice frame i k := by
    rw [slice_write_right _ _ (by omega), slice_append_left _ _ hk]
  rw [restamp_plain hm, hoff, lldpBuildFrameFromRx, sizeofEthhdr]
  apply sameBody_of_slice
  · rw [length_slice (by rw [hlength, length_write, List.length_append]; omega), hlength]
  · rw [be16At, slice_slice _ (by omega), Nat.zero_add,
      slice_setMirrorTxTimestampEst_keeps (by decide), hfront 12 2 (by decide) (by omega), be16At,
      slice_setMirrorTxTimestampEst_keeps (by decide)]
  · rw [hlength, show bodyOffset .lldp = 14 from rfl, slice_slice _ (by omega), Nat.zero_add,
      hstamp, hstamp, slice_write_shift, slice_write_shift, hfront 14 _ (by decide) (by omega)]

theorem Intact.tagged (h : Intact conf frameType cipher frame s)
    (hc : CountedClass conf frameType) (he : wireEtherType conf frameType = some etherType) :
    18 ≤ frame.length := by
  have hlength := h.length_eq
  have hfits := hc.metaData_fits
  have hoff := metaData_behind_header he conf.securityMode
  omega

theorem Intact.header_size (h : Intact conf frameType cipher frame s)
    (hc : CountedClass conf frameType) (he : wireEtherType conf frameType = some etherType)
    (hne : etherType ≠ ethP8021Q) (hd : Delivered frame stripped buf len) :
    sizeOfEthHeader buf = 18 - if stripped then 4 else 0 := by
  obtain ⟨htag, hproto⟩ := h.header etherType he
  exact (hd.header (h.tagged hc he) htag hproto hne).2.1

section Restamped
variable (h : Intact conf frameType cipher frame s) (hc : CarriedClass conf frameType)
  (hctx : ctx.ForClass (peerConfig conf rxMirrorEnabled xdpEnabled) frameType)
include h hc hctx

/-- A receiver seals the frame again under the counter it was sealed with. -/
theorem Intact.restamp_counter (hd : Delivered frame stripped buf len) (env : RxEnv) :
    restamp env ctx (secureSequenceCounter ctx buf) frame =
      restamp env ctx (wireSequenceCounter conf.numFramesPerCycle s) frame := by
  by_cases hm : conf.securityMode = .none
  · have hnone : ctx.conf.securityMode = .none := by
      rw [hctx.conf_eq]
      exact hm
    rw [restamp_plain hnone, restamp_plain hnone]
  · rw [(h.secureView hc hctx hd hm).counter]

theorem Intact.restamp (hkey : ctx.rxSecurityContext = cipher) (hideal : Aead.Ideal cipher)
    (hp : PatternFits conf ctx.payloadPattern) (env : RxEnv) :
    Intact conf frameType cipher
      (restamp env ctx (wireSequenceCounter conf.numFramesPerCycle s) frame) s := by
  rw [RtcTestbench.restamp, hctx.metaDataOffset_eq, hkey, hctx.conf_eq]
  exact (h.toFilled.stamped _).sealed hc hideal hp

end Restamped

section Mirrored
variable (h : Intact conf frameType cipher frame s) (hc : CarriedClass conf frameType)
  (hctx : ctx.ForClass (peerConfig conf true false) frameType)
  (hkey : ctx.rxSecurityContext = cipher)
include h hc hctx hkey

/-- The five classes that see the tag taken off put it back. -/
theorem Intact.built (hideal : Aead.Ideal cipher) (hp : PatternFits conf ctx.payloadPattern)
    (hnew : env.newFrame.length = maxFrameSize) (ht : frameType ≠ .lldp)
    (he : wireEtherType conf frameType = some etherType)
    (hd : Delivered (RtcTestbench.restamp env ctx
      (wireSequenceCounter conf.numFramesPerCycle s) frame) true buf len) :
    SameBody frameType
      (RtcTestbench.restamp env ctx (wireSequenceCounter conf.numFramesPerCycle s) frame)
      (slice (buildVlanFrameFromRx buf len env.newFrame maxFrameSize etherType ctx.conf.vlanTci) 0
        (len + 4)) := by
  have hrestamp := h.restamp hc hctx hkey hideal hp env
  have hsame := hrestamp.length_eq
  have hfits := hc.metaData_fits
  have hoff := metaData_behind_header he conf.securityMode
  have hmax := hc.fits_chunk
  obtain ⟨htag, hproto⟩ := hrestamp.header etherType he
  exact sameBody_buildVlanFrame ht hd (by omega) (by omega) htag hproto hnew _

/-- What the receive function of the class adds to the buffer has the body it gave the frame. -/
theorem Intact.stored (hideal : Aead.Ideal cipher) (hp : PatternFits conf ctx.payloadPattern)
    (hnew : env.newFrame.length = maxFrameSize) (tail : List UInt8)
    (hok : receiveFrame env ctx (deliver frameType true frame ++ tail)
      (deliver frameType true frame).length = .ok acc) :
    ∃ stored, acc.ctx.mirrorBuffer = ringBufferAdd ctx.mirrorBuffer stored ∧
      SameBody frameType (RtcTestbench.restamp env ctx
        (wireSequenceCounter conf.numFramesPerCycle s) frame) stored := by
  have hlength := h.length_eq
  have hmax := hc.fits_chunk
  have hfits := hc.metaData_fits
  have hm : ctx.conf.rxMirrorEnabled = true := by rw [hctx.conf_eq]; rfl
  have hx : ctx.conf.xdpEnabled = false := by rw [hctx.conf_eq]; rfl
  have hplain (hns : frameType ∉ [.tsnHigh, .tsnLow, .rtc, .rta]) : conf.securityMode = .none ∧
      ctx.conf.securityMode = .none := by
    rw [hctx.conf_eq]
    refine and_self_iff.mpr ?_
    by_contra hsec
    exact hns (hc.secured hsec)
  have hprofinet (ht : frameType ∈ [.tsnHigh, .tsnLow, .rtc, .rta])
      (hok : receiveProfinetFrame env ctx (stripVlanTag frame ++ tail)
        (stripVlanTag frame).length = .ok acc) :
      ∃ stored, acc.ctx.mirrorBuffer = ringBufferAdd ctx.mirrorBuffer stored ∧
        SameBody frameType (RtcTestbench.restamp env ctx
          (wireSequenceCounter conf.numFramesPerCycle s) frame) stored := by
    have he := wireEtherType_profinet conf ht
    have hd := delivered_stripped (h.tagged hc.toCountedClass he) tail
    refine ⟨_, receiveProfinetFrame_stored hm hx hok,
      h.built hc hctx hkey hideal hp hnew ?_ he ?_⟩
    · rintro rfl
      simp at ht
    · rw [← h.restamp_counter hc hctx hd]
      exact decodeProfinetFrame_delivered hctx ht
        ⟨hc.not_udp, hc.secured, hc.not_ethercat, hc.fits, hc.fits_chunk⟩ hlength hd
        (h.header_size hc.toCountedClass he (by decide) hd)
  rw [receiveFrame, hctx.frameType_eq] at hok
  cases frameType with
  | tsnHigh => exact hprofinet (by simp) hok
  | tsnLow => exact hprofinet (by simp) hok
  | rtc => exact hprofinet (by simp) hok
  | rta => exact hprofinet (by simp) hok
  | dcp =>
    obtain ⟨hnone, hnone'⟩ := hplain (by simp)
    have hd := delivered_stripped (h.tagged hc.toCountedClass rfl) tail
    obtain ⟨htag, hproto⟩ := h.header _ rfl
    have hoff := hctx.metaDataOffset_eq
    rw [hnone] at hfits
    rw [show (peerConfig conf true false).securityMode = .none from hnone] at hoff
    refine ⟨_, dcpRxFrame_stored hm hok, ?_⟩
    exact sameBody_dcpFrame hoff hd (Nat.le_trans hfits hlength.ge)
      (hlength.trans_le hmax) htag hproto hnew hnone'
  | lldp =>
    obtain ⟨-, hnone⟩ := hplain (by simp)
    refine ⟨_, lldpRxFrame_stored hm hok, ?_⟩
    exact sameBody_lldpFrame hctx.metaDataOffset_eq (Nat.le_trans hfits hlength.ge) hnone tail
  | udpHigh => exact absurd rfl hc.not_udp.1
  | udpLow => exact absurd rfl hc.not_udp.2
  | genericL2 =>
    obtain ⟨hnone, -⟩ := hplain (by simp)
    have hd := delivered_stripped (h.tagged hc.toCountedClass rfl) tail
    rw [show ctx.conf.protocolType = .genericL2 by rw [hctx.conf_eq]; exact hc.not_ethercat rfl]
      at hok
    have hstored := genericL2RxFrame_stored hm hx hok
    rw [show ctx.conf.etherType = conf.etherType by rw [hctx.conf_eq]; rfl] at hstored
    refine ⟨_, hstored, h.built hc hctx hkey hideal hp hnew (by decide) rfl ?_⟩
    exact decodeGenericL2Frame_delivered hctx hnone hd
      (h.header_size hc.toCountedClass rfl (etherType_ne (hc.ether rfl)) hd)

/-- The mirror stores an intact frame as an intact frame of the same counter. -/
theorem Intact.mirrored (hideal : Aead.Ideal cipher) (hp : PatternFits conf ctx.payloadPattern)
    (hnew : env.newFrame.length = maxFrameSize) (tail : List UInt8) :
    let received := deliver frameType true frame
    ∃ acc stored, receiveFrame env ctx (received ++ tail) received.length = .ok acc ∧
      CleanReceipt acc (wireSequenceCounter conf.numFramesPerCycle s) ∧
      acc.ctx.mirrorBuffer = ringBufferAdd ctx.mirrorBuffer stored ∧
      Intact conf frameType cipher stored s := by
  intro received
  obtain ⟨acc, hok, hclean⟩ := h.received hc hctx hkey
    (show Delivers frameType ⟨s, frame⟩ ⟨env, received ++ tail, received.length⟩ from
      ⟨true, tail, rfl, rfl⟩)
  obtain ⟨stored, hadd, hbody⟩ := h.stored hc hctx hkey hideal hp hnew tail hok
  exact ⟨acc, stored, hok, hclean, hadd,
    (h.restamp hc hctx hkey hideal hp env).sameBody hbody hc.toCountedClass⟩

end Mirrored

/-- A mirror for the frames of a class, on AF_XDP or not. -/
structure MirrorReady (conf : TrafficClassConfig) (xdpEnabled : Bool) (frameType : StatFrameType)
    (cipher : Aead.Cipher) (ctx : ThreadContext) : Prop where
  forClass : ctx.ForClass (peerConfig conf true xdpEnabled) frameType
  key : ctx.rxSecurityContext = cipher
  pattern : PatternFits conf ctx.payloadPattern

theorem MirrorReady.sameClass (h : MirrorReady conf xdpEnabled frameType cipher ctx)
    (hs : SequenceChecked ctx acc) : MirrorReady conf xdpEnabled frameType cipher acc.ctx := by
  have hsame := hs.sameClass
  refine ⟨hs.forClass h.forClass, ?_, ?_⟩
  · rw [hsame.rxSecurityContext_eq]
    exact h.key
  · rw [hsame.payloadPattern_eq]
    exact h.pattern

end RtcTestbench
