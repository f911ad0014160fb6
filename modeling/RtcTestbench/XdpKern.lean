import RtcTestbench.IntactSender
import RtcTestbench.PacketReceive

namespace RtcTestbench
open Buffer Machine
set_option autoImplicit true

/-- `struct xdp_md`: the places of the meta data and the frame in a chunk. -/
structure XdpMd where
  mem : List UInt8
  dataMeta : Nat
  data : Nat
  dataEnd : Nat
  rxQueueIndex : Nat
  meta_le : dataMeta ≤ data
  data_le : data ≤ dataEnd
  end_le : dataEnd ≤ mem.length

def XdpMd.frame (x : XdpMd) : List UInt8 := slice x.mem x.data (x.dataEnd - x.data)

/-- A read of the program. The verifier does not let it go beyond the frame. -/
def XdpMd.half (x : XdpMd) (off : Nat) : Option UInt16 :=
  if x.data + (off + 2) ≤ x.dataEnd then some (be16At x.mem (x.data + off)) else none

/-- A write of the program, within the meta data. -/
def XdpMd.storeMeta (x : XdpMd) (off w value : Nat) : Option XdpMd :=
  if x.dataMeta + (off + w) ≤ x.data then
    some { x with
      mem := storeLe x.mem (x.dataMeta + off) w value
      end_le := by rw [length_storeLe]; exact x.end_le }
  else none

/-- What the kernel answers to the calls of a program. -/
structure XdpKernel where
  metaSupported : Bool
  rxTimestamp : Except UInt32 UInt64
  ktimeTaiNs : UInt64

/-- `sizeof(struct xdp_meta)`: two time stamps, the hints and the padding. -/
def sizeofXdpMeta : Nat := 24

def xdpMetaFieldTs : Nat := 1

/-- `bpf_xdp_adjust_meta`: room for a `struct xdp_meta`, if the driver and the headroom allow. -/
def bpfXdpAdjustMeta (k : XdpKernel) (x : XdpMd) : Option XdpMd :=
  if k.metaSupported = true ∧ sizeofXdpMeta ≤ x.dataMeta then
    some { x with
      dataMeta := x.dataMeta - sizeofXdpMeta
      meta_le := Nat.le_trans (Nat.sub_le _ _) x.meta_le }
  else none

def populateRxTimestamp (build : BuildConfig) (k : XdpKernel) (x : XdpMd) : Option XdpMd :=
  if !build.rxTimestamp then some x
  else match bpfXdpAdjustMeta k x with
    | none => some x
    | some x =>
      if x.data < x.dataMeta + sizeofXdpMeta then some x
      else match k.rxTimestamp with
        | .error err =>
          (x.storeMeta 8 8 k.ktimeTaiNs.toNat).bind fun x =>
            (x.storeMeta 0 4 err.toNat).bind fun x => x.storeMeta 16 4 0
        | .ok timestamp =>
          (x.storeMeta 0 8 timestamp.toNat).bind fun x =>
            (x.storeMeta 8 8 k.ktimeTaiNs.toNat).bind fun x => x.storeMeta 16 4 xdpMetaFieldTs

def xdpGetTimestampMetadata (mem : List UInt8) (data : Nat) : UInt64 × UInt64 :=
  let metaData := data - sizeofXdpMeta
  if loadLe mem (metaData + 16) 4 &&& xdpMetaFieldTs ≠ 0 then
    (UInt64.ofNat (loadLe mem metaData 8), UInt64.ofNat (loadLe mem (metaData + 8) 8))
  else (0, 0)

structure BpfMap where
  maxEntries : Nat
  entries : Nat → Option Nat

def BpfMap.lookup (m : BpfMap) (key : Nat) : Option Nat :=
  if key < m.maxEntries then m.entries key else none

/-- A redirected frame goes to the socket or the interface that the map names. -/
inductive XdpAction where
  | pass
  | redirect (target : Nat)

def vlanIdMask : UInt16 := 0x0fff

/-- The definitions a filter is compiled with: `EBPF_VID`, `EBPF_ETH_TYPE`, `EBPF_PRIORITY` and
`EBPF_CHECK_FRAMEID`. -/
structure TbProgram where
  vid : UInt16
  ethType : UInt16
  priority : Nat
  checkFrameId : Bool

/-- The filters that are built. -/
def tbPrograms : List TbProgram :=
  [⟨100, 0x8892, 10, true⟩, ⟨100, 0xb62c, 20, false⟩, ⟨200, 0x8892, 10, true⟩,
    ⟨200, 0xb62c, 20, false⟩, ⟨300, 0xb62c, 20, false⟩, ⟨400, 0x22f0, 20, false⟩]

def checkFrameId (frameId : UInt16) : Bool :=
  [0x0100, 0x0101, 0x0200, 0x0201, 0x8000, 0x8001, 0xfc01, 0xfc02].contains frameId

section Programs
variable (build : BuildConfig) (k : XdpKernel)

def redirectToSocket (xsksMap : BpfMap) (x : XdpMd) : Option (XdpAction × XdpMd) :=
  match xsksMap.lookup x.rxQueueIndex with
  | some socket => (populateRxTimestamp build k x).map fun x => (.redirect socket, x)
  | none => some (.pass, x)

def xdpSockProg (p : TbProgram) (xsksMap : BpfMap) (x : XdpMd) : Option (XdpAction × XdpMd) :=
  if x.dataEnd < x.data + sizeofVlanEthernetHeader then some (.pass, x)
  else (x.half 12).bind fun vlanProto =>
    if vlanProto ≠ ethP8021Q then some (.pass, x)
    else (x.half 16).bind fun encapsulatedProto =>
      if encapsulatedProto ≠ p.ethType then some (.pass, x)
      else (x.half 14).bind fun vlantci =>
        if vlantci &&& vlanIdMask ≠ p.vid then some (.pass, x)
        else if p.checkFrameId then
          if x.dataEnd < x.data + (sizeofVlanEthernetHeader + sizeofProfinetRtHeader) then
            some (.pass, x)
          else (x.half 18).bind fun frameId =>
            if !checkFrameId frameId then some (.pass, x) else redirectToSocket build k xsksMap x
        else redirectToSocket build k xsksMap x

def xdpSockProgEthercat (xsksMap : BpfMap) (x : XdpMd) : Option (XdpAction × XdpMd) :=
  if x.dataEnd < x.data + sizeofEthhdr then some (.pass, x)
  else (x.half 12).bind fun hProto =>
    if hProto ≠ ethPEthercat then some (.pass, x) else redirectToSocket build k xsksMap x

end Programs

/-- `if_key` and `redirect`: the container that a VLAN belongs to. -/
def vethKey (vid : UInt16) : Option Nat :=
  let ifKey := if vid = 100 then some 0 else none
  if vid = 200 then some 1 else ifKey

def xdpSockProgVethDispatch (vethMap : BpfMap) (x : XdpMd) : Option (XdpAction × XdpMd) :=
  if x.dataEnd < x.data + sizeofVlanEthernetHeader then some (.pass, x)
  else (x.half 12).bind fun vlanProto =>
    if vlanProto ≠ ethP8021Q then some (.pass, x)
    else (x.half 16).bind fun encapsulatedProto =>
      if encapsulatedProto ≠ ethPProfinetRt then some (.pass, x)
      else (x.half 14).bind fun vlantci =>
        match (vethKey (vlantci &&& vlanIdMask)).bind vethMap.lookup with
        | none => some (.pass, x)
        | some interface => some (.redirect interface, x)

variable {x x' : XdpMd} {build : BuildConfig} {k : XdpKernel} {p : TbProgram} {off w : Nat}

theorem XdpMd.length_frame (x : XdpMd) : x.frame.length = x.dataEnd - x.data := by
  have := x.data_le
  have := x.end_le
  exact length_slice (by omega)

theorem XdpMd.half_eq (x : XdpMd) (off : Nat) :
    x.half off = if off + 2 ≤ x.frame.length then some (be16At x.frame off) else none := by
  have hle := x.data_le
  rw [half, x.length_frame]
  by_cases h : x.data + (off + 2) ≤ x.dataEnd
  · rw [if_pos h, if_pos (by omega), be16At, be16At, frame, slice_slice _ (by omega)]
  · rw [if_neg h, if_neg (by omega)]

theorem XdpMd.half_within (h : off + 2 ≤ x.frame.length) :
    x.half off = some (be16At x.frame off) := by
  rw [x.half_eq, if_pos h]

theorem XdpMd.short_iff (x : XdpMd) (n : Nat) : x.dataEnd < x.data + n ↔ x.frame.length < n := by
  have hle := x.data_le
  rw [x.length_frame]
  omega

/-- The frames a filter redirects. -/
def TbProgram.Selects (p : TbProgram) (frame : List UInt8) : Prop :=
  18 ≤ frame.length ∧ be16At frame 12 = ethP8021Q ∧ be16At frame 16 = p.ethType ∧
    be16At frame 14 &&& vlanIdMask = p.vid ∧
    (p.checkFrameId = true → 36 ≤ frame.length ∧ RtcTestbench.checkFrameId (be16At frame 18) = true)

theorem xdpSockProg_selected (h : p.Selects x.frame) (build : BuildConfig) (k : XdpKernel)
    (xsksMap : BpfMap) :
    xdpSockProg build k p xsksMap x = redirectToSocket build k xsksMap x := by
  obtain ⟨hlen, htag, htype, hvid, hid⟩ := h
  rw [xdpSockProg, if_neg (by rw [x.short_iff]; exact Nat.not_lt.mpr hlen),
    x.half_within (by omega), Option.bind_some, if_neg (not_not_intro htag),
    x.half_within (by omega), Option.bind_some, if_neg (not_not_intro htype),
    x.half_within (by omega), Option.bind_some, if_neg (not_not_intro hvid)]
  split
  · rename_i hcheck
    obtain ⟨hlong, hid⟩ := hid hcheck
    rw [if_neg (by rw [x.short_iff]; exact Nat.not_lt.mpr hlong), x.half_within (by omega),
      Option.bind_some, hid]
    rfl
  · rfl

theorem xdpSockProg_others (h : ¬ p.Selects x.frame) (build : BuildConfig) (k : XdpKernel)
    (xsksMap : BpfMap) : xdpSockProg build k p xsksMap x = some (.pass, x) := by
  rw [xdpSockProg]
  by_cases hlen : 18 ≤ x.frame.length
  swap
  · rw [if_pos (by rw [x.short_iff]; exact Nat.not_le.mp hlen)]
  rw [if_neg (by rw [x.short_iff]; exact Nat.not_lt.mpr hlen), x.half_within (by omega),
    Option.bind_some]
  by_cases htag : be16At x.frame 12 = ethP8021Q
  swap
  · rw [if_pos htag]
  rw [if_neg (not_not_intro htag), x.half_within (by omega), Option.bind_some]
  by_cases htype : be16At x.frame 16 = p.ethType
  swap
  · rw [if_pos htype]
  rw [if_neg (not_not_intro htype), x.half_within (by omega), Option.bind_some]
  by_cases hvid : be16At x.frame 14 &&& vlanIdMask = p.vid
  swap
  · rw [if_pos hvid]
  rw [if_neg (not_not_intro hvid)]
  by_cases hcheck : p.checkFrameId = true
  swap
  · exact absurd ⟨hlen, htag, htype, hvid, fun hc => absurd hc hcheck⟩ h
  rw [if_pos hcheck]
  by_cases hlong : 36 ≤ x.frame.length
  swap
  · rw [if_pos (by rw [x.short_iff]; exact Nat.not_le.mp hlong)]
  rw [if_neg (by rw [x.short_iff]; exact Nat.not_lt.mpr hlong), x.half_within (by omega),
    Option.bind_some]
  cases hid : checkFrameId (be16At x.frame 18) with
  | false => rfl
  | true => exact absurd ⟨hlen, htag, htype, hvid, fun _ => ⟨hlong, hid⟩⟩ h

/-- The time stamps that come with a frame. -/
def XdpKernel.timestamps (k : XdpKernel) : UInt64 × UInt64 :=
  match k.rxTimestamp with
  | .ok timestamp => (timestamp, k.ktimeTaiNs)
  | .error _ => (0, 0)

/-- The places of the frame and everything from it on are as they were. -/
structure XdpMd.Same (x x' : XdpMd) : Prop where
  data_eq : x'.data = x.data
  end_eq : x'.dataEnd = x.dataEnd
  queue_eq : x'.rxQueueIndex = x.rxQueueIndex
  length_eq : x'.mem.length = x.mem.length
  behind : ∀ i n, x.data ≤ i → slice x'.mem i n = slice x.mem i n

theorem XdpMd.Same.refl (x : XdpMd) : x.Same x := ⟨rfl, rfl, rfl, rfl, fun _ _ _ => rfl⟩

theorem XdpMd.Same.trans (h : x.Same x') (h' : x'.Same x'') : x.Same x'' where
  data_eq := h'.data_eq.trans h.data_eq
  end_eq := h'.end_eq.trans h.end_eq
  queue_eq := h'.queue_eq.trans h.queue_eq
  length_eq := h'.length_eq.trans h.length_eq
  behind i n hi := (h'.behind i n (by rw [h.data_eq]; exact hi)).trans (h.behind i n hi)

theorem XdpMd.Same.frame_eq (h : x.Same x') : x'.frame = x.frame := by
  rw [frame, frame, h.data_eq, h.end_eq, h.behind _ _ (Nat.le_refl _)]

theorem XdpMd.storeMeta_within (x : XdpMd) (off w value : Nat)
    (h : x.dataMeta + (off + w) ≤ x.data) :
    ∃ x', x.storeMeta off w value = some x' ∧ x.Same x' ∧ x'.dataMeta = x.dataMeta ∧
      x'.mem = storeLe x.mem (x.dataMeta + off) w value := by
  rw [storeMeta, if_pos h]
  exact ⟨_, rfl, ⟨rfl, rfl, rfl, length_storeLe _ _ _ _,
    fun i n hi => slice_storeLe_other (.inr (by omega)) _ _⟩, rfl, rfl⟩

/-- Three members are set one after the other. -/
theorem XdpMd.storeMeta_three (x : XdpMd) (off₁ w₁ v₁ off₂ w₂ v₂ off₃ w₃ v₃ : Nat)
    (h : x.dataMeta + sizeofXdpMeta ≤ x.data) (h₁ : off₁ + w₁ ≤ sizeofXdpMeta)
    (h₂ : off₂ + w₂ ≤ sizeofXdpMeta) (h₃ : off₃ + w₃ ≤ sizeofXdpMeta) :
    ∃ x', ((x.storeMeta off₁ w₁ v₁).bind fun x =>
        (x.storeMeta off₂ w₂ v₂).bind fun x => x.storeMeta off₃ w₃ v₃) = some x' ∧
      x.Same x' ∧
      x'.mem = storeLe (storeLe (storeLe x.mem (x.dataMeta + off₁) w₁ v₁) (x.dataMeta + off₂) w₂ v₂)
        (x.dataMeta + off₃) w₃ v₃ := by
  obtain ⟨y, hy, hsame, hmeta, hmem⟩ := x.storeMeta_within off₁ w₁ v₁ (by omega)
  have hdata := hsame.data_eq
  obtain ⟨z, hz, hsame', hmeta', hmem'⟩ := y.storeMeta_within off₂ w₂ v₂ (by omega)
  have hdata' := hsame'.data_eq
  obtain ⟨x', hx, hsame'', hmeta'', hmem''⟩ := z.storeMeta_within off₃ w₃ v₃ (by omega)
  refine ⟨x', ?_, (hsame.trans hsame').trans hsame'', ?_⟩
  · rw [hy, Option.bind_some, hz, Option.bind_some, hx]
  · rw [hmem'', hmeta', hmeta, hmem', hmeta, hmem]

theorem xdpGetTimestampMetadata_set (h : off + 24 ≤ mem.length) (hw sw : UInt64) :
    xdpGetTimestampMetadata (storeLe (storeLe (storeLe mem (off + 0) 8 hw.toNat) (off + 8) 8
      sw.toNat) (off + 16) 4 xdpMetaFieldTs) (off + sizeofXdpMeta) = (hw, sw) := by
  have hlen (off w x : Nat) (mem : List UInt8) := length_storeLe mem off w x
  have hhint : xdpMetaFieldTs % 256 ^ 4 &&& xdpMetaFieldTs ≠ 0 := by decide
  rw [xdpGetTimestampMetadata, Nat.add_sub_cancel,
    loadLe_storeLe (by rw [hlen, hlen]; omega), if_pos hhint, Nat.add_zero,
    loadLe_storeLe_other (.inl (by omega)), loadLe_storeLe_other (.inl (by omega)),
    loadLe_storeLe_word (by omega), loadLe_storeLe_other (.inl (by omega)),
    loadLe_storeLe_word (by rw [hlen]; omega)]

theorem xdpGetTimestampMetadata_clear (h : off + 24 ≤ mem.length) :
    xdpGetTimestampMetadata (storeLe mem (off + 16) 4 0) (off + sizeofXdpMeta) = (0, 0) := by
  have hhint : ¬ (0 % 256 ^ 4 &&& xdpMetaFieldTs ≠ 0) := by decide
  rw [xdpGetTimestampMetadata, Nat.add_sub_cancel, loadLe_storeLe (by omega), if_neg hhint]

/-- What user space finds in front of a frame is what the program was told about it. -/
theorem populateRxTimestamp_spec (build : BuildConfig) (k : XdpKernel) (x : XdpMd) :
    ∃ x', populateRxTimestamp build k x = some x' ∧ x.Same x' ∧
      (build.rxTimestamp = true → k.metaSupported = true → x.dataMeta = x.data →
        sizeofXdpMeta ≤ x.data → xdpGetTimestampMetadata x'.mem x'.data = k.timestamps) := by
  rw [populateRxTimestamp]
  cases hbuild : build.rxTimestamp with
  | false => exact ⟨x, rfl, .refl x, fun h => by cases h⟩
  | true =>
    rw [bpfXdpAdjustMeta]
    by_cases hroom : k.metaSupported = true ∧ sizeofXdpMeta ≤ x.dataMeta
    swap
    · rw [if_neg hroom]
      exact ⟨x, rfl, .refl x, fun _ hk hmeta hdata => absurd ⟨hk, hmeta ▸ hdata⟩ hroom⟩
    rw [if_pos hroom]
    generalize hy : ({ x with
      dataMeta := x.dataMeta - sizeofXdpMeta
      meta_le := Nat.le_trans (Nat.sub_le _ _) x.meta_le } : XdpMd) = y
    have hmeta : y.dataMeta + sizeofXdpMeta = x.dataMeta := by
      subst hy
      exact Nat.sub_add_cancel hroom.2
    have hsame : x.Same y := by
      subst hy
      exact ⟨rfl, rfl, rfl, rfl, fun _ _ _ => rfl⟩
    have hfit : y.dataMeta + sizeofXdpMeta ≤ y.data := by
      rw [hmeta, hsame.data_eq]
      exact x.meta_le
    have hmem : y.dataMeta + 24 ≤ y.mem.length :=
      Nat.le_trans hfit (Nat.le_trans y.data_le y.end_le)
    have hplace (hat : x.dataMeta = x.data) : y.data = y.dataMeta + sizeofXdpMeta := by
      rw [hmeta, hat, hsame.data_eq]
    dsimp only
    rw [if_neg (by decide), if_neg (Nat.not_lt.mpr hfit), XdpKernel.timestamps]
    cases k.rxTimestamp with
    | ok timestamp =>
      obtain ⟨x', hx, hsame', hmem'⟩ := y.storeMeta_three 0 8 timestamp.toNat 8 8 k.ktimeTaiNs.toNat
        16 4 xdpMetaFieldTs hfit (by decide) (by decide) (by decide)
      refine ⟨x', hx, hsame.trans hsame', fun _ _ hat _ => ?_⟩
      rw [hsame'.data_eq, hplace hat, hmem', xdpGetTimestampMetadata_set hmem]
    | error err =>
      obtain ⟨x', hx, hsame', hmem'⟩ := y.storeMeta_three 8 8 k.ktimeTaiNs.toNat 0 4
        err.toNat 16 4 0 hfit (by decide) (by decide) (by decide)
      refine ⟨x', hx, hsame.trans hsame', fun _ _ hat _ => ?_⟩
      rw [hsame'.data_eq, hplace hat, hmem', xdpGetTimestampMetadata_clear]
      rw [length_storeLe, length_storeLe]
      exact hmem

theorem redirectToSocket_spec (build : BuildConfig) (k : XdpKernel) (xsksMap : BpfMap)
    (x : XdpMd) :
    ∃ x', x.Same x' ∧ redirectToSocket build k xsksMap x =
      some (match xsksMap.lookup x.rxQueueIndex with
        | some socket => (.redirect socket, x')
        | none => (.pass, x)) ∧
      (build.rxTimestamp = true → k.metaSupported = true → x.dataMeta = x.data →
        sizeofXdpMeta ≤ x.data → xdpGetTimestampMetadata x'.mem x'.data = k.timestamps) := by
  obtain ⟨x', hx, hsame, htimes⟩ := populateRxTimestamp_spec build k x
  refine ⟨x', hsame, ?_, htimes⟩
  rw [redirectToSocket]
  cases xsksMap.lookup x.rxQueueIndex with
  | none => rfl
  | some socket =>
    rw [hx]
    rfl

/-- A filter that an application has attached, with the map of its sockets. -/
inductive Attached where
  | tb (p : TbProgram) (xsksMap : BpfMap)
  | ethercat (xsksMap : BpfMap)

def Attached.run (build : BuildConfig) (k : XdpKernel) :
    Attached → XdpMd → Option (XdpAction × XdpMd)
  | .tb p xsksMap => xdpSockProg build k p xsksMap
  | .ethercat xsksMap => xdpSockProgEthercat build k xsksMap

def Attached.Selects : Attached → List UInt8 → Prop
  | .tb p _, frame => p.Selects frame
  | .ethercat _, frame => 14 ≤ frame.length ∧ be16At frame 12 = ethPEthercat

def Attached.sockets : Attached → BpfMap
  | .tb _ xsksMap | .ethercat xsksMap => xsksMap

theorem Attached.run_selected (a : Attached) (h : a.Selects x.frame) :
    a.run build k x = redirectToSocket build k a.sockets x := by
  cases a with
  | tb p xsksMap => exact xdpSockProg_selected h build k xsksMap
  | ethercat xsksMap =>
    rw [run, xdpSockProgEthercat, if_neg (by rw [x.short_iff]; exact Nat.not_lt.mpr h.1),
      x.half_within h.1, Option.bind_some, if_neg (not_not_intro h.2)]
    rfl

theorem Attached.run_others (a : Attached) (h : ¬ a.Selects x.frame) :
    a.run build k x = some (.pass, x) := by
  cases a with
  | tb p xsksMap => exact xdpSockProg_others h build k xsksMap
  | ethercat xsksMap =>
    rw [run, xdpSockProgEthercat]
    by_cases hlen : 14 ≤ x.frame.length
    · have hproto : be16At x.frame 12 ≠ ethPEthercat := fun hproto => h ⟨hlen, hproto⟩
      rw [if_neg (by rw [x.short_iff]; exact Nat.not_lt.mpr hlen), x.half_within hlen,
        Option.bind_some, if_pos hproto]
    · rw [if_pos (by rw [x.short_iff]; exact Nat.not_le.mp hlen)]

/-- The programs of an interface, in the order of their priority: after `XDP_PASS` the next one
runs. -/
def runChain (build : BuildConfig) (k : XdpKernel) :
    List Attached → XdpMd → Option (XdpAction × XdpMd)
  | [], x => some (.pass, x)
  | a :: chain, x => (a.run build k x).bind fun r =>
    match r.1 with
    | .pass => runChain build k chain r.2
    | .redirect _ => some r

theorem runChain_others (h : ∀ a ∈ chain, ¬ a.Selects x.frame) :
    runChain build k chain x = some (.pass, x) := by
  induction chain with
  | nil => rfl
  | cons a chain ih =>
    obtain ⟨ha, hchain⟩ := List.forall_mem_cons.mp h
    rw [runChain, a.run_others ha]
    exact ih hchain

/-- Only the program that selects a frame counts, wherever it stands. -/
theorem runChain_selected (hbefore : ∀ b ∈ before, ¬ b.Selects x.frame)
    (hafter : ∀ b ∈ after, ¬ b.Selects x.frame) (ha : a.Selects x.frame) :
    runChain build k (before ++ a :: after) x = redirectToSocket build k a.sockets x := by
  induction before with
  | nil =>
    obtain ⟨x', -, heq, -⟩ := redirectToSocket_spec build k a.sockets x
    rw [List.nil_append, runChain, a.run_selected ha, heq]
    cases a.sockets.lookup x.rxQueueIndex with
    | none => exact runChain_others hafter
    | some socket => rfl
  | cons b before ih =>
    obtain ⟨hb, hbefore⟩ := List.forall_mem_cons.mp hbefore
    rw [List.cons_append, runChain, b.run_others hb]
    exact ih hbefore

/-- Two programs for different frames. -/
def Attached.Apart : Attached → Attached → Prop
  | .tb p _, .tb q _ => (p.vid, p.ethType) ≠ (q.vid, q.ethType)
  | .ethercat _, .ethercat _ => False
  | _, _ => True

theorem Attached.Apart.not_both (h : Apart a b) (ha : a.Selects frame) : ¬ b.Selects frame := by
  intro hb
  cases a with
  | tb p map =>
    cases b with
    | tb q map' =>
      apply h
      rw [← ha.2.2.2.1, ← ha.2.2.1, ← hb.2.2.2.1, ← hb.2.2.1]
    | ethercat map' => cases ha.2.1.symm.trans hb.2
  | ethercat map =>
    cases b with
    | tb q map' => cases hb.2.1.symm.trans ha.2
    | ethercat map' => exact h

theorem Attached.Apart.symm (h : Apart a b) : Apart b a := by
  cases a with
  | tb p map =>
    cases b with
    | tb q map' => exact Ne.symm h
    | ethercat map' => trivial
  | ethercat map =>
    cases b with
    | tb q map' => trivial
    | ethercat map' => exact h

instance Attached.instSymmApart : Std.Symm Attached.Apart := ⟨fun _ _ h => h.symm⟩

theorem runChain_mem (hapart : chain.Pairwise Attached.Apart) (hmem : a ∈ chain)
    (ha : a.Selects x.frame) :
    runChain build k chain x = redirectToSocket build k a.sockets x := by
  obtain ⟨before, after, rfl⟩ := List.append_of_mem hmem
  rw [List.pairwise_append, List.pairwise_cons] at hapart
  obtain ⟨-, ⟨hafter, -⟩, hbefore⟩ := hapart
  apply runChain_selected _ _ ha
  · intro b hb
    exact (hbefore b hb a List.mem_cons_self).symm.not_both ha
  · intro b hb
    exact (hafter b hb).not_both ha

/-- The dispatcher of the host hands over exactly the frames of the two containers. -/
theorem xdpSockProgVethDispatch_eq (vethMap : BpfMap) (x : XdpMd) :
    (18 ≤ x.frame.length ∧ be16At x.frame 12 = ethP8021Q ∧ be16At x.frame 16 = ethPProfinetRt →
      xdpSockProgVethDispatch vethMap x =
        some (match (vethKey (be16At x.frame 14 &&& vlanIdMask)).bind vethMap.lookup with
          | some interface => (.redirect interface, x)
          | none => (.pass, x))) ∧
    (¬ (18 ≤ x.frame.length ∧ be16At x.frame 12 = ethP8021Q ∧
      be16At x.frame 16 = ethPProfinetRt) →
      xdpSockProgVethDispatch vethMap x = some (.pass, x)) := by
  rw [xdpSockProgVethDispatch]
  by_cases hlen : 18 ≤ x.frame.length
  swap
  · rw [if_pos (by rw [x.short_iff]; exact Nat.not_le.mp hlen)]
    exact ⟨fun h => absurd h.1 hlen, fun _ => rfl⟩
  rw [if_neg (by rw [x.short_iff]; exact Nat.not_lt.mpr hlen), x.half_within (by omega),
    Option.bind_some]
  by_cases htag : be16At x.frame 12 = ethP8021Q
  swap
  · rw [if_pos htag]
    exact ⟨fun h => absurd h.2.1 htag, fun _ => rfl⟩
  rw [if_neg (not_not_intro htag), x.half_within (by omega), Option.bind_some]
  by_cases htype : be16At x.frame 16 = ethPProfinetRt
  swap
  · rw [if_pos htype]
    exact ⟨fun h => absurd h.2.2 htype, fun _ => rfl⟩
  rw [if_neg (not_not_intro htype), x.half_within (by omega), Option.bind_some]
  refine ⟨fun _ => ?_, fun h => absurd ⟨hlen, htag, htype⟩ h⟩
  cases (vethKey (be16At x.frame 14 &&& vlanIdMask)).bind vethMap.lookup <;> rfl

/-- The programs of an interface never read beyond a frame, never change or drop one, and hand over
exactly those that one of them is for and has a socket for, whatever their order is. -/
theorem xdp_chain_classifies (build : BuildConfig) (k : XdpKernel) (chain : List Attached)
    (hapart : chain.Pairwise Attached.Apart) (x : XdpMd) :
    ∃ action x', (∀ chain', chain.Perm chain' →
        runChain build k chain' x = some (action, x')) ∧
      x'.frame = x.frame ∧ (action = .pass → x' = x) ∧
      ∀ socket, action = .redirect socket ↔
        ∃ a ∈ chain, a.Selects x.frame ∧ a.sockets.lookup x.rxQueueIndex = some socket := by
  by_cases hsel : ∃ a ∈ chain, a.Selects x.frame
  · obtain ⟨a, hmem, ha⟩ := hsel
    obtain ⟨x', hsame, heq, -⟩ := redirectToSocket_spec build k a.sockets x
    have hrun (chain' : List Attached) (hperm : chain.Perm chain') :
        runChain build k chain' x = redirectToSocket build k a.sockets x :=
      runChain_mem (hperm.pairwise hapart fun h => h.symm) (hperm.mem_iff.mp hmem) ha
    have honly (b : Attached) (hb : b ∈ chain) (hselects : b.Selects x.frame) : b = a := by
      by_contra hne
      exact (hapart.forall hb hmem hne).not_both hselects ha
    cases hlookup : a.sockets.lookup x.rxQueueIndex with
    | none =>
      rw [hlookup] at heq
      refine ⟨.pass, x, fun chain' hperm => (hrun chain' hperm).trans heq, rfl, fun _ => rfl,
        fun socket => iff_of_false (fun h => by cases h) ?_⟩
      rintro ⟨b, hb, hselects, hsome⟩
      rw [honly b hb hselects, hlookup] at hsome
      cases hsome
    | some socket =>
      rw [hlookup] at heq
      refine ⟨.redirect socket, x', fun chain' hperm => (hrun chain' hperm).trans heq,
        hsame.frame_eq, fun h => (by cases h), fun socket' => ?_⟩
      constructor
      · intro h
        cases h
        exact ⟨a, hmem, ha, hlookup⟩
      · rintro ⟨b, hb, hselects, hsome⟩
        rw [honly b hb hselects, hlookup] at hsome
        cases hsome
        rfl
  · have hnone : ∀ a ∈ chain, ¬ a.Selects x.frame := fun a ha hs => hsel ⟨a, ha, hs⟩
    refine ⟨.pass, x, fun chain' hperm => ?_, rfl, fun _ => rfl, fun socket => ?_⟩
    · exact runChain_others fun a ha => hnone a (hperm.mem_iff.mpr ha)
    · refine iff_of_false (fun h => by cases h) ?_
      rintro ⟨a, ha, hs, -⟩
      exact hnone a ha hs

/-- The filters that are built are for different frames. -/
theorem tbPrograms_apart (maps : TbProgram → BpfMap) (xsksMap : BpfMap) :
    (.ethercat xsksMap :: tbPrograms.map fun p => .tb p (maps p)).Pairwise Attached.Apart := by
  rw [List.pairwise_cons]
  constructor
  · intro a ha
    obtain ⟨p, -, rfl⟩ := List.mem_map.mp ha
    trivial
  · rw [List.pairwise_map]
    have hdistinct : tbPrograms.Pairwise fun p q => (p.vid, p.ethType) ≠ (q.vid, q.ethType) := by
      decide
    exact hdistinct

/-- One socket, for the first queue. -/
def oneSocket : BpfMap := ⟨128, fun key => if key = 0 then some 7 else none⟩

/-- The header of an EtherCAT frame, with room for the meta data. -/
def ethercatMd : XdpMd where
  mem := List.replicate 36 0 ++ [0x88, 0xa4]
  dataMeta := 24
  data := 24
  dataEnd := 38
  rxQueueIndex := 0
  meta_le := Nat.le_refl _
  data_le := by decide
  end_le := by decide

theorem xdp_chain_classifies_ethercat :
    ∃ x', x'.frame = ethercatMd.frame ∧ runChain fullBuild ⟨true, .ok 1, 2⟩
        (.ethercat oneSocket :: tbPrograms.map fun p => .tb p oneSocket) ethercatMd =
      some (.redirect 7, x') := by
  obtain ⟨action, x', hrun, hframe, -, hiff⟩ := xdp_chain_classifies fullBuild ⟨true, .ok 1, 2⟩ _
    (tbPrograms_apart (fun _ => oneSocket) oneSocket) ethercatMd
  have haction : action = .redirect 7 :=
    (hiff 7).mpr ⟨.ethercat oneSocket, List.mem_cons_self, ⟨by decide, by decide⟩, by decide⟩
  exact ⟨x', hframe, haction ▸ hrun _ (List.Perm.refl _)⟩

end RtcTestbench
