import RtcTestbench.GeneratedFrames
import RtcTestbench.Lib.Rotation

namespace RtcTestbench
open Buffer Function Machine Rotation
set_option autoImplicit true

def destinationOf (frame : List UInt8) : List UInt8 := slice frame 0 6

/-- The first frame of a pass, and no other one, goes to the monitor. -/
def MarksFirst (monitor l2Destination : MacAddress) (sent : List SentFrame) : Prop :=
  ∀ i f, sent[i]? = some f →
    (destinationOf f.bytes = monitor.bytes ↔ i = 0) ∧
      (i ≠ 0 → destinationOf f.bytes = l2Destination.bytes)

/-- The table after `j` passes that sent frames, if none of it is ever unmarked. -/
structure MarkedAfter (conf : TrafficClassConfig) (monitor : MacAddress) (j : Nat)
    (a : SlotGenerator) : Prop where
  frameNumber : a.frameNumber = (j * conf.numFramesPerCycle.toNat) % 4096 + 4096
  length : ∀ slot < 4096, 6 ≤ (a.table slot).length
  marked : ∀ m < j,
    destinationOf (a.table (m * conf.numFramesPerCycle.toNat % 4096)) = monitor.bytes
  unmarked : ∀ slot < 4096, (∀ m < j, slot ≠ m * conf.numFramesPerCycle.toNat % 4096) →
    destinationOf (a.table slot) = conf.l2Destination.bytes

variable {conf : TrafficClassConfig} {frameType : StatFrameType} {ctx : ThreadContext}
  {source : MacAddress} {frame mem : List UInt8} {build : BuildConfig} {monitor : MacAddress}
  {table : Nat → List UInt8} {slots : List Nat} {a : SlotGenerator} {p : TxPass}

/-- Nothing that is written into a frame later reaches its destination. -/
theorem prepared_destination (hctx : ctx.ForClass conf frameType)
    (hudp : frameType ≠ .udpHigh ∧ frameType ≠ .udpLow) (hL : 22 ≤ conf.frameLength)
    (frame : List UInt8) (s t : UInt64) :
    destinationOf (ctx.prepared frame s t) = destinationOf frame := by
  apply prepared_slice hctx
  · obtain ⟨hhigh, hlow⟩ := hudp
    cases frameType <;> cases conf.securityMode <;> simp_all [getMetaDataOffset]
  · exact Nat.le_sub_of_add_le hL
  · exact fun _ => by decide

theorem initializeFrame_destination (hudp : ctx.frameType ≠ .udpHigh ∧ ctx.frameType ≠ .udpLow)
    (hm : 6 ≤ mem.length) (bufferLength : Nat) (source destination : MacAddress) :
    destinationOf (initializeFrame ctx mem bufferLength source destination) =
      destination.bytes := by
  have hlen := destination.length_eq
  have hat {ws : List (Nat × List UInt8)} (hk : ws[1]? = some (0, destination.bytes))
      (hpost : ∀ w ∈ ws.drop 2, 6 ≤ w.1) : destinationOf (writeAll mem ws) = destination.bytes := by
    have h := slice_writeAll_at mem 1 hk (by omega) fun w hw => .inl (by have := hpost w hw; omega)
    rw [hlen] at h
    exact h
  unfold initializeFrame
  cases hft : ctx.frameType with
  | tsnHigh | tsnLow | rtc | rta =>
    dsimp only [initializeProfinetFrame]
    cases ctx.conf.securityMode with
    | none => exact hat rfl (by simp)
    | ao | ae => exact hat rfl (by simp)
  | dcp | lldp => exact hat rfl (by simp)
  | genericL2 =>
    dsimp only
    cases ctx.conf.protocolType with
    | etherCat => exact hat rfl (by simp)
    | genericL2 => exact hat rfl (by simp)
  | udpHigh => exact absurd hft hudp.1
  | udpLow => exact absurd hft hudp.2

section Marks
variable (hkeep : ∀ frame s t, destinationOf (ctx.prepared frame s t) = destinationOf frame)
include hkeep

theorem patchSlots_keeps (table : Nat → List UInt8) (slots : List Nat) (s t : UInt64) :
    (∀ b, destinationOf ((patchSlots ctx t none table slots s).1 b) = destinationOf (table b)) ∧
      (patchSlots ctx t none table slots s).2.map (fun f => destinationOf f.bytes) =
        slots.map fun slot => destinationOf (table slot) := by
  induction slots generalizing table s with
  | nil => exact ⟨fun _ => rfl, rfl⟩
  | cons slot slots ih =>
    rw [patchSlots]
    dsimp only [monitorFrame]
    have hsame (b : Nat) : destinationOf (update table slot (ctx.prepared (table slot) s t) b) =
        destinationOf (table b) := by
      by_cases h : b = slot
      · subst h
        rw [update_self, hkeep]
      · rw [update_of_ne h]
    obtain ⟨htable, hsent⟩ := ih (update table slot (ctx.prepared (table slot) s t)) (s + 1)
    refine ⟨fun b => (htable b).trans (hsame b), ?_⟩
    rw [List.map_cons, List.map_cons, hsent, hkeep]
    exact congrArg _ (List.map_congr_left fun b _ => hsame b)

theorem patchSlots_marks (monitor : MacAddress) (hlen : 6 ≤ (table slot).length)
    (hnot : slot ∉ slots) (s t : UInt64) :
    let r := patchSlots ctx t (some monitor) table (slot :: slots) s
    destinationOf (r.1 slot) = monitor.bytes ∧
      (∀ b, b ≠ slot → destinationOf (r.1 b) = destinationOf (table b)) ∧
      r.2.map (fun f => destinationOf f.bytes) =
        monitor.bytes :: slots.map fun b => destinationOf (table b) := by
  intro r
  generalize hframe : monitorFrame (some monitor) (ctx.prepared (table slot) s t) = frame
  have hdest : destinationOf frame = monitor.bytes := by
    rw [← hframe]
    apply slice_write_self
    · rw [monitor.length_eq, ThreadContext.prepared, length_prepareFrameForTx]
      exact hlen
    · exact monitor.length_eq.symm
  obtain ⟨htable, hsent⟩ := patchSlots_keeps hkeep (update table slot frame) slots (s + 1) t
  have hr : r = ((patchSlots ctx t none (update table slot frame) slots (s + 1)).1,
      ⟨s, frame⟩ :: (patchSlots ctx t none (update table slot frame) slots (s + 1)).2) := by
    rw [← hframe]
    rfl
  rw [hr]
  refine ⟨?_, fun b hb => ?_, ?_⟩
  · rw [htable, update_self, hdest]
  · rw [htable, update_of_ne hb]
  · rw [List.map_cons, hsent, hdest]
    refine congrArg _ (List.map_congr_left fun b hb => ?_)
    have hne : b ≠ slot := fun h => hnot (h ▸ hb)
    rw [update_of_ne hne]

end Marks

theorem passSlots_eq (hx : ctx.conf.xdpEnabled = true) (h : 4096 ≤ fn) (h' : fn < 8192) :
    passSlots ctx fn =
      (List.range ctx.conf.numFramesPerCycle.toNat).map fun i => (fn + i) % 4096 := by
  rw [passSlots, hx, if_pos rfl, frameNumbers_eq h h', List.map_map]
  apply List.map_congr_left
  intro i _
  rw [comp_apply, xskRingProdDefaultNumDescs, Nat.add_sub_cancel]

theorem passSlots_rotation (hx : ctx.conf.xdpEnabled = true) (x : Nat) :
    passSlots ctx (x % 4096 + 4096) =
      (List.range ctx.conf.numFramesPerCycle.toNat).map fun i => (x + i) % 4096 := by
  rw [passSlots_eq hx (by omega) (by omega)]
  apply List.map_congr_left
  intro i _
  omega

theorem MacAddress.eq_of_bytes {x y : MacAddress} (h : x.bytes = y.bytes) : x = y := by
  cases x
  cases y
  cases h
  rfl

theorem marksFirst_iff (hne : monitor ≠ l2) {ds : List (List UInt8)}
    (h : sent.map (fun f : SentFrame => destinationOf f.bytes) = monitor.bytes :: ds) :
    MarksFirst monitor l2 sent ↔ ∀ d ∈ ds, d = l2.bytes := by
  have hbytes : monitor.bytes ≠ l2.bytes := fun h => hne (MacAddress.eq_of_bytes h)
  cases sent with
  | nil => cases h
  | cons f sent =>
    rw [List.map_cons, List.cons.injEq] at h
    obtain ⟨hf, rfl⟩ := h
    rw [List.forall_mem_map]
    constructor
    · intro hmarks g hg
      obtain ⟨i, hi⟩ := List.mem_iff_getElem?.mp hg
      exact (hmarks (i + 1) g hi).2 (Nat.succ_ne_zero i)
    · intro hrest i g hg
      cases i with
      | zero =>
        cases hg
        exact ⟨iff_of_true hf rfl, fun h => absurd rfl h⟩
      | succ i =>
        have hdest := hrest g (List.mem_of_getElem? hg)
        refine ⟨iff_of_false ?_ (Nat.succ_ne_zero i), fun _ => hdest⟩
        rw [hdest]
        exact hbytes.symm

theorem forall_between_succ {P : Nat → Prop} (j c : Nat) :
    (∀ m, j ≤ m → m < j + (c + 1) → P m) ↔ P j ∧ ∀ m, j + 1 ≤ m → m < j + 1 + c → P m := by
  constructor
  · intro h
    exact ⟨h j (Nat.le_refl j) (by omega), fun m hm hlt => h m (by omega) (by omega)⟩
  · rintro ⟨hj, hrest⟩ m hm hlt
    rcases Nat.eq_or_lt_of_le hm with rfl | hjm
    · exact hj
    · exact hrest m hjm (by omega)

section Passes
variable (hkeep : ∀ frame s t, destinationOf (ctx.prepared frame s t) = destinationOf frame)
  (hx : ctx.conf.xdpEnabled = true)
include hkeep hx

section Pass
variable (hle : k + 1 ≤ 4096) (hk : ctx.conf.numFramesPerCycle.toNat = k + 1)
  (h : MarkedAfter ctx.conf monitor j a)
include hle hk h

/-- What pass `j` does to the destinations in the table, and those it sends to. -/
theorem pass_destinations (s t : UInt64) :
    let r := patchSlots ctx t (some monitor) a.table (passSlots ctx a.frameNumber) s
    destinationOf (r.1 (j * (k + 1) % 4096)) = monitor.bytes ∧
      (∀ b, b ≠ j * (k + 1) % 4096 → destinationOf (r.1 b) = destinationOf (a.table b)) ∧
      r.2.map (fun f => destinationOf f.bytes) = monitor.bytes ::
        (List.range k).map fun i => destinationOf (a.table ((j * (k + 1) + (i + 1)) % 4096)) := by
  intro r
  have hslots : passSlots ctx a.frameNumber =
      j * (k + 1) % 4096 :: (List.range k).map fun i => (j * (k + 1) + (i + 1)) % 4096 := by
    rw [h.frameNumber, passSlots_rotation hx, hk, List.range_succ_eq_map, List.map_cons,
      List.map_map]
    rfl
  have hfirst : j * (k + 1) % 4096 < 4096 := Nat.mod_lt _ (by decide)
  have hnot : j * (k + 1) % 4096 ∉ (List.range k).map fun i => (j * (k + 1) + (i + 1)) % 4096 := by
    intro hmem
    obtain ⟨i, hi, heq⟩ := List.mem_map.mp hmem
    rw [List.mem_range] at hi
    omega
  obtain ⟨hmark, hother, hdests⟩ := patchSlots_marks hkeep monitor (h.length _ hfirst) hnot s t
  rw [← hslots] at hmark hother hdests
  rw [List.map_map] at hdests
  exact ⟨hmark, hother, hdests⟩

theorem MarkedAfter.pass (s s' t : UInt64) :
    MarkedAfter ctx.conf monitor (j + 1) ⟨s', nextFrameNumber^[k + 1] a.frameNumber,
      (patchSlots ctx t (some monitor) a.table (passSlots ctx a.frameNumber) s).1⟩ := by
  obtain ⟨hmark, hother, -⟩ := pass_destinations hkeep hx hle hk h s t
  obtain ⟨hnumber, hlength, hmarked, hunmarked⟩ := h
  rw [hk] at hnumber hmarked hunmarked
  refine ⟨?_, fun slot hslot => ?_, fun m hm => ?_, fun slot hslot hfree => ?_⟩
  · change nextFrameNumber^[k + 1] a.frameNumber = _
    rw [hnumber, nextFrameNumber_rotation, hk, Nat.succ_mul]
  · exact Nat.le_trans (hlength slot hslot) (length_patchSlots _ _ _ _ _ _).ge
  · rw [hk]
    by_cases hsame : m * (k + 1) % 4096 = j * (k + 1) % 4096
    · rw [hsame]
      exact hmark
    · have hmj : m < j := by
        rcases Nat.lt_succ_iff_lt_or_eq.mp hm with hmj | rfl
        · exact hmj
        · exact absurd rfl hsame
      exact (hother _ hsame).trans (hmarked m hmj)
  · rw [hk] at hfree
    exact (hother slot (hfree j (Nat.lt_succ_self j))).trans
      (hunmarked slot hslot fun m hm => hfree m (Nat.lt_succ_of_lt hm))

/-- A pass is marked correctly if none of its later slots has been the first one before. -/
theorem pass_marks (hne : monitor ≠ ctx.conf.l2Destination) (s t : UInt64) :
    MarksFirst monitor ctx.conf.l2Destination
      (patchSlots ctx t (some monitor) a.table (passSlots ctx a.frameNumber) s).2 ↔
    Fresh 4096 (k + 1) j := by
  obtain ⟨-, -, hdests⟩ := pass_destinations hkeep hx hle hk h s t
  obtain ⟨-, -, hmarked, hunmarked⟩ := h
  rw [hk] at hmarked hunmarked
  rw [marksFirst_iff hne hdests, List.forall_mem_map]
  constructor
  · intro hl2 i hi hin m hm heq
    obtain ⟨i, rfl⟩ : ∃ i', i = i' + 1 := ⟨i - 1, by omega⟩
    have hdest := hl2 i (List.mem_range.mpr (by omega))
    rw [heq, hmarked m hm] at hdest
    exact hne (MacAddress.eq_of_bytes hdest)
  · intro hfresh i hi
    rw [List.mem_range] at hi
    apply hunmarked _ (Nat.mod_lt _ (by decide))
    exact fun m hm => hfresh (i + 1) (Nat.succ_pos i) (by omega) m hm

end Pass

/-- Pass after pass, the rotation decides. -/
theorem slotGenerator_marks (hne : monitor ≠ ctx.conf.l2Destination)
    (h : MarkedAfter ctx.conf monitor j a) (passes : List TxPass) :
    (∀ sent ∈ ((slotGenerator (some monitor) ctx).run a passes).2,
        MarksFirst monitor ctx.conf.l2Destination sent) ↔
      ∀ m, j ≤ m → m < j + passes.countP (·.fills ctx) →
        Fresh 4096 ctx.conf.numFramesPerCycle.toNat m := by
  induction passes generalizing a j with
  | nil =>
    apply iff_of_true nofun
    intro m hm hlt
    rw [List.countP_nil] at hlt
    omega
  | cons p passes ih =>
    rw [System.run_cons, List.forall_mem_cons, List.countP_cons]
    by_cases hfills : p.fills ctx = true
    · obtain ⟨k, hk, hle⟩ := fills_bounds hfills
      rw [step_fills hx hfills, if_pos hfills, forall_between_succ, hk,
        pass_marks hkeep hx hle hk h hne, ih (h.pass hkeep hx hle hk _ _ _), hk]
    · obtain ⟨s, hstep⟩ := step_idle (some monitor) a hx hfills
      rw [hstep, if_neg hfills, Nat.add_zero]
      exact (and_iff_right nofun).trans (ih ⟨h.frameNumber, h.length, h.marked, h.unmarked⟩)

theorem slotGenerator_markedAfter (h : MarkedAfter ctx.conf monitor j a) (passes : List TxPass) :
    MarkedAfter ctx.conf monitor (j + passes.countP (·.fills ctx))
      ((slotGenerator (some monitor) ctx).run a passes).1 := by
  induction passes generalizing a j with
  | nil => exact h
  | cons p passes ih =>
    rw [System.run_cons, List.countP_cons]
    by_cases hfills : p.fills ctx = true
    · obtain ⟨k, hk, hle⟩ := fills_bounds hfills
      rw [step_fills hx hfills, if_pos hfills, hk, Nat.add_comm _ 1, ← Nat.add_assoc]
      exact ih (h.pass hkeep hx hle hk _ _ _)
    · obtain ⟨s, hstep⟩ := step_idle (some monitor) a hx hfills
      rw [hstep, if_neg hfills, Nat.add_zero]
      exact ih ⟨h.frameNumber, h.length, h.marked, h.unmarked⟩

end Passes

section Start
variable {securityInit : SecurityAlgorithm → List UInt8 → Aead.Cipher} {tx sender : ThreadContext}
  {umem : List UInt8} {app : AppConfig}

theorem minFrameSize_ge (hudp : frameType ≠ .udpHigh ∧ frameType ≠ .udpLow) :
    22 ≤ minFrameSize conf frameType := by
  obtain ⟨hhigh, hlow⟩ := hudp
  cases frameType <;> cases h : conf.securityMode <;>
    simp_all [minFrameSize, profinetMinFrameSize, minProfinetFrameSize, minSecureProfinetFrameSize]

/-- Before the first pass no frame goes to the monitor. -/
theorem start_unmarked (hcreate : tcThreadsCreate securityInit conf frameType source = some tx)
    (hinit : tcTxThreadInit build tx = some sender) (hx : conf.xdpEnabled = true)
    (hudp : frameType ≠ .udpHigh ∧ frameType ≠ .udpLow) (hL : 22 ≤ conf.frameLength)
    (humem : umem.length = xskRingConsDefaultNumDescs * maxFrameSize) (monitor : MacAddress) :
    MarkedAfter conf monitor 0 (startTable build sender umem) := by
  have hroom := txMetadataRoom_le build conf
  have hslots : txSlots conf = 4096 := by
    rw [txSlots, hx, if_pos rfl]
    rfl
  have hchunk (slot : Nat) (hslot : slot < 4096) :=
    startTable_chunk hcreate hinit humem (hslots ▸ hslot : slot < txSlots conf)
  have hsize : maxFrameSize = 4096 := rfl
  refine ⟨?_, fun slot hslot => ?_, fun slot hslot => absurd hslot (Nat.not_lt_zero _),
    fun slot hslot _ => ?_⟩
  · rw [Nat.zero_mul]
    rfl
  · obtain ⟨ctx, chunk, -, -, hlen, -⟩ := hchunk slot hslot
    omega
  · obtain ⟨ctx, chunk, hctx, hlong, -, hview⟩ := hchunk slot hslot
    rw [destinationOf, hview 0 6 (by omega) (by omega)]
    apply initializeFrame_destination
    · rw [hctx.frameType_eq]
      exact hudp
    · omega

/-- What the runs of an accepted configuration start from. -/
theorem monitored_start (hs : configSanityCheck build app = true)
    (hudp : frameType ≠ .udpHigh ∧ frameType ≠ .udpLow)
    (hx : (app.classes frameType).xdpEnabled = true)
    (htx : threadsCreate securityInit app frameType source = some tx)
    (hinit : tcTxThreadInit build tx = some sender)
    (humem : umem.length = xskRingConsDefaultNumDescs * maxFrameSize) (monitor : MacAddress) :
    sender.conf = app.classes frameType ∧
      (∀ frame s t, destinationOf (sender.prepared frame s t) = destinationOf frame) ∧
      MarkedAfter sender.conf monitor 0 (startTable build sender umem) ∧
      ∀ passes, ((generator build (some monitor) sender).run
          (Generator.start build sender umem) passes).2 =
        ((slotGenerator (some monitor) sender).run (startTable build sender umem) passes).2 := by
  obtain ⟨hmax, hmin⟩ := configSanityCheck_frameLength hs frameType
  have hL : 22 ≤ (app.classes frameType).frameLength :=
    Nat.le_trans (minFrameSize_ge hudp) (Nat.le_trans (Nat.le_add_right _ _) hmin)
  have hcreate := threadsCreate_tc hudp htx
  obtain ⟨hsender, -, hbound, -⟩ :=
    tcTxThreadInit_sender (tcThreadsCreate_created hcreate).toForClass hinit
  refine ⟨hsender.conf_eq, prepared_destination hsender hudp hL, ?_, fun passes => ?_⟩
  · rw [hsender.conf_eq]
    exact start_unmarked hcreate hinit hx hudp hL humem monitor
  · rw [← hsender.conf_eq] at hmax hbound
    exact generator_run_table hmax hbound _ _ _

/-- In debug monitor mode exactly the first frame of every pass goes to the monitor as long as the
passes do not go over the end of the UMEM area, or always end with it. -/
theorem monitor_marking (hs : configSanityCheck build app = true)
    (hudp : frameType ≠ .udpHigh ∧ frameType ≠ .udpLow)
    (hx : (app.classes frameType).xdpEnabled = true)
    (htx : threadsCreate securityInit app frameType source = some tx)
    (hinit : tcTxThreadInit build tx = some sender)
    (humem : umem.length = xskRingConsDefaultNumDescs * maxFrameSize)
    (hne : monitor ≠ (app.classes frameType).l2Destination) (passes : List TxPass) :
    let n := (app.classes frameType).numFramesPerCycle.toNat
    (∀ sent ∈ ((generator build (some monitor) sender).run
        (Generator.start build sender umem) passes).2,
      MarksFirst monitor (app.classes frameType).l2Destination sent) ↔
    n ∣ 4096 ∨ passes.countP (·.fills sender) * n ≤ 4096 := by
  intro n
  obtain ⟨hconf, hkeep, hstart, hrun⟩ := monitored_start hs hudp hx htx hinit humem monitor
  have hn : 0 < n := configIsTcActive_pos (threadsCreate_active htx)
  have hmarks := slotGenerator_marks hkeep (by rw [hconf]; exact hx) (by rw [hconf]; exact hne)
    hstart passes
  rw [hconf] at hmarks
  rw [hrun, hmarks]
  by_cases hle : n ≤ 4096
  · rw [← all_fresh_iff hle hn]
    constructor
    · intro h m hm
      exact h m (Nat.zero_le m) (by omega)
    · intro h m _ hm
      exact h m (by omega)
  · -- no pass finds that many descriptors
    have hnone : passes.countP (·.fills sender) = 0 := by
      rw [List.countP_eq_zero]
      intro p _ hp
      obtain ⟨k, hk, hbound⟩ := fills_bounds hp
      rw [← hk, hconf] at hbound
      exact hle hbound
    rw [hnone]
    apply iff_of_true
    · intro m _ hm
      omega
    · exact .inr (by omega)

end Start

/-- Three frames in a cycle over AF_XDP. -/
def threeFrames : AppConfig :=
  (configSetDefaults false).setClass .rtc fun conf =>
    { conf with enabled := true, xdpEnabled := true, numFramesPerCycle := 3 }

theorem threeFrames_threads :
    ∃ tx sender, threadsCreate chachaInit threeFrames .rtc defaultDestination = some tx ∧
      tcTxThreadInit fullBuild tx = some sender ∧
        sender.ForClass (threeFrames.classes .rtc) .rtc := by
  obtain ⟨tx, sender, htx, hinit, -, hsender⟩ := xdp_threads fullBuild threeFrames chachaInit
    defaultDestination
    (show StatFrameType.rtc ≠ .udpHigh ∧ StatFrameType.rtc ≠ .udpLow by decide) (by decide) rfl (by
      intro ctx hconf htype
      rw [initializedLength, hconf, htype]
      decide)
  exact ⟨tx, sender, htx, hinit, hsender⟩

theorem threeFrames_fills (hsender : sender.ForClass (threeFrames.classes .rtc) .rtc) (K : Nat) :
    readyPass.fills sender = true ∧ (List.replicate K readyPass).countP (·.fills sender) = K := by
  have hfills : readyPass.fills sender = true := by
    rw [TxPass.fills, TxPass.sends, tcWaitForTxCycle, hsender.frameType_eq, hsender.conf_eq]
    decide
  refine ⟨hfills, ?_⟩
  rw [List.countP_replicate, if_pos hfills]

def monitorDestination : MacAddress := ⟨[0x44, 0x44, 0x44, 0x44, 0x44, 0x44], rfl⟩

/-- As long as every chunk is used once, the marks are right. -/
theorem monitor_marking_first_round :
    ∃ tx sender, threadsCreate chachaInit threeFrames .rtc defaultDestination = some tx ∧
      tcTxThreadInit fullBuild tx = some sender ∧
      ∀ sent ∈ ((generator fullBuild (some monitorDestination) sender).run
          (Generator.start fullBuild sender
            (List.replicate (xskRingConsDefaultNumDescs * maxFrameSize) 0))
          (List.replicate 1365 readyPass)).2,
        MarksFirst monitorDestination defaultDestination sent := by
  obtain ⟨tx, sender, htx, hinit, hsender⟩ := threeFrames_threads
  refine ⟨tx, sender, htx, hinit, (monitor_marking (by decide) (by decide) rfl htx hinit
    List.length_replicate (by decide) _).mpr (.inr ?_)⟩
  rw [(threeFrames_fills hsender _).2]
  decide

/-- Pass 1365 starts in the last chunk. Its second frame is in the first chunk, where the mark of
pass 0 still is. -/
theorem monitor_marking_second_round :
    configSanityCheck fullBuild threeFrames = true ∧
    ∃ tx sender, threadsCreate chachaInit threeFrames .rtc defaultDestination = some tx ∧
      tcTxThreadInit fullBuild tx = some sender ∧
      ∃ f, ((generator fullBuild (some monitorDestination) sender).run
          (Generator.start fullBuild sender
            (List.replicate (xskRingConsDefaultNumDescs * maxFrameSize) 0))
          (List.replicate 1366 readyPass)).2[1365]?.bind (·[1]?) = some f ∧
        destinationOf f.bytes = monitorDestination.bytes := by
  obtain ⟨tx, sender, htx, hinit, hsender⟩ := threeFrames_threads
  refine ⟨by decide, tx, sender, htx, hinit, ?_⟩
  obtain ⟨hconf, hkeep, hstart, hrun⟩ := monitored_start (by decide) (by decide) rfl htx hinit
    (List.length_replicate (n := xskRingConsDefaultNumDescs * maxFrameSize) (a := 0))
    monitorDestination
  obtain ⟨hfills, hcount⟩ := threeFrames_fills hsender 1365
  have hx : sender.conf.xdpEnabled = true := by rw [hconf]; rfl
  have hafter := slotGenerator_markedAfter hkeep hx hstart (List.replicate 1365 readyPass)
  rw [hcount, Nat.zero_add] at hafter
  rw [hrun, List.replicate_succ', System.run_append]
  dsimp only
  rw [List.getElem?_append_right (by rw [System.length_run, List.length_replicate]),
    System.length_run, List.length_replicate]
  have hn : sender.conf.numFramesPerCycle.toNat = 2 + 1 := by rw [hconf]; decide
  obtain ⟨-, -, hdests⟩ := pass_destinations hkeep hx (by decide) hn hafter
    ((slotGenerator (some monitorDestination) sender).run
      (startTable fullBuild sender (List.replicate (xskRingConsDefaultNumDescs * maxFrameSize) 0))
      (List.replicate 1365 readyPass)).1.sequenceCounter readyPass.now
  rw [System.run_cons, step_fills hx hfills]
  have hsecond := congrArg (·[1]?) hdests
  have hmark := hafter.marked 0 (by decide)
  rw [Nat.zero_mul, Nat.zero_mod] at hmark
  simp only [List.getElem?_map, List.getElem?_cons_succ, List.getElem?_range, Nat.reduceLT,
    Option.map_some, Nat.reduceAdd, Nat.reduceMul, Nat.reduceMod, hmark,
    Option.map_eq_some_iff] at hsecond
  exact hsecond

end RtcTestbench
