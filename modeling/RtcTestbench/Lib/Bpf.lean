import RtcTestbench.Lib.Buffer

namespace Bpf
open Buffer
set_option autoImplicit true

/-- `struct sock_filter`. -/
structure SockFilter where
  code : UInt16
  jt : UInt8
  jf : UInt8
  k : UInt32

inductive Size where
  | byte
  | half
  | word

def Size.bytes : Size → Nat
  | .byte => 1
  | .half => 2
  | .word => 4

/-- Where a load takes its value from: the packet, or what the kernel knows about it. -/
inductive Load where
  | abs (size : Size) (k : Nat)
  | ancillary (k : UInt32)

inductive Test where
  | eq
  | gt
  | ge

def Test.holds : Test → UInt32 → UInt32 → Bool
  | .eq, a, k => decide (a = k)
  | .gt, a, k => decide (k < a)
  | .ge, a, k => decide (k ≤ a)

/-- The instructions of classic BPF that only use the accumulator. -/
inductive Instr where
  | ld (load : Load)
  | jmp (test : Test) (k : UInt32) (jt jf : Nat)
  | ret (k : UInt32)

/-- `SKF_AD_OFF`: loads from here on are not loads from the packet. -/
def skfAdOff : UInt32 := 0xfffff000

def decodeLoad (size : Size) (k : UInt32) : Load :=
  if skfAdOff ≤ k then .ancillary (k - skfAdOff) else .abs size k.toNat

def decode (i : SockFilter) : Option Instr :=
  match i.code with
  | 0x20 => some (.ld (decodeLoad .word i.k))
  | 0x28 => some (.ld (decodeLoad .half i.k))
  | 0x30 => some (.ld (decodeLoad .byte i.k))
  | 0x15 => some (.jmp .eq i.k i.jt.toNat i.jf.toNat)
  | 0x25 => some (.jmp .gt i.k i.jt.toNat i.jf.toNat)
  | 0x35 => some (.jmp .ge i.k i.jt.toNat i.jf.toNat)
  | 0x06 => some (.ret i.k)
  | _ => none

structure Packet where
  bytes : List UInt8
  ancillary : UInt32 → Option UInt32

def Packet.read (p : Packet) : Load → Option UInt32
  | .abs size k =>
    if k + size.bytes ≤ p.bytes.length then some (UInt32.ofNat (ofBe (slice p.bytes k size.bytes)))
    else none
  | .ancillary k => p.ancillary k

/-- The value a program returns if its first `skip` instructions are jumped over. A load that fails
drops the packet. -/
def exec (p : Packet) : List Instr → Nat → UInt32 → UInt32
  | [], _, _ => 0
  | _ :: prog, skip + 1, a => exec p prog skip a
  | .ld load :: prog, 0, _ =>
    match p.read load with
    | none => 0
    | some a => exec p prog 0 a
  | .jmp test k jt jf :: prog, 0, a => exec p prog (if test.holds a k then jt else jf) a
  | .ret k :: _, 0, _ => k

/-- What the kernel checks before it takes a program: the jumps stay inside and it ends with a
return. -/
def checkClassic : List Instr → Bool
  | [] => false
  | [.ret _] => true
  | .jmp _ _ jt jf :: prog =>
    decide (jt < prog.length) && decide (jf < prog.length) && checkClassic prog
  | _ :: prog => checkClassic prog

def attach (filter : List SockFilter) : Option (List Instr) := do
  let prog ← filter.mapM decode
  if checkClassic prog then some prog else none

/-- The filter is attached, and it keeps the packet. -/
def accepts (filter : List SockFilter) (p : Packet) : Bool :=
  match attach filter with
  | none => false
  | some prog => exec p prog 0 0 != 0

/-- A condition on a value that is loaded, or on the one that was loaded last. -/
structure Guard where
  load : Option Load
  test : Test
  k : UInt32
  expected : Bool

def Packet.value (p : Packet) (a : UInt32) : Option Load → Option UInt32
  | none => some a
  | some load => p.read load

/-- All conditions hold. -/
def Meets (p : Packet) : List Guard → UInt32 → Prop
  | [], _ => True
  | g :: gs, a => ∃ v, p.value a g.load = some v ∧ g.test.holds v g.k = g.expected ∧ Meets p gs v

/-- One test after the other, each with a jump to the end if it fails. -/
def compile : List Guard → List Instr
  | [] => [.ret 0xffffffff, .ret 0]
  | g :: gs =>
    let prog := compile gs
    let drop := prog.length - 1
    (g.load.map Instr.ld).toList ++
      .jmp g.test g.k (if g.expected then 0 else drop) (if g.expected then drop else 0) :: prog

variable {p : Packet} {filter : List SockFilter} {gs : List Guard}

theorem exec_skip (prog : List Instr) (skip : Nat) (a : UInt32) :
    exec p prog skip a = exec p (prog.drop skip) 0 a := by
  induction prog generalizing skip with
  | nil =>
    rw [List.drop_nil]
    rfl
  | cons i prog ih =>
    cases skip with
    | zero => rfl
    | succ skip => exact ih skip

/-- The last instruction of a compiled program drops the packet. -/
theorem compile_drop (gs : List Guard) : ∃ prog, compile gs = prog ++ [.ret 0] := by
  induction gs with
  | nil => exact ⟨[.ret 0xffffffff], rfl⟩
  | cons g gs ih =>
    obtain ⟨prog, hprog⟩ := ih
    rw [compile, hprog]
    exact ⟨_ ++ _ :: prog, (List.append_assoc _ (_ :: prog) _).symm⟩

theorem exec_compile_drop (gs : List Guard) (a : UInt32) :
    exec p (compile gs) ((compile gs).length - 1) a = 0 := by
  obtain ⟨prog, hprog⟩ := compile_drop gs
  rw [exec_skip, hprog, List.length_append, List.length_singleton, Nat.add_sub_cancel,
    List.drop_left]
  rfl

theorem exec_ld_toList (load : Option Load) (prog : List Instr) (a : UInt32) :
    exec p ((load.map Instr.ld).toList ++ prog) 0 a =
      match p.value a load with
      | none => 0
      | some v => exec p prog 0 v := by
  cases load with
  | none => rfl
  | some load => rfl

/-- A compiled program keeps exactly the packets that meet its conditions. -/
theorem exec_compile (gs : List Guard) (a : UInt32) :
    exec p (compile gs) 0 a ≠ 0 ↔ Meets p gs a := by
  induction gs generalizing a with
  | nil => exact iff_of_true (show (0xffffffff : UInt32) ≠ 0 by decide) trivial
  | cons g gs ih =>
    rw [compile, exec_ld_toList, Meets]
    cases p.value a g.load with
    | none => simp
    | some v =>
      dsimp only
      rw [exec]
      have hone : (∃ w, some v = some w ∧ g.test.holds w g.k = g.expected ∧ Meets p gs w) ↔
          g.test.holds v g.k = g.expected ∧ Meets p gs v := by simp
      rw [hone]
      cases htest : g.test.holds v g.k <;> cases hexpected : g.expected
      · simpa [hexpected] using ih v
      · simp [exec_compile_drop]
      · simp [exec_compile_drop]
      · simpa [hexpected] using ih v

theorem length_compile_pos (gs : List Guard) : 0 < (compile gs).length := by
  obtain ⟨prog, hprog⟩ := compile_drop gs
  rw [hprog, List.length_append]
  exact Nat.succ_pos _

theorem checkClassic_cons_ld (load : Load) (prog : List Instr) :
    checkClassic (.ld load :: prog) = checkClassic prog := by
  cases prog <;> rfl

/-- The kernel takes every compiled program. -/
theorem checkClassic_compile (gs : List Guard) : checkClassic (compile gs) = true := by
  induction gs with
  | nil => rfl
  | cons g gs ih =>
    have hpos := length_compile_pos gs
    have hjmp : checkClassic (.jmp g.test g.k (if g.expected then 0 else (compile gs).length - 1)
        (if g.expected then (compile gs).length - 1 else 0) :: compile gs) = true := by
      rw [checkClassic, ih, Bool.and_true, Bool.and_eq_true, decide_eq_true_eq, decide_eq_true_eq]
      cases g.expected <;> simp <;> omega
    rw [compile]
    cases g.load with
    | none => exact hjmp
    | some load => exact (checkClassic_cons_ld load _).trans hjmp

/-- A table of instructions that is a compiled list of conditions decides these conditions. -/
theorem accepts_iff_meets (h : filter.mapM decode = some (compile gs)) :
    accepts filter p = true ↔ Meets p gs 0 := by
  have hattach : attach filter = some (compile gs) := by
    rw [attach, h]
    exact if_pos (checkClassic_compile gs)
  rw [accepts, hattach, ← exec_compile]
  exact bne_iff_ne

end Bpf
