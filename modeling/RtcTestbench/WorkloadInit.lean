import RtcTestbench.ConfigValue
import RtcTestbench.Lib.Buffer
import RtcTestbench.Lib.Strtok

namespace RtcTestbench
open Strtok Buffer
set_option autoImplicit true

def isBlank (c : UInt8) : Bool := c == 0x20

/-- `(*argv)[i++] = strdup(token)`; a slot that has not been written is `none`. The store fails
outside of the array. -/
def argvStore (s : Nat × List (Option (List UInt8))) (token : List UInt8) :
    Option (Nat × List (Option (List UInt8))) :=
  if s.1 < s.2.length then some (s.1 + 1, s.2.set s.1 (some token)) else none

/-- `string_to_argc_argv` where every allocation succeeds: `argc` and `argv`. -/
def stringToArgcArgv (input : CString) : Option (Nat × List (Option (List UInt8))) := do
  let tempInput := input.bytes ++ [0]
  let rounds := tempInput.length
  -- first pass
  let (count, tempInput) ←
    strtokLoop isBlank (fun count _ => some (count + 1)) rounds (strtok isBlank tempInput 0) 1
  let argv := List.replicate count none
  -- `strcpy`, then the second pass
  let tempInput := write tempInput 0 (input.bytes ++ [0])
  let ((_, argv), _) ←
    strtokLoop isBlank argvStore rounds (strtok isBlank tempInput 0) (1, argv)
  if 0 < argv.length then some (count, argv.set 0 (some (cBytes "Workload"))) else none

section Arguments

theorem foldlM_count (words : List (List UInt8)) (n : Nat) :
    words.foldlM (fun count _ => some (count + 1)) n = some (n + words.length) := by
  induction words generalizing n with
  | nil => rfl
  | cons word words ih =>
    rw [List.foldlM_cons]
    apply (ih (n + 1)).trans
    rw [List.length_cons, Nat.add_right_comm, Nat.add_assoc]

/-- The words go into consecutive slots. -/
theorem foldlM_argvStore (words : List (List UInt8)) (front argv : List (Option (List UInt8)))
    (hlen : argv.length = words.length) :
    words.foldlM argvStore (front.length, front ++ argv) =
      some (front.length + words.length, front ++ words.map some) := by
  induction words generalizing front argv with
  | nil =>
    rw [List.length_eq_zero_iff.mp hlen]
    rfl
  | cons word words ih =>
    cases argv with
    | nil => cases hlen
    | cons slot argv =>
      have hstore : argvStore (front.length, front ++ slot :: argv) word =
          some ((front ++ [some word]).length, front ++ [some word] ++ argv) := by
        have hin : front.length < (front ++ slot :: argv).length := by simp
        have hset : (front ++ slot :: argv).set front.length (some word) =
            front ++ [some word] ++ argv := by
          rw [List.set_append_right _ _ le_rfl, Nat.sub_self, List.set_cons_zero, List.append_assoc]
          rfl
        rw [argvStore, if_pos hin, hset, List.length_append]
        rfl
      rw [List.foldlM_cons, hstore]
      apply (ih (front ++ [some word]) argv (Nat.succ.inj hlen)).trans
      rw [List.length_append, List.length_singleton, List.length_cons, List.append_assoc,
        Nat.add_assoc, Nat.add_comm 1]
      rfl

/-- The argument vector: the program name and then the maximal pieces of the input without blanks,
each slot written once and none beyond the end. -/
theorem stringToArgcArgv_exact (input : CString) :
    ∃ words, Cuts isBlank input.bytes words ∧
      stringToArgcArgv input =
        some (1 + words.length, some (cBytes "Workload") :: words.map some) := by
  obtain ⟨words, hcuts⟩ := exists_cuts isBlank input.bytes
  refine ⟨words, hcuts, ?_⟩
  have hyields := strtok_copy_yields input.no_nul hcuts
  have hrounds : words.length < (input.bytes ++ [0]).length := by
    rw [List.length_append]
    exact Nat.lt_succ_of_le hcuts.length_le
  obtain ⟨cut, hcut, hcount⟩ :=
    strtokLoop_eq (fun (count : Nat) _ => some (count + 1)) hyields hrounds 1
  rw [foldlM_count] at hcount
  -- the second pass starts on the text the first one started on
  have hrestore : write cut 0 (input.bytes ++ [0]) = input.bytes ++ [0] := by
    apply write_whole
    rw [hcut, List.length_append]
    rfl
  obtain ⟨_, -, hfill⟩ := strtokLoop_eq argvStore hyields hrounds
    (1, [none] ++ List.replicate words.length none)
  have hwords : words.foldlM argvStore (1, [none] ++ List.replicate words.length none) =
      some (1 + words.length, [none] ++ words.map some) :=
    foldlM_argvStore words [none] _ (List.length_replicate)
  rw [hwords] at hfill
  have hslots : List.replicate (1 + words.length) none =
      [none] ++ List.replicate words.length (none : Option (List UInt8)) := by
    rw [Nat.add_comm]
    rfl
  simp only [stringToArgcArgv, hcount, Option.map_some, Option.bind_eq_bind, Option.bind_some,
    hrestore, hslots, hfill]
  rfl

end Arguments

/-- What a start of the workload does to its instances, threads and resources. -/
inductive WorkloadAction where
  | setup (id : Nat) (ret : Int32)
  | started (id : Nat)
  | stop
  | joined (id : Nat)
  | teardown (id : Nat)
  | freeSetupArgv
  | freeArgv
  | dlclose
  | freeWorkload
  deriving DecidableEq

/-- What the calls of `create_rt_thread` return. -/
structure RtThreadCalls where
  attrInit : Int32
  attrSetstacksize : Int32
  attrSetschedpolicy : Int32
  attrSetschedparam : Int32
  attrSetinheritsched : Int32
  attrSetaffinity : Int32
  create : Int32
  setname : Int32

def createRtThread (calls : RtThreadCalls) (id : Nat) : List WorkloadAction × Int32 :=
  let attr := [calls.attrInit, calls.attrSetstacksize, calls.attrSetschedpolicy,
    calls.attrSetschedparam, calls.attrSetinheritsched, calls.attrSetaffinity]
  match attr.find? (· ≠ 0) with
  | some ret => ([], -ret)
  | none =>
    if calls.create ≠ 0 then ([], -calls.create)
    -- the thread runs already when it is given its name
    else ([.started id], -calls.setname)

def enomem : Int32 := 12
def einval : Int32 := 22

/-- The configuration of a class's workload and what the calls of the start return. -/
structure WorkloadStart where
  rxWorkloadEnabled : Bool
  workloadFunction : CString
  workloadSetupFunction : Option CString
  workloadTeardownFunction : Option CString
  workloadArguments : Option CString
  workloadSetupArguments : Option CString
  workloadThreadCpusNum : Nat
  calloc : Bool
  dlopen : Bool
  dlsym : CString → Bool
  /-- `string_to_argc_argv` for the arguments and for those of the setup function. -/
  argvRet : Int32
  setupArgvRet : Int32
  setup : Nat → Int32
  threads : Nat → RtThreadCalls

/-- A loop over the workload threads that stops at the first error, with its index and result. -/
def workloadLoop (body : Nat → List WorkloadAction × Int32) :
    Nat → Nat → List WorkloadAction × Nat × Int32
  | 0, i => ([], i, 0)
  | n + 1, i =>
    if (body i).2 ≠ 0 then ((body i).1, i, (body i).2)
    else
      let rest := workloadLoop body n (i + 1)
      ((body i).1 ++ rest.1, rest.2)

namespace WorkloadStart
variable (w : WorkloadStart)

-- The cleanup labels of `workload_context_init`, each with those it falls through to.

def dlopenLabel : List WorkloadAction := [.freeWorkload]

def dlLabel : List WorkloadAction := .dlclose :: dlopenLabel

def argvLabel : List WorkloadAction := .freeArgv :: dlLabel

def setupLabel (i : Nat) : List WorkloadAction :=
  (if w.workloadTeardownFunction.isSome then (List.range i).reverse.map .teardown else []) ++
    .freeSetupArgv :: argvLabel

def threadLabel (i : Nat) : List WorkloadAction :=
  .stop :: (List.range i).reverse.map .joined ++ w.setupLabel i

def finds (name : Option CString) : Bool := name.all w.dlsym

/-- An error before the first setup call. -/
def openError : Option (List WorkloadAction × Int32) :=
  if !w.calloc then some ([], -enomem)
  else if !w.dlopen then some (dlopenLabel, -einval)
  else if !w.finds w.workloadSetupFunction then some (dlLabel, -einval)
  else if !w.finds w.workloadTeardownFunction then some (dlLabel, -einval)
  else if !w.dlsym w.workloadFunction then some (dlLabel, -einval)
  else if w.workloadArguments.isSome ∧ w.argvRet ≠ 0 then some (dlLabel, w.argvRet)
  else if w.workloadSetupArguments.isSome ∧ w.setupArgvRet ≠ 0 then
    some (argvLabel, w.setupArgvRet)
  else none

def setupInstance (i : Nat) : List WorkloadAction × Int32 :=
  if w.workloadSetupFunction.isSome then ([.setup i (w.setup i)], w.setup i) else ([], 0)

def workloadContextInit : List WorkloadAction × Int32 :=
  if !w.rxWorkloadEnabled then ([], 0)
  else
    match w.openError with
    | some failed => failed
    | none =>
      let (setups, i, ret) := workloadLoop w.setupInstance w.workloadThreadCpusNum 0
      if ret ≠ 0 then (setups ++ w.setupLabel i, ret)
      else
        let (threads, i, ret) :=
          workloadLoop (fun i => createRtThread (w.threads i) i) w.workloadThreadCpusNum 0
        if ret ≠ 0 then (setups ++ (threads ++ w.threadLabel i), ret)
        else (setups ++ threads, 0)

/-- The setup calls of the instances below `k`. -/
def setupCalls (k : Nat) : List WorkloadAction :=
  (List.range k).map fun j => .setup j (w.setup j)

/-- The start gets as far as the creation of the threads. -/
def ReachesCreation : Prop :=
  w.calloc ∧ w.dlopen ∧ w.finds w.workloadSetupFunction ∧ w.finds w.workloadTeardownFunction ∧
    w.dlsym w.workloadFunction ∧ (w.workloadArguments.isSome → w.argvRet = 0) ∧
    (w.workloadSetupArguments.isSome → w.setupArgvRet = 0) ∧
    ∀ i < w.workloadThreadCpusNum, w.setup i = 0

end WorkloadStart

/-- Every instance that was set up is torn down once and no other one, and every thread that was
started is joined before that. -/
structure CleanedUp (actions : List WorkloadAction) : Prop where
  tornDown : ∀ id, .setup id 0 ∈ actions → actions.count (.teardown id) = 1
  onlySetUp : ∀ id, .setup id 0 ∉ actions → .teardown id ∉ actions
  joined : ∀ id, .started id ∈ actions → ∃ before after,
    actions = before ++ .joined id :: after ∧ ∀ j, .teardown j ∉ before

section Cleanup
variable {w : WorkloadStart} {body : Nat → List WorkloadAction × Int32}

/-- The loop runs to its end or stops at the first index whose body fails. -/
theorem workloadLoop_cases (body : Nat → List WorkloadAction × Int32) (n i : Nat) :
    ((∀ j < n, (body (i + j)).2 = 0) ∧
      workloadLoop body n i = ((List.range' i n).flatMap fun j => (body j).1, i + n, 0)) ∨
    ∃ k < n, (∀ j < k, (body (i + j)).2 = 0) ∧ (body (i + k)).2 ≠ 0 ∧
      workloadLoop body n i =
        ((List.range' i (k + 1)).flatMap fun j => (body j).1, i + k, (body (i + k)).2) := by
  induction n generalizing i with
  | zero => exact .inl ⟨nofun, rfl⟩
  | succ n ih =>
    by_cases hbody : (body i).2 = 0
    · have hfirst (k : Nat) (h : ∀ j < k, (body (i + 1 + j)).2 = 0) :
          ∀ j < k + 1, (body (i + j)).2 = 0 := by
        intro j hj
        cases j with
        | zero => exact hbody
        | succ j =>
          rw [← Nat.add_assoc, Nat.add_right_comm]
          exact h j (Nat.lt_of_succ_lt_succ hj)
      rw [workloadLoop, if_neg (not_not.mpr hbody)]
      obtain ⟨hall, hrun⟩ | ⟨k, hk, hbefore, hfail, hrun⟩ := ih (i + 1)
      · refine .inl ⟨hfirst n hall, ?_⟩
        rw [hrun, List.range'_succ, List.flatMap_cons, Nat.add_right_comm, Nat.add_assoc i n 1]
      · rw [Nat.add_right_comm, Nat.add_assoc] at hfail hrun
        refine .inr ⟨k + 1, Nat.succ_lt_succ hk, hfirst k hbefore, hfail, ?_⟩
        rw [hrun, List.range'_succ (n := k + 1), List.flatMap_cons]
    · refine .inr ⟨0, Nat.succ_pos n, nofun, hbody, ?_⟩
      rw [workloadLoop, if_pos hbody]
      simp

theorem CleanedUp.of_quiet {actions : List WorkloadAction}
    (h : ∀ a ∈ actions, a ∈ [.freeArgv, .dlclose, .freeWorkload]) : CleanedUp actions := by
  have hnone (a : WorkloadAction) (ha : a ∉ [.freeArgv, .dlclose, .freeWorkload]) :
      a ∉ actions := fun hin => ha (h a hin)
  constructor
  · intro id hin
    exact absurd hin (hnone _ (by simp))
  · intro id _
    exact hnone _ (by simp)
  · intro id hin
    exact absurd hin (hnone _ (by simp))

theorem openError_quiet (h : w.openError = some r) :
    ∀ a ∈ r.1, a ∈ [.freeArgv, .dlclose, .freeWorkload] := by
  rw [WorkloadStart.openError] at h
  repeat' split at h
  all_goals cases h
  all_goals
    dsimp only
    decide

theorem reachesCreation_iff : w.ReachesCreation ↔
    w.openError = none ∧ ∀ i < w.workloadThreadCpusNum, w.setup i = 0 := by
  rw [WorkloadStart.ReachesCreation, WorkloadStart.openError]
  repeat' split
  all_goals simp_all

theorem count_teardown_setupLabel (hteardown : w.workloadTeardownFunction.isSome) (k id : Nat) :
    (w.setupLabel k).count (.teardown id) = if id < k then 1 else 0 := by
  have hinj : Function.Injective WorkloadAction.teardown := fun _ _ h => by cases h; rfl
  have hclosing : (WorkloadAction.freeSetupArgv :: WorkloadStart.argvLabel).count
      (.teardown id) = 0 := by
    apply List.count_eq_zero_of_not_mem
    simp [WorkloadStart.argvLabel, WorkloadStart.dlLabel, WorkloadStart.dlopenLabel]
  rw [WorkloadStart.setupLabel, if_pos hteardown, List.count_append, hclosing,
    List.count_map_of_injective _ _ hinj, List.count_reverse, List.nodup_range.count]
  simp only [List.mem_range, Nat.add_zero]

theorem setupLabel_frees (hin : a ∈ w.setupLabel k) :
    (∃ id, a = .teardown id) ∨ a ∈ [.freeSetupArgv, .freeArgv, .dlclose, .freeWorkload] := by
  rw [WorkloadStart.setupLabel, List.mem_append] at hin
  cases hin with
  | inl hin =>
    split at hin
    · obtain ⟨id, -, rfl⟩ := List.mem_map.mp hin
      exact .inl ⟨id, rfl⟩
    · cases hin
  | inr hin => exact .inr hin

theorem teardown_not_mem_setupCalls (k id : Nat) : .teardown id ∉ w.setupCalls k := by
  intro hin
  obtain ⟨_, -, h⟩ := List.mem_map.mp hin
  cases h

theorem setup_mem_setupCalls {id : Nat} :
    .setup id 0 ∈ w.setupCalls k ↔ id < k ∧ w.setup id = 0 := by
  constructor
  · intro hin
    obtain ⟨j, hj, h⟩ := List.mem_map.mp hin
    obtain ⟨rfl, hret⟩ := WorkloadAction.setup.inj h
    exact ⟨List.mem_range.mp hj, hret⟩
  · rintro ⟨hid, hret⟩
    rw [← hret]
    exact List.mem_map_of_mem (List.mem_range.mpr hid)

/-- The setup of instance `k` fails: those before it are torn down. -/
theorem cleanedUp_setupLabel (hteardown : w.workloadTeardownFunction.isSome)
    (hbefore : ∀ j < k, w.setup j = 0) (hfail : w.setup k ≠ 0) :
    CleanedUp (w.setupCalls (k + 1) ++ w.setupLabel k) := by
  have hset (id : Nat) : .setup id 0 ∈ w.setupCalls (k + 1) ++ w.setupLabel k ↔ id < k := by
    rw [List.mem_append, setup_mem_setupCalls]
    constructor
    · rintro (⟨hid, hret⟩ | hin)
      · apply Nat.lt_of_le_of_ne (Nat.le_of_lt_succ hid)
        rintro rfl
        exact hfail hret
      · obtain ⟨_, h⟩ | h := setupLabel_frees hin
        · cases h
        · simp at h
    · intro hid
      exact .inl ⟨Nat.lt_succ_of_lt hid, hbefore id hid⟩
  have hcount (id : Nat) : (w.setupCalls (k + 1) ++ w.setupLabel k).count (.teardown id) =
      if id < k then 1 else 0 := by
    rw [List.count_append, List.count_eq_zero_of_not_mem (teardown_not_mem_setupCalls _ id),
      count_teardown_setupLabel hteardown, Nat.zero_add]
  constructor
  · intro id hin
    rw [hcount, if_pos ((hset id).mp hin)]
  · intro id hout
    apply List.count_eq_zero.mp
    rw [hcount, if_neg fun h => hout ((hset id).mpr h)]
  · -- no thread has been created yet
    intro id hin
    obtain hin | hin := List.mem_append.mp hin
    · obtain ⟨_, -, h⟩ := List.mem_map.mp hin
      cases h
    · obtain ⟨_, h⟩ | h := setupLabel_frees hin
      · cases h
      · simp at h

/-- The creation of thread `k` fails: instance `k` was set up and stays. -/
theorem not_cleanedUp_threadLabel {threads : List WorkloadAction}
    (hteardown : w.workloadTeardownFunction.isSome) (hk : k < n) (hset : w.setup k = 0)
    (hthreads : .teardown k ∉ threads) :
    ¬ CleanedUp (w.setupCalls n ++ (threads ++ w.threadLabel k)) := by
  intro hclean
  have hone := hclean.tornDown k (List.mem_append_left _ (setup_mem_setupCalls.mpr ⟨hk, hset⟩))
  have hjoins : .teardown k ∉ .stop :: (List.range k).reverse.map WorkloadAction.joined := by
    simp
  rw [List.count_append, List.count_append, WorkloadStart.threadLabel, List.count_append,
    List.count_eq_zero_of_not_mem (teardown_not_mem_setupCalls n k),
    List.count_eq_zero_of_not_mem hthreads, List.count_eq_zero_of_not_mem hjoins,
    count_teardown_setupLabel hteardown, if_neg (Nat.lt_irrefl k)] at hone
  cases hone

theorem teardown_not_mem_createRtThread (calls : RtThreadCalls) (id k : Nat) :
    .teardown k ∉ (createRtThread calls id).1 := by
  simp only [createRtThread]
  split
  · exact List.not_mem_nil
  · split <;> simp

theorem flatMap_setupInstance (hsetup : w.workloadSetupFunction.isSome) (k : Nat) :
    (List.range' 0 k).flatMap (fun j => (w.setupInstance j).1) = w.setupCalls k := by
  simp only [WorkloadStart.setupInstance, if_pos hsetup, WorkloadStart.setupCalls,
    ← List.range_eq_range', List.map_eq_flatMap]

end Cleanup

/-- A start that fails cleans up exactly if it fails before the threads are created. -/
theorem workload_cleaned_up_iff (w : WorkloadStart) (hsetup : w.workloadSetupFunction.isSome)
    (hteardown : w.workloadTeardownFunction.isSome) (hret : w.workloadContextInit.2 ≠ 0) :
    CleanedUp w.workloadContextInit.1 ↔ ¬ w.ReachesCreation := by
  have henabled : w.rxWorkloadEnabled = true := by
    by_contra hoff
    apply hret
    rw [WorkloadStart.workloadContextInit, if_pos (by simpa using hoff)]
  rw [reachesCreation_iff]
  cases hopen : w.openError with
  | some failed =>
    have hrun : w.workloadContextInit = failed := by
      simp only [WorkloadStart.workloadContextInit, henabled, hopen]
      rfl
    rw [hrun]
    exact iff_of_true (CleanedUp.of_quiet (openError_quiet hopen)) (fun h => nomatch h.1)
  | none =>
    have hinstance (i : Nat) : (w.setupInstance i).2 = w.setup i := by
      rw [WorkloadStart.setupInstance, if_pos hsetup]
    have hsetups := workloadLoop_cases w.setupInstance w.workloadThreadCpusNum 0
    simp only [Nat.zero_add, hinstance, flatMap_setupInstance hsetup] at hsetups
    obtain ⟨hall, hsetups⟩ | ⟨k, hk, hbefore, hfail, hsetups⟩ := hsetups
    · apply iff_of_false _ (not_not.mpr ⟨rfl, hall⟩)
      have hthreads := workloadLoop_cases (fun i => createRtThread (w.threads i) i)
        w.workloadThreadCpusNum 0
      simp only [Nat.zero_add] at hthreads
      obtain ⟨-, hthreads⟩ | ⟨k, hk, -, hfail, hthreads⟩ := hthreads
      · simp [WorkloadStart.workloadContextInit, henabled, hopen, hsetups, hthreads] at hret
      · simp only [WorkloadStart.workloadContextInit, henabled, hopen, hsetups, hthreads,
          Bool.not_true, Bool.false_eq_true, if_false, ne_eq, not_true, if_pos hfail]
        apply not_cleanedUp_threadLabel hteardown hk (hall k hk)
        intro hin
        obtain ⟨j, -, hj⟩ := List.mem_flatMap.mp hin
        exact teardown_not_mem_createRtThread _ j k hj
    · apply iff_of_true _ (fun h => hfail (h.2 k hk))
      simp only [WorkloadStart.workloadContextInit, henabled, hopen, hsetups, Bool.not_true,
        Bool.false_eq_true, if_false, if_pos hfail]
      exact cleanedUp_setupLabel hteardown hbefore hfail

/-- Two workload threads with a setup and a teardown function that are found. -/
def twoWorkloads (setup : Nat → Int32) (threads : Nat → RtThreadCalls) : WorkloadStart where
  rxWorkloadEnabled := true
  workloadFunction := ⟨cBytes "run", by decide⟩
  workloadSetupFunction := some ⟨cBytes "setup", by decide⟩
  workloadTeardownFunction := some ⟨cBytes "teardown", by decide⟩
  workloadArguments := none
  workloadSetupArguments := none
  workloadThreadCpusNum := 2
  calloc := true
  dlopen := true
  dlsym := fun _ => true
  argvRet := 0
  setupArgvRet := 0
  setup := setup
  threads := threads

theorem workload_cleaned_up_setup :
    let w := twoWorkloads (fun i => if i = 1 then 5 else 0) fun _ => ⟨0, 0, 0, 0, 0, 0, 0, 0⟩
    w.workloadContextInit.2 = 5 ∧ CleanedUp w.workloadContextInit.1 := by
  intro w
  have hret : w.workloadContextInit.2 = 5 := by decide
  have hreach : ¬ w.ReachesCreation := by
    intro h
    obtain ⟨-, -, -, -, -, -, -, hall⟩ := h
    exact absurd (hall 1 (by decide)) (by decide)
  refine ⟨hret, (workload_cleaned_up_iff w rfl rfl ?_).mpr hreach⟩
  rw [hret]
  decide

/-- The second thread cannot be created (`EAGAIN`) or not be named (`EMFILE`): the second instance
is never torn down, and a thread without a name is not joined either. -/
theorem workload_left_over :
    let second := fun calls (i : Nat) =>
      if i = 1 then calls else RtThreadCalls.mk 0 0 0 0 0 0 0 0
    let failed := (twoWorkloads (fun _ => 0) (second ⟨0, 0, 0, 0, 0, 0, 11, 0⟩)).workloadContextInit
    let unnamed := (twoWorkloads (fun _ => 0)
      (second ⟨0, 0, 0, 0, 0, 0, 0, 24⟩)).workloadContextInit
    failed = ([.setup 0 0, .setup 1 0, .started 0, .stop, .joined 0, .teardown 0, .freeSetupArgv,
        .freeArgv, .dlclose, .freeWorkload], -11) ∧ ¬ CleanedUp failed.1 ∧
      unnamed.2 = -24 ∧ .started 1 ∈ unnamed.1 ∧ .joined 1 ∉ unnamed.1 ∧
      ¬ CleanedUp unnamed.1 := by
  intro second failed unnamed
  have hfailed : failed.1.count (.teardown 1) = 0 := by decide
  have hunnamed : unnamed.1.count (.teardown 1) = 0 := by decide
  refine ⟨by decide, fun h => ?_, by decide, by decide, by decide, fun h => ?_⟩
  · have hone := h.tornDown 1 (by decide)
    rw [hfailed] at hone
    cases hone
  · have hone := h.tornDown 1 (by decide)
    rw [hunnamed] at hone
    cases hone

end RtcTestbench
