import RtcTestbench.Lib.Cells

namespace RtcTestbench
open Machine Cells
set_option autoImplicit true

/-- Where `workload_thread_routine` is. A woken thread will run the workload function; a finished
one has returned from it and not cleared the flag yet. -/
inductive WorkloadStatus where
  | beforeWait
  | waiting
  | woken
  | running
  | finished
  deriving DecidableEq

structure WorkloadThread where
  status : WorkloadStatus
  workloadRunning : Bool
  deriving DecidableEq

/-- `signal` and `check` are what `workload_signal` and `workload_check_finished` do for one of the
threads, under its mutex. -/
inductive WorkloadEvent where
  | wait
  | timeout
  | spurious
  | start
  | finish
  | clear
  | signal
  | check
  deriving DecidableEq

inductive WorkloadNote where
  | starts
  | completes
  | outlier
  deriving DecidableEq

def workloadThread : System WorkloadThread (Nat × WorkloadEvent) (List WorkloadNote) where
  step w e :=
    match e.2 with
    | .wait => (if w.status = .beforeWait then { w with status := .waiting } else w, [])
    | .timeout => (if w.status = .waiting then { w with status := .beforeWait } else w, [])
    | .spurious => (if w.status = .waiting then { w with status := .woken } else w, [])
    | .start => if w.status = .woken then ({ w with status := .running }, [.starts]) else (w, [])
    | .finish =>
      if w.status = .running then ({ w with status := .finished }, [.completes]) else (w, [])
    | .clear => (if w.status = .finished then ⟨.beforeWait, false⟩ else w, [])
    | .signal => (⟨if w.status = .waiting then .woken else w.status, true⟩, [])
    | .check => (w, if w.workloadRunning then [.outlier] else [])

/-- The threads of a class, with the Rx and the Tx thread that signal and check them. -/
def workloadThreads : System (List WorkloadThread) (Nat × WorkloadEvent) (List WorkloadNote) :=
  table Prod.fst workloadThread

def workloadContextInit (workloadThreadCpusNum : Nat) : List WorkloadThread :=
  List.replicate workloadThreadCpusNum ⟨.beforeWait, false⟩

/-- What happens between the signal of a cycle and its check, as far as a thread is concerned. -/
def WithinCycle (id : Nat) (es : List (Nat × WorkloadEvent)) : Prop :=
  (id, .signal) ∉ es ∧ (id, .check) ∉ es

/-- A run of the workload function starts and completes. -/
def CompletesRun (notes : List WorkloadNote) : Prop := [.starts, .completes].Sublist notes

/-- After a signal, the run that it asks for completes before the check, or the check counts an
outlier. -/
def Noticed (id : Nat) (threads : List WorkloadThread) (cycle : List (Nat × WorkloadEvent)) :
    Prop :=
  let signalled := (workloadThreads.step threads (id, .signal)).1
  let r := workloadThreads.run signalled cycle
  CompletesRun (observedAt Prod.fst id cycle r.2).flatten ∨
    (workloadThreads.step r.1 (id, .check)).2 = [.outlier]

instance (id : Nat) (threads : List WorkloadThread) (cycle : List (Nat × WorkloadEvent)) :
    Decidable (Noticed id threads cycle) :=
  inferInstanceAs (Decidable (List.Sublist _ _ ∨ _ = _))

/-- The thread is inside the workload function or has yet to clear the flag. -/
def WorkloadThread.UnderWay (w : WorkloadThread) : Prop :=
  w.status = .running ∨ w.status = .finished

/-- What keeps an overrun from going unnoticed since the last signal. -/
def Guarded (w : WorkloadThread) (notes : List WorkloadNote) : Prop :=
  CompletesRun notes ∨
    w.workloadRunning = true ∧ w.status ≠ .finished ∧ (w.status = .running → .starts ∈ notes)

theorem guarded_step (h : Guarded w notes) (hsignal : e.2 ≠ .signal) :
    Guarded (workloadThread.step w e).1 (notes ++ (workloadThread.step w e).2) := by
  rcases h with h | ⟨hflag, hfinished, hrunning⟩
  · exact .inl (h.trans (List.sublist_append_left ..))
  · obtain ⟨i, e⟩ := e
    cases e with
    | finish =>
      simp only [workloadThread]
      split
      · rename_i hs
        exact .inl ((List.singleton_sublist.mpr (hrunning hs)).append (List.Sublist.refl _))
      · exact .inr ⟨hflag, hfinished, by simpa using hrunning⟩
    | signal => exact absurd rfl hsignal
    | clear =>
      simp only [workloadThread, if_neg hfinished]
      exact .inr ⟨hflag, hfinished, by simpa using hrunning⟩
    | check => exact .inr ⟨hflag, hfinished, fun hs => List.mem_append_left _ (hrunning hs)⟩
    | wait | timeout | spurious | start =>
      simp only [workloadThread]
      split <;> exact .inr ⟨hflag, by simp_all, by simp_all⟩

theorem guarded_run (h : Guarded w notes) (hes : ∀ e ∈ es, e.2 ≠ .signal) :
    Guarded (workloadThread.run w es).1 (notes ++ (workloadThread.run w es).2.flatten) := by
  induction es generalizing w notes with
  | nil =>
    rw [System.run_nil, List.flatten_nil, List.append_nil]
    exact h
  | cons e es ih =>
    obtain ⟨he, hes⟩ := List.forall_mem_cons.mp hes
    have hrest := ih (guarded_step h he) hes
    rw [List.append_assoc] at hrest
    exact hrest

theorem guarded_signal (h : ¬ w.UnderWay) (i : Nat) :
    Guarded (workloadThread.step w (i, .signal)).1 [] := by
  obtain ⟨hrunning, hfinished⟩ := not_or.mp h
  refine .inr ⟨rfl, ?_, ?_⟩
  all_goals
    simp only [workloadThread]
    split <;> simp_all

/-- The old run of a thread takes back the flag of the new request. -/
def takesBack (id : Nat) (w : WorkloadThread) : List (Nat × WorkloadEvent) :=
  if w.status = .running then [(id, .finish), (id, .clear)] else [(id, .clear)]

theorem withinCycle_takesBack (id : Nat) (w : WorkloadThread) :
    WithinCycle id (takesBack id w) := by
  rw [takesBack]
  split <;> exact ⟨by simp, by simp⟩

section Thread
variable {threads : List WorkloadThread} {id : Nat} {w : WorkloadThread}
  (hw : threads[id]? = some w)
include hw

/-- A thread takes no notice of the others. -/
theorem workloadThreads_run (es : List (Nat × WorkloadEvent)) :
    (workloadThreads.run threads es).1[id]? =
        some (workloadThread.run w (es.filter fun e => e.1 = id)).1 ∧
      observedAt Prod.fst id es (workloadThreads.run threads es).2 =
        (workloadThread.run w (es.filter fun e => e.1 = id)).2 :=
  run_cell hw es

theorem workloadThreads_step (e : WorkloadEvent) : workloadThreads.step threads (id, e) =
    (threads.set id (workloadThread.step w (id, e)).1, (workloadThread.step w (id, e)).2) :=
  table_step hw

theorem noticed_iff (cycle : List (Nat × WorkloadEvent)) : Noticed id threads cycle ↔
    let r := workloadThread.run (workloadThread.step w (id, .signal)).1
      (cycle.filter fun e => e.1 = id)
    CompletesRun r.2.flatten ∨ r.1.workloadRunning = true := by
  have hsignal : (workloadThreads.step threads (id, .signal)).1[id]? =
      some (workloadThread.step w (id, .signal)).1 := step_self hw
  obtain ⟨hcell, hobs⟩ := workloadThreads_run hsignal cycle
  simp only [Noticed]
  rw [hobs, workloadThreads_step hcell]
  apply or_congr_right
  generalize (workloadThread.run _ _).1 = final
  simp only [workloadThread]
  split
  · rename_i hflag
    exact iff_of_true rfl hflag
  · rename_i hflag
    exact iff_of_false nofun hflag

theorem noticed_of_idle (h : ¬ w.UnderWay) (hcycle : WithinCycle id cycle) :
    Noticed id threads cycle := by
  rw [noticed_iff hw]
  have hsignals : ∀ e ∈ cycle.filter fun e => e.1 = id, e.2 ≠ .signal := by
    rintro ⟨i, e⟩ he rfl
    obtain ⟨hmem, hid⟩ := List.mem_filter.mp he
    obtain rfl : i = id := of_decide_eq_true hid
    exact hcycle.1 hmem
  have hguarded := guarded_run (guarded_signal h id) hsignals
  exact hguarded.imp (fun h => h) (fun h => h.1)

theorem not_noticed_of_underWay (h : w.UnderWay) : ¬ Noticed id threads (takesBack id w) := by
  rw [noticed_iff hw, takesBack]
  rcases h with h | h
  · simp [h, workloadThread, System.run_cons, CompletesRun]
  · simp [h, workloadThread, System.run_cons, CompletesRun]

end Thread

/-- An overrun is noticed, whatever happens until the check, exactly if no run of the workload
function is under way when the thread is signalled. -/
theorem overrun_noticed (num id : Nat) (before : List (Nat × WorkloadEvent)) (w : WorkloadThread)
    (hw : (workloadThreads.run (workloadContextInit num) before).1[id]? = some w) :
    (∀ cycle, WithinCycle id cycle →
      Noticed id (workloadThreads.run (workloadContextInit num) before).1 cycle) ↔
      ¬ w.UnderWay := by
  constructor
  · intro hall hunder
    exact not_noticed_of_underWay hw hunder (hall _ (withinCycle_takesBack id w))
  · intro hidle cycle hcycle
    exact noticed_of_idle hw hidle hcycle

theorem overrun_noticed_waiting :
    WithinCycle 0 [(0, .start), (0, .finish)] ∧
      Noticed 0 (workloadThreads.run (workloadContextInit 1) [(0, .wait)]).1
        [(0, .start), (0, .finish)] := by
  have hcycle : WithinCycle 0 [(0, .start), (0, .finish)] := ⟨by decide, by decide⟩
  have hidle : ¬ (WorkloadThread.mk .waiting false).UnderWay := by rintro (h | h) <;> cases h
  exact ⟨hcycle, (overrun_noticed 1 0 [(0, .wait)] _ rfl).mpr hidle _ hcycle⟩

/-- A run that is still under way at the second signal takes the flag back before the second check:
the second request is neither run nor counted. -/
theorem overrun_unnoticed :
    let first := [(0, .wait), (0, .signal), (0, .start), (0, .check)]
    let second := [(0, .finish), (0, .clear)]
    let r := workloadThreads.run (workloadContextInit 1)
      (first ++ (0, .signal) :: second ++ [(0, .check)])
    r.2.flatten = [.starts, .outlier, .completes] ∧ WithinCycle 0 second ∧
      ¬ Noticed 0 (workloadThreads.run (workloadContextInit 1) first).1 second :=
  ⟨by decide, ⟨by decide, by decide⟩, by decide⟩

end RtcTestbench
