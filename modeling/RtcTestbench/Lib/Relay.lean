import RtcTestbench.Lib.Machine

namespace Relay
open Machine Function
set_option autoImplicit true

/-- Where a thread is: before its next wait, blocked in it, woken but not back yet, or in a pass. -/
inductive Status where
  | running
  | waiting
  | woken
  | inPass
  deriving DecidableEq

inductive Event (ι : Type) where
  | block (i : ι)
  | timeout (i : ι)
  | resume (i : ι)
  | spurious (i : ι)
  | tick (i : ι)
  | finish (i : ι)
  | internal
  deriving DecidableEq

/-- A pass that begins, called for by a signal or the clock or not, or one that ends, with a signal
that is heard or not. -/
inductive Note (ι : Type) where
  | idle
  | begins (i : ι) (called : Bool)
  | ends (i : ι) (heard : Bool)
  deriving DecidableEq

/-- Threads that hand a turn on by bare signals: a signal wakes the next thread if that one is
waiting and is forgotten otherwise. -/
structure Config (ι : Type) where
  present : ι → Bool
  clocked : ι → Bool
  next : ι → Option ι

variable {ι : Type} [DecidableEq ι]

/-- The end of a pass. -/
def Config.signal (c : Config ι) (s : ι → Status) (i : ι) : (ι → Status) × Note ι :=
  match c.next i with
  | none => (s, .ends i true)
  | some j =>
    if s j = .waiting then (update s j .woken, .ends i true) else (s, .ends i false)

def relay (c : Config ι) : System (ι → Status) (Event ι) (Note ι) where
  step s
    | .block i =>
      if c.present i ∧ ¬ c.clocked i ∧ s i = .running then (update s i .waiting, .idle)
      else (s, .idle)
    | .timeout i => if s i = .waiting then (update s i .running, .idle) else (s, .idle)
    | .resume i => if s i = .woken then (update s i .inPass, .begins i true) else (s, .idle)
    | .spurious i => if s i = .waiting then (update s i .inPass, .begins i false) else (s, .idle)
    | .tick i =>
      if c.present i ∧ c.clocked i ∧ s i = .running then (update s i .inPass, .begins i true)
      else (s, .idle)
    | .finish i => if s i = .inPass then c.signal (update s i .running) i else (s, .idle)
    | .internal => (s, .idle)

def Note.isBegin (i : ι) : Note ι → Bool
  | .begins j _ => j = i
  | _ => false

def Note.isEnd (i : ι) : Note ι → Bool
  | .ends j _ => j = i
  | _ => false

def Note.uncalled (i : ι) : Note ι → Bool
  | .begins j called => j = i && !called
  | _ => false

def Note.signals (c : Config ι) (i : ι) : Note ι → Bool
  | .ends j _ => c.next j = some i
  | _ => false

def Note.unheard (c : Config ι) (i : ι) : Note ι → Bool
  | .ends j heard => c.next j = some i && !heard
  | _ => false

def Note.kept : Note ι → Bool
  | .idle => true
  | .begins _ called => called
  | .ends _ heard => heard

/-- No pass begins without being called for, and no signal goes unheard. -/
def Heard (c : Config ι) (s : ι → Status) : Event ι → Prop
  | .spurious i => s i ≠ .waiting
  | .finish i => s i = .inPass → ∀ j, c.next i = some j → s j = .waiting
  | _ => True

def passing (s : ι → Status) (i : ι) : Nat := if s i = .inPass then 1 else 0

def pending (s : ι → Status) (i : ι) : Nat := if s i = .woken then 1 else 0

/-- What a step can do. -/
inductive Does (c : Config ι) (s : ι → Status) : (ι → Status) → Note ι → Prop
  | nothing : Does c s s .idle
  | moves (i : ι) (hs : s i = .running ∧ c.present i = true ∨ s i = .waiting)
      (ht : t = .running ∨ t = .waiting) : Does c s (update s i t) .idle
  | resumes (i : ι) (hs : s i = .woken) : Does c s (update s i .inPass) (.begins i true)
  | ticks (i : ι) (hs : s i = .running ∧ c.present i = true) (hc : c.clocked i = true) :
      Does c s (update s i .inPass) (.begins i true)
  | spurious (i : ι) (hs : s i = .waiting) : Does c s (update s i .inPass) (.begins i false)
  | ends (i : ι) (hs : s i = .inPass) (hn : c.next i = none) :
      Does c s (update s i .running) (.ends i true)
  | wakes (i j : ι) (hs : s i = .inPass) (hn : c.next i = some j) (hj : s j = .waiting) :
      Does c s (update (update s i .running) j .woken) (.ends i true)
  | loses (i j : ι) (hs : s i = .inPass) (hn : c.next i = some j) (hj : s j ≠ .waiting) :
      Does c s (update s i .running) (.ends i false)

variable {c : Config ι} {s s' : ι → Status} {i j : ι} {e : Event ι} {note : Note ι}

theorem signal_does (hs : s i = .inPass) :
    Does c s (c.signal (update s i .running) i).1 (c.signal (update s i .running) i).2 := by
  rw [Config.signal]
  cases hn : c.next i with
  | none => exact .ends i hs hn
  | some j =>
    dsimp only
    by_cases hj : s j = .waiting
    · have hne : j ≠ i := fun h => by rw [h, hs] at hj; cases hj
      rw [update_of_ne hne, if_pos hj]
      exact .wakes i j hs hn hj
    · have hnot : update s i .running j ≠ .waiting := by
        by_cases hij : j = i
        · rw [hij, update_self]
          decide
        · rw [update_of_ne hij]
          exact hj
      rw [if_neg hnot]
      exact .loses i j hs hn hj

theorem relay_does (c : Config ι) (s : ι → Status) (e : Event ι) :
    Does c s ((relay c).step s e).1 ((relay c).step s e).2 := by
  cases e with
  | block i =>
    simp only [relay]
    split
    · rename_i h
      exact .moves i (.inl ⟨h.2.2, h.1⟩) (.inr rfl)
    · exact .nothing
  | timeout i =>
    simp only [relay]
    split
    · rename_i h
      exact .moves i (.inr h) (.inl rfl)
    · exact .nothing
  | resume i =>
    simp only [relay]
    split
    · rename_i h
      exact .resumes i h
    · exact .nothing
  | spurious i =>
    simp only [relay]
    split
    · rename_i h
      exact .spurious i h
    · exact .nothing
  | tick i =>
    simp only [relay]
    split
    · rename_i h
      exact .ticks i ⟨h.2.2, h.1⟩ h.2.1
    · exact .nothing
  | finish i =>
    simp only [relay]
    split
    · rename_i h
      exact signal_does h
    · exact .nothing
  | internal => exact .nothing

/-- A thread begins and ends its passes in turn. -/
theorem Does.passing_eq (h : Does c s s' note) (i : ι) :
    passing s i + (if note.isBegin i then 1 else 0) =
      (if note.isEnd i then 1 else 0) + passing s' i := by
  cases h <;> grind [passing, Note.isBegin, Note.isEnd]

theorem Does.pending_eq (h : Does c s s' note) (hc : c.clocked i = false) :
    pending s i + (if note.signals c i then 1 else 0) + (if note.uncalled i then 1 else 0) =
      (if note.isBegin i then 1 else 0) + pending s' i + (if note.unheard c i then 1 else 0) := by
  cases h <;> grind [pending, Note.isBegin, Note.signals, Note.uncalled, Note.unheard]

theorem Does.absent (h : Does c s s' note) (ha : c.present i = false) (hs : s i = .running) :
    s' i = .running ∧ note.isEnd i = false := by
  cases h <;> grind [Note.isEnd]

theorem heard_iff (c : Config ι) (s : ι → Status) (e : Event ι) :
    Heard c s e ↔ ((relay c).step s e).2.kept = true := by
  cases e with
  | block i | timeout i | resume i | tick i =>
    simp only [relay, Heard, true_iff]
    split <;> rfl
  | spurious i =>
    simp only [relay, Heard]
    split
    · rename_i h
      exact iff_of_false (not_not_intro h) nofun
    · rename_i h
      exact iff_of_true h rfl
  | finish i =>
    simp only [relay, Heard]
    split
    · rename_i h
      rw [Config.signal, forall_prop_of_true h]
      cases hn : c.next i with
      | none => exact iff_of_true nofun rfl
      | some j =>
        have hiff : update s i .running j = .waiting ↔ s j = .waiting := by grind
        simp only [hiff, Option.some.injEq, forall_eq']
        split
        · rename_i hj
          exact iff_of_true hj rfl
        · rename_i hj
          exact iff_of_false hj nofun
    · rename_i h
      exact iff_of_true (fun h' => absurd h' h) rfl
  | internal => exact iff_of_true trivial rfl

/-- The threads `order` hand the turn on from the first to the last. -/
structure Config.Linked (c : Config ι) (order : List ι) : Prop where
  nodup : order.Nodup
  present : ∀ i, c.present i = true ↔ i ∈ order
  next : ∀ k (hk : k < order.length), c.next order[k] = order[k + 1]?

/-- The thread behind `i` that comes next, if only some of them count. -/
def nextIn (all : List ι) (p : ι → Bool) (i : ι) : Option ι :=
  ((all.dropWhile (· ≠ i)).drop 1).find? p

theorem nextIn_filter {all : List ι} (hnodup : all.Nodup) (p : ι → Bool) (k : Nat)
    (hk : k < (all.filter p).length) :
    nextIn all p (all.filter p)[k] = (all.filter p)[k + 1]? := by
  induction all generalizing k with
  | nil => cases hk
  | cons x xs ih =>
    obtain ⟨hx, hxs⟩ := List.nodup_cons.mp hnodup
    have hbehind {i : ι} (hi : i ∈ xs) : nextIn (x :: xs) p i = nextIn xs p i := by
      have hne : x ≠ i := fun h => hx (h ▸ hi)
      rw [nextIn, List.dropWhile_cons_of_pos (by simpa using hne), nextIn]
    by_cases hp : p x = true
    · simp only [List.filter_cons_of_pos hp] at hk ⊢
      cases k with
      | zero =>
        rw [List.getElem_cons_zero, List.getElem?_cons_succ, ← List.head?_eq_getElem?,
          List.head?_filter, nextIn, List.dropWhile_cons_of_neg (by simp)]
        rfl
      | succ k =>
        have hk' := Nat.lt_of_succ_lt_succ hk
        rw [List.getElem_cons_succ, List.getElem?_cons_succ,
          hbehind (List.mem_of_mem_filter (List.getElem_mem hk')), ih hxs]
    · simp only [List.filter_cons_of_neg hp] at hk ⊢
      rw [hbehind (List.mem_of_mem_filter (List.getElem_mem hk)), ih hxs]

section Runs
variable (c) (s : ι → Status) (es : List (Event ι))

theorem run_passing (i : ι) :
    passing s i + ((relay c).run s es).2.countP (·.isBegin i) =
      ((relay c).run s es).2.countP (·.isEnd i) + passing ((relay c).run s es).1 i := by
  induction es generalizing s with
  | nil => exact Nat.add_comm _ _
  | cons e es ih =>
    have hstep := (relay_does c s e).passing_eq i
    have hrest := ih ((relay c).step s e).1
    simp only [System.run_cons, List.countP_cons]
    omega

theorem run_pending (hc : c.clocked i = false) :
    pending s i + ((relay c).run s es).2.countP (·.signals c i) +
        ((relay c).run s es).2.countP (·.uncalled i) =
      ((relay c).run s es).2.countP (·.isBegin i) + pending ((relay c).run s es).1 i +
        ((relay c).run s es).2.countP (·.unheard c i) := by
  induction es generalizing s with
  | nil => simp only [System.run_nil, List.countP_nil, Nat.add_zero, Nat.zero_add]
  | cons e es ih =>
    have hstep := (relay_does c s e).pending_eq hc
    have hrest := ih ((relay c).step s e).1
    simp only [System.run_cons, List.countP_cons]
    omega

theorem run_heard_iff :
    (relay c).Along (Heard c) s es ↔ ∀ note ∈ ((relay c).run s es).2, note.kept = true := by
  induction es generalizing s with
  | nil => exact iff_of_true trivial nofun
  | cons e es ih => rw [System.Along, System.run_cons, List.forall_mem_cons, heard_iff, ih]

theorem run_absent (ha : c.present i = false) (hs : s i = .running) :
    ∀ note ∈ ((relay c).run s es).2, note.isEnd i = false := by
  induction es generalizing s with
  | nil => nofun
  | cons e es ih =>
    obtain ⟨hs', hnote⟩ := (relay_does c s e).absent ha hs
    exact List.forall_mem_cons.mpr ⟨hnote, ih _ hs'⟩

end Runs

theorem uncalled_of_kept {notes : List (Note ι)} (h : ∀ note ∈ notes, note.kept = true) (i : ι) :
    notes.countP (·.uncalled i) = 0 := by
  apply List.countP_eq_zero.mpr
  intro note hnote
  have hkept := h note hnote
  cases note <;> simp_all [Note.uncalled, Note.kept]

theorem unheard_of_kept {notes : List (Note ι)} (h : ∀ note ∈ notes, note.kept = true)
    (c : Config ι) (i : ι) : notes.countP (·.unheard c i) = 0 := by
  apply List.countP_eq_zero.mpr
  intro note hnote
  have hkept := h note hnote
  cases note <;> simp_all [Note.unheard, Note.kept]

def start : ι → Status := fun _ => .running

section Linked
variable {order : List ι} (h : c.Linked order) (es : List (Event ι))
include h

theorem Config.Linked.mem_of_ends (hn : .ends i heard ∈ ((relay c).run start es).2) :
    i ∈ order := by
  by_contra hi
  have habsent : c.present i = false := Bool.eq_false_iff.mpr fun hp => hi ((h.present i).mp hp)
  have hnot := run_absent c start es habsent rfl _ hn
  simp [Note.isEnd] at hnot

omit [DecidableEq ι] es in
theorem Config.Linked.next_eq_some (hi : i ∈ order) (k : Nat) (hk : k < order.length)
    (hn : c.next i = some order[k]) :
    ∃ m, ∃ hm : m + 1 < order.length, k = m + 1 ∧ i = order[m] := by
  obtain ⟨m, hm, rfl⟩ := List.mem_iff_getElem.mp hi
  rw [h.next m hm, List.getElem?_eq_some_iff] at hn
  obtain ⟨hm', heq⟩ := hn
  exact ⟨m, hm', ((h.nodup.getElem_inj_iff).mp heq).symm, rfl⟩

/-- The signals for a thread are the ends of the passes in front of it. -/
theorem Config.Linked.signals_succ (k : Nat) (hk : k + 1 < order.length) :
    ((relay c).run start es).2.countP (·.signals c order[k + 1]) =
      ((relay c).run start es).2.countP (·.isEnd order[k]) := by
  apply List.countP_congr
  intro note hnote
  cases note with
  | idle | begins i called => rfl
  | ends i heard =>
    simp only [Note.signals, Note.isEnd, decide_eq_true_eq]
    constructor
    · intro hn
      obtain ⟨m, hm, heq, rfl⟩ := h.next_eq_some (h.mem_of_ends es hnote) (k + 1) hk hn
      cases heq
      rfl
    · rintro rfl
      rw [h.next k (Nat.lt_of_succ_lt hk), List.getElem?_eq_getElem hk]

/-- Nobody signals the first one. -/
theorem Config.Linked.signals_zero (hk : 0 < order.length) :
    ((relay c).run start es).2.countP (·.signals c order[0]) = 0 := by
  apply List.countP_eq_zero.mpr
  intro note hnote
  cases note with
  | idle | begins i called => exact Bool.false_ne_true
  | ends i heard =>
    simp only [Note.signals, decide_eq_true_eq]
    intro hn
    obtain ⟨m, hm, heq, -⟩ := h.next_eq_some (h.mem_of_ends es hnote) 0 hk hn
    cases heq

/-- What a thread has begun, against what the one in front of it has ended. -/
theorem Config.Linked.balance (k : Nat) (hk : k + 1 < order.length)
    (hc : c.clocked order[k + 1] = false) :
    ((relay c).run start es).2.countP (·.isEnd order[k]) +
        ((relay c).run start es).2.countP (·.uncalled order[k + 1]) =
      ((relay c).run start es).2.countP (·.isBegin order[k + 1]) +
        pending ((relay c).run start es).1 order[k + 1] +
        ((relay c).run start es).2.countP (·.unheard c order[k + 1]) := by
  have hpending := run_pending c start es hc
  rw [h.signals_succ es k hk] at hpending
  simpa [pending, start] using hpending

/-- If every signal is heard and no thread wakes up by itself, each thread follows the one in front
of it. -/
theorem Config.Linked.follows (hheard : (relay c).Along (Heard c) start es) (k : Nat)
    (hk : k + 1 < order.length) (hc : c.clocked order[k + 1] = false) :
    ((relay c).run start es).2.countP (·.isBegin order[k + 1]) +
        pending ((relay c).run start es).1 order[k + 1] =
      ((relay c).run start es).2.countP (·.isEnd order[k]) := by
  have hbalance := h.balance es k hk hc
  have hkept := (run_heard_iff c start es).mp hheard
  have huncalled := uncalled_of_kept hkept order[k + 1]
  have hunheard := unheard_of_kept hkept c order[k + 1]
  omega

/-- The one in front of all others never runs unless the clock starts it. -/
theorem Config.Linked.never (hheard : (relay c).Along (Heard c) start es) (hk : 0 < order.length)
    (hc : c.clocked order[0] = false) :
    ((relay c).run start es).2.countP (·.isBegin order[0]) = 0 := by
  have hpending := run_pending c start es hc
  have huncalled := uncalled_of_kept ((run_heard_iff c start es).mp hheard) order[0]
  rw [h.signals_zero es hk, huncalled] at hpending
  simp only [pending, start, reduceCtorEq, if_false] at hpending
  omega

section Heard
variable (hheard : (relay c).Along (Heard c) start es)
  (hclocked : ∀ k (hk : k + 1 < order.length), c.clocked order[k + 1] = false)
include hheard hclocked

theorem Config.Linked.begin_le_end (j k : Nat) (hj : j < k) (hk : k < order.length) :
    ((relay c).run start es).2.countP (·.isBegin order[k]) ≤
      ((relay c).run start es).2.countP (·.isEnd order[j]) := by
  induction k with
  | zero => cases hj
  | succ k ih =>
    have hfollows := h.follows es hheard k hk (hclocked k hk)
    rcases Nat.lt_succ_iff_lt_or_eq.mp hj with hj | rfl
    · have hfront := ih hj (Nat.lt_of_succ_lt hk)
      have hpassing := run_passing c start es order[k]
      simp only [passing, start, reduceCtorEq, if_false] at hpassing
      omega
    · omega

/-- The passes begin in the order of the threads, the k-th of each after the k-th of those before.
-/
theorem Config.Linked.in_order : order.Pairwise fun i j =>
    ((relay c).run start es).2.countP (·.isBegin j) ≤
    ((relay c).run start es).2.countP (·.isEnd i) := by
  apply List.pairwise_iff_getElem.mpr
  intro j k hj hk hlt
  exact h.begin_le_end es hheard hclocked j k hlt hk

/-- When nothing is under way all threads have made the same number of passes. -/
theorem Config.Linked.in_step (hquiet : ∀ i, ((relay c).run start es).1 i ≠ .inPass ∧
    ((relay c).run start es).1 i ≠ .woken) (k : Nat) (hk : k < order.length)
    (hfirst : 0 < order.length) :
    ((relay c).run start es).2.countP (·.isEnd order[k]) =
      ((relay c).run start es).2.countP (·.isEnd order[0]) := by
  induction k with
  | zero => rfl
  | succ k ih =>
    have hfollows := h.follows es hheard k hk (hclocked k hk)
    have hpassing := run_passing c start es order[k + 1]
    rw [← ih (Nat.lt_of_succ_lt hk)]
    simp only [passing, pending, start, reduceCtorEq, if_false, if_neg (hquiet _).1,
      if_neg (hquiet _).2] at hfollows hpassing
    omega

end Heard

end Linked

end Relay
