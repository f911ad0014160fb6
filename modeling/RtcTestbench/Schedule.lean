import RtcTestbench.Lib.Relay
import RtcTestbench.Thread

namespace RtcTestbench
open Function Machine Relay
set_option autoImplicit true

inductive PnThreadType where
  | tsnHigh
  | tsnLow
  | rtc
  | rta
  | dcp
  | lldp
  | udpHigh
  | udpLow
  deriving DecidableEq

def PnThreadType.frameType : PnThreadType → StatFrameType
  | .tsnHigh => .tsnHigh
  | .tsnLow => .tsnLow
  | .rtc => .rtc
  | .rta => .rta
  | .dcp => .dcp
  | .lldp => .lldp
  | .udpHigh => .udpHigh
  | .udpLow => .udpLow

def pnThreadTypes : List PnThreadType :=
  [.tsnHigh, .tsnLow, .rtc, .rta, .dcp, .lldp, .udpHigh, .udpLow]

def pnThreadActive (app : AppConfig) (t : PnThreadType) : Bool := configIsTcActive app t.frameType

/-- The classes tested from a label of the `switch` on: every case falls through to the next. -/
def PnThreadType.behind : PnThreadType → List PnThreadType
  | .tsnHigh => [.tsnLow, .rtc, .rta, .dcp, .lldp, .udpHigh, .udpLow]
  | .tsnLow => [.rtc, .rta, .dcp, .lldp, .udpHigh, .udpLow]
  | .rtc => [.rta, .dcp, .lldp, .udpHigh, .udpLow]
  | .rta => [.dcp, .lldp, .udpHigh, .udpLow]
  | .dcp => [.lldp, .udpHigh, .udpLow]
  | .lldp => [.udpHigh, .udpLow]
  | .udpHigh => [.udpLow]
  | .udpLow => []

def findNextPnThread (app : AppConfig) (start : PnThreadType) : Option PnThreadType :=
  start.behind.find? (pnThreadActive app)

structure PnLinks where
  next : PnThreadType → Option PnThreadType
  isFirst : PnThreadType → Bool
  isLast : PnThreadType → Bool

/-- `while (t) { p = t; t = t->next; }`, for a given number of rounds. -/
def lastPnThread (next : PnThreadType → Option PnThreadType) : Nat → PnThreadType → PnThreadType
  | 0, t => t
  | n + 1, t =>
    match next t with
    | none => t
    | some u => lastPnThread next n u

/-- The links of a chain that starts at a given thread. -/
def pnLinksFrom (app : AppConfig) (first : PnThreadType) : PnLinks where
  next := findNextPnThread app
  isFirst t := t = first
  isLast t := t = lastPnThread (findNextPnThread app) pnThreadTypes.length first

/-- `none` stands for `-EINVAL`. -/
def linkPnThreads (app : AppConfig) : Option PnLinks :=
  if configIsTcActive app .tsnHigh then some (pnLinksFrom app .tsnHigh)
  else if configIsTcActive app .rtc then some (pnLinksFrom app .rtc)
  else if configIsTcActive app .genericL2 then
    some ⟨findNextPnThread app, fun _ => false, fun _ => false⟩
  else none

/-- The UDP threads wait by `tc_wait_for_tx_burst` without having a model. -/
def PnThreadType.txModel (t : PnThreadType) : TcTxModel := tcTxModel t.frameType

inductive TcTxWaitResult where
  | send
  | stop
  deriving DecidableEq

/-- Why `pthread_cond_timedwait` returns; only the last one is an error code. -/
inductive WaitReturn where
  | signalled
  | spurious
  | timedOut
  deriving DecidableEq

def WaitReturn.result : WaitReturn → TcTxWaitResult
  | .timedOut => .stop
  | _ => .send

structure TxThreads where
  status : PnThreadType → Status
  numFramesAvailable : PnThreadType → UInt64

/-- The Tx threads start before their first wait. -/
def TxThreads.start : TxThreads := ⟨Relay.start, fun _ => 0⟩

inductive TxThreadEvent where
  | wait (t : PnThreadType)
  | wakeUp (t : PnThreadType) (ret : WaitReturn)
  | timer (t : PnThreadType)
  | finish (t : PnThreadType)
  | generate (t : PnThreadType)

inductive TxThreadNote where
  | idle
  | passBegins (t : PnThreadType) (called : Bool) (numFrames : UInt64)
  | passEnds (t : PnThreadType) (heard statUpdate : Bool)
  deriving DecidableEq

/-- What `tc_wait_for_tx_cycle` waits for: a signal, or else the clock. -/
def waitsForSignal (links : PnLinks) (t : PnThreadType) : Bool :=
  decide (t.txModel = .burst) || !links.isFirst t

/-- `num_frames`, and what is left for the next pass of a burst class. -/
def fetchFrames (app : AppConfig) (s : TxThreads) (t : PnThreadType) :
    UInt64 × (PnThreadType → UInt64) :=
  if t.txModel = .burst then (s.numFramesAvailable t, update s.numFramesAvailable t 0)
  else ((app.classes t.frameType).numFramesPerCycle, s.numFramesAvailable)

/-- The signal has an effect only if the next thread is waiting for it. -/
def tcSignalNext (links : PnLinks) (status : PnThreadType → Status) (t : PnThreadType) :
    (PnThreadType → Status) × Bool :=
  match links.next t with
  | none => (status, true)
  | some u => if status u = .waiting then (update status u .woken, true) else (status, false)

/-- The loops of `tc_tx_thread`, `tc_xdp_tx_thread` and `udp_tx_thread_routine`, and those of
`tc_tx_gen_thread`, in any order. -/
def txThreads (app : AppConfig) (links : PnLinks) :
    System TxThreads TxThreadEvent TxThreadNote where
  step s
    | .wait t =>
      if pnThreadActive app t ∧ waitsForSignal links t ∧ s.status t = .running then
        ({ s with status := update s.status t .waiting }, .idle)
      else (s, .idle)
    | .wakeUp t ret =>
      if s.status t = if ret = .signalled then .woken else .waiting then
        let frames := fetchFrames app s t
        match ret.result with
        | .stop => (⟨update s.status t .running, frames.2⟩, .idle)
        | .send => (⟨update s.status t .inPass, frames.2⟩,
            .passBegins t (ret = .signalled) frames.1)
      else (s, .idle)
    | .timer t =>
      if pnThreadActive app t ∧ ¬ waitsForSignal links t ∧ s.status t = .running then
        ({ s with status := update s.status t .inPass },
          .passBegins t true (app.classes t.frameType).numFramesPerCycle)
      else (s, .idle)
    | .finish t =>
      if s.status t = .inPass then
        let signalled := tcSignalNext links (update s.status t .running) t
        ({ s with status := signalled.1 }, .passEnds t signalled.2 (links.isLast t))
      else (s, .idle)
    | .generate t =>
      if pnThreadActive app t ∧ t.txModel = .burst ∧
          (app.classes t.frameType).rxMirrorEnabled = false then
        ({ s with numFramesAvailable :=
            update s.numFramesAvailable t (app.classes t.frameType).numFramesPerCycle }, .idle)
      else (s, .idle)

/-- The threads as a relay. -/
def pnRelay (app : AppConfig) (links : PnLinks) : Relay.Config PnThreadType where
  present := pnThreadActive app
  clocked t := !waitsForSignal links t
  next := links.next

def TxThreadEvent.toRelay : TxThreadEvent → Relay.Event PnThreadType
  | .wait t => .block t
  | .wakeUp t .signalled => .resume t
  | .wakeUp t .spurious => .spurious t
  | .wakeUp t .timedOut => .timeout t
  | .timer t => .tick t
  | .finish t => .finish t
  | .generate _ => .internal

def TxThreadNote.toRelay : TxThreadNote → Relay.Note PnThreadType
  | .idle => .idle
  | .passBegins t called _ => .begins t called
  | .passEnds t heard _ => .ends t heard

/-- Every signal finds the next thread waiting, and no thread wakes up by itself. -/
def SignalsHeard (links : PnLinks) (s : TxThreads) : TxThreadEvent → Prop
  | .wakeUp t .spurious => s.status t ≠ .waiting
  | .finish t => s.status t = .inPass → ∀ u, links.next t = some u → s.status u = .waiting
  | _ => True

def passesBegun (t : PnThreadType) (notes : List TxThreadNote) : Nat :=
  notes.countP fun
    | .passBegins u _ _ => u = t
    | _ => false

def passesMade (t : PnThreadType) (notes : List TxThreadNote) : Nat :=
  notes.countP fun
    | .passEnds u _ _ => u = t
    | _ => false

def statUpdates (notes : List TxThreadNote) : Nat :=
  notes.countP fun
    | .passEnds _ _ statUpdate => statUpdate
    | _ => false

/-- The pass is called for by the thread in front or the clock, or its signal is heard. -/
def TxThreadNote.kept (note : TxThreadNote) : Bool := note.toRelay.kept

/-- No thread is inside a pass and no wake-up is pending. -/
def TxThreads.Quiet (s : TxThreads) : Prop := ∀ t, s.status t ≠ .inPass ∧ s.status t ≠ .woken

def activePnThreads (app : AppConfig) : List PnThreadType :=
  pnThreadTypes.filter (pnThreadActive app)

variable {app : AppConfig} {links : PnLinks} {build : BuildConfig}

/-- Without the frames and the statistics the threads are a relay. -/
theorem txThreads_relay (s : TxThreads) (e : TxThreadEvent) :
    (relay (pnRelay app links)).step s.status e.toRelay =
      (((txThreads app links).step s e).1.status, ((txThreads app links).step s e).2.toRelay) := by
  cases e with
  | wait t =>
    simp only [relay, TxThreadEvent.toRelay, txThreads, pnRelay, Bool.not_eq_true',
      Bool.not_eq_false]
    split <;> rfl
  | wakeUp t ret =>
    cases ret with
    | signalled =>
      simp only [relay, TxThreadEvent.toRelay, txThreads, WaitReturn.result, if_true]
      split <;> rfl
    | spurious =>
      simp only [relay, TxThreadEvent.toRelay, txThreads, WaitReturn.result, reduceCtorEq, if_false]
      split <;> rfl
    | timedOut =>
      simp only [relay, TxThreadEvent.toRelay, txThreads, WaitReturn.result, reduceCtorEq, if_false]
      split <;> rfl
  | timer t =>
    simp only [relay, TxThreadEvent.toRelay, txThreads, pnRelay, Bool.not_eq_true',
      Bool.not_eq_true]
    split <;> rfl
  | finish t =>
    simp only [relay, TxThreadEvent.toRelay, txThreads, tcSignalNext, Relay.Config.signal, pnRelay]
    split
    · cases links.next t with
      | none => rfl
      | some u =>
        dsimp only
        split <;> rfl
    · rfl
  | generate t =>
    simp only [relay, TxThreadEvent.toRelay, txThreads]
    split <;> rfl

theorem findNextPnThread_eq (app : AppConfig) (t : PnThreadType) :
    findNextPnThread app t = nextIn pnThreadTypes (pnThreadActive app) t := by
  cases t <;> rfl

theorem mem_activePnThreads (t : PnThreadType) :
    t ∈ activePnThreads app ↔ pnThreadActive app t = true := by
  have hall : t ∈ pnThreadTypes := by cases t <;> decide
  rw [activePnThreads, List.mem_filter, and_iff_right hall]

theorem linkPnThreads_next (hl : linkPnThreads app = some links) :
    links.next = findNextPnThread app := by
  rw [linkPnThreads] at hl
  repeat' split at hl
  all_goals cases hl
  all_goals rfl

theorem linkPnThreads_linked (hl : linkPnThreads app = some links) :
    (pnRelay app links).Linked (activePnThreads app) where
  nodup := List.Nodup.filter _ (by decide)
  present t := (mem_activePnThreads t).symm
  next k hk := by
    change links.next _ = _
    rw [linkPnThreads_next hl, findNextPnThread_eq]
    exact nextIn_filter (by decide) _ k hk

theorem genericL2_inactive (hs : configSanityCheck build app = true)
    (hpn : pnThreadActive app t = true) : configIsTcActive app .genericL2 = false := by
  have hfirst := configSanityCheck_all hs _ List.mem_cons_self
  by_contra hl2
  rw [Bool.not_eq_false] at hl2
  rw [pnThreadActive] at hpn
  cases t <;> simp_all [PnThreadType.frameType]

/-- Where the chain starts. -/
structure StartsAt (app : AppConfig) (links : PnLinks) (first : PnThreadType) : Prop where
  active : pnThreadActive app first = true
  cyclic : first.txModel = .cyclic
  isFirst : ∀ t, links.isFirst t = true ↔ t = first
  isLast : ∀ t, links.isLast t = true ↔
    t = lastPnThread (findNextPnThread app) pnThreadTypes.length first
  cases : first = .tsnHigh ∨ first = .rtc ∧ pnThreadActive app .tsnHigh = false

theorem linkPnThreads_startsAt (hs : configSanityCheck build app = true)
    (hl : linkPnThreads app = some links) (hpn : pnThreadActive app t = true) :
    ∃ first, StartsAt app links first := by
  have hl2 := genericL2_inactive hs hpn
  rw [linkPnThreads] at hl
  split at hl
  · rename_i hhigh
    cases hl
    exact ⟨.tsnHigh, hhigh, rfl, fun _ => decide_eq_true_iff, fun _ => decide_eq_true_iff, .inl rfl⟩
  · rename_i hhigh
    split at hl
    · rename_i hrtc
      cases hl
      exact ⟨.rtc, hrtc, rfl, fun _ => decide_eq_true_iff, fun _ => decide_eq_true_iff,
        .inr ⟨rfl, Bool.eq_false_iff.mpr hhigh⟩⟩
    · rw [hl2, if_neg Bool.false_ne_true] at hl
      cases hl

/-- TsnLow is linked only behind TsnHigh. -/
def TsnLowLinked (app : AppConfig) : Prop :=
  pnThreadActive app .tsnLow = true → pnThreadActive app .tsnHigh = true

theorem StartsAt.head (h : StartsAt app links first) (hlow : TsnLowLinked app) :
    (activePnThreads app).head? = some first := by
  rw [activePnThreads, List.head?_filter]
  obtain rfl | ⟨rfl, hhigh⟩ := h.cases
  · exact List.find?_cons_of_pos h.active
  · have hlow' : pnThreadActive app .tsnLow = false :=
      Bool.eq_false_iff.mpr fun hp => Bool.eq_false_iff.mp hhigh (hlow hp)
    rw [pnThreadTypes, List.find?_cons_of_neg (Bool.eq_false_iff.mp hhigh),
      List.find?_cons_of_neg (Bool.eq_false_iff.mp hlow')]
    exact List.find?_cons_of_pos h.active

theorem StartsAt.head_unlinked (h : StartsAt app links first) (hlow : ¬ TsnLowLinked app) :
    first ≠ .tsnLow ∧ (activePnThreads app).head? = some .tsnLow := by
  obtain ⟨hactive, hhigh⟩ := Classical.not_imp.mp hlow
  constructor
  · rintro rfl
    rcases h.cases with h | ⟨h, -⟩ <;> cases h
  · rw [activePnThreads, List.head?_filter, pnThreadTypes, List.find?_cons_of_neg hhigh]
    exact List.find?_cons_of_pos hactive

theorem StartsAt.clocked (h : StartsAt app links first) (t : PnThreadType) :
    (pnRelay app links).clocked t = true ↔ t = first := by
  simp only [pnRelay, waitsForSignal, Bool.not_or, Bool.not_not, Bool.and_eq_true,
    Bool.not_eq_true', decide_eq_false_iff_not, h.isFirst]
  apply and_iff_right_of_imp
  rintro rfl
  rw [h.cyclic]
  decide

theorem lastPnThread_eq {c : Relay.Config PnThreadType} {order : List PnThreadType}
    (h : c.Linked order) (n k : Nat) (hk : k < order.length) (hn : order.length ≤ k + n + 1) :
    order.getLast? = some (lastPnThread c.next n order[k]) := by
  induction n generalizing k with
  | zero =>
    have hlast : k = order.length - 1 := by omega
    rw [List.getLast?_eq_getElem?, ← hlast]
    exact List.getElem?_eq_getElem hk
  | succ n ih =>
    rw [lastPnThread, h.next k hk]
    by_cases hk' : k + 1 < order.length
    · rw [List.getElem?_eq_getElem hk']
      exact ih (k + 1) hk' (by omega)
    · have hlast : k = order.length - 1 := by omega
      rw [List.getElem?_eq_none (Nat.le_of_not_lt hk'), List.getLast?_eq_getElem?, ← hlast]
      exact List.getElem?_eq_getElem hk

/-- The chain ends at the last active class, wherever it starts. -/
theorem StartsAt.last (h : StartsAt app links first) (hl : linkPnThreads app = some links) :
    ∃ last, (activePnThreads app).getLast? = some last ∧ ∀ t, links.isLast t = true ↔ t = last := by
  have hlinked := linkPnThreads_linked hl
  obtain ⟨k, hk, hfirst⟩ := List.mem_iff_getElem.mp ((mem_activePnThreads first).mpr h.active)
  have hlength : (activePnThreads app).length ≤ pnThreadTypes.length := List.length_filter_le _ _
  have hlast := lastPnThread_eq hlinked pnThreadTypes.length k hk (by omega)
  rw [hfirst, show (pnRelay app links).next = findNextPnThread app from linkPnThreads_next hl]
    at hlast
  exact ⟨_, hlast, h.isLast⟩

theorem passesBegun_eq (t : PnThreadType) (notes : List TxThreadNote) :
    passesBegun t notes = (notes.map TxThreadNote.toRelay).countP (·.isBegin t) := by
  rw [List.countP_map]
  apply List.countP_congr
  intro note _
  cases note <;> rfl

theorem passesMade_eq (t : PnThreadType) (notes : List TxThreadNote) :
    passesMade t notes = (notes.map TxThreadNote.toRelay).countP (·.isEnd t) := by
  rw [List.countP_map]
  apply List.countP_congr
  intro note _
  cases note <;> rfl

theorem signalsHeard_iff (s : TxThreads) (e : TxThreadEvent) :
    SignalsHeard links s e ↔ Heard (pnRelay app links) s.status e.toRelay := by
  cases e with
  | wakeUp t ret => cases ret <;> rfl
  | wait t | timer t | finish t | generate t => rfl

/-- A pass is followed by `stat_update` in the last thread only. -/
theorem statUpdate_of_passEnds (s : TxThreads) (e : TxThreadEvent)
    (h : ((txThreads app links).step s e).2 = .passEnds t heard statUpdate) :
    statUpdate = links.isLast t := by
  cases e with
  | wakeUp u ret =>
    simp only [txThreads] at h
    repeat' split at h
    all_goals cases h
  | finish u =>
    simp only [txThreads] at h
    split at h
    · cases h
      rfl
    · cases h
  | wait u | timer u | generate u =>
    simp only [txThreads] at h
    split at h <;> cases h

theorem statUpdates_eq (hlast : ∀ t, links.isLast t = true ↔ t = last) (s : TxThreads)
    (es : List TxThreadEvent) : statUpdates ((txThreads app links).run s es).2 =
      passesMade last ((txThreads app links).run s es).2 := by
  induction es generalizing s with
  | nil => rfl
  | cons e es ih =>
    simp only [statUpdates, passesMade, System.run_cons, List.countP_cons] at ih ⊢
    rw [ih]
    congr 1
    cases hnote : ((txThreads app links).step s e).2 with
    | idle | passBegins t called numFrames => rfl
    | passEnds t heard statUpdate =>
      have hstat := statUpdate_of_passEnds s e hnote
      simp only [hstat, hlast, decide_eq_true_eq]

section Run
variable (app links) (es : List TxThreadEvent)

theorem txThreads_run : (relay (pnRelay app links)).run Relay.start (es.map (·.toRelay)) =
    (((txThreads app links).run .start es).1.status,
      ((txThreads app links).run .start es).2.map (·.toRelay)) :=
  System.run_map txThreads_relay .start es

theorem txThreads_heard : (txThreads app links).Along (SignalsHeard links) .start es ↔
    (relay (pnRelay app links)).Along (Heard (pnRelay app links)) Relay.start
      (es.map (·.toRelay)) := by
  have hmap := System.along_map (P := Heard (pnRelay app links))
    (@txThreads_relay app links) .start es
  simp only [← signalsHeard_iff] at hmap
  exact hmap.symm

theorem txThreads_kept : (txThreads app links).Along (SignalsHeard links) .start es ↔
    ∀ note ∈ ((txThreads app links).run .start es).2, note.kept = true := by
  rw [txThreads_heard, run_heard_iff, txThreads_run]
  exact List.forall_mem_map

end Run

/-- Every active class has made the passes of the first one, and the last one as many calls of
`stat_update`. -/
def InStep (app : AppConfig) (first : PnThreadType) (notes : List TxThreadNote) : Prop :=
  (∀ t ∈ activePnThreads app, passesMade t notes = passesMade first notes) ∧
    statUpdates notes = passesMade first notes

/-- The k-th pass of a class begins after the k-th passes of the classes in front of it. -/
def InOrder (app : AppConfig) (notes : List TxThreadNote) : Prop :=
  (activePnThreads app).Pairwise fun t u => passesBegun u notes ≤ passesMade t notes

section Chain
variable (h : StartsAt app links first) (hl : linkPnThreads app = some links)
  (es : List TxThreadEvent)
include h hl

theorem StartsAt.follower_unclocked (hlow : TsnLowLinked app) (k : Nat)
    (hk : k + 1 < (activePnThreads app).length) :
    (pnRelay app links).clocked (activePnThreads app)[k + 1] = false := by
  have hhead := h.head hlow
  rw [List.head?_eq_getElem?, List.getElem?_eq_some_iff] at hhead
  obtain ⟨hzero, hhead⟩ := hhead
  apply Bool.eq_false_iff.mpr
  intro hclocked
  have heq := ((h.clocked _).mp hclocked).trans hhead.symm
  have hindex := (linkPnThreads_linked hl).nodup.getElem_inj_iff.mp heq
  cases hindex

theorem StartsAt.inOrder (hlow : TsnLowLinked app)
    (hheard : (txThreads app links).Along (SignalsHeard links) .start es) :
    InOrder app ((txThreads app links).run .start es).2 := by
  have hrelay := (linkPnThreads_linked hl).in_order (es.map (·.toRelay))
    ((txThreads_heard app links es).mp hheard) (h.follower_unclocked hl hlow)
  simp only [txThreads_run, ← passesBegun_eq, ← passesMade_eq] at hrelay
  exact hrelay

theorem StartsAt.inStep (hlow : TsnLowLinked app)
    (hheard : (txThreads app links).Along (SignalsHeard links) .start es)
    (hquiet : ((txThreads app links).run .start es).1.Quiet) :
    InStep app first ((txThreads app links).run .start es).2 := by
  have hhead := h.head hlow
  rw [List.head?_eq_getElem?, List.getElem?_eq_some_iff] at hhead
  obtain ⟨hzero, hhead⟩ := hhead
  have heq : ∀ t ∈ activePnThreads app, passesMade t ((txThreads app links).run .start es).2 =
      passesMade first ((txThreads app links).run .start es).2 := by
    intro t ht
    obtain ⟨k, hk, rfl⟩ := List.mem_iff_getElem.mp ht
    have hrelay := (linkPnThreads_linked hl).in_step (es.map (·.toRelay))
      ((txThreads_heard app links es).mp hheard) (h.follower_unclocked hl hlow)
    simp only [txThreads_run, ← passesMade_eq, hhead] at hrelay
    exact hrelay hquiet k hk hzero
  obtain ⟨last, hlast, hstat⟩ := h.last hl
  refine ⟨heq, ?_⟩
  rw [statUpdates_eq hstat]
  exact heq last (List.mem_of_getLast? hlast)

/-- An unlinked TsnLow never gets a signal. -/
theorem StartsAt.tsnLow_never (hlow : ¬ TsnLowLinked app)
    (hheard : (txThreads app links).Along (SignalsHeard links) .start es) :
    passesMade .tsnLow ((txThreads app links).run .start es).2 = 0 := by
  obtain ⟨hne, hhead⟩ := h.head_unlinked hlow
  rw [List.head?_eq_getElem?, List.getElem?_eq_some_iff] at hhead
  obtain ⟨hzero, hhead⟩ := hhead
  have hclocked : (pnRelay app links).clocked .tsnLow = false :=
    Bool.eq_false_iff.mpr fun hc => hne ((h.clocked _).mp hc).symm
  have hnever := (linkPnThreads_linked hl).never (es.map (·.toRelay))
    ((txThreads_heard app links es).mp hheard) hzero (by rw [hhead]; exact hclocked)
  have hpassing := run_passing (pnRelay app links) Relay.start (es.map (·.toRelay)) .tsnLow
  rw [hhead] at hnever
  rw [hnever, txThreads_run, ← passesMade_eq] at hpassing
  simp only [passing, Relay.start, reduceCtorEq, if_false] at hpassing
  omega

end Chain

/-- The passes of the Tx threads follow those of the first one, in their order, if TsnLow is linked
whenever it is active, every signal finds its thread waiting and no thread wakes up by itself; and
only then, once the first one has made a pass. -/
theorem tx_chain (hs : configSanityCheck build app = true) (hl : linkPnThreads app = some links)
    (hpn : ∃ t, pnThreadActive app t = true) (es : List TxThreadEvent) :
    ∃ first last, (∀ t, links.isFirst t = true ↔ t = first) ∧
      (∀ t, links.isLast t = true ↔ t = last) ∧ (activePnThreads app).getLast? = some last ∧
      let final := ((txThreads app links).run .start es).1
      let notes := ((txThreads app links).run .start es).2
      let heard := (txThreads app links).Along (SignalsHeard links) .start es
      (TsnLowLinked app → heard → (activePnThreads app).head? = some first ∧ InOrder app notes ∧
        (final.Quiet → InStep app first notes)) ∧
      (final.Quiet → 0 < passesMade first notes →
        (((∀ note ∈ notes, note.kept = true) ∧ InStep app first notes) ↔
          TsnLowLinked app ∧ heard)) := by
  obtain ⟨t, ht⟩ := hpn
  obtain ⟨first, h⟩ := linkPnThreads_startsAt hs hl ht
  obtain ⟨last, hlast, hstat⟩ := h.last hl
  refine ⟨first, last, h.isFirst, hstat, hlast, ?_, ?_⟩
  · intro hlow hheard
    exact ⟨h.head hlow, h.inOrder hl es hlow hheard, h.inStep hl es hlow hheard⟩
  · intro hquiet hpasses
    rw [← txThreads_kept]
    constructor
    · rintro ⟨hheard, hstep⟩
      refine ⟨?_, hheard⟩
      by_contra hlow
      have hnever := h.tsnLow_never hl es hlow hheard
      have hactive := (mem_activePnThreads .tsnLow).mpr (Classical.not_imp.mp hlow).1
      have hequal := hstep.1 _ hactive
      omega
    · rintro ⟨hlow, hheard⟩
      exact ⟨hheard, h.inStep hl es hlow hheard hquiet⟩

def withClasses (types : List StatFrameType) : AppConfig :=
  types.foldl (fun app type => app.setClass type ({ · with enabled := true }))
    (configSetDefaults false)

/-- TsnHigh and Rtc, one pass each. -/
def oneCycle : List TxThreadEvent :=
  [.wait .rtc, .timer .tsnHigh, .finish .tsnHigh, .wakeUp .rtc .signalled, .finish .rtc]

theorem tx_chain_one_cycle :
    let app := withClasses [.tsnHigh, .rtc]
    let links := pnLinksFrom app .tsnHigh
    configSanityCheck fullBuild app = true ∧ linkPnThreads app = some links ∧
      (txThreads app links).Along (SignalsHeard links) .start oneCycle ∧
      passesMade .rtc ((txThreads app links).run .start oneCycle).2 = 1 ∧
      InStep app .tsnHigh ((txThreads app links).run .start oneCycle).2 := by
  have hquiet : ((txThreads (withClasses [.tsnHigh, .rtc])
      (pnLinksFrom (withClasses [.tsnHigh, .rtc]) .tsnHigh)).run .start oneCycle).1.Quiet := by
    intro t
    cases t <;> decide
  have hheard : (txThreads (withClasses [.tsnHigh, .rtc])
      (pnLinksFrom (withClasses [.tsnHigh, .rtc]) .tsnHigh)).Along
        (SignalsHeard (pnLinksFrom (withClasses [.tsnHigh, .rtc]) .tsnHigh)) .start oneCycle := by
    refine ⟨trivial, trivial, fun _ u hu => ?_, trivial, fun _ u hu => ?_, trivial⟩
    · cases hu
      decide
    · cases hu
  obtain ⟨first, last, hfirst, -, -, hchain, -⟩ :=
    tx_chain (show configSanityCheck fullBuild (withClasses [.tsnHigh, .rtc]) = true by
      decide +kernel) rfl ⟨.rtc, by decide⟩ oneCycle
  obtain rfl := (hfirst .tsnHigh).mp rfl
  exact ⟨by decide +kernel, rfl, hheard, by decide,
    (hchain (fun _ => by decide) hheard).2.2 hquiet⟩

/-- A signal lost because Rtc is not waiting yet, a pass of Rtc by a spurious wake-up, and TsnLow
without TsnHigh. -/
theorem tx_chain_broken :
    let app := withClasses [.tsnHigh, .rtc]
    let links := pnLinksFrom app .tsnHigh
    let late := (txThreads app links).run .start [.timer .tsnHigh, .finish .tsnHigh, .wait .rtc]
    let early := (txThreads app links).run .start [.wait .rtc, .wakeUp .rtc .spurious, .finish .rtc]
    let app' := withClasses [.tsnLow, .rtc]
    let unlinked := (txThreads app' (pnLinksFrom app' .rtc)).run .start
      [.wait .tsnLow, .timer .rtc, .finish .rtc]
    (configSanityCheck fullBuild app = true ∧ linkPnThreads app = some links ∧
      (late.1.Quiet ∧ passesMade .tsnHigh late.2 = 1 ∧ passesMade .rtc late.2 = 0) ∧
      early.1.Quiet ∧ passesMade .tsnHigh early.2 = 0 ∧ passesMade .rtc early.2 = 1) ∧
    configSanityCheck fullBuild app' = true ∧ linkPnThreads app' = some (pnLinksFrom app' .rtc) ∧
      unlinked.1.Quiet ∧ passesMade .rtc unlinked.2 = 1 ∧ passesMade .tsnLow unlinked.2 = 0 := by
  refine ⟨⟨by decide +kernel, rfl, ⟨fun t => ?_, by decide, by decide⟩, fun t => ?_, by decide,
    by decide⟩, by decide +kernel, rfl, fun t => ?_, by decide, by decide⟩
  all_goals cases t <;> decide

end RtcTestbench
