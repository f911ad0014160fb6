import RtcTestbench.Schedule

namespace RtcTestbench
open Function Machine Relay
set_option autoImplicit true

/-- Whether `tc_tx_gen_thread` runs for a class. -/
def generatesBursts (app : AppConfig) (t : PnThreadType) : Prop :=
  pnThreadActive app t = true ∧ t.txModel = .burst ∧
    (app.classes t.frameType).rxMirrorEnabled = false

/-- What a pass of a class hands to its send function; without frames that is not called. -/
def TxThreadNote.handed (t : PnThreadType) : TxThreadNote → Option UInt64
  | .passBegins u _ numFrames => if u = t ∧ numFrames ≠ 0 then some numFrames else none
  | _ => none

def framesHanded (t : PnThreadType) (notes : List TxThreadNote) : List UInt64 :=
  notes.filterMap (·.handed t)

/-- A wait that times out finds no frames to throw away. -/
def TimeoutFindsNothing (t : PnThreadType) (s : TxThreads) : TxThreadEvent → Prop
  | .wakeUp u .timedOut => u = t → s.status t = .waiting → s.numFramesAvailable t = 0
  | _ => True

/-- A burst is still pending and no pass has taken it, or exactly one pass has. -/
def BurstAccounted (t : PnThreadType) (numFrames : UInt64) (s : TxThreads)
    (notes : List TxThreadNote) : Prop :=
  s.numFramesAvailable t = numFrames ∧ framesHanded t notes = [] ∨
    s.numFramesAvailable t = 0 ∧ framesHanded t notes = [numFrames]

/-- What a step that is not the generation of a burst does to the frames of a class. -/
inductive FramesStep (t : PnThreadType) (s : TxThreads) (e : TxThreadEvent) (s' : TxThreads)
    (note : TxThreadNote) : Prop
  | keeps (h : s'.numFramesAvailable t = s.numFramesAvailable t) (hn : note.handed t = none)
  | takes (h : s'.numFramesAvailable t = 0)
      (hn : note.handed t =
        if s.numFramesAvailable t ≠ 0 then some (s.numFramesAvailable t) else none)
  | drops (h : s'.numFramesAvailable t = 0) (hn : note.handed t = none)
      (he : e = .wakeUp t .timedOut) (hs : s.status t = .waiting)

variable {app : AppConfig} {links : PnLinks} {s : TxThreads} {e : TxThreadEvent}

theorem framesStep (app : AppConfig) (links : PnLinks) (s : TxThreads) (hb : t.txModel = .burst)
    (he : e ≠ .generate t) :
    FramesStep t s e ((txThreads app links).step s e).1 ((txThreads app links).step s e).2 := by
  cases e with
  | wait u =>
    simp only [txThreads]
    split <;> exact .keeps rfl rfl
  | wakeUp u ret =>
    simp only [txThreads]
    by_cases hs : s.status u = if ret = .signalled then .woken else .waiting
    · rw [if_pos hs]
      by_cases hu : u = t
      · subst hu
        simp only [fetchFrames, if_pos hb]
        cases ret with
        | timedOut => exact .drops (update_self ..) rfl rfl hs
        | signalled | spurious =>
          apply FramesStep.takes (update_self ..)
          simp only [WaitReturn.result, TxThreadNote.handed, true_and]
      · have hkeep : (fetchFrames app s u).2 t = s.numFramesAvailable t := by
          rw [fetchFrames]
          split
          · exact update_of_ne (Ne.symm hu) ..
          · rfl
        cases ret with
        | timedOut => exact .keeps hkeep rfl
        | signalled | spurious => exact .keeps hkeep (if_neg fun h => hu h.1)
    · rw [if_neg hs]
      exact .keeps rfl rfl
  | timer u =>
    simp only [txThreads]
    split
    · rename_i h
      have hu : u ≠ t := by
        rintro rfl
        exact h.2.1 (by rw [waitsForSignal, hb]; rfl)
      exact .keeps rfl (if_neg fun h => hu h.1)
    · exact .keeps rfl rfl
  | finish u =>
    simp only [txThreads]
    split <;> exact .keeps rfl rfl
  | generate u =>
    have hu : t ≠ u := fun h => he (h ▸ rfl)
    simp only [txThreads]
    split
    · exact .keeps (update_of_ne hu ..) rfl
    · exact .keeps rfl rfl

theorem step_generate (hgen : generatesBursts app t) :
    ((txThreads app links).step s (.generate t)).1.numFramesAvailable t =
      (app.classes t.frameType).numFramesPerCycle := by
  simp only [txThreads]
  rw [if_pos (show _ ∧ _ ∧ _ from hgen)]
  exact update_self ..

/-- The frames that a timed-out wait fetches are lost: its caller goes round again. -/
theorem step_timedOut (app : AppConfig) (links : PnLinks) (hb : t.txModel = .burst)
    (hwait : s.status t = .waiting) :
    ((txThreads app links).step s (.wakeUp t .timedOut)).1.numFramesAvailable t = 0 ∧
      ((txThreads app links).step s (.wakeUp t .timedOut)).2 = .idle := by
  simp only [txThreads, reduceCtorEq, if_false, WaitReturn.result]
  rw [if_pos hwait, fetchFrames, if_pos hb]
  exact ⟨update_self .., rfl⟩

theorem step_frames_of_not_burst (app : AppConfig) (links : PnLinks) (s : TxThreads)
    (e : TxThreadEvent) (hb : t.txModel ≠ .burst) :
    ((txThreads app links).step s e).1.numFramesAvailable t = s.numFramesAvailable t := by
  have hother {u : PnThreadType} (hu : u.txModel = .burst) : t ≠ u := fun h => hb (h ▸ hu)
  cases e with
  | wakeUp u ret =>
    have hkeep : (fetchFrames app s u).2 t = s.numFramesAvailable t := by
      rw [fetchFrames]
      split
      · rename_i hu
        exact update_of_ne (hother hu) ..
      · rfl
    simp only [txThreads]
    by_cases hs : s.status u = if ret = .signalled then .woken else .waiting
    · rw [if_pos hs]
      cases ret <;> exact hkeep
    · rw [if_neg hs]
  | generate u =>
    simp only [txThreads]
    split
    · rename_i hu
      exact update_of_ne (hother hu.2.1) ..
    · rfl
  | wait u | timer u | finish u =>
    simp only [txThreads]
    split <;> rfl

theorem run_frames_of_not_burst (app : AppConfig) (links : PnLinks) (hb : t.txModel ≠ .burst)
    (es : List TxThreadEvent) :
    ((txThreads app links).run .start es).1.numFramesAvailable t = 0 := by
  apply System.run_invariant _ fun s : TxThreads => s.numFramesAvailable t = 0
  · intro s e hs
    exact (step_frames_of_not_burst app links s e hb).trans hs
  · rfl

theorem framesHanded_append (t : PnThreadType) (l l' : List TxThreadNote) :
    framesHanded t (l ++ l') = framesHanded t l ++ framesHanded t l' :=
  List.filterMap_append

/-- Without a new burst a class that has no frames gets none. -/
theorem run_no_frames (app : AppConfig) (links : PnLinks) (hb : t.txModel = .burst)
    (hes : .generate t ∉ es)
    (hs : s.numFramesAvailable t = 0) :
    ((txThreads app links).run s es).1.numFramesAvailable t = 0 ∧
      framesHanded t ((txThreads app links).run s es).2 = [] := by
  induction es generalizing s with
  | nil => exact ⟨hs, rfl⟩
  | cons e es ih =>
    rw [List.mem_cons, not_or] at hes
    obtain ⟨he, hes⟩ := hes
    have hstep : ((txThreads app links).step s e).1.numFramesAvailable t = 0 ∧
        ((txThreads app links).step s e).2.handed t = none := by
      cases framesStep app links s hb (Ne.symm he) with
      | keeps h hn => exact ⟨h.trans hs, hn⟩
      | takes h hn => exact ⟨h, hn.trans (if_neg (not_not_intro hs))⟩
      | drops h hn => exact ⟨h, hn⟩
    obtain ⟨hfinal, hnotes⟩ := ih hes hstep.1
    exact ⟨hfinal, (List.filterMap_cons_none hstep.2).trans hnotes⟩

theorem run_burstAccounted (hb : t.txModel = .burst) (hes : .generate t ∉ es)
    (hs : s.numFramesAvailable t = numFrames)
    (htimeouts : (txThreads app links).Along (TimeoutFindsNothing t) s es) :
    BurstAccounted t numFrames ((txThreads app links).run s es).1
      ((txThreads app links).run s es).2 := by
  induction es generalizing s with
  | nil => exact .inl ⟨hs, rfl⟩
  | cons e es ih =>
    rw [List.mem_cons, not_or] at hes
    obtain ⟨he, hes⟩ := hes
    obtain ⟨htimeout, htimeouts⟩ := htimeouts
    have hkeep (h : ((txThreads app links).step s e).1.numFramesAvailable t = numFrames)
        (hn : ((txThreads app links).step s e).2.handed t = none) :
        BurstAccounted t numFrames ((txThreads app links).run s (e :: es)).1
          ((txThreads app links).run s (e :: es)).2 := by
      have hrest := ih hes h htimeouts
      rw [BurstAccounted, System.run_cons, framesHanded, List.filterMap_cons_none hn]
      exact hrest
    cases framesStep app links s hb (Ne.symm he) with
    | keeps h hn => exact hkeep (h.trans hs) hn
    | takes h hn =>
      by_cases hzero : s.numFramesAvailable t = 0
      · exact hkeep (h.trans (hzero.symm.trans hs)) (hn.trans (if_neg (not_not_intro hzero)))
      · obtain ⟨hfinal, hnotes⟩ := run_no_frames app links hb hes h
        rw [if_pos hzero, hs] at hn
        refine .inr ⟨hfinal, ?_⟩
        rw [System.run_cons, framesHanded, List.filterMap_cons_some hn]
        exact congrArg _ hnotes
    | drops h hn he' hwait =>
      subst he'
      exact hkeep (h.trans ((htimeout rfl hwait).symm.trans hs)) hn

theorem timeout_unaccounted (hb : t.txModel = .burst)
    (hwait : ((txThreads app links).run s es).1.status t = .waiting)
    (hne : ((txThreads app links).run s es).1.numFramesAvailable t ≠ 0)
    (hpending : BurstAccounted t numFrames ((txThreads app links).run s es).1
      ((txThreads app links).run s es).2) :
    ¬ BurstAccounted t numFrames ((txThreads app links).run s (es ++ [.wakeUp t .timedOut])).1
      ((txThreads app links).run s (es ++ [.wakeUp t .timedOut])).2 := by
  have hdrop := step_timedOut app links hb hwait
  obtain ⟨hframes, hnotes⟩ := hpending.resolve_right fun h => hne h.1
  rw [System.run_append, System.run_cons]
  rintro (⟨hzero, -⟩ | ⟨-, hlost⟩)
  · exact hne (hframes.trans (hzero.symm.trans hdrop.1))
  · rw [framesHanded_append, hnotes, hdrop.2] at hlost
    cases hlost

/-- Frames that are available were made so by a burst that no newer one has replaced. -/
theorem available_generated (hne : ((txThreads app links).run .start es).1.numFramesAvailable t ≠ 0)
    (hb : t.txModel = .burst) : generatesBursts app t ∧
      ∃ before since, es = before ++ .generate t :: since ∧ .generate t ∉ since := by
  induction es using List.reverseRecOn with
  | nil => exact absurd rfl hne
  | append_singleton es e ih =>
    rw [System.run_append] at hne
    by_cases he : e = .generate t
    · subst he
      by_cases hgen : generatesBursts app t
      · exact ⟨hgen, es, [], rfl, nofun⟩
      · have hsame : ((txThreads app links).step ((txThreads app links).run .start es).1
            (.generate t)).1 = ((txThreads app links).run .start es).1 :=
          congrArg Prod.fst (if_neg hgen)
        obtain ⟨hgen', -⟩ := ih (by rwa [System.run_cons, hsame] at hne)
        exact absurd hgen' hgen
    · have hbefore : ((txThreads app links).run .start es).1.numFramesAvailable t ≠ 0 := by
        cases framesStep app links ((txThreads app links).run .start es).1 hb he with
        | keeps h hn => exact h ▸ hne
        | takes h hn => exact absurd h hne
        | drops h hn => exact absurd h hne
      obtain ⟨hgen, before, since, rfl, hsince⟩ := ih hbefore
      refine ⟨hgen, before, since ++ [e], by simp, ?_⟩
      simpa using ⟨hsince, Ne.symm he⟩

/-- Every burst that a class's generation thread makes available is pending until a newer one takes
its place or exactly one pass hands it on, if no wait of the class times out while frames are
available; and only then. -/
theorem bursts_accounted (app : AppConfig) (links : PnLinks) (t : PnThreadType)
    (es : List TxThreadEvent) :
    (∀ before since after, es = before ++ .generate t :: (since ++ after) → .generate t ∉ since →
      generatesBursts app t →
      let s := ((txThreads app links).run .start (before ++ [.generate t])).1
      BurstAccounted t (app.classes t.frameType).numFramesPerCycle
        ((txThreads app links).run s since).1 ((txThreads app links).run s since).2) ↔
      (txThreads app links).Along (TimeoutFindsNothing t) .start es := by
  rw [System.along_iff_split]
  constructor
  · intro haccounted before e after hes
    cases e with
    | wakeUp u ret =>
      cases ret with
      | timedOut =>
        rintro rfl hwait
        by_contra hne
        have hb : u.txModel = .burst := by
          by_contra hb
          exact hne (run_frames_of_not_burst app links hb before)
        obtain ⟨hgen, first, since, rfl, hsince⟩ := available_generated hne hb
        -- the burst is pending before the timeout, and nowhere behind it
        have hpending := haccounted first since (.wakeUp u .timedOut :: after) (by simp [hes])
          hsince hgen
        have hlost := haccounted first (since ++ [.wakeUp u .timedOut]) after (by simp [hes])
          (by simpa using hsince) hgen
        have hstate : ((txThreads app links).run ((txThreads app links).run .start
            (first ++ [.generate u])).1 since).1 =
              ((txThreads app links).run .start (first ++ .generate u :: since)).1 := by
          simp [System.run_append, System.run_cons]
        rw [← hstate] at hne hwait
        exact timeout_unaccounted hb hwait hne hpending hlost
      | signalled | spurious => trivial
    | wait u | timer u | finish u | generate u => trivial
  · intro htimeouts before since after hes hsince hgen
    have halong : (txThreads app links).Along (TimeoutFindsNothing t)
        ((txThreads app links).run .start (before ++ [.generate t])).1 since := by
      rw [System.along_iff_split]
      intro l e r hl
      have hat := htimeouts (before ++ .generate t :: l) e (r ++ after) (by simp [hes, hl])
      simpa [System.run_append, System.run_cons] using hat
    apply run_burstAccounted hgen.2.1 hsince _ halong
    rw [System.run_append]
    exact step_generate hgen

/-- A burst of Rta that the next pass hands on. -/
def burstCycle : List TxThreadEvent :=
  [.wait .rta, .timer .tsnHigh, .generate .rta, .finish .tsnHigh, .wakeUp .rta .signalled]

theorem bursts_accounted_rta :
    let app := withClasses [.tsnHigh, .rta]
    let system := txThreads app (pnLinksFrom app .tsnHigh)
    let s := (system.run .start [.wait .rta, .timer .tsnHigh, .generate .rta]).1
    generatesBursts app .rta ∧ framesHanded .rta (system.run .start burstCycle).2 = [1] ∧
      BurstAccounted .rta 1 (system.run s [.finish .tsnHigh, .wakeUp .rta .signalled]).1
        (system.run s [.finish .tsnHigh, .wakeUp .rta .signalled]).2 := by
  have hgen : generatesBursts (withClasses [.tsnHigh, .rta]) .rta := by
    exact ⟨by decide, by decide, by decide⟩
  exact ⟨hgen, by decide, (bursts_accounted _ (pnLinksFrom (withClasses [.tsnHigh, .rta]) .tsnHigh)
    .rta burstCycle).mpr ⟨trivial, trivial, trivial, trivial, trivial, trivial⟩
      [.wait .rta, .timer .tsnHigh] [.finish .tsnHigh, .wakeUp .rta .signalled] [] rfl (by simp)
      hgen⟩

/-- The burst of a class is there when its wait times out. After that it is gone, and the next pass
sends nothing. -/
def LostOnTimeout (t : PnThreadType) : Prop :=
  let app := withClasses [.tsnHigh, t.frameType]
  let system := txThreads app (pnLinksFrom app .tsnHigh)
  let s := (system.run .start [.wait t, .generate t]).1
  let r := system.run s [.wakeUp t .timedOut, .wait t, .timer .tsnHigh, .finish .tsnHigh,
    .wakeUp t .signalled]
  configSanityCheck fullBuild app = true ∧ linkPnThreads app = some (pnLinksFrom app .tsnHigh) ∧
    generatesBursts app t ∧ s.numFramesAvailable t = 1 ∧ r.1.status t = .inPass ∧
    r.1.numFramesAvailable t = 0 ∧ framesHanded t r.2 = []

/-- Both callers of `tc_wait_for_tx_burst` lose a burst that way. -/
theorem bursts_accounted_timeout : LostOnTimeout .rta ∧ LostOnTimeout .udpHigh := by
  constructor
  all_goals
    exact ⟨by decide +kernel, rfl, ⟨by decide, by decide, by decide⟩, by decide, by decide,
      by decide, by decide⟩

end RtcTestbench
