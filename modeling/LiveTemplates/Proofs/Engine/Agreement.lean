import LiveTemplates.Proofs.Engine.Lifecycle

/-!
# Ways to publish that agree

What an operation does depends on how events are published to the engines at which it publishes
some, and on nothing else that is published. If a property is kept by what an operation does in
between, then two ways to publish that agree on the engines with this property make no difference to
it (`Agree`).

Starting and stopping publish in transitions only. Ways to publish that agree there make no
difference to them, in whatever state the engine is before (`start_congr`, `stop_congr`).
-/

namespace LiveTemplates.Engine

variable {emit emit' : Event → Engine → Engine} {P : Engine → Prop} {s : Engine} {p : Path}

/-- Two ways to publish events do the same to engines with a property. -/
def Agree (P : Engine → Prop) (emit emit' : Event → Engine → Engine) : Prop :=
  ∀ e s, P s → emit' e s = emit e s

/-! ## Messages -/

namespace Steady

variable (h : Steady emit P) (hagree : Agree P emit emit')
include h hagree

theorem message_congr (title detail : String) (severity : Severity) (hs : P s) :
    Engine.message emit' title detail severity s = Engine.message emit title detail severity s :=
  hagree _ _ (h.log _ hs)

theorem tellSidecarProblem_congr (problem : Option SidecarError) (hs : P s) :
    Engine.tellSidecarProblem emit' problem s = Engine.tellSidecarProblem emit problem s := by
  cases problem with
  | none => rfl
  | some e => exact h.message_congr hagree _ _ _ hs

theorem loadMonitorPath_congr (hs : P s) :
    Engine.loadMonitorPath emit' s = Engine.loadMonitorPath emit s := by
  have htold := h.tellSidecarProblem s.monitorChoice.2 hs
  unfold Engine.loadMonitorPath
  dsimp only
  rw [h.tellSidecarProblem_congr hagree _ hs, h.message_congr hagree _ _ _ htold]

theorem currentMonitorPath_congr (hs : P s) :
    Engine.currentMonitorPath emit' s = Engine.currentMonitorPath emit s := by
  unfold Engine.currentMonitorPath
  rw [h.loadMonitorPath_congr hagree hs]

end Steady

/-! ## Processing files -/

namespace Independent

variable (h : Independent emit P) (hagree : Agree P emit emit')
include h hagree

theorem message_congr (title detail : String) (severity : Severity) (hs : P s) :
    Engine.message emit' title detail severity s = Engine.message emit title detail severity s :=
  h.steady.message_congr hagree _ _ _ hs

theorem writeOutputs_congr (source : Path) (text : List Char) (outputs : List Path) (hs : P s) :
    Engine.writeOutputs emit' source text outputs s
      = Engine.writeOutputs emit source text outputs s := by
  induction outputs generalizing s with
  | nil => rfl
  | cons output rest ih =>
    rw [Engine.writeOutputs, Engine.writeOutputs]
    split
    · rw [h.message_congr hagree _ _ _ hs, ih (h.message _ _ _ hs)]
    · have hwritten := h.working.writeOutput source text output hs
      generalize Engine.writeOutput source text output s = r at hwritten ⊢
      obtain ⟨s', e | _⟩ := r
      · rfl
      · exact ih hwritten

theorem processFile_congr (hs : P s) :
    Engine.processFile emit' p s = Engine.processFile emit p s := by
  unfold Engine.processFile
  split
  · rfl
  · split
    · rfl
    · next text _ =>
      have hexpanded := h.working.expandFile (p := p) text hs
      generalize Engine.expandFile p text s = r at hexpanded ⊢
      obtain ⟨s', e | e | e⟩ := r
      · rfl
      · rfl
      · have hwritten := fun outputs => h.writeOutputs_congr hagree p e.text outputs hexpanded
        dsimp only at hwritten ⊢
        simp only [hwritten]

theorem reportBreakdown_congr (text : String) (hs : P s) :
    Engine.reportBreakdown emit' p text s = Engine.reportBreakdown emit p text s := by
  unfold Engine.reportBreakdown
  dsimp only
  rw [hagree _ _ hs, h.message_congr hagree _ _ _ (h.publishes _ rfl hs)]

theorem processAndReport_congr (hs : P s) :
    Engine.processAndReport emit' p s = Engine.processAndReport emit p s := by
  have htold := h.message s!"Processing file {p}..." "" .information hs
  have hprocessed := h.working.processFile (p := p) htold
  unfold Engine.processAndReport
  dsimp only
  rw [h.message_congr hagree _ _ _ hs, h.processFile_congr hagree htold]
  generalize Engine.processFile emit p _ = r at hprocessed ⊢
  obtain ⟨s', e | _ | result⟩ := r
  · exact h.reportBreakdown_congr hagree _ hprocessed
  · exact h.reportBreakdown_congr hagree _ hprocessed
  · dsimp only
    rw [hagree _ _ hprocessed, hagree _ _ hprocessed]
    rw [h.message_congr hagree _ _ _ (h.publishes _ rfl hprocessed),
      h.message_congr hagree _ _ _ (h.publishes _ rfl hprocessed)]

theorem referenceIndex_congr (hs : P s) :
    Engine.referenceIndex emit' s = Engine.referenceIndex emit s := by
  unfold Engine.referenceIndex
  rw [h.steady.currentMonitorPath_congr hagree hs]

theorem findDependents_congr (target : String) (hs : P s) :
    Engine.findDependents emit' target s = Engine.findDependents emit target s := by
  unfold Engine.findDependents
  rw [h.referenceIndex_congr hagree hs]

theorem processEach_congr (ps : List Path) (hs : P s) :
    Engine.processEach emit' ps s = Engine.processEach emit ps s := by
  induction ps generalizing s with
  | nil => rfl
  | cons p ps ih =>
    have hrest := ih (h.processAndReport (p := p) hs)
    unfold Engine.processEach at hrest ⊢
    rw [List.foldl_cons, List.foldl_cons, h.processAndReport_congr hagree hs, hrest]

theorem processChanged_congr (hs : P s) :
    Engine.processChanged emit' p s = Engine.processChanged emit p s := by
  have hprocessed := h.processAndReport (p := p) hs
  have hfound := h.findDependents p.toString hprocessed
  unfold Engine.processChanged
  dsimp only
  rw [h.processAndReport_congr hagree hs, h.findDependents_congr hagree _ hprocessed]
  split
  · generalize Engine.findDependents emit _ _ = r at hfound ⊢
    obtain ⟨s', e | dependents⟩ := r
    · dsimp only
      rw [h.message_congr hagree _ _ _ hfound]
    · dsimp only
      rw [h.processEach_congr hagree _ hfound]
  · rfl

theorem processSelected_congr (index : ReferenceIndex) (ps : List Path) (hs : P s) :
    Engine.processSelected emit' index ps s = Engine.processSelected emit index ps s := by
  induction ps generalizing s with
  | nil => rfl
  | cons p ps ih =>
    have hprocessed := h.processAndReport (p := p) hs
    rw [Engine.processSelected, Engine.processSelected, h.processAndReport_congr hagree hs, ih hs]
    generalize Engine.processAndReport emit p s = r at hprocessed ⊢
    dsimp only
    rw [ih hprocessed]

theorem processAll_congr (hs : P s) : Engine.processAll emit' s = Engine.processAll emit s := by
  have hindex : P (Engine.referenceIndex emit s).1 := h.determined hs
  unfold Engine.processAll
  dsimp only
  rw [h.referenceIndex_congr hagree hs]
  split
  · rfl
  · exact h.processSelected_congr hagree _ _ hindex

end Independent

/-! ## The passage of time -/

namespace Unmoved

variable {Q : Nat → Prop} (h : Unmoved emit P Q) (hagree : Agree P emit emit')
include h hagree

theorem call_congr {owner : Nat} (p : Path) (howner : Q owner) (hs : P s) :
    (debounceHost emit').call owner p s = (debounceHost emit).call owner p s :=
  congrArg Prod.fst (h.toIndependent.processChanged_congr hagree (h.callback p howner hs))

theorem calls_congr {owner : Nat} (howner : Q owner) (ps : List Path) (hs : P s) :
    ps.foldl (fun s p => (debounceHost emit').call owner p s) s
      = ps.foldl (fun s p => (debounceHost emit).call owner p s) s := by
  induction ps generalizing s with
  | nil => rfl
  | cons p ps ih =>
    rw [List.foldl_cons, List.foldl_cons, h.call_congr hagree p howner hs,
      ih (h.call p howner hs)]

theorem fire_congr (e : Expiry) (hs : P s) :
    (debounceHost emit').fire e s = (debounceHost emit).fire e s := by
  have hcontinues := s.watchers.debouncers.continues_expire e
  have hpending := @Debouncers.pending_of_expire s.watchers.debouncers e
  unfold DebounceHost.fire
  simp only [debouncers_debounceHost, update_debounceHost]
  generalize s.watchers.debouncers.expire e = r at hcontinues hpending ⊢
  obtain ⟨d, _ | p, log⟩ := r
  · rfl
  · obtain ⟨x, hx, hne⟩ := hpending rfl
    exact h.call_congr hagree p (h.pending hx hne hs) (h.update log hcontinues hs)

theorem flushOne_congr (owner : Nat) (hs : P s) :
    (debounceHost emit').flush owner s = (debounceHost emit).flush owner s := by
  have hcontinues := s.watchers.debouncers.continues_flush owner
  have hpending := @Debouncers.pending_of_flush s.watchers.debouncers owner
  unfold DebounceHost.flush
  simp only [debouncers_debounceHost, update_debounceHost]
  generalize s.watchers.debouncers.flush owner = r at hcontinues hpending ⊢
  obtain ⟨d, ps⟩ := r
  by_cases hps : ps = []
  · rw [hps]
    rfl
  · obtain ⟨x, hx, hne⟩ := hpending hps
    have hsettled : P ((s.withDebouncers d).addEntries []) := h.log _ (h.debouncers hcontinues hs)
    dsimp only
    rw [h.calls_congr hagree (h.pending hx hne hs) _ hsettled]

theorem runDue_congr (limit : Int) (fuel : Nat) (hs : P s) :
    (debounceHost emit').runDue limit fuel s = (debounceHost emit).runDue limit fuel s := by
  induction fuel generalizing s with
  | zero => rfl
  | succ fuel ih =>
    rw [DebounceHost.runDue, DebounceHost.runDue]
    simp only [debouncers_debounceHost, update_debounceHost]
    split
    · rfl
    · next i _ _ =>
      have hdue : P ((s.withDebouncers ⟨s.watchers.debouncers.clock.beginTimer i,
          s.watchers.debouncers.all⟩).addEntries []) :=
        h.log _ (h.debouncers (Debouncers.continues_of_all rfl) hs)
      rw [h.fire_congr hagree _ hdue, ih (h.fire _ hdue)]

theorem advance_congr (fuel : Nat) (ms : Int) (hs : P s) :
    Engine.advance emit' fuel ms s = Engine.advance emit fuel ms s := by
  unfold Engine.advance DebounceHost.advance
  simp only [debouncers_debounceHost, update_debounceHost, h.runDue_congr hagree _ _ hs]

theorem flushWatchers_congr (ws : List FolderWatcher) (hs : P s) :
    Engine.flushWatchers emit' ws s = Engine.flushWatchers emit ws s := by
  induction ws generalizing s with
  | nil => rfl
  | cons w ws ih =>
    have hflushed := h.flushOne w.debouncer hs
    rw [Engine.flushWatchers, Engine.flushWatchers, h.flushOne_congr hagree _ hs]
    generalize (debounceHost emit).flush w.debouncer s = r at hflushed ⊢
    dsimp only
    rw [ih hflushed]

theorem flush_congr (hs : P s) : Engine.flush emit' s = Engine.flush emit s := by
  have hflushed := h.flushWatchers s.watchers.all hs
  unfold Engine.flush
  rw [h.flushWatchers_congr hagree _ hs]
  generalize Engine.flushWatchers emit s.watchers.all s = r at hflushed ⊢
  dsimp only
  rw [h.flushWatchers_congr hagree _ hflushed]

/-- What is not about the life cycle. -/
theorem keeps_call_congr {c : Call} (hc : c.isControl = false) (hs : P s) :
    s.call emit' c = s.call emit c := by
  cases c with
  | start => cases hc
  | stop => cases hc
  | configure changes => cases hc
  | processChanged p =>
    exact congrArg Prod.fst (h.toIndependent.processChanged_congr hagree hs)
  | processAll => exact congrArg Prod.fst (h.toIndependent.processAll_congr hagree hs)
  | fileEvent e => rfl
  | advance fuel ms => exact h.advance_congr hagree fuel ms hs
  | flush => exact congrArg Prod.fst (h.flush_congr hagree hs)

end Unmoved

/-! ## The steps of a start or a stop -/

namespace Proceeding

variable (h : Proceeding emit P) (hagree : Agree P emit emit')
include h hagree

theorem message_congr (title detail : String) (severity : Severity) (hs : P s) :
    Engine.message emit' title detail severity s = Engine.message emit title detail severity s :=
  h.steady.message_congr hagree _ _ _ hs

theorem endWatcher_congr (i : Nat) (hs : P s) :
    Engine.endWatcher emit' s i = Engine.endWatcher emit s i := by
  have hdisposed : P ({ s with watchers := (s.watchers.dispose i).1 }.addEntries
      (s.watchers.dispose i).2.2) :=
    h.steady.log _ (h.advances hs (advances_of_watchers (.dispose i)))
  unfold Engine.endWatcher
  dsimp only
  rw [hagree _ _ hdisposed, h.message_congr hagree _ _ _ (h.publishes _ hdisposed)]
  split
  · exact h.message_congr hagree _ _ _ hdisposed
  · rfl

theorem endWatchers_congr (watchers : List Nat) (hs : P s) :
    watchers.foldl (Engine.endWatcher emit') s = watchers.foldl (Engine.endWatcher emit) s := by
  induction watchers generalizing s with
  | nil => rfl
  | cons i rest ih =>
    rw [List.foldl_cons, List.foldl_cons, h.endWatcher_congr hagree i hs, ih (h.endWatcher i hs)]

theorem startWatcher_congr (i : Nat) (hs : P s) :
    Engine.startWatcher emit' s i = Engine.startWatcher emit s i := by
  unfold Engine.startWatcher
  dsimp only
  rw [hagree _ _ hs, h.message_congr hagree _ _ _ (h.publishes _ hs)]

theorem startWatchers_congr (watchers : List Nat) (hs : P s) :
    Engine.startWatchers emit' watchers s = Engine.startWatchers emit watchers s := by
  induction watchers generalizing s with
  | nil => rfl
  | cons i rest ih =>
    have hstarted := h.startWatcher i hs
    rw [Engine.startWatchers, Engine.startWatchers, h.startWatcher_congr hagree i hs]
    generalize Engine.startWatcher emit s i = r at hstarted ⊢
    obtain ⟨s', e | _⟩ := r
    · rfl
    · exact ih hstarted

end Proceeding

/-! ## Starting and stopping -/

/-- Whether an engine is in a transition, as a property. -/
abbrev InTransition (s : Engine) : Prop :=
  s.inTransition = true

/-- Discreet events leave an engine in its transition, and so do the steps of a transition. -/
theorem Discreet.proceeding (hemit : Discreet emit) : Proceeding emit InTransition where
  publishes e hs := (hemit e _ hs).inTransition.trans hs
  advances hs hadvances := by
    unfold InTransition Engine.inTransition
    rw [hadvances.state]
    exact hs

theorem Discreet.unmoved (hemit : Discreet emit) : Unmoved emit InTransition fun _ => True :=
  unmoved_of_stands (fun hs hstands => hstands.inTransition.trans hs)
    fun e s hs => (hemit e s hs).inTransition.trans hs

section Transition

variable (hemit : Discreet emit) (hagree : Agree InTransition emit emit')
include hemit hagree

theorem teardown_congr (s : Engine) : teardown emit' s = teardown emit s := by
  have hproceeding := hemit.proceeding
  unfold teardown
  split
  · rfl
  · next watchers _ =>
    have hstopping : InTransition { s with state := .stopping, registered := none } := rfl
    have hended := hproceeding.endWatchers watchers hstopping
    dsimp only
    rw [hproceeding.endWatchers_congr hagree _ hstopping, hagree _ _ hended,
      hproceeding.message_congr hagree _ _ _ (hproceeding.publishes _ hended)]

/-- A stop is what it is whatever would be done at other times than in transitions. -/
theorem stop_congr (s : Engine) : stop emit' s = stop emit s := by
  unfold stop
  rw [teardown_congr hemit hagree]

theorem announceSession_congr (monitor : Path) (hs : InTransition s) :
    announceSession emit' monitor s = announceSession emit monitor s := by
  have hproceeding := hemit.proceeding
  have hmonitor : InTransition { s with monitorPath := some monitor } := hs
  unfold announceSession
  dsimp only
  rw [hagree _ _ hmonitor,
    hproceeding.message_congr hagree _ _ _ (hproceeding.publishes _ hmonitor)]

theorem openWatchers_congr (monitor : Path) (hs : InTransition s) :
    openWatchers emit' monitor s = openWatchers emit monitor s := by
  have hcreated := hemit.proceeding.createWatchers monitor s.settings.extensions hs
  unfold openWatchers
  generalize createWatchers monitor s.settings.extensions s = r at hcreated ⊢
  obtain ⟨s', e | watchers⟩ := r
  · rfl
  · have hregistered : InTransition { s' with registered := some watchers } := hcreated
    exact hemit.proceeding.startWatchers_congr hagree watchers hregistered

theorem setup_congr (hs : InTransition s) : setup emit' s = setup emit s := by
  have hloaded := hemit.proceeding.steady.loadMonitorPath hs
  have hannounced := stands_announceSession hemit hloaded (loadMonitorPath emit s).2
  unfold setup
  dsimp only
  rw [hemit.proceeding.steady.loadMonitorPath_congr hagree hs,
    announceSession_congr hemit hagree _ hloaded,
    openWatchers_congr hemit hagree _ (hannounced.inTransition.trans hloaded)]

/-- **A start is what it is whatever would be done at other times than in transitions.** -/
theorem start_congr (s : Engine) : start emit' s = start emit s := by
  -- Between the end of a session and the next one the engine is stopped, but nothing is published.
  have hset : setup emit' { teardown emit s with state := .starting }
      = setup emit { teardown emit s with state := .starting } := setup_congr hemit hagree rfl
  unfold start
  dsimp only
  rw [teardown_congr hemit hagree, hset]
  simp only [teardown_congr hemit hagree]

end Transition

end LiveTemplates.Engine
