import LiveTemplates.Proofs.Engine.Lifecycle
import LiveTemplates.Proofs.Engine.Quiet
import LiveTemplates.Proofs.Path.Normal

/-!
# The monitored directory

The directory that an engine monitors is determined when it is first needed and at each start, and
it is forgotten when the settings change. If it is coherent (`Coherent`) it is the one that the
settings name, and the watchers of a session watch it.

It is told of before it is remembered. If a listener that hears of it changes the settings of a
stopped engine, or starts it, then what is remembered after that is out of date
(`directory_out_of_date`). This is the only way: the directory is coherent in all runs in which
listeners leave a stopped engine and its settings alone while its directory is determined
(`directory_coherent`). What else they do, and when, does not matter.
-/

namespace LiveTemplates.Engine

open Relation

variable {K : EventBus Listener → Prop} {emit : Event → Engine → Engine} {s s' : Engine}
  {depth : Nat} {root X : Path}

/-! ## Coherence -/

/-- The remembered directory is that of the settings, and that of the watchers of the session. -/
structure Coherent (s : Engine) : Prop where
  stopped : s.state = .stopped → s.registered = none
  running : s.state = .running → s.registered ≠ none
  chosen : ∀ {X root}, s.settings.monitorPath = some X → X.isAbsolute = true →
    s.monitorPath = some root → root = X.normalise
  watched : ∀ {ws}, s.registered = some ws →
    ∃ root, s.monitorPath = some root ∧ ∀ i ∈ ws, s.watchers.rootAt i = some root

/-- An absolute path in the settings is the directory that is determined. -/
theorem loadMonitorPath_snd (emit : Event → Engine → Engine)
    (hX : s.settings.monitorPath = some X) (habsolute : X.isAbsolute = true) :
    (loadMonitorPath emit s).2 = X.normalise := by
  unfold loadMonitorPath monitorChoice
  rw [hX]
  dsimp only
  rw [Path.join_of_isAbsolute habsolute]

/-- Coherence has to do with the life cycle, the directory and the places of the watchers only. -/
theorem Coherent.congr (h : Coherent s) (hstands : Stands s s')
    (hmonitor : s'.monitorPath = s.monitorPath) : Coherent s' where
  stopped := hstands.registered ▸ hstands.state ▸ h.stopped
  running := hstands.registered ▸ hstands.state ▸ h.running
  chosen := hstands.settings ▸ hmonitor ▸ h.chosen
  watched hws := by
    obtain ⟨root, hroot, hwatched⟩ := h.watched (hstands.registered ▸ hws)
    refine ⟨root, hmonitor ▸ hroot, fun i hi => ?_⟩
    rw [Watchers.rootAt, hstands.watchers.all]
    exact hwatched i hi

/-- The steps of a start or a stop keep the directory coherent by themselves. -/
theorem Coherent.advances (h : Coherent s) (hadvances : Advances s s') : Coherent s' where
  stopped := hadvances.registered ▸ hadvances.state ▸ h.stopped
  running := hadvances.registered ▸ hadvances.state ▸ h.running
  chosen := hadvances.settings ▸ hadvances.monitorPath ▸ h.chosen
  watched hws := by
    obtain ⟨root, hroot, hwatched⟩ := h.watched (hadvances.registered ▸ hws)
    exact ⟨root, hadvances.monitorPath ▸ hroot, fun i hi =>
      hadvances.watchers.rootAt (hwatched i hi)⟩

/-- The watchers that are created for a directory watch it. -/
theorem rootAt_createWatchers (root : Path) (extensions : List String) :
    ∀ ws, (createWatchers root extensions s).2 = .ok ws →
      ∀ i ∈ ws, (createWatchers root extensions s).1.watchers.rootAt i = some root := by
  -- What is created first keeps its directory while the rest is created.
  have hlater : ∀ i, Proceeding (fun _ s => s) fun s => s.watchers.rootAt i = some root :=
    fun i => ⟨fun _ h => h, fun h hadvances => hadvances.watchers.rootAt h⟩
  induction extensions generalizing s with
  | nil =>
    intro ws hws
    cases hws
    simp
  | cons extension rest ih =>
    have hcreated : ∀ i, (createWatcher root extension s).2 = .ok i →
        (createWatcher root extension s).1.watchers.rootAt i = some root := by
      unfold createWatcher
      dsimp only
      split
      · exact fun _ h => by cases h
      · split
        · exact fun _ h => by cases h
        · split
          · exact fun _ h => by cases h
          · intro i h
            cases h
            exact Watchers.rootAt_create
    rw [createWatchers]
    split
    · exact fun _ h => by cases h
    · next s₁ i heq =>
      rw [heq] at hcreated
      intro ws hws j hj
      dsimp only at hws ⊢
      cases hrest : (createWatchers root rest s₁).2 with
      | error e =>
        rw [hrest] at hws
        cases hws
      | ok ws' =>
        rw [hrest] at hws
        cases hws
        rcases List.mem_cons.mp hj with rfl | hj
        · exact (hlater j).createWatchers root rest (hcreated j rfl)
        · exact ih ws' hrest j hj

/-! ## Listeners -/

/--
With listeners of a kind, events leave a stopped engine stopped and its settings alone while its
directory is determined.
-/
def Considerate (K : EventBus Listener → Prop) (emit : Event → Engine → Engine) : Prop :=
  ∀ s, K s.bus → s.state = .stopped → s.monitorPath = none →
    (loadMonitorPath emit s).1.settings = s.settings ∧ (loadMonitorPath emit s).1.state = .stopped

/--
A way to publish events to any listeners. Listeners of a kind stay of this kind and are considerate,
also when they hear of what is caused by what they do.
-/
def Tactful (K : EventBus Listener → Prop) : Nat → (Event → Engine → Engine) → Prop
  | 0, _ => False
  | depth + 1, emit => Answered (depth + 1) emit ∧ Considerate K emit ∧
      ∀ e s, K s.bus → ReflTransGen (HappensAmong K (Tactful K depth)) (s.note e) (emit e s)

theorem Tactful.answered (h : Tactful K depth emit) : Answered depth emit := by
  cases depth with
  | zero => exact h.elim
  | succ depth => exact h.1

theorem Tactful.considerate (h : Tactful K depth emit) : Considerate K emit := by
  cases depth with
  | zero => exact h.elim
  | succ depth => exact h.2.1

/-- In a transition the directory stays once it is determined, whatever listeners do. -/
theorem Answered.monitorPath_eq (hemit : Answered depth emit) (e : Event)
    (hs : s.inTransition = true) (hroot : s.monitorPath = some root) :
    (emit e s).monitorPath = some root := by
  -- Both facts are kept together: only a stopped engine is configured, and only without a directory
  -- is one determined.
  have hkept : (emit e s).inTransition = true ∧ (emit e s).monitorPath = some root := by
    refine hemit.keeps (P := fun s => s.inTransition = true ∧ s.monitorPath = some root) ?_
      (fun _ _ h => h) ?_ e ⟨hs, hroot⟩
    · rintro s s' ⟨_, _, _, _, _, _, _, rfl⟩ h
      exact h
    · intro depth emit _ hkeeps c s h
      have hunmoved : Unmoved emit (fun s => s.inTransition = true ∧ s.monitorPath = some root)
          fun _ => True := {
        publishes := fun e _ hs => hkeeps e _ hs
        log := fun _ hs => hs
        tree := fun _ hs => hs
        determined := fun {s} hs => by
          unfold currentMonitorPath
          rw [hs.2]
          exact hs
        debouncers := fun _ hs => hs
        callback := fun _ _ hs => hs
        pending := fun _ _ _ => trivial }
      cases hc : c.isControl with
      | true => rwa [call_control h.1 hc]
      | false => exact hunmoved.keeps_call hc h
  exact hkept.2

/-! ## The invariant -/

/-- **The invariant**: the directory is coherent, and the listeners are of the kind. -/
structure Sound (K : EventBus Listener → Prop) (s : Engine) : Prop extends Coherent s where
  kind : K s.bus

theorem Sound.congr (h : Sound K s) (hstands : Stands s s')
    (hmonitor : s'.monitorPath = s.monitorPath) (hbus : s'.bus = s.bus) : Sound K s' :=
  ⟨h.toCoherent.congr hstands hmonitor, hbus ▸ h.kind⟩

/-- A transition goes on for a while. The directory stays once it is determined. -/
structure GoesOn (K : EventBus Listener → Prop) (s s' : Engine) : Prop extends Sound K s' where
  settings : s'.settings = s.settings
  state : s'.state = s.state
  registered : s'.registered = s.registered
  monitorPath : ∀ {root}, s.monitorPath = some root → s'.monitorPath = some root

theorem Sound.goesOn (h : Sound K s) : GoesOn K s s :=
  ⟨h, rfl, rfl, rfl, id⟩

theorem GoesOn.inTransition (h : GoesOn K s s') : s'.inTransition = s.inTransition := by
  unfold Engine.inTransition
  rw [h.state]

theorem GoesOn.trans {s'' : Engine} (h : GoesOn K s s') (h' : GoesOn K s' s'') :
    GoesOn K s s'' :=
  ⟨h'.toSound, h'.settings.trans h.settings, h'.state.trans h.state,
    h'.registered.trans h.registered, fun hroot => h'.monitorPath (h.monitorPath hroot)⟩

section Calls

variable (hemit : Answered depth emit) (hkeeps : ∀ e s, Sound K s → Sound K (emit e s))
include hemit hkeeps

/-- The steps of a transition, and the events in between. -/
theorem proceeding_goesOn (hs : s.inTransition = true) : Proceeding emit (GoesOn K s) where
  publishes {s'} e h := by
    have htransition := h.inTransition.trans hs
    have hstands := discreet_answered hemit e s' htransition
    exact h.trans ⟨hkeeps e _ h.toSound, hstands.settings, hstands.state, hstands.registered,
      fun hroot => hemit.monitorPath_eq e htransition hroot⟩
  advances h hadvances :=
    h.trans ⟨⟨h.toCoherent.advances hadvances, hadvances.bus ▸ h.kind⟩, hadvances.settings,
      hadvances.state, hadvances.registered, fun hroot => hadvances.monitorPath ▸ hroot⟩

/-! ## Processing files -/

/-- **To determine the directory keeps it coherent.** -/
theorem Sound.determined (hconsiderate : Considerate K emit) (h : Sound K s) :
    Sound K (currentMonitorPath emit s).1 := by
  have hsteady : Steady emit (Sound K) :=
    ⟨fun _ _ _ => hkeeps _ _, fun _ hs => hs.congr (stands_aside (aside_entries _ _)) rfl rfl⟩
  have hloaded := hsteady.loadMonitorPath h
  unfold currentMonitorPath
  split
  · exact h
  · next hnone =>
    have hunregistered : s.registered = none := by
      cases hregistered : s.registered with
      | none => rfl
      | some ws =>
        obtain ⟨root, hroot, _⟩ := h.watched hregistered
        rw [hnone] at hroot
        cases hroot
    -- Neither in a transition nor, with considerate listeners, in a stopped engine does anything
    -- change on which the directory depends.
    have hsame : (loadMonitorPath emit s).1.settings = s.settings ∧
        (loadMonitorPath emit s).1.registered = none := by
      cases htransition : s.inTransition with
      | true =>
        have hgoesOn := (proceeding_goesOn hemit hkeeps htransition).steady.loadMonitorPath
          h.goesOn
        exact ⟨hgoesOn.settings, hgoesOn.registered.trans hunregistered⟩
      | false =>
        rcases stopped_or_running htransition with hstate | hstate
        · obtain ⟨hsettings, hstopped⟩ := hconsiderate s h.kind hstate hnone
          exact ⟨hsettings, hloaded.stopped hstopped⟩
        · exact absurd hunregistered (h.running hstate)
    refine ⟨⟨hloaded.stopped, hloaded.running, fun {X root} hX habsolute hroot => ?_,
      fun hws => ?_⟩, hloaded.kind⟩
    · cases hroot
      exact loadMonitorPath_snd emit (hsame.1 ▸ hX) habsolute
    · rw [hsame.2] at hws
      cases hws

theorem unmoved_sound (hconsiderate : Considerate K emit) :
    Unmoved emit (Sound K) fun _ => True where
  publishes e _ h := hkeeps e _ h
  log _ h := h.congr (stands_of_watchers ⟨rfl, rfl, rfl, rfl⟩ rfl) rfl rfl
  tree _ h := h.congr (stands_of_watchers ⟨rfl, rfl, rfl, rfl⟩ rfl) rfl rfl
  determined h := h.determined hemit hkeeps hconsiderate
  debouncers hd h := h.congr ⟨⟨rfl, rfl, rfl, rfl⟩, rfl, rfl, hd⟩ rfl rfl
  callback _ _ h := h.congr (stands_of_watchers ⟨rfl, rfl, rfl, rfl⟩ rfl) rfl rfl
  pending _ _ _ := trivial

/-! ## Starting, stopping and configuring -/

theorem Sound.teardown (h : Sound K s) :
    Sound K (teardown emit s) ∧ (teardown emit s).registered = none ∧
      (s.inTransition = false → (teardown emit s).state = .stopped) := by
  unfold Engine.teardown
  split
  · next hnone =>
    refine ⟨h, hnone, fun htransition => ?_⟩
    rcases stopped_or_running htransition with hstate | hstate
    · exact hstate
    · exact absurd hnone (h.running hstate)
  · next ws hws =>
    have hstopping : Sound K { s with state := .stopping, registered := none } :=
      ⟨⟨fun hstate => (by cases hstate), fun hstate => (by cases hstate), h.chosen,
        fun hws => (by cases hws)⟩, h.kind⟩
    have hproceeding := proceeding_goesOn hemit hkeeps
      (s := { s with state := .stopping, registered := none }) rfl
    have htold := hproceeding.message "Engine stopped" "" .diagnostic
      (hproceeding.publishes .stopped (hproceeding.endWatchers ws hstopping.goesOn))
    refine ⟨⟨⟨fun _ => htold.registered, fun hstate => (by cases hstate), htold.chosen,
      htold.watched⟩, htold.kind⟩, htold.registered, fun _ => rfl⟩

/-- The watchers of a session are created for the directory that is remembered. -/
theorem sound_openWatchers (h : Sound K s) (hs : s.inTransition = true)
    (hroot : s.monitorPath = some root) :
    Sound K (openWatchers emit root s).1 ∧
      ((openWatchers emit root s).2 = .ok () → (openWatchers emit root s).1.registered ≠ none) := by
  have hcreated := (proceeding_goesOn hemit hkeeps hs).createWatchers root s.settings.extensions
    h.goesOn
  have hwatched := rootAt_createWatchers (s := s) root s.settings.extensions
  unfold openWatchers
  split
  · next heq =>
    rw [heq] at hcreated
    exact ⟨hcreated.toSound, fun h => by cases h⟩
  · next s₁ ws heq =>
    rw [heq] at hcreated hwatched
    have htransition : ({ s₁ with registered := some ws } : Engine).inTransition = true :=
      hcreated.inTransition.trans hs
    have hregistered : Sound K { s₁ with registered := some ws } := by
      refine ⟨⟨fun hstate => ?_, fun _ h => (by cases h), hcreated.chosen, fun hws => ?_⟩,
        hcreated.kind⟩
      · exact absurd hstate (ne_stopped_of_inTransition htransition)
      · cases hws
        exact ⟨root, hcreated.monitorPath hroot, hwatched ws rfl⟩
    have hstarted := (proceeding_goesOn hemit hkeeps htransition).startWatchers ws
      hregistered.goesOn
    exact ⟨hstarted.toSound, fun _ h => by rw [hstarted.registered] at h; cases h⟩

/-- A session begins with the directory that the settings name. -/
theorem sound_setup (h : Sound K s) (hs : s.inTransition = true) (hnone : s.registered = none) :
    Sound K (setup emit s).1 ∧
      ((setup emit s).2 = .ok () → (setup emit s).1.registered ≠ none) := by
  have hloaded := (proceeding_goesOn hemit hkeeps hs).steady.loadMonitorPath h.goesOn
  unfold setup
  dsimp only
  split
  · exact ⟨hloaded.toSound, fun h => by cases h⟩
  · exact ⟨hloaded.toSound, fun h => by cases h⟩
  · -- The settings stayed while the directory was determined, so it is the one that they name.
    have hremembered : Sound K { (loadMonitorPath emit s).1 with
        monitorPath := some (loadMonitorPath emit s).2 } := by
      refine ⟨⟨hloaded.stopped, hloaded.running, fun {X root} hX habsolute hroot => ?_,
        fun hws => ?_⟩, hloaded.kind⟩
      · cases hroot
        exact loadMonitorPath_snd emit (hloaded.settings ▸ hX) habsolute
      · rw [hloaded.registered.trans hnone] at hws
        cases hws
    have htransition := hloaded.inTransition.trans hs
    have hproceeding := proceeding_goesOn hemit hkeeps (s := { (loadMonitorPath emit s).1 with
      monitorPath := some (loadMonitorPath emit s).2 }) htransition
    have hannounced : GoesOn K { (loadMonitorPath emit s).1 with
        monitorPath := some (loadMonitorPath emit s).2 }
        (announceSession emit (loadMonitorPath emit s).2 (loadMonitorPath emit s).1) :=
      hproceeding.message _ _ _ (hproceeding.publishes .started hremembered.goesOn)
    exact sound_openWatchers hemit hkeeps hannounced.toSound
      (hannounced.inTransition.trans htransition) (hannounced.monitorPath rfl)

theorem Sound.start (h : Sound K s) : Sound K (start emit s).1 := by
  cases htransition : s.inTransition with
  | true => rwa [show Engine.start emit s = _ from if_pos htransition]
  | false =>
    obtain ⟨htorn, hnone, hstopped⟩ := h.teardown hemit hkeeps
    have hstarting : Sound K { Engine.teardown emit s with state := .starting } :=
      ⟨⟨fun _ => hnone, fun hstate => (by cases hstate), htorn.chosen, htorn.watched⟩, htorn.kind⟩
    obtain ⟨hset, hopened⟩ := sound_setup hemit hkeeps hstarting rfl hnone
    rcases start_cases emit htransition with
      ⟨_, hstart⟩ | ⟨_, ⟨s', heq, hstart⟩ | ⟨s', e, heq, hstart⟩⟩
    · rw [hstart]
      exact htorn
    · rw [heq] at hset hopened
      rw [hstart]
      exact ⟨⟨fun hstate => (by cases hstate), fun _ => hopened rfl, hset.chosen, hset.watched⟩,
        hset.kind⟩
    · rw [heq] at hset
      obtain ⟨hended, hnone', _⟩ := hset.teardown hemit hkeeps
      rw [hstart]
      exact ⟨⟨fun _ => hnone', fun hstate => (by cases hstate), hended.chosen, hended.watched⟩,
        hended.kind⟩

theorem Sound.stop (h : Sound K s) : Sound K (stop emit s).1 := by
  unfold Engine.stop
  split
  · exact h
  · exact (h.teardown hemit hkeeps).1

omit hemit hkeeps in
/-- New settings come to a stopped engine, and with them the directory is forgotten. -/
theorem Sound.configure (h : Sound K s) (changes : List (String × Settings.Value)) :
    Sound K (configure changes s).1 := by
  unfold Engine.configure
  split
  · exact h
  · next hstopped =>
    have hnone := h.stopped (Decidable.of_not_not hstopped)
    split
    · exact h
    · refine ⟨⟨h.stopped, h.running, fun _ _ hroot => (by cases hroot), fun hws => ?_⟩, h.kind⟩
      rw [hnone] at hws
      cases hws

theorem Sound.call (hconsiderate : Considerate K emit) (c : Call) (h : Sound K s) :
    Sound K (s.call emit c) := by
  cases hc : c.isControl with
  | false => exact (unmoved_sound hemit hkeeps hconsiderate).keeps_call hc h
  | true =>
    rcases Call.eq_of_isControl hc with rfl | rfl | ⟨changes, rfl⟩
    · exact h.start hemit hkeeps
    · exact h.stop hemit hkeeps
    · exact h.configure changes

end Calls

/-! ## The listeners of the bus -/

/-- The listeners of a bus that hear of messages do nothing to the engine. -/
def QuietOnMessages (b : EventBus Listener) : Prop :=
  ∀ subscription ∈ b.subscriptions, ∀ e : Event, e.type = .logMessage →
    subscription.accepts e = true → subscription.listener.action.isQuiet = true

theorem QuietOnMessages.unsubscribe {b : EventBus Listener} (h : QuietOnMessages b)
    (name : String) : QuietOnMessages (b.unsubscribe name) := by
  unfold EventBus.unsubscribe
  split
  · exact h
  · exact fun subscription hmem => h subscription (List.mem_filter.mp hmem).1

/-- Nothing has happened to the life cycle and the settings of an engine. -/
structure Unaltered (s s' : Engine) : Prop where
  settings : s'.settings = s.settings
  state : s'.state = s.state
  quiet : QuietOnMessages s'.bus

theorem unaltered_hear {subscription : Subscription Listener} (e : Event)
    (haction : subscription.listener.action.isQuiet = true) (h : Unaltered s s') :
    Unaltered s (hear emit subscription e s').1 := by
  refine keeps_hear (fun _ _ h => ⟨h.settings, h.state, h.quiet⟩)
    (fun _ _ h => ⟨h.settings, h.state, h.quiet⟩) (fun s' h => ?_) h
  revert haction
  cases subscription.listener.action with
  | record => exact fun _ => h
  | fail => exact fun _ => h
  | unsubscribe name => exact fun _ => ⟨h.settings, h.state, h.quiet.unsubscribe name⟩
  | start => exact fun hquiet => by cases hquiet
  | stop => exact fun hquiet => by cases hquiet
  | configure changes => exact fun hquiet => by cases hquiet
  | process p => exact fun hquiet => by cases hquiet

theorem unaltered_publish (depth : Nat) {e : Event} (he : e.type = .logMessage)
    (h : Unaltered s s') : Unaltered s (publish depth e s') := by
  cases depth with
  | zero => exact ⟨h.settings, h.state, h.quiet⟩
  | succ depth =>
    refine BusHost.publish_induction (fun _ _ h => ⟨h.settings, h.state, h.quiet⟩)
      (fun subscription hmem s'' h' => unaltered_hear e ?_ h') ⟨h.settings, h.state, h.quiet⟩
    obtain ⟨hmem, haccepts⟩ := List.mem_filter.mp hmem
    exact h.quiet subscription hmem e he haccepts

/-- **If those who hear of messages do nothing to the engine, the bus has tactful listeners.** -/
theorem tactful_publish (depth : Nat) : Tactful QuietOnMessages (depth + 1) (publish depth) := by
  have hconsiderate : ∀ depth, Considerate QuietOnMessages (publish depth) := by
    intro depth s hquiet hstate _
    have hsteady : Steady (publish depth) (Unaltered s) :=
      ⟨fun _ _ _ h => unaltered_publish depth rfl h, fun _ h => ⟨h.settings, h.state, h.quiet⟩⟩
    have hloaded := hsteady.loadMonitorPath ⟨rfl, rfl, hquiet⟩
    exact ⟨hloaded.settings, hloaded.state.trans hstate⟩
  induction depth with
  | zero => exact ⟨answered_publish 0, hconsiderate 0, fun _ _ _ => .refl⟩
  | succ depth ih =>
    exact ⟨answered_publish _, hconsiderate _, fun e s _ =>
      happens_publish (fun _ name hquiet => hquiet.unsubscribe name) ih e s⟩

/-! ## Runs -/

theorem Sound.aside (h : Sound K s) (haside : Aside s s') (hkind : K s.bus → K s'.bus) :
    Sound K s' := by
  have hcoherent : Coherent s' := by
    refine h.toCoherent.congr (stands_aside haside) ?_
    obtain ⟨_, _, _, _, _, _, _, rfl⟩ := haside
    rfl
  exact ⟨hcoherent, hkind h.kind⟩

/-- Events keep the directory coherent, however deep their answers are nested. -/
theorem Tactful.keeps (hemit : Tactful K depth emit) (e : Event) (s : Engine) (h : Sound K s) :
    Sound K (emit e s) := by
  induction depth generalizing emit e s with
  | zero => exact hemit.elim
  | succ depth ih =>
    have hnoted : Sound K (s.note e) := h.congr (stands_of_watchers ⟨rfl, rfl, rfl, rfl⟩ rfl) rfl rfl
    have hanswered : ∀ s', ReflTransGen (HappensAmong K (Tactful K depth)) (s.note e) s' →
        Sound K s' := by
      intro s' hrun
      induction hrun with
      | refl => exact hnoted
      | tail _ hstep ih' =>
        cases hstep with
        | call c hways => exact ih'.call hways.answered (ih hways) hways.considerate c
        | aside haside hkind => exact ih'.aside haside hkind
    exact hanswered _ (hemit.2.2 e s h.kind)

/-- Each step of a run keeps the directory coherent. -/
theorem Sound.step (h : Sound K s) (hstep : HappensAmong K (Tactful K depth) s s') : Sound K s' := by
  cases hstep with
  | call c hemit => exact h.call hemit.answered hemit.keeps hemit.considerate c
  | aside haside hkind => exact h.aside haside hkind

theorem sound_initial (hkind : K .initial) (settings : EngineSettings)
    (ignorePatterns : List String) (environment : Settings.Variables) (tree : FileTree)
    (faults : Faults) (program : Option AppSettings) :
    Sound K (initial settings ignorePatterns environment tree faults program) :=
  ⟨⟨fun _ => rfl, fun h => (by cases h), fun _ _ h => (by cases h), fun h => (by cases h)⟩, hkind⟩

/-- Whenever no call is in progress, the invariant holds. -/
theorem sound_run {settings : EngineSettings} {ignorePatterns : List String}
    {environment : Settings.Variables} {tree : FileTree} {faults : Faults}
    {program : Option AppSettings} (hkind : K .initial)
    (hrun : ReflTransGen (HappensAmong K (Tactful K depth))
      (initial settings ignorePatterns environment tree faults program) s) : Sound K s := by
  induction hrun with
  | refl => exact sound_initial hkind ..
  | tail _ hstep ih => exact ih.step hstep

/--
**With listeners that leave a stopped engine and its settings alone while its directory is
determined, the directory is coherent** whenever no call is in progress. A running engine has a
directory, which it gives without a further event, and all its watchers watch this directory. If the
settings of a stopped engine name an absolute path then the directory is that path in normal form,
however events are answered while it is determined.
-/
theorem directory_coherent {settings : EngineSettings} {ignorePatterns : List String}
    {environment : Settings.Variables} {tree : FileTree} {faults : Faults}
    {program : Option AppSettings} (hkind : K .initial)
    (hrun : ReflTransGen (HappensAmong K (Tactful K depth))
      (initial settings ignorePatterns environment tree faults program) s) :
    (s.state = .running → ∃ root ws, s.registered = some ws ∧
      (∀ emit, currentMonitorPath emit s = (s, root)) ∧
      ∀ i ∈ ws, ∃ w, s.watchers.all[i]? = some w ∧ w.root = root) ∧
    (s.state = .stopped → ∀ X, s.settings.monitorPath = some X → X.isAbsolute = true →
      ∀ emit, (currentMonitorPath emit s).2 = X.normalise) := by
  have hsound := sound_run hkind hrun
  refine ⟨fun hstate => ?_, fun _ X hX habsolute emit => ?_⟩
  · obtain ⟨ws, hws⟩ := Option.ne_none_iff_exists'.mp (hsound.running hstate)
    obtain ⟨root, hroot, hwatched⟩ := hsound.watched hws
    refine ⟨root, ws, hws, fun emit => ?_, fun i hi => Option.map_eq_some_iff.mp (hwatched i hi)⟩
    unfold currentMonitorPath
    rw [hroot]
  · unfold currentMonitorPath
    split
    · next hroot => exact hsound.chosen hX habsolute hroot
    · exact loadMonitorPath_snd emit hX habsolute

/-- An engine that monitors one of two directories. -/
def roamingEngine : Engine :=
  let engine := smallEngine [".a"] Faults.none
  initial { engine.settings with baseDir := .ofString "/" } [] []
    ⟨[(["v"], .directory), (["w"], .directory)], []⟩ Faults.none engine.program

/-- The other directory, by a detour. -/
def detour : List (String × Settings.Value) :=
  [("monitor_path", .path (.ofString "/w/../v"))]

/-- That engine with a listener that processes a file when the engine starts, configured. -/
def roamingEngineConfigured : Engine :=
  (roamingEngine.subscribe "p" (some .started) ⟨.process (.ofString "/v/x.a"), false⟩).call
    (publish 1) (.configure detour)

/-- That engine after it was also started. -/
def roamingEngineLater : Engine :=
  roamingEngineConfigured.call (publish 1) .start

/-- Configured while it is stopped and then started, that engine monitors the other directory. -/
theorem roamingEngine_coherent :
    (QuietOnMessages .initial ∧
      ReflTransGen (HappensAmong QuietOnMessages (Tactful QuietOnMessages 2)) roamingEngine
        roamingEngineLater) ∧
    (∀ emit, (currentMonitorPath emit roamingEngineConfigured).2 = .ofString "/v") ∧
    roamingEngineLater.state = .running ∧ ∃ root ws, roamingEngineLater.registered = some ws ∧
      (∀ emit, currentMonitorPath emit roamingEngineLater = (roamingEngineLater, root)) ∧
      ∀ i ∈ ws, ∃ w, roamingEngineLater.watchers.all[i]? = some w ∧ w.root = root := by
  have hkind : QuietOnMessages .initial := fun _ h => by cases h
  have hsubscribed : QuietOnMessages (roamingEngine.subscribe "p" (some .started)
      ⟨.process (.ofString "/v/x.a"), false⟩).bus := by
    intro subscription hmem e he haccepts
    obtain rfl := List.mem_singleton.mp hmem
    simp [Subscription.accepts, he] at haccepts
  have htactful := tactful_publish 1
  have hconfigured : ReflTransGen (HappensAmong QuietOnMessages (Tactful QuietOnMessages 2))
      roamingEngine roamingEngineConfigured :=
    (ReflTransGen.single (.aside (aside_subscribe ..) fun _ => hsubscribed)).tail
      (.call (.configure detour) htactful)
  have hlater : ReflTransGen (HappensAmong QuietOnMessages (Tactful QuietOnMessages 2))
      roamingEngine roamingEngineLater := hconfigured.tail (.call .start htactful)
  obtain ⟨hstopped, hchosen, hrunning⟩ : roamingEngineConfigured.state = .stopped ∧
      roamingEngineConfigured.settings.monitorPath = some (.ofString "/w/../v") ∧
      roamingEngineLater.state = .running := by
    decide +kernel
  have hnormal : (Path.ofString "/w/../v").normalise = .ofString "/v" := by decide +kernel
  refine ⟨⟨hkind, hlater⟩, fun emit => ?_, hrunning, (directory_coherent hkind hlater).1 hrunning⟩
  rw [(directory_coherent hkind hconfigured).2 hstopped _ hchosen (by decide +kernel) emit, hnormal]

/-- That engine with two listeners that hear of a message once: one configures it, one starts it. -/
def hastyEngine : Engine :=
  (roamingEngine.subscribe "c" (some .logMessage)
    ⟨.configure [("monitor_path", .path (.ofString "/v"))], true⟩).subscribe
    "s" (some .logMessage) ⟨.start, true⟩

/-- That engine after it was asked to process all files. -/
def hastyEngineLater : Engine :=
  hastyEngine.call (publish 2) .processAll

/--
**With other listeners the directory is not coherent.** The message that tells of the directory
comes before the directory is remembered. A listener that hears it and changes the settings, and one
that starts the engine, leave a running engine that watches one directory and gives another, and it
still gives the other one when it is stopped.
-/
theorem directory_out_of_date :
    (∃ s, Reached 3 s ∧ s.state = .running ∧ s.registered = some [0] ∧
      s.watchers.rootAt 0 = some (.ofString "/v") ∧
      (currentMonitorPath (publish 2) s).2 = .ofString "/w") ∧
    ∃ s, Reached 3 s ∧ s.state = .stopped ∧ s.settings.monitorPath = some (.ofString "/v") ∧
      (currentMonitorPath (publish 2) s).2 = .ofString "/w" := by
  have hanswered := answered_publish 2
  have hsubscribed : Reached 3 hastyEngine :=
    ((reached_initial _ _ _ _ _ _).tail (.aside (aside_subscribe ..))).tail
      (.aside (aside_subscribe ..))
  have hrunning : Reached 3 hastyEngineLater := hsubscribed.tail (.call .processAll hanswered)
  have hoffers : (hastyEngineLater.state = .running ∧ hastyEngineLater.registered = some [0] ∧
      hastyEngineLater.watchers.rootAt 0 = some (.ofString "/v") ∧
      (currentMonitorPath (publish 2) hastyEngineLater).2 = .ofString "/w") ∧
      (hastyEngineLater.call (publish 2) .stop).state = .stopped ∧
      (hastyEngineLater.call (publish 2) .stop).settings.monitorPath = some (.ofString "/v") ∧
      (currentMonitorPath (publish 2) (hastyEngineLater.call (publish 2) .stop)).2
        = .ofString "/w" := by
    decide +kernel
  obtain ⟨hruns, hstops⟩ := hoffers
  exact ⟨⟨_, hrunning, hruns⟩, _, hrunning.tail (.call .stop hanswered), hstops⟩

end LiveTemplates.Engine
