import LiveTemplates.Proofs.Engine.Calls

/-!
# The life cycle, whatever listeners do

When no call is in progress an engine is stopped without a session or running in one (`Settled`),
and no watcher of an earlier session takes notice of a change any more.

On the way from one state to the other listeners are heard, but what belongs to the life cycle
stands still while they are (`Stands`): they are refused to start, stop or configure, and all else
that they may ask for changes other things. So each step of a transition can be looked at by itself: a session
is opened watcher by watcher (`Opening`), and what was told to start is retired watcher by watcher.
-/

namespace LiveTemplates.Engine

open Relation

variable {emit : Event → Engine → Engine} {s s' : Engine} {i : Nat} {ws rest : List Nat}

/-! ## What stands still in a transition -/

/-- The record that an engine has of its life cycle, without the watchers, is as it was. -/
structure Abides (s s' : Engine) : Prop where
  settings : s'.settings = s.settings
  state : s'.state = s.state
  registered : s'.registered = s.registered
  starts : s'.starts = s.starts

/-- All that belongs to the life cycle is as it was. -/
structure Stands (s s' : Engine) : Prop extends Abides s s' where
  watchers : s.watchers.Continues s'.watchers

theorem Abides.refl (s : Engine) : Abides s s := ⟨rfl, rfl, rfl, rfl⟩

theorem Abides.trans {s'' : Engine} (h : Abides s s') (h' : Abides s' s'') : Abides s s'' :=
  ⟨h'.settings.trans h.settings, h'.state.trans h.state, h'.registered.trans h.registered,
    h'.starts.trans h.starts⟩

theorem Stands.refl (s : Engine) : Stands s s := ⟨.refl s, .refl _⟩

theorem Stands.trans {s'' : Engine} (h : Stands s s') (h' : Stands s' s'') : Stands s s'' :=
  ⟨h.toAbides.trans h'.toAbides, h.watchers.trans h'.watchers⟩

theorem Abides.inTransition (h : Abides s s') : s'.inTransition = s.inTransition := by
  unfold Engine.inTransition
  rw [h.state]

theorem stands_of_watchers (h : Abides s s') (hwatchers : s'.watchers = s.watchers) : Stands s s' :=
  ⟨h, hwatchers ▸ .refl _⟩

theorem stands_aside (h : Aside s s') : Stands s s' := by
  obtain ⟨_, _, _, _, _, _, _, rfl⟩ := h
  exact stands_of_watchers ⟨rfl, rfl, rfl, rfl⟩ rfl

/-- What happens beside the life cycle keeps what is about the life cycle only. -/
theorem unmoved_of_stands {P : Engine → Prop} (hstands : ∀ {s s'}, P s → Stands s s' → P s')
    (hpublishes : ∀ e s, P s → P (emit e s)) : Unmoved emit P fun _ => True where
  toIndependent := .of_publishes hpublishes
    (fun _ hs => hstands hs (stands_of_watchers ⟨rfl, rfl, rfl, rfl⟩ rfl))
    (fun _ hs => hstands hs (stands_of_watchers ⟨rfl, rfl, rfl, rfl⟩ rfl))
    (fun _ hs => hstands hs (stands_of_watchers ⟨rfl, rfl, rfl, rfl⟩ rfl))
  debouncers hd hs := hstands hs ⟨⟨rfl, rfl, rfl, rfl⟩, rfl, rfl, hd⟩
  callback _ _ hs := hstands hs (stands_of_watchers ⟨rfl, rfl, rfl, rfl⟩ rfl)
  pending _ _ _ := trivial

theorem ne_stopped_of_inTransition (hs : s.inTransition = true) : s.state ≠ .stopped := by
  intro h
  simp [inTransition, h] at hs

theorem stopped_or_running (hs : s.inTransition = false) :
    s.state = .stopped ∨ s.state = .running := by
  cases hstate : s.state with
  | stopped => exact .inl rfl
  | running => exact .inr rfl
  | starting => simp [inTransition, hstate] at hs
  | stopping => simp [inTransition, hstate] at hs

/-- In a transition an engine can neither be started nor stopped nor configured. -/
theorem call_control (hs : s.inTransition = true) {c : Call} (hc : c.isControl = true) :
    s.call emit c = s := by
  have hstate := ne_stopped_of_inTransition hs
  rcases Call.eq_of_isControl hc with rfl | rfl | ⟨changes, rfl⟩
  · simp [call, start, hs]
  · simp [call, stop, hs]
  · simp [call, configure, hstate]

/-- Events that let the life cycle stand in a transition. -/
def Discreet (emit : Event → Engine → Engine) : Prop :=
  ∀ e s, s.inTransition = true → Stands s (emit e s)

/-- **In a transition the life cycle stands still, whatever listeners do.** -/
theorem discreet_answered {depth : Nat} (hemit : Answered depth emit) : Discreet emit := by
  intro e s hs
  refine hemit.keeps (P := Stands s) (fun haside h => h.trans (stands_aside haside))
    (fun e s h => h.trans (stands_of_watchers ⟨rfl, rfl, rfl, rfl⟩ rfl)) ?_ e (.refl s)
  intro depth emit _ hkeeps c s' h
  -- What a listener calls for is refused, or it is not about the life cycle.
  cases hc : c.isControl with
  | true => rwa [call_control (h.inTransition.trans hs) hc]
  | false => exact (unmoved_of_stands Stands.trans hkeeps).keeps_call hc h

/-! ## Steps of a transition -/

theorem Discreet.independent (hemit : Discreet emit) (hs : s.inTransition = true) :
    Independent emit (Stands s) :=
  (unmoved_of_stands Stands.trans fun e _ h =>
    h.trans (hemit e _ (h.inTransition.trans hs))).toIndependent

/-- A watcher ends, and all else stands still. -/
theorem stands_endWatcher (hemit : Discreet emit) (hs : s.inTransition = true) (i : Nat) :
    Stands { s with watchers := (s.watchers.dispose i).1 } (endWatcher emit s i) := by
  have hended : ({ s with watchers := (s.watchers.dispose i).1 } : Engine).inTransition = true := hs
  have hsteady := hemit.independent hended
  have hlog := hsteady.log (s.watchers.dispose i).2.2 (.refl _)
  unfold endWatcher
  dsimp only
  split
  · exact hsteady.message _ _ _ hlog
  · refine hsteady.message _ _ _ (hlog.trans (hemit _ _ ?_))
    exact hlog.inTransition.trans hended

/-- The watchers that an engine ends are retired. -/
theorem retired_endWatchers (hemit : Discreet emit) (hs : s.inTransition = true)
    (htidy : s.watchers.Tidy) (hretired : s.watchers.RetiredBut ws) :
    Abides s (ws.foldl (endWatcher emit) s) ∧ (ws.foldl (endWatcher emit) s).watchers.Tidy ∧
      (ws.foldl (endWatcher emit) s).watchers.RetiredBut [] := by
  induction ws generalizing s with
  | nil => exact ⟨.refl s, htidy, hretired⟩
  | cons i rest ih =>
    have hstands := stands_endWatcher hemit hs i
    have habides : Abides s (endWatcher emit s i) := ⟨hstands.settings, hstands.state,
      hstands.registered, hstands.starts⟩
    obtain ⟨habides', htidy', hretired'⟩ := ih (habides.inTransition.trans hs)
      (hstands.watchers.tidy (htidy.dispose i))
      (hstands.watchers.retiredBut (hretired.dispose htidy))
    exact ⟨habides.trans habides', htidy', hretired'⟩

theorem Abides.trans_stands {s'' : Engine} (h : Abides s s') (h' : Stands s' s'') : Abides s s'' :=
  h.trans h'.toAbides

/-! ## Stopping -/

/-- An engine without a session: whatever was told to start is retired. -/
structure AtRest (s : Engine) : Prop where
  registered : s.registered = none
  tidy : s.watchers.Tidy
  retired : s.watchers.RetiredBut []

/-- An engine with registered watchers: whatever else was told to start is retired. -/
structure Registered (s : Engine) (ws : List Nat) : Prop where
  registered : s.registered = some ws
  tidy : s.watchers.Tidy
  retired : s.watchers.RetiredBut ws

theorem teardown_of_none (h : s.registered = none) : teardown emit s = s := by
  unfold teardown
  rw [h]

/-- The end of a session leaves an engine at rest. -/
theorem Registered.teardown (hemit : Discreet emit) (h : Registered s ws) :
    AtRest (teardown emit s) ∧ (teardown emit s).state = .stopped ∧
      (teardown emit s).settings = s.settings ∧ (teardown emit s).starts = s.starts := by
  have hstopping : ({ s with state := .stopping, registered := none } : Engine).inTransition = true :=
    rfl
  obtain ⟨habides, htidy, hretired⟩ := retired_endWatchers hemit hstopping h.tidy h.retired
  have hended := habides.inTransition.trans hstopping
  have htold := hemit.independent hended
  have hstopped := htold.message "Engine stopped" "" .diagnostic (hemit .stopped _ hended)
  have hrecord := habides.trans_stands hstopped
  unfold Engine.teardown
  rw [h.registered]
  refine ⟨⟨hrecord.registered, hstopped.watchers.tidy htidy, hstopped.watchers.retiredBut hretired⟩,
    rfl, hrecord.settings, hrecord.starts⟩

/-! ## Starting -/

/-- What creating watchers does. -/
structure Creates (s s' : Engine) : Prop extends Abides s s' where
  tidy : s.watchers.Tidy → s'.watchers.Tidy
  retired : ∀ {ws}, s.watchers.RetiredBut ws → s'.watchers.RetiredBut ws
  idle : ∀ {i}, s.watchers.Idle i → s'.watchers.Idle i
  extensionAt : ∀ {i}, i < s.watchers.all.length →
    s'.watchers.extensionAt i = s.watchers.extensionAt i
  waits : ∀ {ms i}, s.watchers.Waits ms i → s'.watchers.Waits ms i

theorem Creates.trans {s'' : Engine} (h : Creates s s') (h' : Creates s' s'')
    (hlength : s.watchers.all.length ≤ s'.watchers.all.length) : Creates s s'' :=
  ⟨h.toAbides.trans h'.toAbides, fun hw => h'.tidy (h.tidy hw), fun hw => h'.retired (h.retired hw),
    fun hi => h'.idle (h.idle hi),
    fun hi => (h'.extensionAt (Nat.lt_of_lt_of_le hi hlength)).trans (h.extensionAt hi),
    fun hi => h'.waits (h.waits hi)⟩

theorem creates_of_watchers (h : Abides s s') (hwatchers : s'.watchers = s.watchers) :
    Creates s s' where
  toAbides := h
  tidy := hwatchers ▸ id
  retired := hwatchers ▸ id
  idle := hwatchers ▸ id
  extensionAt _ := hwatchers ▸ rfl
  waits := hwatchers ▸ id

/-- A delay that a watcher gets is that of the settings. -/
theorem ofMilliseconds_of_watcherDelay {faults : List WatchFault} {delay : Delay}
    (h : s.watcherDelay faults = .ok delay) :
    Delay.ofMilliseconds s.settings.processDelayMs = .ok delay := by
  unfold watcherDelay at h
  split at h
  · cases h
  · exact h

theorem creates_createWatcher (root : Path) (extension : String) (s : Engine) :
    Creates s (createWatcher root extension s).1 ∧
      ∀ i, (createWatcher root extension s).2 = .ok i → s.watchers.Tidy →
        i = s.watchers.all.length ∧
        (createWatcher root extension s).1.watchers.all.length = s.watchers.all.length + 1 ∧
        (createWatcher root extension s).1.watchers.Idle i ∧
        (createWatcher root extension s).1.watchers.extensionAt i = extension ∧
        (createWatcher root extension s).1.watchers.Waits s.settings.processDelayMs i := by
  unfold createWatcher
  dsimp only
  split
  · exact ⟨creates_of_watchers ⟨rfl, rfl, rfl, rfl⟩ rfl, fun _ h => by cases h⟩
  · split
    · exact ⟨creates_of_watchers ⟨rfl, rfl, rfl, rfl⟩ rfl, fun _ h => by cases h⟩
    · split
      · exact ⟨creates_of_watchers ⟨rfl, rfl, rfl, rfl⟩ rfl, fun _ h => by cases h⟩
      · next delay hdelay =>
        refine ⟨⟨⟨rfl, rfl, rfl, rfl⟩, fun h => h.create, fun h => h.create, fun h => h.create,
          Watchers.extensionAt_create_of_lt, fun h => h.create⟩, fun i h htidy => ?_⟩
        cases h
        exact ⟨rfl, by simp [Watchers.create], Watchers.idle_create htidy,
          Watchers.extensionAt_create,
          Watchers.waits_create htidy (ofMilliseconds_of_watcherDelay hdelay)⟩

/-- Watchers that are created one after the other have their places one after the other. -/
theorem creates_createWatchers (root : Path) (extensions : List String) (htidy : s.watchers.Tidy) :
    Creates s (createWatchers root extensions s).1 ∧
      ∀ ws, (createWatchers root extensions s).2 = .ok ws →
        ws = List.range' s.watchers.all.length extensions.length ∧
        (∀ i ∈ ws, (createWatchers root extensions s).1.watchers.Idle i) ∧
        (∀ i ∈ ws,
          (createWatchers root extensions s).1.watchers.Waits s.settings.processDelayMs i) ∧
        ws.map (createWatchers root extensions s).1.watchers.extensionAt = extensions := by
  induction extensions generalizing s with
  | nil =>
    refine ⟨creates_of_watchers (.refl s) rfl, fun ws h => ?_⟩
    cases h
    exact ⟨rfl, by simp, by simp, rfl⟩
  | cons extension rest ih =>
    obtain ⟨hcreates, hcreated⟩ := creates_createWatcher root extension s
    rw [createWatchers]
    split
    · next heq =>
      rw [heq] at hcreates
      exact ⟨hcreates, fun ws h => by cases h⟩
    · next s₁ i heq =>
      rw [heq] at hcreates hcreated
      obtain ⟨rfl, hlength, hidle, hextension, hwaits⟩ := hcreated _ rfl htidy
      obtain ⟨hcreates', hcreated'⟩ := ih (hcreates.tidy htidy)
      refine ⟨hcreates.trans hcreates' (by omega), fun ws h => ?_⟩
      dsimp only at h
      cases hrest : (createWatchers root rest s₁).2 with
      | error e =>
        rw [hrest] at h
        cases h
      | ok ws' =>
        rw [hrest] at h
        cases h
        obtain ⟨hplaces, hidle', hwaits', hextensions⟩ := hcreated' ws' hrest
        refine ⟨?_, ?_, ?_, ?_⟩
        · rw [hplaces, hlength, List.length_cons, List.range'_succ]
        · intro i hi
          rcases List.mem_cons.mp hi with rfl | hi
          · exact hcreates'.idle hidle
          · exact hidle' i hi
        · intro i hi
          rcases List.mem_cons.mp hi with rfl | hi
          · exact hcreates'.waits hwaits
          · exact hcreates.settings ▸ hwaits' i hi
        · rw [List.map_cons, hextensions]
          dsimp only
          rw [hcreates'.extensionAt (by omega), hextension]

/-- How far watchers have been started: some are watching, and the rest are idle. -/
structure Opening (extensions : List String) (ms : Int) (ws rest : List Nat) (w : Watchers) :
    Prop where
  tidy : w.Tidy
  retired : w.RetiredBut ws
  extensions : ws.map w.extensionAt = extensions
  waits : ∀ i ∈ ws, w.Waits ms i
  subset : rest ⊆ ws
  nodup : rest.Nodup
  idle : ∀ i ∈ rest, w.Idle i
  watching : ∀ i ∈ ws, i ∉ rest → w.Watching i

theorem Opening.continues {extensions : List String} {ms : Int} {w w' : Watchers}
    (h : Opening extensions ms ws rest w) (hcontinues : w.Continues w') :
    Opening extensions ms ws rest w' where
  tidy := hcontinues.tidy h.tidy
  retired := hcontinues.retiredBut h.retired
  extensions := by rw [← h.extensions, funext hcontinues.extensionAt_eq]
  waits i hi := hcontinues.waits (h.waits i hi)
  subset := h.subset
  nodup := h.nodup
  idle i hi := hcontinues.idle (h.idle i hi)
  watching i hi hrest := hcontinues.watching (h.watching i hi hrest)

/-- The next watcher starts. -/
theorem Opening.start {extensions : List String} {ms : Int} {w : Watchers} {log : List Log.Entry}
    (h : Opening extensions ms ws (i :: rest) w) (hok : (w.start i).2 = .ok log) :
    Opening extensions ms ws rest (w.start i).1 where
  tidy := h.tidy.start i
  retired := h.retired.start (h.subset List.mem_cons_self)
  extensions := by rw [← h.extensions, funext (w.extensionAt_start i)]
  waits j hj := (h.waits j hj).start i
  subset := fun j hj => h.subset (List.mem_cons_of_mem _ hj)
  nodup := (List.nodup_cons.mp h.nodup).2
  idle j hj := (h.idle j (List.mem_cons_of_mem _ hj)).start fun hij =>
    (List.nodup_cons.mp h.nodup).1 (hij ▸ hj)
  watching j hj hrest := by
    by_cases hij : i = j
    · exact hij ▸ (h.idle i List.mem_cons_self).watching_start hok
    · refine (h.watching j hj fun hmem => ?_).start hij
      rcases List.mem_cons.mp hmem with rfl | hmem
      · exact hij rfl
      · exact hrest hmem

/-- A watcher is told of and starts, and all else stands still. -/
theorem stands_startWatcher (hemit : Discreet emit) (hs : s.inTransition = true) (i : Nat) :
    ∃ s₁, Stands s s₁ ∧ Abides s (startWatcher emit s i).1 ∧
      (startWatcher emit s i).1.watchers = (s₁.watchers.start i).1 ∧
      ((startWatcher emit s i).2 = .ok () → ∃ log, (s₁.watchers.start i).2 = .ok log) := by
  have htold := (hemit.independent hs).message
    s!"Engine listening for file type {s.watcherExtension i}" "" .diagnostic (hemit (.startedWatching (s.watcherExtension i)) s hs)
  refine ⟨_, htold, ?_⟩
  unfold startWatcher
  dsimp only
  split
  · next heq =>
    rw [heq]
    exact ⟨⟨htold.settings, htold.state, htold.registered, htold.starts⟩, rfl, fun h => by cases h⟩
  · next heq =>
    rw [heq]
    exact ⟨⟨htold.settings, htold.state, htold.registered, htold.starts⟩, rfl, fun _ => ⟨_, rfl⟩⟩

/-- The watchers of a session are started one by one. -/
theorem opening_startWatchers {extensions : List String} {ms : Int} (hemit : Discreet emit)
    (hs : s.inTransition = true) (h : Opening extensions ms ws rest s.watchers) :
    Abides s (startWatchers emit rest s).1 ∧ (startWatchers emit rest s).1.watchers.Tidy ∧
      (startWatchers emit rest s).1.watchers.RetiredBut ws ∧
      ((startWatchers emit rest s).2 = .ok () →
        Opening extensions ms ws [] (startWatchers emit rest s).1.watchers) := by
  induction rest generalizing s with
  | nil => exact ⟨.refl s, h.tidy, h.retired, fun _ => h⟩
  | cons i rest ih =>
    obtain ⟨s₁, hstands, habides, hwatchers, hok⟩ := stands_startWatcher hemit hs i
    have hopening := h.continues hstands.watchers
    rw [startWatchers]
    split
    · next heq =>
      rw [heq] at habides hwatchers
      dsimp only at habides hwatchers ⊢
      rw [hwatchers]
      exact ⟨habides, hopening.tidy.start i,
        hopening.retired.start (h.subset List.mem_cons_self), fun h => by cases h⟩
    · next heq =>
      rw [heq] at habides hwatchers hok
      obtain ⟨log, hlog⟩ := hok rfl
      have hnext := hopening.start hlog
      rw [← hwatchers] at hnext
      obtain ⟨habides', hrest⟩ := ih (habides.inTransition.trans hs) hnext
      exact ⟨habides.trans habides', hrest⟩

/-- An engine in a session: its watchers are the latest ones, and all of them are watching. -/
structure InSession (s : Engine) (ws : List Nat) : Prop extends Registered s ws where
  places : ∃ n, s.starts.head? = some n ∧ ws = List.range' n s.settings.extensions.length
  extensions : ws.map s.watchers.extensionAt = s.settings.extensions
  waits : ∀ i ∈ ws, s.watchers.Waits s.settings.processDelayMs i
  watching : ∀ i ∈ ws, s.watchers.Watching i

theorem AtRest.stands (h : AtRest s) (hstands : Stands s s') : AtRest s' :=
  ⟨hstands.registered.trans h.registered, hstands.watchers.tidy h.tidy,
    hstands.watchers.retiredBut h.retired⟩

/-- What becomes of an engine at rest when it tries to begin a session. -/
structure Attempt (s : Engine) (r : Engine × Except EngineFailure Unit) : Prop where
  settings : r.1.settings = s.settings
  state : r.1.state = s.state
  starts : r.1.starts = s.starts
  opened : r.2 = .ok () → ∃ ws, Registered r.1 ws ∧
    ws = List.range' s.watchers.all.length s.settings.extensions.length ∧
    Opening s.settings.extensions s.settings.processDelayMs ws [] r.1.watchers
  failed : ∀ e, r.2 = .error e → AtRest r.1 ∨ ∃ ws, Registered r.1 ws

theorem attempt_error (h : AtRest s) (hstands : Stands s s') (e : EngineFailure) :
    Attempt s (s', .error e) where
  settings := hstands.settings
  state := hstands.state
  starts := hstands.starts
  opened h := by cases h
  failed _ _ := .inl (h.stands hstands)

theorem Attempt.of_stands {r : Engine × Except EngineFailure Unit} (h : Attempt s' r)
    (hstands : Stands s s') : Attempt s r where
  settings := h.settings.trans hstands.settings
  state := h.state.trans hstands.state
  starts := h.starts.trans hstands.starts
  opened hok := by
    obtain ⟨ws, hregistered, hplaces, hopening⟩ := h.opened hok
    rw [hstands.settings] at hplaces hopening
    rw [hstands.watchers.all] at hplaces
    exact ⟨ws, hregistered, hplaces, hopening⟩
  failed := h.failed

theorem attempt_openWatchers (hemit : Discreet emit) (hs : s.inTransition = true) (h : AtRest s)
    (monitor : Path) : Attempt s (openWatchers emit monitor s) := by
  obtain ⟨hcreates, hcreated⟩ := creates_createWatchers monitor s.settings.extensions h.tidy
  unfold openWatchers
  split
  · next heq =>
    rw [heq] at hcreates
    have hrest : AtRest _ := ⟨hcreates.registered.trans h.registered, hcreates.tidy h.tidy,
      hcreates.retired h.retired⟩
    exact ⟨hcreates.settings, hcreates.state, hcreates.starts, (by intro h; cases h),
      fun _ _ => .inl hrest⟩
  · next s₁ ws heq =>
    rw [heq] at hcreates hcreated
    obtain ⟨hplaces, hidle, hwaits, hextensions⟩ := hcreated ws rfl
    have hopening : Opening s.settings.extensions s.settings.processDelayMs ws ws s₁.watchers := {
      tidy := hcreates.tidy h.tidy
      retired := fun i x hx htold _ => hcreates.retired h.retired hx htold List.not_mem_nil
      extensions := hextensions
      waits := hwaits
      subset := List.Subset.refl _
      nodup := hplaces ▸ List.nodup_range'
      idle := hidle
      watching := fun i hi hrest => absurd hi hrest }
    have hs₁ : ({ s₁ with registered := some ws } : Engine).inTransition = true :=
      hcreates.inTransition.trans hs
    obtain ⟨habides, htidy, hretired, hok⟩ := opening_startWatchers hemit hs₁ hopening
    have hregistered : Registered (startWatchers emit ws { s₁ with registered := some ws }).1 ws :=
      ⟨habides.registered, htidy, hretired⟩
    exact ⟨habides.settings.trans hcreates.settings, habides.state.trans hcreates.state,
      habides.starts.trans hcreates.starts, fun h => ⟨ws, hregistered, hplaces, hok h⟩,
      fun _ _ => .inr ⟨ws, hregistered⟩⟩

theorem stands_announceSession (hemit : Discreet emit) (hs : s.inTransition = true)
    (monitor : Path) : Stands s (announceSession emit monitor s) := by
  have hmonitor : Stands s { s with monitorPath := some monitor } :=
    stands_of_watchers ⟨rfl, rfl, rfl, rfl⟩ rfl
  unfold announceSession
  exact (hemit.independent hs).message _ _ _ (hmonitor.trans (hemit .started _ hs))

theorem attempt_setup (hemit : Discreet emit) (hs : s.inTransition = true) (h : AtRest s) :
    Attempt s (setup emit s) := by
  have hloaded : Stands s (loadMonitorPath emit s).1 :=
    (hemit.independent hs).steady.loadMonitorPath (.refl s)
  unfold setup
  dsimp only
  split
  · exact attempt_error h hloaded _
  · exact attempt_error h hloaded _
  · have htold := hloaded.trans (stands_announceSession hemit (hloaded.inTransition.trans hs)
      (loadMonitorPath emit s).2)
    exact (attempt_openWatchers hemit (htold.inTransition.trans hs) (h.stands htold) _).of_stands
      htold

/-! ## Calls -/

/-- **The invariant**: an engine is stopped and at rest, or it is running and in a session. -/
inductive Settled (s : Engine) : Prop
  | stopped (hstate : s.state = .stopped) (h : AtRest s)
  | running (hstate : s.state = .running) {ws : List Nat} (h : InSession s ws)

theorem Settled.inTransition (h : Settled s) : s.inTransition = false := by
  cases h with
  | stopped hstate _ => simp [Engine.inTransition, hstate]
  | running hstate _ => simp [Engine.inTransition, hstate]

theorem Settled.stands (h : Settled s) (hstands : Stands s s') : Settled s' := by
  cases h with
  | stopped hstate h => exact .stopped (hstands.state.trans hstate) (h.stands hstands)
  | running hstate h =>
    refine .running (hstands.state.trans hstate) ⟨⟨hstands.registered.trans h.registered,
      hstands.watchers.tidy h.tidy, hstands.watchers.retiredBut h.retired⟩, ?_, ?_, ?_, ?_⟩
    · rw [hstands.starts, hstands.settings]
      exact h.places
    · rw [hstands.settings, ← h.extensions, funext hstands.watchers.extensionAt_eq]
    · exact fun i hi => hstands.settings ▸ hstands.watchers.waits (h.waits i hi)
    · exact fun i hi => hstands.watchers.watching (h.watching i hi)

/-- The end of a session, if there is one. -/
theorem Settled.teardown (hemit : Discreet emit) (h : Settled s) :
    AtRest (teardown emit s) ∧ (teardown emit s).state = .stopped ∧
      (teardown emit s).settings = s.settings := by
  cases h with
  | stopped hstate h =>
    rw [teardown_of_none h.registered]
    exact ⟨h, hstate, rfl⟩
  | running _ h =>
    obtain ⟨hrest, hstate, hsettings, _⟩ := h.toRegistered.teardown hemit
    exact ⟨hrest, hstate, hsettings⟩

theorem Settled.stop (hemit : Discreet emit) (h : Settled s) : Settled (stop emit s).1 := by
  obtain ⟨hrest, hstate, _⟩ := h.teardown hemit
  unfold Engine.stop
  rw [if_neg (by simp [h.inTransition])]
  exact .stopped hstate hrest

/-- What comes of a start: there is nothing to watch, or a session begins, or it fails to begin. -/
theorem start_cases (emit : Event → Engine → Engine) (hs : s.inTransition = false) :
    ((Engine.teardown emit s).settings.extensions = [] ∧
      start emit s = (Engine.teardown emit s, .error .noExtensions)) ∨
    ((Engine.teardown emit s).settings.extensions ≠ [] ∧
      ((∃ s', setup emit { Engine.teardown emit s with state := .starting } = (s', .ok ()) ∧
        start emit s = ({ s' with
          state := .running
          starts := (Engine.teardown emit s).watchers.all.length :: s'.starts }, .ok ())) ∨
      ∃ s' e, setup emit { Engine.teardown emit s with state := .starting } = (s', .error e) ∧
        start emit s = ({ Engine.teardown emit s' with state := .stopped }, .error e))) := by
  unfold start
  rw [if_neg (by simp [hs])]
  dsimp only
  split
  · next hempty => exact .inl ⟨List.isEmpty_iff.mp hempty, rfl⟩
  · next hne =>
    refine .inr ⟨fun h => hne (List.isEmpty_iff.mpr h), ?_⟩
    split
    · next s' heq => exact .inl ⟨s', heq, rfl⟩
    · next s' e heq => exact .inr ⟨s', e, heq, rfl⟩

theorem Settled.start (hemit : Discreet emit) (h : Settled s) : Settled (start emit s).1 := by
  obtain ⟨hrest, hstate, _⟩ := h.teardown hemit
  have hattempt : Attempt _ (setup emit { Engine.teardown emit s with state := .starting }) :=
    attempt_setup hemit rfl ⟨hrest.registered, hrest.tidy, hrest.retired⟩
  rcases start_cases emit h.inTransition with
    ⟨_, hstart⟩ | ⟨_, ⟨s', hset, hstart⟩ | ⟨s', e, hset, hstart⟩⟩
  · rw [hstart]
    exact .stopped hstate hrest
  · rw [hset] at hattempt
    obtain ⟨ws, hregistered, hplaces, hopening⟩ := hattempt.opened rfl
    have hregistered' : Registered (Engine.start emit s).1 ws := by
      rw [hstart]
      exact ⟨hregistered.registered, hregistered.tidy, hregistered.retired⟩
    rw [hstart] at hregistered' ⊢
    refine .running rfl ⟨hregistered', ⟨_, rfl, ?_⟩, ?_, fun i hi =>
      hattempt.settings ▸ hopening.waits i hi, fun i hi =>
      hopening.watching i hi List.not_mem_nil⟩
    · rw [hplaces, hattempt.settings]
    · rw [hopening.extensions, hattempt.settings]
  · rw [hset] at hattempt
    rw [hstart]
    refine .stopped rfl ?_
    rcases hattempt.failed e rfl with hrest' | ⟨ws, hregistered⟩
    · rw [teardown_of_none hrest'.registered]
      exact ⟨hrest'.registered, hrest'.tidy, hrest'.retired⟩
    · obtain ⟨hrest', _⟩ := hregistered.teardown hemit
      exact ⟨hrest'.registered, hrest'.tidy, hrest'.retired⟩

theorem Settled.configure (h : Settled s) (changes : List (String × Settings.Value)) :
    Settled (configure changes s).1 := by
  unfold Engine.configure
  split
  · exact h
  · next hstopped =>
    cases h with
    | running hstate _ => simp [hstate] at hstopped
    | stopped hstate h =>
      split
      · exact .stopped hstate h
      · exact .stopped hstate ⟨h.registered, h.tidy, h.retired⟩

theorem Settled.call (hemit : Discreet emit) (hkeeps : ∀ e s, Settled s → Settled (emit e s))
    (c : Call) (h : Settled s) : Settled (s.call emit c) := by
  cases hc : c.isControl with
  | false => exact (unmoved_of_stands Settled.stands hkeeps).keeps_call hc h
  | true =>
    rcases Call.eq_of_isControl hc with rfl | rfl | ⟨changes, rfl⟩
    · exact h.start hemit
    · exact h.stop hemit
    · exact h.configure changes

theorem settled_answered {depth : Nat} (hemit : Answered depth emit) (e : Event) (s : Engine)
    (h : Settled s) : Settled (emit e s) :=
  hemit.keeps (fun haside hs => hs.stands (stands_aside haside))
    (fun _ _ hs => hs.stands (stands_of_watchers ⟨rfl, rfl, rfl, rfl⟩ rfl))
    (fun hanswered hkeeps c _ hs => hs.call (discreet_answered hanswered) hkeeps c) e h

theorem settled_initial (settings : EngineSettings) (ignorePatterns : List String)
    (environment : Settings.Variables) (tree : FileTree) (faults : Faults)
    (program : Option AppSettings) :
    Settled (initial settings ignorePatterns environment tree faults program) :=
  .stopped rfl ⟨rfl, Watchers.tidy_initial, Watchers.retiredBut_initial _⟩

/-- Whenever no call is in progress, the invariant holds. -/
theorem settled_reached {depth : Nat} (h : Reached depth s) : Settled s := by
  obtain ⟨_, _, _, _, _, _, hrun⟩ := h
  exact keeps_run (fun haside hs => hs.stands (stands_aside haside))
    (fun hanswered c _ hs =>
      hs.call (discreet_answered hanswered) (settled_answered hanswered) c)
    hrun (settled_initial _ _ _ _ _ _)

/-! ## Retirement -/

/-- A debouncer is gone, and some callbacks of it are all that there are so far. -/
structure Retired (owner : Nat) (callbacks : List (Nat × Path)) (s : Engine) : Prop where
  tidy : s.watchers.Tidy
  gone : s.watchers.gone? owner = some true
  callbacks : s.callbacks.filter (·.1 == owner) = callbacks

/-- What is gone has nothing pending. -/
theorem Retired.pending_eq_nil {callbacks : List (Nat × Path)} (h : Retired i callbacks s)
    {x : Debouncer} (hx : s.watchers.debouncers.all[i]? = some x) :
    x.disposed = true ∧ x.pending = [] := by
  have hgone := h.gone
  rw [Watchers.gone?, List.getElem?_map, hx] at hgone
  have hdisposed : x.disposed = true := by simpa using hgone
  exact ⟨hdisposed, h.tidy.calm x (List.mem_of_getElem? hx) hdisposed⟩

theorem Retired.call {callbacks : List (Nat × Path)}
    (hkeeps : ∀ e s, Retired i callbacks s → Retired i callbacks (emit e s)) (c : Call)
    (h : Retired i callbacks s) : Retired i callbacks (s.call emit c) := by
  have hunmoved : Unmoved emit (Retired i callbacks) (· ≠ i) := {
    toIndependent := .of_publishes hkeeps (fun _ hs => ⟨hs.tidy, hs.gone, hs.callbacks⟩)
      (fun _ hs => ⟨hs.tidy, hs.gone, hs.callbacks⟩) (fun _ hs => ⟨hs.tidy, hs.gone, hs.callbacks⟩)
    debouncers := fun {s d} hd hs =>
      have hcontinues := s.watchers.continues_with hd
      ⟨hcontinues.tidy hs.tidy, (hcontinues.gone_eq i).trans hs.gone, hs.callbacks⟩
    callback := fun {s owner} p howner hs => by
      refine ⟨hs.tidy, hs.gone, ?_⟩
      rw [noteCallback, List.filter_append, hs.callbacks]
      simp [howner]
    pending := fun {s owner x} hx hpending hs => by
      rintro rfl
      exact hpending (hs.pending_eq_nil hx).2 }
  have henduring : Enduring emit (Retired i callbacks) := {
    publishes := fun e hs => hkeeps e _ hs
    moves := fun hs hm => ⟨hm.watchers.tidy hs.tidy, hm.watchers.gone hs.tidy hs.gone,
      hm.callbacks.symm ▸ hs.callbacks⟩ }
  cases hc : c.isControl with
  | false => exact hunmoved.keeps_call hc h
  | true => exact henduring.keeps_call hc h

theorem Retired.aside {callbacks : List (Nat × Path)} (haside : Aside s s')
    (h : Retired i callbacks s) : Retired i callbacks s' := by
  obtain ⟨_, _, _, _, _, _, _, rfl⟩ := haside
  exact ⟨h.tidy, h.gone, h.callbacks⟩

/-- **A debouncer that is gone is gone for good, and never calls back again.** -/
theorem Retired.run {callbacks : List (Nat × Path)} {depth : Nat}
    (hrun : ReflTransGen (Happens (Answered depth)) s s') (h : Retired i callbacks s) :
    Retired i callbacks s' := by
  refine keeps_run Retired.aside (fun hanswered c _ hs => hs.call ?_ c) hrun h
  exact fun e _ hs => hanswered.keeps Retired.aside
    (fun _ _ hs => ⟨hs.tidy, hs.gone, hs.callbacks⟩)
    (fun _ hkeeps c _ hs => hs.call hkeeps c) e hs

/-! ## The invariant of all runs -/

/--
**Whenever no call is in progress**, an engine is stopped or running, and running exactly if it has a
list of watchers. Then there is one for each extension, in that order; they are those that the last
successful start has created, and each of them is running, is observing, and is not disposed of.
All other watchers that were ever told to start are disposed of with nothing pending, and whatever
happens later, that remains so and no callback of theirs comes any more.
-/
theorem lifecycle_reached {depth : Nat} (h : Reached depth s) :
    (s.state = .stopped ∨ s.state = .running) ∧
    (s.state = .running ↔ s.registered.isSome = true) ∧
    (∀ ws, s.registered = some ws →
      (∃ n, s.starts.head? = some n ∧ ws = List.range' n s.settings.extensions.length) ∧
      ws.map s.watcherExtension = s.settings.extensions ∧
      ∀ i ∈ ws, ∃ w d, s.watchers.all[i]? = some w ∧ w.running = true ∧ i ∈ s.watchers.observing ∧
        s.watchers.debouncers.all[w.debouncer]? = some d ∧ d.disposed = false) ∧
    ∀ i w, s.watchers.all[i]? = some w → w.told = true → i ∉ s.registered.getD [] →
      ∀ s', ReflTransGen (Happens (Answered depth)) s s' →
        (∃ d, s'.watchers.debouncers.all[w.debouncer]? = some d ∧ d.disposed = true ∧
          d.pending = []) ∧
        s'.callbacks.filter (·.1 == w.debouncer) = s.callbacks.filter (·.1 == w.debouncer) := by
  have hsettled := settled_reached h
  have hregistered : ∀ {ws}, s.registered = some ws → InSession s ws := by
    intro ws hws
    cases hsettled with
    | stopped _ hrest =>
      rw [hrest.registered] at hws
      cases hws
    | running _ hsession =>
      rw [hsession.registered] at hws
      cases hws
      exact hsession
  have htidy : s.watchers.Tidy ∧ s.watchers.RetiredBut (s.registered.getD []) := by
    cases hsettled with
    | stopped _ hrest => exact ⟨hrest.tidy, hrest.registered ▸ hrest.retired⟩
    | running _ hsession => exact ⟨hsession.tidy, hsession.registered ▸ hsession.retired⟩
  refine ⟨?_, ?_, fun ws hws => ?_, fun i w hw htold hi s' hrun => ?_⟩
  · cases hsettled with
    | stopped hstate _ => exact .inl hstate
    | running hstate _ => exact .inr hstate
  · cases hsettled with
    | stopped hstate hrest => simp [hstate, hrest.registered]
    | running hstate hsession => simp [hstate, hsession.registered]
  · have hsession := hregistered hws
    refine ⟨hsession.places, hsession.extensions, fun i hi => ?_⟩
    obtain ⟨w, hw, hrunning, hobserving, hgone⟩ := hsession.watching i hi
    obtain ⟨d, hd, hdisposed⟩ := Watchers.exists_of_gone hgone
    exact ⟨w, d, hw, hrunning, hobserving, (htidy.1.owner hw).symm ▸ hd, hdisposed⟩
  · have howner := htidy.1.owner hw
    have hgone := htidy.2 hw htold hi
    have hretired : Retired i (s.callbacks.filter (·.1 == i)) s := ⟨htidy.1, hgone, rfl⟩
    have hlater := hretired.run hrun
    obtain ⟨d, hd, _⟩ := Watchers.exists_of_gone hlater.gone
    rw [howner]
    exact ⟨⟨d, hd, hlater.pending_eq_nil hd⟩, hlater.callbacks⟩

/-- An engine that watches one directory for files of some extensions. -/
def smallEngine (extensions : List String) (faults : Faults) : Engine :=
  let settings : EngineSettings :=
    { baseDir := .ofString "/w", monitorPath := some (.ofString "/w"), configFileName := "",
      extensions := extensions, outputExtension := ".html", processDelayMs := 50,
      cascadeDependents := false, transitiveDependents := false, writeOutputs := false }
  initial settings [] [] ⟨[(["w"], .directory)], []⟩ faults
    (some ⟨"", "", "", settings, ⟨true, []⟩, ⟨"", ""⟩⟩)

/--
An engine with a watcher that does not stop, a listener that stops the engine when it starts and one
that starts it when it stops.
-/
def stubbornEngine : Engine :=
  let engine := smallEngine [".a", ".b"]
    { Faults.none with watcher := fun e => if e = ".a" then some .stop else none }
  (engine.subscribe "stop" (some .started) ⟨.stop, false⟩).subscribe "start" (some .stopped)
    ⟨.start, false⟩

/-- That engine after it was started twice. -/
def stubbornEngineLater : Engine :=
  (stubbornEngine.call (publish 2) .start).call (publish 2) .start

/-- After the second start, the watcher that does not stop is retired all the same. -/
theorem stubbornEngine_retires :
    (Reached 3 stubbornEngineLater ∧ stubbornEngineLater.registered = some [2, 3]) ∧
      (∀ i ∈ [2, 3], ∃ w d, stubbornEngineLater.watchers.all[i]? = some w ∧ w.running = true ∧
        i ∈ stubbornEngineLater.watchers.observing ∧
        stubbornEngineLater.watchers.debouncers.all[w.debouncer]? = some d ∧ d.disposed = false) ∧
      ∃ w, stubbornEngineLater.watchers.all[0]? = some w ∧ w.running = true ∧
        ∃ d, stubbornEngineLater.watchers.debouncers.all[w.debouncer]? = some d ∧
          d.disposed = true ∧ d.pending = [] := by
  have hreached : Reached 3 stubbornEngineLater := by
    have hsubscribed : Reached 3 stubbornEngine :=
      ((reached_initial _ _ _ _ _ _).tail (.aside (aside_subscribe ..))).tail
        (.aside (aside_subscribe ..))
    have hanswered := answered_publish 2
    exact (hsubscribed.tail (.call .start hanswered)).tail (.call .start hanswered)
  have hregistered : stubbornEngineLater.registered = some [2, 3] := by decide +kernel
  have hfirst : (stubbornEngineLater.watchers.all[0]?.map fun w => (w.told, w.running))
      = some (true, true) := by decide +kernel
  obtain ⟨w, hw, hflags⟩ := Option.map_eq_some_iff.mp hfirst
  obtain ⟨htold, hrunning⟩ := Prod.mk.inj hflags
  obtain ⟨_, _, hsession, hretired⟩ := lifecycle_reached hreached
  refine ⟨⟨hreached, hregistered⟩, (hsession _ hregistered).2.2, w, hw, hrunning, ?_⟩
  exact (hretired 0 w hw htold (by rw [hregistered]; decide) _ .refl).1

end LiveTemplates.Engine
