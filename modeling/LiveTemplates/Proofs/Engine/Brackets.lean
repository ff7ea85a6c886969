import Mathlib.Data.List.Perm.Subperm
import LiveTemplates.Proofs.Engine.Lifecycle

/-!
# Sessions in the sequence of events

The events of an engine's life cycle come in sessions: a session starts when none goes on, an
extension is told to be no longer watched only if it was told to be watched, and the session stops
(`Standing.next`). This is how it is with listeners that only record, as long as each start that
begins a session comes to tell of all its watchers (`sessions_bracketed`).

A start may fail between the two. If a watcher cannot be created the session was started and is not
stopped; if one that is not the last does not start, the extensions of those after it are told to be
no longer watched although they never were (`sessions_not_bracketed`).
-/

namespace LiveTemplates

/-! ## Sequences of events -/

/-- Where a sequence of events has come to. -/
inductive Standing
  | outside
  /-- In a session, with the extensions that are watched, the latest first. -/
  | session (watched : List String)
  /-- Some event was not in its place. -/
  | astray
deriving DecidableEq, Repr

/-- An event comes. -/
def Standing.next : Standing → Event → Standing
  | .outside, .started => .session []
  | .session watched, .startedWatching extension => .session (extension :: watched)
  | .session watched, .stoppedWatching extension =>
    if extension ∈ watched then .session (watched.erase extension) else .astray
  | .session _, .stopped => .outside
  | b, e => if e.isLifecycle then .astray else b

/-- Whether an event tells that an extension is watched from now on. -/
def Event.isStartedWatching : Event → Bool
  | .startedWatching _ => true
  | _ => false

theorem Event.isStartedWatching_eq_false {e : Event} (he : e.isLifecycle = false) :
    e.isStartedWatching = false := by
  cases e with
  | startedWatching => cases he
  | started => rfl
  | stopped => rfl
  | stoppedWatching => rfl
  | processSucceeded => rfl
  | processFailed => rfl
  | logMessage => rfl

namespace Standing

/-- Only the life cycle has to do with sessions. -/
theorem next_of_not_isLifecycle {e : Event} (he : e.isLifecycle = false) (b : Standing) :
    b.next e = b := by
  cases e with
  | started => cases he
  | stopped => cases he
  | startedWatching => cases he
  | stoppedWatching => cases he
  | processSucceeded => cases b <;> rfl
  | processFailed => cases b <;> rfl
  | logMessage => cases b <;> rfl

/-- In a session, some extensions are watched. -/
def Watches (b : Standing) (extensions : List String) : Prop :=
  ∃ watched, b = .session watched ∧ extensions.Subperm watched

theorem Watches.of_cons {b : Standing} {extension : String} {rest : List String}
    (h : b.Watches (extension :: rest)) : b.Watches rest := by
  obtain ⟨watched, rfl, hsub⟩ := h
  exact ⟨watched, rfl, (List.sublist_cons_self _ _).subperm.trans hsub⟩

/-- What is watched may be told to be no longer watched. -/
theorem Watches.next_stoppedWatching {b : Standing} {extension : String} {rest : List String}
    (h : b.Watches (extension :: rest)) : (b.next (.stoppedWatching extension)).Watches rest := by
  obtain ⟨watched, rfl, hsub⟩ := h
  have hmem : extension ∈ watched := hsub.subset List.mem_cons_self
  have herased := hsub.erase extension
  rw [List.erase_cons_head] at herased
  exact ⟨watched.erase extension, if_pos hmem, herased⟩

theorem Watches.next_stopped {b : Standing} {extensions : List String}
    (h : b.Watches extensions) : b.next .stopped = .outside := by
  obtain ⟨watched, rfl, _⟩ := h
  rfl

theorem watches_reverse (extensions : List String) :
    (session extensions.reverse).Watches extensions :=
  ⟨_, rfl, (List.reverse_perm _).symm.subperm⟩

/-- After an event that is not in its place there is no way back. -/
theorem foldl_astray (news : List Event) : news.foldl next .astray = .astray := by
  induction news with
  | nil => rfl
  | cons e news ih =>
    have hnext : next .astray e = .astray := by
      cases he : e.isLifecycle with
      | true => simp [next, he]
      | false => exact next_of_not_isLifecycle he _
    rw [List.foldl_cons, hnext, ih]

theorem foldl_astray_ne {news : List Event} {watched : List String} :
    news.foldl next .astray ≠ .session watched := by
  intro h
  rw [foldl_astray] at h
  cases h

/-- Nothing but its start leads into a session. -/
theorem started_mem {news : List Event} {watched : List String}
    (h : news.foldl next .outside = .session watched) : Event.started ∈ news := by
  induction news with
  | nil => cases h
  | cons e news ih =>
    cases e with
    | started => exact List.mem_cons_self
    | stopped => exact absurd h foldl_astray_ne
    | startedWatching => exact absurd h foldl_astray_ne
    | stoppedWatching => exact absurd h foldl_astray_ne
    | processSucceeded => exact List.mem_cons_of_mem _ (ih h)
    | processFailed => exact List.mem_cons_of_mem _ (ih h)
    | logMessage => exact List.mem_cons_of_mem _ (ih h)

end Standing

namespace Engine

open Relation

variable {emit : Event → Engine → Engine} {s s' s'' : Engine} {i depth n n' : Nat} {ws : List Nat}
  {b b' b'' : Standing} {watched : List String}

/-! ## Listeners that only record -/

/-- All listeners of a bus only record, or fail. -/
def OnlyRecords (b : EventBus Listener) : Prop :=
  ∀ subscription ∈ b.subscriptions,
    subscription.listener.action = .record ∨ subscription.listener.action = .fail

/-- An event was noted, and nothing else happened but that listeners took notes. -/
def Noted (e : Event) (s s' : Engine) : Prop :=
  ∃ spent observations log, s' = { s.note e with
    spent := spent, observations := observations, log := log }

theorem noted_hear {e : Event} {subscription : Subscription Listener}
    (haction : subscription.listener.action = .record ∨ subscription.listener.action = .fail)
    (h : Noted e s s') : Noted e s (hear emit subscription e s').1 := by
  refine keeps_hear (P := Noted e s) ?_ ?_ (fun s' h => ?_) h
  · rintro _ spent ⟨_, _, _, rfl⟩
    exact ⟨_, _, _, rfl⟩
  · rintro _ observations ⟨_, _, _, rfl⟩
    exact ⟨_, _, _, rfl⟩
  · rcases haction with haction | haction
    · rwa [haction]
    · rwa [haction]

/-- Listeners that only record change nothing but what they record. -/
theorem noted_publish (depth : Nat) (e : Event) (h : OnlyRecords s.bus) :
    Noted e s (publish depth e s) := by
  have hnoted : Noted e s (s.note e) := ⟨_, _, _, rfl⟩
  cases depth with
  | zero => exact hnoted
  | succ depth =>
    refine BusHost.publish_induction (fun s' entry h => ?_)
      (fun subscription hmem s' h' => noted_hear (h subscription (List.mem_filter.mp hmem).1) h')
      hnoted
    obtain ⟨_, _, _, rfl⟩ := h
    exact ⟨_, _, _, rfl⟩

/-- The listeners of a bus let the life cycle stand in a transition. -/
theorem discreet_publish (depth : Nat) : Discreet (publish depth) :=
  discreet_answered (answered_publish depth)

/-! ## What is told of -/

variable (depth)

/--
Some time later, with the same listeners. The events that were published meanwhile lead from one
standing to another, and a number of them tell of extensions that are watched from now on.
-/
structure Tells (s s' : Engine) (b b' : Standing) (n : Nat) : Prop where
  bus : s'.bus = s.bus
  news : ∃ news, s'.published = s.published ++ news ∧ news.foldl Standing.next b = b' ∧
    news.countP Event.isStartedWatching = n

theorem Tells.trans (h : Tells s s' b b' n) (h' : Tells s' s'' b' b'' n') :
    Tells s s'' b b'' (n + n') := by
  obtain ⟨news, hpublished, hleads, hcount⟩ := h.news
  obtain ⟨news', hpublished', hleads', hcount'⟩ := h'.news
  refine ⟨h'.bus.trans h.bus, news ++ news', ?_, ?_, ?_⟩
  · rw [hpublished', hpublished, List.append_assoc]
  · rw [List.foldl_append, hleads, hleads']
  · rw [List.countP_append, hcount, hcount']

/-- Nothing is told of by changes that are not published. -/
theorem tells_nothing (b : Standing) (hbus : s'.bus = s.bus)
    (hpublished : s'.published = s.published) : Tells s s' b b 0 :=
  ⟨hbus, [], by rw [hpublished, List.append_nil], rfl, rfl⟩

/-- What is not published may change besides. -/
theorem Tells.unpublished (h : Tells s s' b b' n) (hbus : s''.bus = s'.bus)
    (hpublished : s''.published = s'.published) : Tells s s'' b b' n :=
  h.trans (tells_nothing b' hbus hpublished)

theorem Tells.onlyRecords (h : Tells s s' b b' n) (hs : OnlyRecords s.bus) : OnlyRecords s'.bus :=
  h.bus ▸ hs

/-- An event is told of to listeners that only record. -/
theorem tells_publish (e : Event) (hs : OnlyRecords s.bus) (b : Standing) :
    Tells s (publish depth e s) b (b.next e) (if e.isStartedWatching then 1 else 0) := by
  obtain ⟨_, _, _, heq⟩ := noted_publish depth e hs
  rw [heq]
  exact ⟨rfl, [e], rfl, rfl, by simp [List.countP_singleton]⟩

theorem tells_beside {e : Event} (he : e.isLifecycle = false)
    (hs : OnlyRecords s.bus) (b : Standing) : Tells s (publish depth e s) b b 0 := by
  have htells := tells_publish depth e hs b
  rwa [Standing.next_of_not_isLifecycle he, Event.isStartedWatching_eq_false he] at htells

/-- What messages tell of is not about sessions. -/
theorem steady_tells (hs : OnlyRecords s.bus) :
    Steady (publish depth) (Tells s · b b' n) where
  logMessage _ _ _ h := h.trans (tells_beside depth rfl (h.onlyRecords hs) b')
  log _ h := h.unpublished (by rfl) (by rfl)

/-! ## Stopping -/

/-- If a watcher ends this is told of, or else nothing is. -/
theorem tells_endWatcher (i : Nat) (hs : OnlyRecords s.bus) (b : Standing) :
    ∃ b', Tells s (endWatcher (publish depth) s i) b b' 0 ∧
      ∀ rest, b.Watches (s.watchers.extensionAt i :: rest) → b'.Watches rest := by
  have hended : Tells s ({ s with watchers := (s.watchers.dispose i).1 }.addEntries
      (s.watchers.dispose i).2.2) b b 0 := tells_nothing b rfl rfl
  unfold endWatcher
  dsimp only
  split
  · exact ⟨b, (steady_tells depth hs).message _ _ _ hended, fun _ h => h.of_cons⟩
  · refine ⟨_, (steady_tells depth hs).message _ _ _ ?_, fun _ h => h.next_stoppedWatching⟩
    exact hended.trans (tells_publish depth _ (hended.onlyRecords hs) b)

/-- **The extensions that were told to be watched may be told to be no longer watched.** -/
theorem tells_endWatchers (ws : List Nat) (hs : OnlyRecords s.bus)
    (htransition : s.inTransition = true) (b : Standing) :
    ∃ b', Tells s (ws.foldl (endWatcher (publish depth)) s) b b' 0 ∧
      (b.Watches (ws.map s.watchers.extensionAt) → b'.Watches []) := by
  induction ws generalizing s b with
  | nil => exact ⟨b, tells_nothing b rfl rfl, id⟩
  | cons i rest ih =>
    obtain ⟨b₁, htells, hleft⟩ := tells_endWatcher depth i hs b
    have hstands := stands_endWatcher (discreet_publish depth) htransition i
    have hextensions : (endWatcher (publish depth) s i).watchers.extensionAt
        = s.watchers.extensionAt := by
      funext j
      rw [hstands.watchers.extensionAt_eq, Watchers.extensionAt_dispose]
    obtain ⟨b', htells', hrest⟩ := ih (htells.onlyRecords hs)
      (hstands.inTransition.trans htransition) b₁
    rw [hextensions] at hrest
    exact ⟨b', htells.trans htells', fun h => hrest (hleft _ h)⟩

/-- The end of a session tells that it stops. -/
theorem tells_teardown (hs : OnlyRecords s.bus) (h : s.registered = some ws) (b : Standing) :
    ∃ b', Tells s (teardown (publish depth) s) b b' 0 ∧
      (b.Watches (ws.map s.watchers.extensionAt) → b' = .outside) := by
  have hstopping : Tells s { s with state := .stopping, registered := none } b b 0 :=
    tells_nothing b rfl rfl
  obtain ⟨b', htells, hwatches⟩ := tells_endWatchers depth
    (s := { s with state := .stopping, registered := none }) ws hs rfl b
  have hended := hstopping.trans htells
  have htold := (steady_tells depth hs).message "Engine stopped" "" .diagnostic
    (hended.trans (tells_publish depth .stopped (hended.onlyRecords hs) b'))
  unfold teardown
  rw [h]
  exact ⟨_, htold.unpublished (by rfl) (by rfl), fun h => (hwatches h).next_stopped⟩

/-- The end of a session tells of nothing to be watched, whatever was told before. -/
theorem exists_tells_teardown (hs : OnlyRecords s.bus) (b : Standing) :
    ∃ b', Tells s (teardown (publish depth) s) b b' 0 := by
  cases h : s.registered with
  | none =>
    rw [teardown_of_none h]
    exact ⟨b, tells_nothing b rfl rfl⟩
  | some ws =>
    obtain ⟨b', htells, _⟩ := tells_teardown depth hs h b
    exact ⟨b', htells⟩

/-! ## Starting -/

/-- A watcher is told of before it starts. -/
theorem tells_startWatcher (hs : OnlyRecords s.bus) (watched : List String) :
    Tells s (startWatcher (publish depth) s i).1 (.session watched)
      (.session (s.watchers.extensionAt i :: watched)) 1 := by
  have htold := (steady_tells depth hs).message
    s!"Engine listening for file type {s.watcherExtension i}" "" .diagnostic (tells_publish depth (.startedWatching (s.watcherExtension i)) hs
      (.session watched))
  unfold startWatcher
  dsimp only
  split
  · exact htold.unpublished (by rfl) (by rfl)
  · exact htold.unpublished (by rfl) (by rfl)

/-- The first of the watchers are told of, and if all of them start all of them are. -/
theorem tells_startWatchers (ws : List Nat) (watched : List String) (hs : OnlyRecords s.bus)
    (htransition : s.inTransition = true) :
    ∃ told, told <+: ws.map s.watchers.extensionAt ∧
      Tells s (startWatchers (publish depth) ws s).1 (.session watched)
        (.session (told.reverse ++ watched)) told.length ∧
      ((startWatchers (publish depth) ws s).2 = .ok () → told = ws.map s.watchers.extensionAt) ∧
      (startWatchers (publish depth) ws s).1.registered = s.registered ∧
      (startWatchers (publish depth) ws s).1.watchers.extensionAt = s.watchers.extensionAt := by
  induction ws generalizing s watched with
  | nil => exact ⟨[], List.prefix_rfl, tells_nothing _ rfl rfl, fun _ => rfl, rfl, rfl⟩
  | cons i rest ih =>
    have htells := tells_startWatcher depth (i := i) hs watched
    obtain ⟨s₁, hstands, habides, hwatchers, _⟩ :=
      stands_startWatcher (discreet_publish depth) htransition i
    have hextensions : (startWatcher (publish depth) s i).1.watchers.extensionAt
        = s.watchers.extensionAt := by
      funext j
      rw [hwatchers, Watchers.extensionAt_start, hstands.watchers.extensionAt_eq]
    rw [startWatchers]
    split
    · next heq =>
      rw [heq] at htells habides hextensions
      exact ⟨[s.watchers.extensionAt i], by simp, htells, fun h => (by cases h),
        habides.registered, hextensions⟩
    · next s₂ heq =>
      rw [heq] at htells habides hextensions
      dsimp only at htells habides hextensions
      obtain ⟨told, hinit, htells', hall, hregistered', hextensions'⟩ :=
        ih (s.watchers.extensionAt i :: watched) (htells.onlyRecords hs)
          (habides.inTransition.trans htransition)
      rw [hextensions] at hinit hall
      refine ⟨s.watchers.extensionAt i :: told, ?_, ?_, ?_, hregistered'.trans habides.registered,
        hextensions'.trans hextensions⟩
      · exact List.prefix_cons_inj _ |>.mpr hinit
      · have htold := htells.trans htells'
        rw [Nat.add_comm] at htold
        rwa [List.reverse_cons, List.append_assoc]
      · intro hok
        rw [hall hok, List.map_cons]

/-- The watchers of a session are created in silence. -/
theorem tells_createWatchers (root : Path) (extensions : List String) (b : Standing) :
    Tells s (createWatchers root extensions s).1 b b 0 := by
  induction extensions generalizing s with
  | nil => exact tells_nothing b rfl rfl
  | cons extension rest ih =>
    have hcreated : Tells s (createWatcher root extension s).1 b b 0 := by
      unfold createWatcher
      dsimp only
      split
      · exact tells_nothing b rfl rfl
      · split
        · exact tells_nothing b rfl rfl
        · split
          · exact tells_nothing b rfl rfl
          · exact tells_nothing b rfl rfl
    rw [createWatchers]
    split
    · next heq => rwa [heq] at hcreated
    · next heq =>
      rw [heq] at hcreated
      exact hcreated.trans ih

/-- What was told of when a session was begun, or was not. -/
inductive Announced (s : Engine) (r : Engine × Except EngineFailure Unit) : Prop
  | refused (h : Tells s r.1 .outside .outside 0) (hnone : r.1.registered = none)
      (hfailed : r.2 ≠ .ok ())
  /-- Some watcher was not created. -/
  | uncreated (h : Tells s r.1 .outside (.session []) 0) (hnone : r.1.registered = none)
      (hfailed : r.2 ≠ .ok ())
  /-- Of some watchers it was told, and all of them started if it was told of all. -/
  | opened {ws : List Nat} {told : List String} (hregistered : r.1.registered = some ws)
      (hextensions : ws.map r.1.watchers.extensionAt = s.settings.extensions)
      (hinit : told <+: s.settings.extensions)
      (h : Tells s r.1 .outside (.session told.reverse) told.length)
      (hall : r.2 = .ok () → told = s.settings.extensions)

theorem Announced.bus_eq {r : Engine × Except EngineFailure Unit} (h : Announced s r) :
    r.1.bus = s.bus := by
  cases h with
  | refused h => exact h.bus
  | uncreated h => exact h.bus
  | opened _ _ _ h => exact h.bus

theorem announced_openWatchers {s₀ : Engine} (hs : OnlyRecords s₀.bus)
    (htransition : s.inTransition = true) (hrest : AtRest s) (hstands : Stands s₀ s)
    (htold : Tells s₀ s .outside (.session []) 0) (monitor : Path) :
    Announced s₀ (openWatchers (publish depth) monitor s) := by
  have hcreates := creates_createWatchers monitor s.settings.extensions hrest.tidy
  have htold' := htold.trans (tells_createWatchers (s := s) monitor s.settings.extensions _)
  unfold openWatchers
  split
  · next heq =>
    rw [heq] at hcreates htold'
    exact .uncreated htold' (hcreates.1.registered.trans hrest.registered)
      (by intro h; cases h)
  · next s₁ ws heq =>
    rw [heq] at hcreates htold'
    obtain ⟨_, _, _, hextensions⟩ := hcreates.2 ws rfl
    obtain ⟨told, hinit, htells, hall, hregistered, hextensions'⟩ :=
      tells_startWatchers depth (s := { s₁ with registered := some ws }) ws []
        (htold'.onlyRecords hs) (hcreates.1.inTransition.trans htransition)
    rw [hextensions, hstands.settings] at hinit hall
    rw [List.append_nil] at htells
    refine .opened hregistered ?_ hinit ?_ hall
    · rw [hextensions', hextensions, hstands.settings]
    · have hset : Tells s₀ { s₁ with registered := some ws } .outside (.session []) 0 :=
        htold'.unpublished rfl rfl
      have hopened := hset.trans htells
      rwa [Nat.zero_add] at hopened

theorem tells_announceSession (hs : OnlyRecords s.bus) (monitor : Path) :
    Tells s (announceSession (publish depth) monitor s) .outside (.session []) 0 := by
  have hmonitor : Tells s { s with monitorPath := some monitor } .outside .outside 0 :=
    tells_nothing _ rfl rfl
  unfold announceSession
  refine (steady_tells depth hs).message _ _ _ ?_
  exact hmonitor.trans (tells_publish depth .started (hmonitor.onlyRecords hs) .outside)

theorem announced_setup (hs : OnlyRecords s.bus) (htransition : s.inTransition = true)
    (hrest : AtRest s) : Announced s (setup (publish depth) s) := by
  have hdiscreet := discreet_publish depth
  have hloaded : Stands s (loadMonitorPath (publish depth) s).1 :=
    (hdiscreet.independent htransition).steady.loadMonitorPath (.refl s)
  have htold : Tells s (loadMonitorPath (publish depth) s).1 .outside .outside 0 :=
    (steady_tells depth hs).loadMonitorPath (tells_nothing _ rfl rfl)
  unfold setup
  dsimp only
  split
  · exact .refused htold (hloaded.registered.trans hrest.registered) (by intro h; cases h)
  · exact .refused htold (hloaded.registered.trans hrest.registered) (by intro h; cases h)
  · have hannounced := hloaded.trans (stands_announceSession hdiscreet
      (hloaded.inTransition.trans htransition) (loadMonitorPath (publish depth) s).2)
    exact announced_openWatchers depth hs (hannounced.inTransition.trans htransition)
      (hrest.stands hannounced) hannounced
      (htold.trans (tells_announceSession depth (htold.onlyRecords hs) _)) _

/-! ## Calls -/

/-- What an engine has told, if what it told is bracketed: whether it is in a session. -/
def standing (s : Engine) : Standing :=
  if s.state = .running then .session s.settings.extensions.reverse else .outside

/-- A start that begins a session tells of all extensions. -/
def TellsOfAll (emit : Event → Engine → Engine) (s : Engine) : Prop :=
  let news := (start emit s).1.published.drop s.published.length
  .started ∈ news → news.countP Event.isStartedWatching = s.settings.extensions.length

/-- A start that began a session and was allowed to has told of all its watchers. -/
theorem TellsOfAll.count_eq {s₁ s₂ : Engine} (hall : TellsOfAll emit s)
    (h₁ : Tells s s₁ b .outside 0) (h₂ : Tells s₁ s₂ .outside (.session watched) n)
    (h₃ : Tells s₂ (start emit s).1 b' b'' 0) : n = s.settings.extensions.length := by
  obtain ⟨news₁, hpublished₁, _, hcount₁⟩ := h₁.news
  obtain ⟨news₂, hpublished₂, hleads, hcount₂⟩ := h₂.news
  obtain ⟨news₃, hpublished₃, _, hcount₃⟩ := h₃.news
  have hnews : (start emit s).1.published.drop s.published.length = news₁ ++ news₂ ++ news₃ := by
    rw [hpublished₃, hpublished₂, hpublished₁, List.append_assoc, List.append_assoc,
      List.drop_left, List.append_assoc]
  have htold := hall
  unfold TellsOfAll at htold
  rw [hnews] at htold
  have hstarted : Event.started ∈ news₁ ++ news₂ ++ news₃ := by
    simp [Standing.started_mem hleads]
  rw [← htold hstarted]
  simp [hcount₁, hcount₂, hcount₃]

/-- The end of the session that an engine is in, if it is in one. -/
theorem tells_end (hs : OnlyRecords s.bus) (h : Settled s) :
    Tells s (teardown (publish depth) s) s.standing .outside 0 := by
  cases h with
  | stopped hstate hrest =>
    rw [teardown_of_none hrest.registered, standing, if_neg (by simp [hstate])]
    exact tells_nothing _ rfl rfl
  | @running hstate ws hsession =>
    obtain ⟨b, htells, hended⟩ :=
      tells_teardown depth hs hsession.registered s.standing
    have hwatches : s.standing.Watches (ws.map s.watchers.extensionAt) := by
      rw [hsession.extensions, standing, if_pos hstate]
      exact Standing.watches_reverse _
    exact hended hwatches ▸ htells

/-- A session that was begun and failed is brought to its end. -/
theorem Announced.tells_failed {r : Engine × Except EngineFailure Unit} (h : Announced s r)
    (hs : OnlyRecords s.bus) (hextensions : s.settings.extensions ≠ [])
    (hall : ∀ watched n, Tells s r.1 .outside (.session watched) n →
      n = s.settings.extensions.length) :
    ∃ n, Tells s (teardown (publish depth) r.1) .outside .outside n := by
  cases h with
  | refused h hnone =>
    rw [teardown_of_none hnone]
    exact ⟨0, h⟩
  | uncreated h _ =>
    exact absurd (List.eq_nil_of_length_eq_zero (hall _ _ h).symm) hextensions
  | @opened ws told hregistered hwatchers hinit h _ =>
    have htold : told = s.settings.extensions := hinit.eq_of_length (hall _ _ h)
    obtain ⟨b, htells, hended⟩ :=
      tells_teardown depth (h.onlyRecords hs) hregistered (.session told.reverse)
    have hwatches : (Standing.session told.reverse).Watches (ws.map r.1.watchers.extensionAt) := by
      rw [hwatchers, ← htold]
      exact Standing.watches_reverse _
    obtain rfl := hended hwatches
    exact ⟨_, h.trans htells⟩

theorem standing_of_stopped (h : s.state = .stopped) : s.standing = .outside :=
  if_neg (by simp [h])

/-- **A start keeps what is told bracketed.** -/
theorem tells_start (hs : OnlyRecords s.bus) (h : Settled s)
    (hall : TellsOfAll (publish depth) s) :
    ∃ n, Tells s (start (publish depth) s).1 s.standing (start (publish depth) s).1.standing n := by
  have hdiscreet := discreet_publish depth
  obtain ⟨hrest, hstate, hsettings⟩ := h.teardown hdiscreet
  have htorn := tells_end depth hs h
  have hstarting : Tells s { teardown (publish depth) s with state := .starting } s.standing
      .outside 0 := htorn.unpublished rfl rfl
  have hrest' : AtRest { teardown (publish depth) s with state := .starting } :=
    ⟨hrest.registered, hrest.tidy, hrest.retired⟩
  have hannounced : Announced _ _ :=
    announced_setup depth (hstarting.onlyRecords hs) rfl hrest'
  have hattempt := attempt_setup hdiscreet rfl hrest'
  rcases start_cases (publish depth) h.inTransition with
    ⟨_, hstart⟩ | ⟨hextensions, ⟨s', hset, hstart⟩ | ⟨s', e, hset, hstart⟩⟩
  · rw [hstart, standing_of_stopped hstate]
    exact ⟨0, htorn⟩
  · rw [hset] at hannounced hattempt
    cases hannounced with
    | refused _ _ hfailed => exact absurd rfl hfailed
    | uncreated _ _ hfailed => exact absurd rfl hfailed
    | @opened ws told _ _ _ htold hopened =>
      have hstanding : (start (publish depth) s).1.standing = .session told.reverse := by
        rw [hstart, hopened rfl, standing, if_pos rfl]
        exact congrArg (fun settings => Standing.session settings.extensions.reverse)
          hattempt.settings
      rw [hstanding, hstart]
      exact ⟨_, (hstarting.trans htold).unpublished rfl rfl⟩
  · rw [hset] at hannounced
    -- What has begun of the session is ended, and that tells of nothing more to be watched.
    obtain ⟨b, hended⟩ := exists_tells_teardown depth
      (hannounced.bus_eq ▸ hstarting.onlyRecords hs) .outside
    have hfinal : Tells s' (start (publish depth) s).1 .outside b 0 := by
      rw [hstart]
      exact hended.unpublished rfl rfl
    obtain ⟨n, htells⟩ := hannounced.tells_failed depth (hstarting.onlyRecords hs)
      hextensions fun watched n htold =>
        (hall.count_eq hstarting htold hfinal).trans (by rw [hsettings])
    rw [hstart,
      standing_of_stopped (s := { teardown (publish depth) s' with state := .stopped }) rfl]
    exact ⟨_, (hstarting.trans htells).unpublished rfl rfl⟩

/-- Calls that are not about the life cycle let the sessions be. -/
theorem tells_call (hs : OnlyRecords s.bus) {c : Call} (hc : c.isControl = false) :
    Tells s (s.call (publish depth) c) s.standing (s.call (publish depth) c).standing 0 := by
  have hpublishes : ∀ {s'} e, e.isLifecycle = false →
      Tells s s' s.standing s.standing 0 ∧ s'.standing = s.standing →
      Tells s (publish depth e s') s.standing s.standing 0 ∧
        (publish depth e s').standing = s.standing := by
    -- That the standing of the engine stays too needs that listeners only take notes.
    intro s' e he h
    refine ⟨h.1.trans (tells_beside depth he (h.1.onlyRecords hs) _), ?_⟩
    obtain ⟨_, _, _, heq⟩ := noted_publish depth e (h.1.onlyRecords hs)
    rw [heq, ← h.2]
    rfl
  have hsteady : Steady (publish depth)
      (fun s' => Tells s s' s.standing s.standing 0 ∧ s'.standing = s.standing) :=
    ⟨fun _ _ _ => hpublishes _ rfl, fun _ h => ⟨h.1.unpublished rfl rfl, h.2⟩⟩
  have hunmoved : Unmoved (publish depth)
      (fun s' => Tells s s' s.standing s.standing 0 ∧ s'.standing = s.standing) fun _ => True := {
    publishes := hpublishes
    log := hsteady.log
    tree := fun _ h => ⟨h.1.unpublished rfl rfl, h.2⟩
    determined := hsteady.currentMonitorPath fun _ h => ⟨h.1.unpublished rfl rfl, h.2⟩
    debouncers := fun _ h => ⟨h.1.unpublished rfl rfl, h.2⟩
    callback := fun _ _ h => ⟨h.1.unpublished rfl rfl, h.2⟩
    pending := fun _ _ _ => trivial }
  obtain ⟨htells, hstanding⟩ := hunmoved.keeps_call hc ⟨tells_nothing _ rfl rfl, rfl⟩
  exact hstanding ▸ htells

theorem tells_configure (changes : List (String × Settings.Value)) :
    Tells s (configure changes s).1 s.standing (configure changes s).1.standing 0 := by
  unfold configure
  split
  · exact tells_nothing _ rfl rfl
  · next hstopped =>
    have hstate : s.state = .stopped := Decidable.of_not_not hstopped
    split
    · exact tells_nothing _ rfl rfl
    · next settings _ =>
      rw [standing_of_stopped hstate,
        standing_of_stopped (s := { s with settings := settings, monitorPath := none }) hstate]
      exact tells_nothing _ rfl rfl

/-! ## Runs -/

/--
What happens at a time to an engine whose listeners only record, if each start that begins a session
tells of all its extensions.
-/
inductive Recorded (depth : Nat) : Engine → Engine → Prop
  | call {s : Engine} (c : Call) (hall : c = .start → TellsOfAll (publish depth) s) :
      Recorded depth s (s.call (publish depth) c)
  | aside {s s' : Engine} (h : Aside s s') (hrecords : OnlyRecords s'.bus) : Recorded depth s s'

/-- **The invariant**: what was told is bracketed, and it says whether a session goes on. -/
structure Bracketed (s : Engine) : Prop where
  settled : Settled s
  records : OnlyRecords s.bus
  told : s.published.foldl Standing.next .outside = s.standing

theorem Bracketed.tells_call (h : Bracketed s) (c : Call)
    (hall : c = .start → TellsOfAll (publish depth) s) :
    ∃ n, Tells s (s.call (publish depth) c) s.standing (s.call (publish depth) c).standing n := by
  cases hc : c.isControl with
  | false => exact ⟨0, Engine.tells_call depth h.records hc⟩
  | true =>
    rcases Call.eq_of_isControl hc with rfl | rfl | ⟨changes, rfl⟩
    · exact tells_start depth h.records h.settled (hall rfl)
    · have hended := tells_end depth h.records h.settled
      obtain ⟨_, hstate, _⟩ := h.settled.teardown (discreet_publish depth)
      have hstop : s.call (publish depth) .stop = teardown (publish depth) s := by
        simp [call, stop, h.settled.inTransition]
      rw [hstop, standing_of_stopped hstate]
      exact ⟨0, hended⟩
    · exact ⟨0, tells_configure changes⟩

variable {depth} in
/-- Each step keeps the invariant. -/
theorem Bracketed.step (h : Bracketed s) (hstep : Recorded depth s s') : Bracketed s' := by
  cases hstep with
  | call c hall =>
    obtain ⟨n, hbus, news, hpublished, hleads, _⟩ := h.tells_call depth c hall
    refine ⟨?_, hbus ▸ h.records, ?_⟩
    · exact h.settled.call (discreet_publish depth) (settled_answered (answered_publish depth)) c
    · rw [hpublished, List.foldl_append, h.told, hleads]
  | aside haside hrecords =>
    have hsettled := h.settled.stands (stands_aside haside)
    have htold := h.told
    obtain ⟨_, _, _, _, _, _, _, rfl⟩ := haside
    exact ⟨hsettled, hrecords, htold⟩

/--
**With listeners that only record, the events of the life cycle come in sessions**, as long as each
start that begins a session tells of all its extensions. Sessions start and stop in turn, and at
any time in a session an extension was told to be no longer watched at most as often as it was told
to be watched. When no call is in progress, a session goes on if the engine is running, and none
does if it is stopped.
-/
theorem sessions_bracketed {depth : Nat} {settings : EngineSettings} {ignorePatterns : List String}
    {environment : Settings.Variables} {tree : FileTree} {faults : Faults}
    {program : Option AppSettings}
    (hrun : ReflTransGen (Recorded depth)
      (initial settings ignorePatterns environment tree faults program) s) :
    (s.state = .stopped ∧ s.published.foldl Standing.next .outside = .outside) ∨
      (s.state = .running ∧ s.published.foldl Standing.next .outside
        = .session s.settings.extensions.reverse) := by
  have hbracketed : Bracketed s := by
    induction hrun with
    | refl => exact ⟨settled_initial _ _ _ _ _ _, (by intro _ h; cases h), rfl⟩
    | tail _ hstep ih => exact ih.step hstep
  cases hbracketed.settled with
  | stopped hstate _ =>
    exact .inl ⟨hstate, hbracketed.told.trans (standing_of_stopped hstate)⟩
  | running hstate _ => exact .inr ⟨hstate, hbracketed.told.trans (if_pos hstate)⟩

/-- An engine of which the second watcher does not start at first, and the first does not stop. -/
def brittleEngine : Engine :=
  (smallEngine [".a", ".b"] { Faults.none with
    watcher := fun e => if e = ".a" then some .stop else none
    upcoming := [[], [.start]] }).subscribe "r" none ⟨.record, false⟩

/-- That engine after it was started three times. -/
def brittleEngineLater : Engine :=
  [.start, .start, .start].foldl (call (publish 1)) brittleEngine

/-- That engine has three sessions and is in the third. -/
theorem brittleEngine_sessions :
    brittleEngineLater.state = .running ∧
      brittleEngineLater.published.foldl Standing.next .outside = .session [".b", ".a"] ∧
      brittleEngineLater.published.filter Event.isLifecycle =
        [.started, .startedWatching ".a", .startedWatching ".b", .stoppedWatching ".b", .stopped,
          .started, .startedWatching ".a", .startedWatching ".b", .stoppedWatching ".b", .stopped,
          .started, .startedWatching ".a", .startedWatching ".b"] := by
  have hrecords : OnlyRecords brittleEngine.bus := by
    intro subscription hmem
    obtain rfl := List.mem_singleton.mp hmem
    exact .inl rfl
  have hfirst : TellsOfAll (publish 1) brittleEngine := by
    unfold TellsOfAll
    decide +kernel
  have hsecond : TellsOfAll (publish 1) (brittleEngine.call (publish 1) .start) := by
    unfold TellsOfAll
    decide +kernel
  have hthird : TellsOfAll (publish 1)
      ((brittleEngine.call (publish 1) .start).call (publish 1) .start) := by
    unfold TellsOfAll
    decide +kernel
  have hrun : ReflTransGen (Recorded 1) (smallEngine [".a", ".b"] _) brittleEngineLater :=
    (((ReflTransGen.single (.aside (aside_subscribe ..) hrecords)).tail
      (.call .start fun _ => hfirst)).tail (.call .start fun _ => hsecond)).tail
      (.call .start fun _ => hthird)
  have hstate : brittleEngineLater.state = .running := by decide +kernel
  rcases sessions_bracketed hrun with ⟨hstopped, _⟩ | ⟨_, htold⟩
  · rw [hstate] at hstopped
    cases hstopped
  · exact ⟨hstate, htold.trans (by decide +kernel), by decide +kernel⟩

/--
Without that condition it is not so. A session whose only watcher cannot be created is not stopped,
though the engine is; and if the first of two watchers does not start, the second is told to be no
longer watched although it never was.
-/
theorem sessions_not_bracketed :
    let uncreated := (smallEngine [".a"] { Faults.none with
      watcher := fun _ => some .create }).call (publish 0) .start
    let unstarted := (smallEngine [".a", ".b"] { Faults.none with
      watcher := fun e => if e = ".a" then some .start else none }).call (publish 0) .start
    (uncreated.state = .stopped ∧
      uncreated.published.foldl Standing.next .outside = .session []) ∧
    (unstarted.state = .stopped ∧
      unstarted.published.foldl Standing.next .outside = .astray) := by
  decide +kernel

end Engine

end LiveTemplates
