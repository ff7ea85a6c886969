import LiveTemplates.Engine.Listening
import LiveTemplates.Engine.Watching
import LiveTemplates.Proofs.Watch.Tidy

/-!
# What operations leave as it was

An operation keeps a property of engines if the publication of events keeps it and the property has
nothing to do with what the operation changes by itself. What that is differs between the kinds of
operations. To process files changes the tree, the log and the monitored directory (`Working`,
`Independent`). While time passes, debouncers commit to callbacks before they make them; what is
kept may depend on those that are owed (`Owing`), or have nothing to do with debouncers at all
(`Unmoved`). To start, stop and configure leaves the tree and the bus alone and does to watchers
what can be done to one at a time (`Enduring`).
-/

namespace LiveTemplates

/-- Whether an event tells of a step in the life cycle of an engine. -/
def Event.isLifecycle : Event → Bool
  | .started | .stopped | .startedWatching _ | .stoppedWatching _ => true
  | _ => false

namespace BusHost

variable {σ L : Type} {h : BusHost σ L} {P : σ → Prop} {e : Event} {s : σ}

/-- What is kept when a listener is told of an event is kept when its failure is logged. -/
theorem deliver_of_tell {subscription : Subscription L}
    (hlog : ∀ s entry, P s → P (h.addEntry entry s))
    (htold : P (h.tell subscription e s).1) : P (h.deliver e s subscription) := by
  unfold deliver
  split
  · next heq => rwa [heq] at htold
  · next heq =>
    rw [heq] at htold
    exact hlog _ _ htold

/-- What each recipient of an event keeps is kept by its publication. -/
theorem publish_induction (hlog : ∀ s entry, P s → P (h.addEntry entry s))
    (htell : ∀ subscription ∈ (h.bus s).recipients e, ∀ s, P s →
      P (h.tell subscription e s).1) (hs : P s) : P (h.publish e s) := by
  have hdeliver : ∀ subscriptions : List (Subscription L),
      subscriptions ⊆ (h.bus s).recipients e → ∀ s, P s →
      P (subscriptions.foldl (h.deliver e) s) := by
    intro subscriptions
    induction subscriptions with
    | nil => exact fun _ _ hs => hs
    | cons subscription rest ih =>
      intro hsubset s hs
      exact ih (fun r hr => hsubset (List.mem_cons_of_mem _ hr)) _
        (deliver_of_tell hlog (htell subscription (hsubset List.mem_cons_self) s hs))
  exact hdeliver _ (List.Subset.refl _) s hs

end BusHost

namespace Engine

variable {emit : Event → Engine → Engine} {P : Engine → Prop} {s s' : Engine} {p : Path}

/-! ## Listeners -/

/-- What a listener keeps by what it does is kept when it hears of an event. -/
theorem keeps_hear {subscription : Subscription Listener} {e : Event}
    (hspent : ∀ s spent, P s → P { s with spent := spent })
    (hobserved : ∀ s observations, P s → P { s with observations := observations })
    (hperform : ∀ s, P s → P (perform emit subscription.listener.action s).1) (hs : P s) :
    P (hear emit subscription e s).1 := by
  unfold hear
  dsimp only
  split
  · exact hs
  · refine hobserved _ _ (hperform _ ?_)
    split
    · exact hspent _ _ hs
    · exact hs

/-! ## Messages -/

@[simp]
theorem tree_addEntries (entries : List Log.Entry) (s : Engine) :
    (s.addEntries entries).tree = s.tree := rfl

/-- A property that messages keep. -/
structure Steady (emit : Event → Engine → Engine) (P : Engine → Prop) : Prop where
  logMessage : ∀ {s} title detail severity, P s → P (emit (.logMessage title detail severity) s)
  log : ∀ {s} entries, P s → P (s.addEntries entries)

namespace Steady

variable (h : Steady emit P)
include h

theorem message (title detail : String) (severity : Severity) (hs : P s) :
    P (message emit title detail severity s) :=
  h.logMessage _ _ _ (h.log _ hs)

theorem tellSidecarProblem (problem : Option SidecarError) (hs : P s) :
    P (tellSidecarProblem emit problem s) := by
  unfold Engine.tellSidecarProblem
  split
  · exact hs
  · exact h.message _ _ _ hs

theorem loadMonitorPath (hs : P s) : P (loadMonitorPath emit s).1 := by
  have htold := h.tellSidecarProblem s.monitorChoice.2 hs
  unfold Engine.loadMonitorPath
  dsimp only
  split
  · exact htold
  · exact h.message _ _ _ htold

theorem currentMonitorPath
    (hmonitor : ∀ {s} monitorPath, P s → P { s with monitorPath := monitorPath }) (hs : P s) :
    P (currentMonitorPath emit s).1 := by
  unfold Engine.currentMonitorPath
  split
  · exact hs
  · exact hmonitor _ (h.loadMonitorPath hs)

theorem expandFile (text : List Char) (hs : P s) : P (expandFile p text s).1 := by
  unfold Engine.expandFile
  split
  · exact hs
  · split
    · exact h.log _ hs
    · exact hs
    · exact hs

/-- A file that is processed without writing its outputs. -/
theorem processFile_of_unwritten (hwrites : s.settings.writeOutputs = false) (hs : P s) :
    P (processFile emit p s).1 := by
  unfold Engine.processFile
  split
  · exact hs
  · split
    · exact hs
    · next text _ =>
      have hexpanded := h.expandFile (p := p) text hs
      split
      · next heq => rwa [heq] at hexpanded
      · next heq => rwa [heq] at hexpanded
      · next heq =>
        have hsettings : (Engine.expandFile p text s).1.settings = s.settings := by
          unfold Engine.expandFile
          split
          · rfl
          · split <;> rfl
        rw [heq] at hexpanded hsettings
        split
        · exact hexpanded
        · dsimp only at hsettings ⊢
          rw [hsettings, hwrites]
          exact hexpanded

end Steady

/-! ## Processing files -/

/-- A property that messages keep, and that the tree has nothing to do with. -/
structure Working (emit : Event → Engine → Engine) (P : Engine → Prop) : Prop
    extends Steady emit P where
  tree : ∀ {s} tree, P s → P { s with tree := tree }

namespace Working

variable (h : Working emit P)
include h

theorem writeOutput (source : Path) (text : List Char) (output : Path) (hs : P s) :
    P (writeOutput source text output s).1 := by
  unfold Engine.writeOutput
  split
  · exact h.tree _ hs
  · split
    · exact h.tree _ hs
    · exact h.log _ (h.tree _ hs)

theorem writeOutputs (source : Path) (text : List Char) (outputs : List Path) (hs : P s) :
    P (writeOutputs emit source text outputs s).1 := by
  induction outputs generalizing s with
  | nil => exact hs
  | cons output rest ih =>
    rw [Engine.writeOutputs]
    split
    · exact ih (h.message _ _ _ hs)
    · have hwritten := h.writeOutput source text output hs
      split
      · next heq => rwa [heq] at hwritten
      · next heq =>
        rw [heq] at hwritten
        exact ih hwritten

theorem processFile (hs : P s) : P (processFile emit p s).1 := by
  unfold Engine.processFile
  split
  · exact hs
  · split
    · exact hs
    · next text _ =>
      have hexpanded := h.expandFile (p := p) text hs
      split
      · next heq => rwa [heq] at hexpanded
      · next heq => rwa [heq] at hexpanded
      · next heq =>
        rw [heq] at hexpanded
        split
        · exact hexpanded
        · dsimp only
          split
          · exact h.writeOutputs _ _ _ hexpanded
          · exact hexpanded

end Working

/--
A property that the tree and the log have nothing to do with, and that lasts when the monitored
directory is determined.
-/
structure Independent (emit : Event → Engine → Engine) (P : Engine → Prop) : Prop where
  publishes : ∀ {s} e, e.isLifecycle = false → P s → P (emit e s)
  log : ∀ {s} entries, P s → P (s.addEntries entries)
  tree : ∀ {s} tree, P s → P { s with tree := tree }
  determined : ∀ {s}, P s → P (currentMonitorPath emit s).1

namespace Independent

/-- A property that events keep whatever they are, and that the directory has nothing to do with. -/
theorem of_publishes (hpublishes : ∀ e s, P s → P (emit e s))
    (hlog : ∀ {s} entries, P s → P (s.addEntries entries))
    (htree : ∀ {s} tree, P s → P { s with tree := tree })
    (hmonitor : ∀ {s} monitorPath, P s → P { s with monitorPath := monitorPath }) :
    Independent emit P where
  publishes e _ hs := hpublishes e _ hs
  log := hlog
  tree := htree
  determined hs := Steady.currentMonitorPath ⟨fun _ _ _ => hpublishes _ _, hlog⟩ hmonitor hs

theorem steady (h : Independent emit P) : Steady emit P :=
  ⟨fun _ _ _ => h.publishes _ rfl, h.log⟩

theorem working (h : Independent emit P) : Working emit P :=
  ⟨h.steady, h.tree⟩

variable (h : Independent emit P)
include h

theorem message (title detail : String) (severity : Severity) (hs : P s) :
    P (message emit title detail severity s) :=
  h.steady.message _ _ _ hs

theorem reportBreakdown (text : String) (hs : P s) : P (reportBreakdown emit p text s).1 :=
  h.message _ _ _ (h.publishes _ rfl hs)

theorem processAndReport (hs : P s) : P (processAndReport emit p s).1 := by
  unfold Engine.processAndReport
  dsimp only
  have hprocessed := h.working.processFile (p := p)
    (h.message s!"Processing file {p}..." "" .information hs)
  split
  · next heq =>
    rw [heq] at hprocessed
    exact h.reportBreakdown _ hprocessed
  · next heq =>
    rw [heq] at hprocessed
    exact h.reportBreakdown _ hprocessed
  · next heq =>
    rw [heq] at hprocessed
    split
    · exact h.message _ _ _ (h.publishes _ rfl hprocessed)
    · exact h.message _ _ _ (h.publishes _ rfl hprocessed)

theorem findDependents (target : String) (hs : P s) : P (findDependents emit target s).1 :=
  h.log _ (h.determined hs)

theorem processEach (ps : List Path) (hs : P s) : P (processEach emit ps s) := by
  induction ps generalizing s with
  | nil => exact hs
  | cons p ps ih => exact ih (h.processAndReport hs)

theorem processChanged (hs : P s) : P (processChanged emit p s).1 := by
  unfold Engine.processChanged
  dsimp only
  have hprocessed := h.processAndReport (p := p) hs
  split
  · have hfound := h.findDependents p.toString hprocessed
    split
    · next heq =>
      rw [heq] at hfound
      exact h.processEach _ hfound
    · next heq =>
      rw [heq] at hfound
      exact h.message _ _ _ hfound
  · exact hprocessed

theorem processSelected (index : ReferenceIndex) (ps : List Path) (hs : P s) :
    P (processSelected emit index ps s).1 := by
  induction ps generalizing s with
  | nil => exact hs
  | cons p ps ih =>
    rw [Engine.processSelected]
    split
    · exact hs
    · split
      · exact hs
      · split
        · exact ih (h.processAndReport hs)
        · exact ih hs

theorem processAll (hs : P s) : P (processAll emit s).1 := by
  have hindex : P (referenceIndex emit s).1 := h.determined hs
  unfold Engine.processAll
  dsimp only
  split
  · exact hindex
  · exact h.processSelected _ _ hindex

end Independent

/-! ## The passage of time -/

/-- The engine with other debouncers. -/
def withDebouncers (s : Engine) (d : Debouncers) : Engine :=
  { s with watchers := { s.watchers with debouncers := d } }

theorem debouncers_debounceHost (emit : Event → Engine → Engine) (s : Engine) :
    (debounceHost emit).debouncers s = s.watchers.debouncers := rfl

theorem update_debounceHost (emit : Event → Engine → Engine) (s : Engine) (d : Debouncers)
    (log : List Log.Entry) :
    (debounceHost emit).update s d log = (s.withDebouncers d).addEntries log := rfl

/-- The engine after it took note of a callback. -/
def noteCallback (s : Engine) (owner : Nat) (p : Path) : Engine :=
  { s with callbacks := s.callbacks ++ [(owner, p)] }

/-- What made a debouncer commit to a callback. -/
inductive Commitment
  | expiry
  | flush
deriving DecidableEq, Repr

/-- A callback that a debouncer has committed to and that was not made yet. -/
structure Owed where
  owner : Nat
  path : Path
  commitment : Commitment
deriving DecidableEq, Repr

/-- What is owed when a timer runs. -/
def owedByExpiry (s : Engine) (e : Expiry) : List Owed :=
  ((s.watchers.debouncers.expire e).2.1.map fun p => ⟨e.owner, p, .expiry⟩).toList

/-- What is owed when the pending changes of a debouncer are settled at once. -/
def owedByFlush (s : Engine) (owner : Nat) : List Owed :=
  (s.watchers.debouncers.flush owner).2.map fun p => ⟨owner, p, .flush⟩

/-- Whoever owes a callback when a timer runs had changes pending. -/
theorem pending_of_mem_owedByExpiry {e : Expiry} {o : Owed} (ho : o ∈ s.owedByExpiry e) :
    ∃ x, s.watchers.debouncers.all[o.owner]? = some x ∧ x.pending ≠ [] := by
  obtain ⟨p, hp, rfl⟩ := Option.map_eq_some_iff.mp (Option.mem_toList.mp ho)
  exact Debouncers.pending_of_expire hp

/-- Whoever owes callbacks when changes are settled at once had them pending. -/
theorem pending_of_mem_owedByFlush {owner : Nat} {o : Owed} (ho : o ∈ s.owedByFlush owner) :
    ∃ x, s.watchers.debouncers.all[o.owner]? = some x ∧ x.pending ≠ [] := by
  obtain ⟨p, hp, rfl⟩ := List.mem_map.mp ho
  exact Debouncers.pending_of_flush (List.ne_nil_of_mem hp)

/--
A property of an engine and of the callbacks that are owed, the next one first. It lasts while files
are processed, and through each thing that can happen to a debouncer while time passes.
-/
structure Owing (emit : Event → Engine → Engine) (P : List Owed → Engine → Prop) : Prop where
  processing : ∀ owed, Independent emit (P owed)
  notify : ∀ {owed s i w} (p : Path), i ∈ s.watchers.observing → s.watchers.all[i]? = some w →
    P owed s → P owed (s.withDebouncers (s.watchers.debouncers.notify w.debouncer p))
  clock : ∀ {owed s} clock, P owed s →
    P owed (s.withDebouncers { s.watchers.debouncers with clock := clock })
  expire : ∀ {owed s} e, P owed s →
    P (s.owedByExpiry e ++ owed) (s.withDebouncers (s.watchers.debouncers.expire e).1)
  flush : ∀ {owed s} owner, P owed s →
    P (s.owedByFlush owner ++ owed) (s.withDebouncers (s.watchers.debouncers.flush owner).1)
  callback : ∀ {owed s} o, P (o :: owed) s → P owed (s.noteCallback o.owner o.path)

namespace Owing

variable {P : List Owed → Engine → Prop} {owed : List Owed} (h : Owing emit P)
include h

theorem dispatch (e : FileEvent) (hs : P owed s) : P owed (dispatch e s).1 := by
  have hnotify : ∀ {d x i p entry}, i ∈ s.watchers.observing → s.watchers.all[i]? = some x →
      x.filter.forward e = .ok (some (p, entry)) → P owed (s.withDebouncers d) →
      P owed (s.withDebouncers (d.notify x.debouncer p)) :=
    fun {d _ _ _ _} hi hx _ hd => h.notify (s := s.withDebouncers d) _ hi hx hd
  obtain ⟨d, hd, hdispatch⟩ : ∃ d, P owed (s.withDebouncers d) ∧
      (s.watchers.dispatch e).1 = { s.watchers with debouncers := d } :=
    Watchers.dispatchTo_induction hnotify hs
  unfold Engine.dispatch
  dsimp only
  rw [hdispatch]
  exact (h.processing owed).log _ hd

theorem call (o : Owed) (hs : P (o :: owed) s) :
    P owed ((debounceHost emit).call o.owner o.path s) :=
  (h.processing owed).processChanged (h.callback o hs)

theorem fire (e : Expiry) (hs : P owed s) : P owed ((debounceHost emit).fire e s) := by
  have hexpired := h.expire e hs
  unfold owedByExpiry at hexpired
  unfold DebounceHost.fire
  rw [debouncers_debounceHost]
  split
  · next heq =>
    rw [heq] at hexpired
    exact (h.processing owed).log _ hexpired
  · next p _ heq =>
    rw [heq] at hexpired
    exact h.call ⟨e.owner, p, .expiry⟩ ((h.processing _).log _ hexpired)

theorem calls (owner : Nat) (commitment : Commitment) (ps : List Path)
    (hs : P (ps.map (Owed.mk owner · commitment) ++ owed) s) :
    P owed (ps.foldl (fun s p => (debounceHost emit).call owner p s) s) := by
  induction ps generalizing s with
  | nil => exact hs
  | cons p ps ih => exact ih (h.call ⟨owner, p, commitment⟩ hs)

theorem flushOne (owner : Nat) (hs : P owed s) :
    P owed ((debounceHost emit).flush owner s).1 :=
  h.calls owner .flush _ ((h.processing _).log _ (h.flush owner hs))

theorem runDue (limit : Int) (fuel : Nat) (hs : P owed s) :
    P owed ((debounceHost emit).runDue limit fuel s) := by
  induction fuel generalizing s with
  | zero => exact hs
  | succ fuel ih =>
    rw [DebounceHost.runDue]
    split
    · exact hs
    · exact ih (h.fire _ ((h.processing owed).log _ (h.clock _ hs)))

theorem advance (fuel : Nat) (ms : Int) (hs : P owed s) : P owed (advance emit fuel ms s) :=
  (h.processing owed).log _ (h.clock _ (h.runDue _ _ hs))

theorem flushWatchers (ws : List FolderWatcher) (hs : P owed s) :
    P owed (flushWatchers emit ws s).1 := by
  induction ws generalizing s with
  | nil => exact hs
  | cons w ws ih => exact ih (h.flushOne w.debouncer hs)

theorem flushAll (hs : P owed s) : P owed (Engine.flush emit s).1 :=
  h.flushWatchers _ (h.flushWatchers _ hs)

end Owing

/--
A property that also the debouncers have nothing to do with, as long as none is disposed of and only
some of them call back: those with pending changes are among them.
-/
structure Unmoved (emit : Event → Engine → Engine) (P : Engine → Prop) (Q : Nat → Prop) : Prop
    extends Independent emit P where
  debouncers : ∀ {s d}, s.watchers.debouncers.Continues d → P s → P (s.withDebouncers d)
  callback : ∀ {s owner} p, Q owner → P s → P (s.noteCallback owner p)
  pending : ∀ {s : Engine} {owner x}, s.watchers.debouncers.all[owner]? = some x →
    x.pending ≠ [] → P s → Q owner

namespace Unmoved

variable {Q : Nat → Prop} (h : Unmoved emit P Q)
include h

/-- What is owed is owed by those with pending changes. -/
theorem owing : Owing emit fun owed s => P s ∧ ∀ o ∈ owed, Q o.owner where
  processing _ := {
    publishes := fun e he hs => ⟨h.publishes e he hs.1, hs.2⟩
    log := fun _ hs => ⟨h.log _ hs.1, hs.2⟩
    tree := fun _ hs => ⟨h.tree _ hs.1, hs.2⟩
    determined := fun hs => ⟨h.determined hs.1, hs.2⟩ }
  notify _ _ _ hs := ⟨h.debouncers (Debouncers.continues_notify _ _ _) hs.1, hs.2⟩
  clock _ hs := ⟨h.debouncers (Debouncers.continues_of_all rfl) hs.1, hs.2⟩
  expire {_ s} e hs := by
    refine ⟨h.debouncers (Debouncers.continues_expire _ _) hs.1, fun o ho => ?_⟩
    rcases List.mem_append.mp ho with ho | ho
    · obtain ⟨x, hx, hne⟩ := pending_of_mem_owedByExpiry ho
      exact h.pending hx hne hs.1
    · exact hs.2 o ho
  flush owner hs := by
    refine ⟨h.debouncers (Debouncers.continues_flush _ _) hs.1, fun o ho => ?_⟩
    rcases List.mem_append.mp ho with ho | ho
    · obtain ⟨x, hx, hne⟩ := pending_of_mem_owedByFlush ho
      exact h.pending hx hne hs.1
    · exact hs.2 o ho
  callback o hs := ⟨h.callback _ (hs.2 o List.mem_cons_self) hs.1,
    fun o' ho' => hs.2 o' (List.mem_cons_of_mem _ ho')⟩

omit h in
theorem unowed (hs : P s) : P s ∧ ∀ o ∈ ([] : List Owed), Q o.owner :=
  ⟨hs, nofun⟩

theorem call {owner : Nat} (p : Path) (howner : Q owner) (hs : P s) :
    P ((debounceHost emit).call owner p s) :=
  h.toIndependent.processChanged (h.callback p howner hs)

theorem update {d : Debouncers} (log : List Log.Entry) (hd : s.watchers.debouncers.Continues d)
    (hs : P s) : P ((debounceHost emit).update s d log) :=
  h.log _ (h.debouncers hd hs)

theorem fire (e : Expiry) (hs : P s) : P ((debounceHost emit).fire e s) :=
  (h.owing.fire e (unowed hs)).1

theorem flushOne (owner : Nat) (hs : P s) : P ((debounceHost emit).flush owner s).1 :=
  (h.owing.flushOne owner (unowed hs)).1

theorem flushWatchers (ws : List FolderWatcher) (hs : P s) : P (flushWatchers emit ws s).1 :=
  (h.owing.flushWatchers ws (unowed hs)).1

end Unmoved

/-! ## Starting, stopping and configuring -/

/--
What is done to the watchers of an engine at a time. A new one has the engine's ignore patterns.
-/
inductive WatcherStep (s : Engine) : Watchers → Prop
  | stays : WatcherStep s s.watchers
  | create (root : Path) (extension : String) (recursive : Bool) (delay : Delay)
      (faults : List WatchFault) :
      WatcherStep s (s.watchers.create root extension recursive s.ignorePatterns delay faults)
  | start (i : Nat) : WatcherStep s (s.watchers.start i).1
  | dispose (i : Nat) : WatcherStep s (s.watchers.dispose i).1

theorem WatcherStep.moves {w : Watchers} (h : s.WatcherStep w) : s.watchers.Moves w := by
  cases h with
  | stays => exact .stays
  | create => exact .create ..
  | start i => exact .start i
  | dispose i => exact .dispose i

theorem WatcherStep.of_start {i : Nat} {w : Watchers} {outcome : Except WatchFault (List Log.Entry)}
    (h : s.watchers.start i = (w, outcome)) : s.WatcherStep w := by
  obtain rfl : (s.watchers.start i).1 = w := by rw [h]
  exact .start i

/-- What starting, stopping and configuring change by themselves, without the events. -/
structure Moves (s s' : Engine) : Prop where
  tree : s'.tree = s.tree
  bus : s'.bus = s.bus
  callbacks : s'.callbacks = s.callbacks
  published : s'.published = s.published
  ignorePatterns : s'.ignorePatterns = s.ignorePatterns
  step : s.WatcherStep s'.watchers

theorem Moves.watchers (h : Moves s s') : s.watchers.Moves s'.watchers :=
  h.step.moves

/-- What the steps of a start or a stop change by themselves. -/
structure Advances (s s' : Engine) : Prop extends Moves s s' where
  settings : s'.settings = s.settings
  state : s'.state = s.state
  registered : s'.registered = s.registered
  monitorPath : s'.monitorPath = s.monitorPath

/-- A property that is kept by events and by what is done to one watcher at a time. -/
structure Proceeding (emit : Event → Engine → Engine) (P : Engine → Prop) : Prop where
  publishes : ∀ {s} e, P s → P (emit e s)
  advances : ∀ {s s'}, P s → Advances s s' → P s'

theorem advances_of_watchers {watchers : Watchers} (h : s.WatcherStep watchers) :
    Advances s { s with watchers := watchers } :=
  ⟨⟨rfl, rfl, rfl, rfl, rfl, h⟩, rfl, rfl, rfl, rfl⟩

namespace Proceeding

theorem steady (h : Proceeding emit P) : Steady emit P :=
  ⟨fun _ _ _ => h.publishes _,
    fun _ hs => h.advances hs ⟨⟨rfl, rfl, rfl, rfl, rfl, .stays⟩, rfl, rfl, rfl, rfl⟩⟩

variable (h : Proceeding emit P)
include h

theorem message (title detail : String) (severity : Severity) (hs : P s) :
    P (message emit title detail severity s) :=
  h.steady.message _ _ _ hs

theorem endWatcher (i : Nat) (hs : P s) : P (endWatcher emit s i) := by
  have hdisposed : P ({ s with watchers := (s.watchers.dispose i).1 }.addEntries
      (s.watchers.dispose i).2.2) :=
    h.steady.log _ (h.advances hs (advances_of_watchers (.dispose i)))
  unfold Engine.endWatcher
  dsimp only
  split
  · exact h.message _ _ _ hdisposed
  · exact h.message _ _ _ (h.publishes _ hdisposed)

theorem endWatchers (watchers : List Nat) (hs : P s) :
    P (watchers.foldl (Engine.endWatcher emit) s) := by
  induction watchers generalizing s with
  | nil => exact hs
  | cons i rest ih => exact ih (h.endWatcher i hs)

theorem createWatcher (root : Path) (extension : String) (hs : P s) :
    P (createWatcher root extension s).1 := by
  unfold Engine.createWatcher
  dsimp only
  split
  · exact h.advances hs ⟨⟨rfl, rfl, rfl, rfl, rfl, .stays⟩, rfl, rfl, rfl, rfl⟩
  · split
    · exact h.advances hs ⟨⟨rfl, rfl, rfl, rfl, rfl, .stays⟩, rfl, rfl, rfl, rfl⟩
    · split
      · exact h.advances hs ⟨⟨rfl, rfl, rfl, rfl, rfl, .stays⟩, rfl, rfl, rfl, rfl⟩
      · exact h.advances hs ⟨⟨rfl, rfl, rfl, rfl, rfl, .create ..⟩, rfl, rfl, rfl, rfl⟩

theorem createWatchers (root : Path) (extensions : List String) (hs : P s) :
    P (createWatchers root extensions s).1 := by
  induction extensions generalizing s with
  | nil => exact hs
  | cons extension rest ih =>
    have hcreated := h.createWatcher root extension hs
    rw [Engine.createWatchers]
    split
    · next heq => rwa [heq] at hcreated
    · next heq =>
      rw [heq] at hcreated
      exact ih hcreated

theorem startWatcher (i : Nat) (hs : P s) : P (startWatcher emit s i).1 := by
  have htold := h.message s!"Engine listening for file type {s.watcherExtension i}" ""
    .diagnostic (h.publishes (.startedWatching (s.watcherExtension i)) hs)
  unfold Engine.startWatcher
  dsimp only
  split
  · next heq => exact h.advances htold (advances_of_watchers (.of_start heq))
  · next heq => exact h.steady.log _ (h.advances htold (advances_of_watchers (.of_start heq)))

theorem startWatchers (watchers : List Nat) (hs : P s) :
    P (startWatchers emit watchers s).1 := by
  induction watchers generalizing s with
  | nil => exact hs
  | cons i rest ih =>
    have hstarted := h.startWatcher i hs
    rw [Engine.startWatchers]
    split
    · next heq => rwa [heq] at hstarted
    · next heq =>
      rw [heq] at hstarted
      exact ih hstarted

end Proceeding

/-- A property that is kept by events and by what the operations change by themselves. -/
structure Enduring (emit : Event → Engine → Engine) (P : Engine → Prop) : Prop where
  publishes : ∀ {s} e, P s → P (emit e s)
  moves : ∀ {s s'}, P s → Moves s s' → P s'

namespace Enduring

theorem proceeding (h : Enduring emit P) : Proceeding emit P :=
  ⟨h.publishes, fun hs hadvances => h.moves hs hadvances.toMoves⟩

variable (h : Enduring emit P)
include h

theorem teardown (hs : P s) : P (teardown emit s) := by
  unfold Engine.teardown
  split
  · exact hs
  · next watchers _ =>
    have hstopping : P { s with state := .stopping, registered := none } :=
      h.moves hs ⟨rfl, rfl, rfl, rfl, rfl, .stays⟩
    have htold := h.proceeding.message "Engine stopped" "" .diagnostic
      (h.publishes .stopped (h.proceeding.endWatchers watchers hstopping))
    exact h.moves htold ⟨rfl, rfl, rfl, rfl, rfl, .stays⟩

theorem stop (hs : P s) : P (stop emit s).1 := by
  unfold Engine.stop
  split
  · exact hs
  · exact h.teardown hs

theorem announceSession (monitor : Path) (hs : P s) : P (announceSession emit monitor s) :=
  h.proceeding.message _ _ _ (h.publishes _ (h.moves hs ⟨rfl, rfl, rfl, rfl, rfl, .stays⟩))

theorem openWatchers (monitor : Path) (hs : P s) : P (openWatchers emit monitor s).1 := by
  have hcreated := h.proceeding.createWatchers monitor s.settings.extensions hs
  unfold Engine.openWatchers
  split
  · next heq => rwa [heq] at hcreated
  · next heq =>
    rw [heq] at hcreated
    exact h.proceeding.startWatchers _ (h.moves hcreated ⟨rfl, rfl, rfl, rfl, rfl, .stays⟩)

theorem setup (hs : P s) : P (setup emit s).1 := by
  have hloaded := h.proceeding.steady.loadMonitorPath hs
  unfold Engine.setup
  dsimp only
  split
  · exact hloaded
  · exact hloaded
  · exact h.openWatchers _ (h.announceSession _ hloaded)

theorem start (hs : P s) : P (start emit s).1 := by
  unfold Engine.start
  split
  · exact hs
  · dsimp only
    have hstopped := h.teardown hs
    split
    · exact hstopped
    · have hset : P (Engine.setup emit { Engine.teardown emit s with state := .starting }).1 :=
        h.setup (h.moves hstopped ⟨rfl, rfl, rfl, rfl, rfl, .stays⟩)
      split
      · next heq =>
        rw [heq] at hset
        exact h.moves hset ⟨rfl, rfl, rfl, rfl, rfl, .stays⟩
      · next heq =>
        rw [heq] at hset
        exact h.moves (h.teardown hset) ⟨rfl, rfl, rfl, rfl, rfl, .stays⟩

theorem configure (changes : List (String × Settings.Value)) (hs : P s) :
    P (configure changes s).1 := by
  unfold Engine.configure
  split
  · exact hs
  · split
    · exact hs
    · exact h.moves hs ⟨rfl, rfl, rfl, rfl, rfl, .stays⟩

end Enduring

end Engine

end LiveTemplates
