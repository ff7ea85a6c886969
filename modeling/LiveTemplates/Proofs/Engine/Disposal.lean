import LiveTemplates.Proofs.Debounce.Disposal
import LiveTemplates.Proofs.Engine.Lifecycle
import LiveTemplates.Proofs.Watch.Attention

/-!
# After a stop

To stop an engine disposes of its watchers' debouncers. A listener may do so at any moment, also
while a timer or a flush calls back, and what is in progress then goes on. So here an engine is
looked at from moment to moment (`Next`), with the callbacks that its debouncers have committed to
and not made yet. All calls and all events are made of such steps (`run_call`, `run_answered`).

After a stop nobody commits to a callback (`Dwindles`). But those that a flush has taken out before
are still made, one by one, and each of them processes a file, although the engine was stopped
(`made_after_stop`).
-/

namespace LiveTemplates.Engine

open Relation

variable {emit : Event → Engine → Engine} {depth : Nat} {s s' : Engine} {owed : List Owed}
  {o : Owed} {i : Nat}

/-! ## From moment to moment -/

/-- An engine at a moment, with the callbacks that are owed, the next one first. -/
structure Moment where
  owed : List Owed
  engine : Engine

/--
Something happens that is neither about the life cycle nor about watchers: a file is read or written,
a listener takes a note or unsubscribes, the directory is determined.
-/
structure Works (s s' : Engine) : Prop extends Abides s s' where
  watchers : s'.watchers = s.watchers
  callbacks : s'.callbacks = s.callbacks

/-- What happens from one moment to the next. Some of the calls that are about the life cycle do. -/
inductive Next (controls : Call → Prop) : Moment → Moment → Prop
  | control {owed : List Owed} {s : Engine} {depth : Nat} {emit : Event → Engine → Engine} (c : Call)
      (hc : controls c) (hemit : Answered depth emit) :
      Next controls ⟨owed, s⟩ ⟨owed, s.call emit c⟩
  | work {owed : List Owed} {s s' : Engine} (h : Works s s') : Next controls ⟨owed, s⟩ ⟨owed, s'⟩
  | notify {owed : List Owed} {s : Engine} {i : Nat} {w : FolderWatcher} (p : Path)
      (hi : i ∈ s.watchers.observing) (hw : s.watchers.all[i]? = some w) :
      Next controls ⟨owed, s⟩
        ⟨owed, s.withDebouncers (s.watchers.debouncers.notify w.debouncer p)⟩
  | clock {owed : List Owed} {s : Engine} (clock : Clock Expiry) :
      Next controls ⟨owed, s⟩
        ⟨owed, s.withDebouncers { s.watchers.debouncers with clock := clock }⟩
  | expire {owed : List Owed} {s : Engine} (e : Expiry) :
      Next controls ⟨owed, s⟩
        ⟨s.owedByExpiry e ++ owed, s.withDebouncers (s.watchers.debouncers.expire e).1⟩
  | flush {owed : List Owed} {s : Engine} (owner : Nat) :
      Next controls ⟨owed, s⟩
        ⟨s.owedByFlush owner ++ owed, s.withDebouncers (s.watchers.debouncers.flush owner).1⟩
  | callback {owed : List Owed} {s : Engine} (o : Owed) :
      Next controls ⟨o :: owed, s⟩ ⟨owed, s.noteCallback o.owner o.path⟩

/-- From moment to moment, whatever happens. -/
def Run : Moment → Moment → Prop :=
  ReflTransGen (Next fun c => c.isControl = true)

/-- From moment to moment, without a start. -/
def RunWithoutStart : Moment → Moment → Prop :=
  ReflTransGen (Next fun c => c = .stop ∨ ∃ changes, c = .configure changes)

/-- The moments of all runs with any listeners at which no start and no stop is in progress. -/
def Arises (m : Moment) : Prop :=
  ∃ settings ignorePatterns environment tree faults program,
    Run ⟨[], initial settings ignorePatterns environment tree faults program⟩ m

theorem arises_initial (settings : EngineSettings) (ignorePatterns : List String)
    (environment : Settings.Variables) (tree : FileTree) (faults : Faults)
    (program : Option AppSettings) :
    Arises ⟨[], initial settings ignorePatterns environment tree faults program⟩ :=
  ⟨_, _, _, _, _, _, .refl⟩

theorem Arises.run {m m' : Moment} (h : Arises m) (hrun : Run m m') : Arises m' := by
  obtain ⟨_, _, _, _, _, _, hbefore⟩ := h
  exact ⟨_, _, _, _, _, _, ReflTransGen.trans hbefore hrun⟩

theorem works_note (e : Event) (s : Engine) : Works s (s.note e) :=
  ⟨⟨rfl, rfl, rfl, rfl⟩, rfl, rfl⟩

theorem works_aside (h : Aside s s') : Works s s' := by
  obtain ⟨_, _, _, _, _, _, _, rfl⟩ := h
  exact ⟨⟨rfl, rfl, rfl, rfl⟩, rfl, rfl⟩

theorem Works.stands (h : Works s s') : Stands s s' :=
  stands_of_watchers h.toAbides h.watchers

/-- What an engine does while time passes and files are processed goes from moment to moment. -/
theorem owing_run (hemit : ∀ e owed s, Run ⟨owed, s⟩ ⟨owed, emit e s⟩) (m : Moment) :
    Owing emit fun owed s => Run m ⟨owed, s⟩ where
  processing owed := .of_publishes (fun e s hs => ReflTransGen.trans hs (hemit e owed s))
    (fun _ hs => ReflTransGen.tail hs (.work ⟨⟨rfl, rfl, rfl, rfl⟩, rfl, rfl⟩))
    (fun _ hs => ReflTransGen.tail hs (.work ⟨⟨rfl, rfl, rfl, rfl⟩, rfl, rfl⟩))
    (fun _ hs => ReflTransGen.tail hs (.work ⟨⟨rfl, rfl, rfl, rfl⟩, rfl, rfl⟩))
  notify p hi hw hs := hs.tail (.notify p hi hw)
  clock clock hs := hs.tail (.clock clock)
  expire e hs := hs.tail (.expire e)
  flush owner hs := hs.tail (.flush owner)
  callback o hs := hs.tail (.callback o)

/-- **A call goes from moment to moment.** Nothing more is owed after it than before. -/
theorem run_call (hemit : Answered depth emit)
    (hevents : ∀ e owed s, Run ⟨owed, s⟩ ⟨owed, emit e s⟩) (c : Call) (owed : List Owed)
    (s : Engine) : Run ⟨owed, s⟩ ⟨owed, s.call emit c⟩ := by
  cases hc : c.isControl with
  | true => exact .single (.control c hc hemit)
  | false => exact (owing_run hevents ⟨owed, s⟩).keeps_call hc .refl

/-- **An event goes from moment to moment**, however deep its answers are nested. -/
theorem run_answered (hemit : Answered depth emit) (e : Event) (owed : List Owed) (s : Engine) :
    Run ⟨owed, s⟩ ⟨owed, emit e s⟩ := by
  induction depth generalizing emit e owed s with
  | zero => exact hemit.elim
  | succ depth ih =>
    have hanswers : ∀ s', ReflTransGen (Happens (Answered depth)) (s.note e) s' →
        Run ⟨owed, s⟩ ⟨owed, s'⟩ := by
      intro s' hrun
      induction hrun with
      | refl => exact .single (.work (works_note e s))
      | tail _ hstep ih' =>
        cases hstep with
        | call c hways =>
          exact ReflTransGen.trans ih' (run_call hways (fun e owed s => ih hways e owed s) c _ _)
        | aside haside => exact ih'.tail (.work (works_aside haside))
    exact hanswers _ (hemit e s)

/-! ## Invariants of all moments -/

/-- Whenever no start and no stop is in progress, an engine is stopped or in a session. -/
theorem Settled.next (h : Settled s) {m : Moment}
    (hnext : Next (fun c => c.isControl = true) ⟨owed, s⟩ m) : Settled m.engine := by
  cases hnext with
  | control c _ hemit => exact h.call (discreet_answered hemit) (settled_answered hemit) c
  | work hworks => exact h.stands hworks.stands
  | notify p _ _ =>
    exact h.stands ⟨⟨rfl, rfl, rfl, rfl⟩, Watchers.continues_with (Debouncers.continues_notify _ _ _)⟩
  | clock clock =>
    exact h.stands ⟨⟨rfl, rfl, rfl, rfl⟩, Watchers.continues_with (Debouncers.continues_of_all rfl)⟩
  | expire e =>
    exact h.stands ⟨⟨rfl, rfl, rfl, rfl⟩, Watchers.continues_with (Debouncers.continues_expire _ _)⟩
  | flush owner =>
    exact h.stands ⟨⟨rfl, rfl, rfl, rfl⟩, Watchers.continues_with (Debouncers.continues_flush _ _)⟩
  | callback o => exact h.stands (stands_of_watchers ⟨rfl, rfl, rfl, rfl⟩ rfl)

/-- While time passes and files are processed, watchers stay attentive if events keep them so. -/
theorem owing_attentive (hkeeps : ∀ e s, s.watchers.Attentive → (emit e s).watchers.Attentive) :
    Owing emit fun _ s => s.watchers.Attentive where
  processing _ := .of_publishes hkeeps (fun _ hs => hs) (fun _ hs => hs) (fun _ hs => hs)
  notify p hi hw hs := hs.notify hi hw p
  clock _ hs := hs.shrinks (Debouncers.continues_of_all rfl) (Debouncers.shrinks_of_all rfl)
  expire e hs := hs.shrinks (Debouncers.continues_expire _ e) (Debouncers.shrinks_expire _ e)
  flush i hs := hs.shrinks (Debouncers.continues_flush _ i) (Debouncers.shrinks_flush _ i)
  callback _ hs := hs

theorem attentive_call (hkeeps : ∀ e s, s.watchers.Attentive → (emit e s).watchers.Attentive)
    (c : Call) (s : Engine) (hs : s.watchers.Attentive) : (s.call emit c).watchers.Attentive := by
  cases hc : c.isControl with
  | false =>
    have howing := owing_attentive hkeeps
    exact @Owing.keeps_call _ _ _ howing [] c hc hs
  | true =>
    have henduring : Enduring emit fun s => s.watchers.Attentive :=
      ⟨fun e => hkeeps e _, fun hs hmoves => hmoves.watchers.attentive hs⟩
    exact henduring.keeps_call hc hs

theorem attentive_answered (hemit : Answered depth emit) (e : Event) (s : Engine)
    (hs : s.watchers.Attentive) : (emit e s).watchers.Attentive := by
  refine hemit.keeps (P := fun s => s.watchers.Attentive) ?_ (fun _ _ hs => hs)
    (fun _ hkeeps => attentive_call hkeeps) e hs
  rintro s s' ⟨_, _, _, _, _, _, _, rfl⟩ hs
  exact hs

theorem attentive_next {m : Moment} (hs : s.watchers.Attentive)
    (hnext : Next (fun c => c.isControl = true) ⟨owed, s⟩ m) : m.engine.watchers.Attentive := by
  cases hnext with
  | control c _ hemit => exact attentive_call (attentive_answered hemit) c s hs
  | work hworks =>
    rw [hworks.watchers]
    exact hs
  | notify p hi hw => exact hs.notify hi hw p
  | clock _ => exact hs.shrinks (Debouncers.continues_of_all rfl) (Debouncers.shrinks_of_all rfl)
  | expire e => exact hs.shrinks (Debouncers.continues_expire _ e) (Debouncers.shrinks_expire _ e)
  | flush i => exact hs.shrinks (Debouncers.continues_flush _ i) (Debouncers.shrinks_flush _ i)
  | callback _ => exact hs

theorem Arises.invariants {m : Moment} (h : Arises m) :
    Settled m.engine ∧ m.engine.watchers.Attentive := by
  obtain ⟨_, _, _, _, _, _, hrun⟩ := h
  induction hrun with
  | refl => exact ⟨settled_initial .., Watchers.attentive_initial⟩
  | tail _ hnext ih => exact ⟨ih.1.next hnext, attentive_next ih.2 hnext⟩

/-! ## What is made of what is owed -/

/-- A callback as it is noted when it is made. -/
def Owed.made (o : Owed) : Nat × Path :=
  (o.owner, o.path)

theorem owedByExpiry_eq_nil (h : ∀ d ∈ s.watchers.debouncers.all, d.pending = []) (e : Expiry) :
    s.owedByExpiry e = [] := by
  refine List.eq_nil_iff_forall_not_mem.mpr fun o ho => ?_
  obtain ⟨x, hx, hne⟩ := pending_of_mem_owedByExpiry ho
  exact hne (h x (List.mem_of_getElem? hx))

theorem owedByFlush_eq_nil (h : ∀ d ∈ s.watchers.debouncers.all, d.pending = []) (owner : Nat) :
    s.owedByFlush owner = [] := by
  refine List.eq_nil_iff_forall_not_mem.mpr fun o ho => ?_
  obtain ⟨x, hx, hne⟩ := pending_of_mem_owedByFlush ho
  exact hne (h x (List.mem_of_getElem? hx))

/-- Without a session, to stop and to configure has nothing to do with watchers. -/
theorem works_call_of_unregistered (h : s.registered = none) {c : Call}
    (hc : c = .stop ∨ ∃ changes, c = .configure changes) :
    (s.call emit c).registered = none ∧ (s.call emit c).watchers = s.watchers ∧
      (s.call emit c).callbacks = s.callbacks := by
  rcases hc with rfl | ⟨changes, rfl⟩
  · show (stop emit s).1.registered = none ∧ (stop emit s).1.watchers = s.watchers ∧
      (stop emit s).1.callbacks = s.callbacks
    unfold stop
    split
    · exact ⟨h, rfl, rfl⟩
    · rw [teardown_of_none h]
      exact ⟨h, rfl, rfl⟩
  · show (configure changes s).1.registered = none ∧ (configure changes s).1.watchers = s.watchers ∧
      (configure changes s).1.callbacks = s.callbacks
    unfold configure
    split
    · exact ⟨h, rfl, rfl⟩
    · split
      · exact ⟨h, rfl, rfl⟩
      · exact ⟨h, rfl, rfl⟩

/-- Nobody pays attention, and all callbacks since a moment were owed at that moment. -/
structure Dwindles (m m' : Moment) : Prop where
  registered : m'.engine.registered = none
  hushed : m'.engine.watchers.Hushed
  made : ∃ made, m.owed = made ++ m'.owed ∧
    m'.engine.callbacks = m.engine.callbacks ++ made.map Owed.made

/-- **Without a start nobody commits to a callback.** -/
theorem Dwindles.next {m m' m'' : Moment} (h : Dwindles m m')
    (hnext : Next (fun c => c = .stop ∨ ∃ changes, c = .configure changes) m' m'') :
    Dwindles m m'' := by
  obtain ⟨hregistered, hhushed, hmade⟩ := h
  cases hnext with
  | control c hc hemit =>
    obtain ⟨hregistered', hwatchers, hcallbacks⟩ := works_call_of_unregistered hregistered hc
    exact ⟨hregistered', hwatchers.symm ▸ hhushed, hcallbacks.symm ▸ hmade⟩
  | work hworks =>
    exact ⟨hworks.registered.trans hregistered, hworks.watchers.symm ▸ hhushed,
      hworks.callbacks.symm ▸ hmade⟩
  | notify p hi hw =>
    have hall := hhushed.all_notify hi hw p
    exact ⟨hregistered, hhushed.shrinks (Debouncers.continues_of_all hall)
      (Debouncers.shrinks_of_all hall), hmade⟩
  | clock clock =>
    exact ⟨hregistered, hhushed.shrinks (Debouncers.continues_of_all rfl)
      (Debouncers.shrinks_of_all rfl), hmade⟩
  | expire e =>
    refine ⟨hregistered, hhushed.shrinks (Debouncers.continues_expire _ e)
      (Debouncers.shrinks_expire _ e), ?_⟩
    rw [owedByExpiry_eq_nil hhushed.pending]
    exact hmade
  | flush owner =>
    refine ⟨hregistered, hhushed.shrinks (Debouncers.continues_flush _ owner)
      (Debouncers.shrinks_flush _ owner), ?_⟩
    rw [owedByFlush_eq_nil hhushed.pending]
    exact hmade
  | callback o =>
    obtain ⟨made, howed, hcallbacks⟩ := hmade
    refine ⟨hregistered, hhushed, made ++ [o], ?_, ?_⟩
    · rw [howed, List.append_assoc]
      rfl
    · show _ ++ [_] = _
      rw [hcallbacks, List.map_append, List.append_assoc]
      rfl

theorem Dwindles.run {m m' m'' : Moment} (h : Dwindles m m') (hrun : RunWithoutStart m' m'') :
    Dwindles m m'' := by
  induction hrun with
  | refl => exact h
  | tail _ hnext ih => exact ih.next hnext

/-- The callbacks that one debouncer owes. -/
def Moment.owedBy (m : Moment) (i : Nat) : List Owed :=
  m.owed.filter (·.owner == i)

/-- The callbacks that one debouncer has made. -/
def Moment.madeBy (m : Moment) (i : Nat) : List (Nat × Path) :=
  m.engine.callbacks.filter (·.1 == i)

/-- A debouncer is gone, and all its callbacks since a moment were owed at that moment. -/
structure Fades (i : Nat) (m m' : Moment) : Prop where
  tidy : m'.engine.watchers.Tidy
  gone : m'.engine.watchers.gone? i = some true
  made : ∃ made, m.owedBy i = made ++ m'.owedBy i ∧
    m'.madeBy i = m.madeBy i ++ made.map Owed.made

/-- What is gone commits to nothing. -/
theorem owner_ne_of_gone (htidy : s.watchers.Tidy) (hgone : s.watchers.gone? i = some true)
    {x : Debouncer} (hx : s.watchers.debouncers.all[o.owner]? = some x) (hne : x.pending ≠ []) :
    ¬ (o.owner == i) = true := by
  intro howner
  obtain rfl := beq_iff_eq.mp howner
  obtain ⟨y, hy, hdisposed⟩ := Watchers.exists_of_gone hgone
  obtain rfl : x = y := Option.some.inj (hx.symm.trans hy)
  exact hne (htidy.calm x (List.mem_of_getElem? hx) hdisposed)

/-- **A debouncer that is gone commits to no callback**, also when the engine is started again. -/
theorem Fades.next {m m' m'' : Moment} (h : Fades i m m')
    (hnext : Next (fun c => c.isControl = true) m' m'') : Fades i m m'' := by
  obtain ⟨htidy, hgone, hmade⟩ := h
  -- Debouncers go on, and the callbacks that are owed from now on are not by the one that is gone.
  have hgoesOn : ∀ {s owed d} (new : List Owed), m' = ⟨owed, s⟩ →
      s.watchers.debouncers.Continues d →
      (∀ o ∈ new, ∃ x, s.watchers.debouncers.all[o.owner]? = some x ∧ x.pending ≠ []) →
      Fades i m ⟨new ++ owed, s.withDebouncers d⟩ := by
    rintro s owed d new rfl hd hnew
    have hcontinues := s.watchers.continues_with hd
    refine ⟨hcontinues.tidy htidy, (hcontinues.gone_eq i).trans hgone, ?_⟩
    have hnone : new.filter (·.owner == i) = [] := by
      refine List.filter_eq_nil_iff.mpr fun o ho => ?_
      obtain ⟨x, hx, hne⟩ := hnew o ho
      exact owner_ne_of_gone htidy hgone hx hne
    show ∃ made, m.owedBy i = made ++ (new ++ owed).filter (·.owner == i) ∧ _
    rw [List.filter_append, hnone]
    exact hmade
  cases hnext with
  | @control owed s _ _ c _ hemit =>
    have hretired : Retired i (s.callbacks.filter (·.1 == i)) s := ⟨htidy, hgone, rfl⟩
    have hlater := hretired.run (.single (.call c hemit))
    refine ⟨hlater.tidy, hlater.gone, ?_⟩
    obtain ⟨made, howed, hcallbacks⟩ := hmade
    exact ⟨made, howed, hlater.callbacks.trans hcallbacks⟩
  | work hworks =>
    refine ⟨hworks.stands.watchers.tidy htidy, (hworks.stands.watchers.gone_eq i).trans hgone, ?_⟩
    obtain ⟨made, howed, hcallbacks⟩ := hmade
    refine ⟨made, howed, Eq.trans ?_ hcallbacks⟩
    show List.filter _ _ = List.filter _ _
    rw [hworks.callbacks]
  | notify p hi hw => exact hgoesOn [] rfl (Debouncers.continues_notify _ _ _) nofun
  | clock clock => exact hgoesOn [] rfl (Debouncers.continues_of_all rfl) nofun
  | expire e =>
    exact hgoesOn _ rfl (Debouncers.continues_expire _ e) fun _ => pending_of_mem_owedByExpiry
  | flush owner =>
    exact hgoesOn _ rfl (Debouncers.continues_flush _ owner) fun _ => pending_of_mem_owedByFlush
  | @callback owed s o =>
    refine ⟨htidy, hgone, ?_⟩
    obtain ⟨made, howed, hcallbacks⟩ := hmade
    change m.owedBy i = made ++ (o :: owed).filter (·.owner == i) at howed
    change s.callbacks.filter (·.1 == i) = _ at hcallbacks
    show ∃ made, m.owedBy i = made ++ owed.filter (·.owner == i) ∧
      (s.callbacks ++ [o.made]).filter (·.1 == i) = _
    rw [List.filter_append, hcallbacks]
    by_cases howner : o.owner = i
    · refine ⟨made ++ [o], ?_, ?_⟩
      · simp [howed, howner]
      · simp [Owed.made, howner]
    · refine ⟨made, ?_, ?_⟩
      · simp [howed, howner]
      · simp [Owed.made, howner]

theorem Fades.run {m m' m'' : Moment} (h : Fades i m m') (hrun : Run m' m'') : Fades i m m'' := by
  induction hrun with
  | refl => exact h
  | tail _ hnext ih => exact ih.next hnext

/-! ## After a stop -/

/-- The moment when a stop returns. -/
def Moment.stopped (emit : Event → Engine → Engine) (m : Moment) : Moment :=
  ⟨m.owed, (stop emit m.engine).1⟩

theorem Arises.stopped {m : Moment} (h : Arises m) (hemit : Answered depth emit) :
    (stop emit m.engine).2 = .ok () ∧ AtRest (m.stopped emit).engine ∧
      (m.stopped emit).engine.watchers.Attentive := by
  obtain ⟨hsettled, hattentive⟩ := h.invariants
  have hrest := (hsettled.teardown (discreet_answered hemit)).1
  have hstop : stop emit m.engine = (Engine.teardown emit m.engine, .ok ()) := by
    unfold stop
    rw [if_neg (by simp [hsettled.inTransition])]
  refine ⟨by rw [hstop], ?_, ?_⟩
  · show AtRest (stop emit m.engine).1
    rw [hstop]
    exact hrest
  · exact attentive_call (attentive_answered hemit) .stop m.engine hattentive

/--
**After a stop only callbacks are made that were owed before.** A stop at any moment returns. From
then on, as long as the engine is not started again, all callbacks that are made are those that were
owed, one after the other; and even if it is, this is so for every watcher that was told to start
before.
-/
theorem made_after_stop {m : Moment} (hm : Arises m) (hemit : Answered depth emit) :
    (stop emit m.engine).2 = .ok () ∧
    (∀ m', RunWithoutStart (m.stopped emit) m' → ∃ made, m.owed = made ++ m'.owed ∧
      m'.engine.callbacks = (m.stopped emit).engine.callbacks ++ made.map Owed.made) ∧
    ∀ (i : Nat) (w : FolderWatcher), (m.stopped emit).engine.watchers.all[i]? = some w → w.told = true →
      ∀ m', Run (m.stopped emit) m' → ∃ made, m.owedBy w.debouncer = made ++ m'.owedBy w.debouncer ∧
        m'.madeBy w.debouncer = (m.stopped emit).madeBy w.debouncer ++ made.map Owed.made := by
  obtain ⟨hstop, hrest, hattentive⟩ := hm.stopped hemit
  refine ⟨hstop, fun m' hrun => ?_, fun i w hw htold m' hrun => ?_⟩
  · have hdwindles : Dwindles (m.stopped emit) (m.stopped emit) :=
      ⟨hrest.registered, hattentive.hushed hrest.retired, [], rfl, by simp⟩
    exact (hdwindles.run hrun).made
  · have hgone := hrest.retired hw htold List.not_mem_nil
    rw [hrest.tidy.owner hw]
    have hfades : Fades i (m.stopped emit) (m.stopped emit) := ⟨hrest.tidy, hgone, [], rfl, by simp⟩
    exact (hfades.run hrun).made

/--
**After disposal only callbacks are made that were committed to before.** Whatever steps follow the
disposal of a debouncer, what they call was queued by a timer that found its own change pending, or
by a flush. An engine is disposed of by a stop: whatever it is asked for goes from moment to moment,
and after a stop at any of these moments the callbacks that are made are those that were owed.
-/
theorem callbacks_after_disposal (delay : Delay) (label : String)
    (actions later : List Debouncer.Ledger.Action) {m : Moment} (hm : Arises m)
    (hemit : Answered depth emit) :
    (let s := Debouncer.Ledger.after delay label (actions ++ [.dispose]);
      (s.started later ++ (later.foldl Debouncer.Ledger.step s).queued).Perm s.queued ∧
        ∀ c ∈ s.started later, ∃ k ∈ s.tasks, c ∈ k.queued ∧
          (k.cause = .expiry c ∨ k.cause = .flush)) ∧
    (∀ c owed s, Run ⟨owed, s⟩ ⟨owed, s.call emit c⟩) ∧
    (stop emit m.engine).2 = .ok () ∧
    (∀ m', RunWithoutStart (m.stopped emit) m' → ∃ made, m.owed = made ++ m'.owed ∧
      m'.engine.callbacks = (m.stopped emit).engine.callbacks ++ made.map Owed.made) ∧
    ∀ (i : Nat) (w : FolderWatcher), (m.stopped emit).engine.watchers.all[i]? = some w →
      w.told = true → ∀ m', Run (m.stopped emit) m' →
        ∃ made, m.owedBy w.debouncer = made ++ m'.owedBy w.debouncer ∧
          m'.madeBy w.debouncer = (m.stopped emit).madeBy w.debouncer ++ made.map Owed.made :=
  ⟨Debouncer.Ledger.exists_task_of_started delay label actions later,
    fun c owed s => run_call hemit (run_answered hemit) c owed s, made_after_stop hm hemit⟩

/-- An engine with a listener that stops it when a file could not be processed, after it started. -/
def restlessEngine : Engine :=
  ((smallEngine [".t"] Faults.none).subscribe "a" (some .processFailed) ⟨.stop, false⟩).call
    (publish 2) .start

/-- Two paths below the directory of that engine. No file is there. -/
def absentPage : Path := .ofString "/w/a.t"
def absentNote : Path := .ofString "/w/b.t"

/-- A file is reported as modified. -/
def modified (p : Path) : FileEvent :=
  ⟨false, some .modified, .text p.toString, .text ""⟩

/-- That engine when both have changed. -/
def restlessEngineLater : Engine :=
  (restlessEngine.call (publish 2) (.fileEvent (modified absentPage))).call (publish 2)
    (.fileEvent (modified absentNote))

/-- The moment at which a flush has taken both changes out. -/
def flushingEngine : Moment :=
  ⟨restlessEngineLater.owedByFlush 0, restlessEngineLater.withDebouncers
    (restlessEngineLater.watchers.debouncers.flush 0).1⟩

/-- Stopped at that moment, that engine processes both files. -/
theorem flushingEngine_goes_on :
    (Arises flushingEngine ∧ Answered 3 (publish 2)) ∧
      ∀ m', RunWithoutStart (flushingEngine.stopped (publish 2)) m' → m'.owed = [] →
        m'.engine.callbacks = [(0, absentPage), (0, absentNote)] := by
  have hanswered : Answered 3 (publish 2) := answered_publish 2
  have hcall : ∀ c s, Run ⟨[], s⟩ ⟨[], s.call (publish 2) c⟩ := fun c s =>
    run_call hanswered (run_answered hanswered) c [] s
  have hinitial : Arises ⟨[], smallEngine [".t"] Faults.none⟩ := arises_initial ..
  have hsubscribed : Arises ⟨[], (smallEngine [".t"] Faults.none).subscribe "a"
      (some .processFailed) ⟨.stop, false⟩⟩ :=
    hinitial.run (.single (.work (works_aside (aside_subscribe ..))))
  have hstarted : Arises ⟨[], restlessEngine⟩ := hsubscribed.run (hcall .start _)
  have hlater : Arises ⟨[], restlessEngineLater⟩ :=
    (hstarted.run (hcall (.fileEvent (modified absentPage)) _)).run
      (hcall (.fileEvent (modified absentNote)) _)
  have hflushes : Run ⟨[], restlessEngineLater⟩ flushingEngine := by
    have hflush : Next (fun c => c.isControl = true) ⟨[], restlessEngineLater⟩
        ⟨restlessEngineLater.owedByFlush 0 ++ [], flushingEngine.engine⟩ := .flush 0
    rw [List.append_nil] at hflush
    exact .single hflush
  have harises := hlater.run hflushes
  refine ⟨⟨harises, hanswered⟩, fun m' hrun hnone => ?_⟩
  obtain ⟨_, _, _, hmade, _⟩ := callbacks_after_disposal ⟨0, 0⟩ "" [] [] harises hanswered
  obtain ⟨made, howed, hcallbacks⟩ := hmade m' hrun
  rw [hnone, List.append_nil] at howed
  have hdue : flushingEngine.owed.map Owed.made = [(0, absentPage), (0, absentNote)] := by
    decide +kernel
  have hbefore : (flushingEngine.stopped (publish 2)).engine.callbacks = [] := by decide +kernel
  rw [hcallbacks, hbefore, ← howed, hdue, List.nil_append]

/--
**Disposal does not end a flush.** A debouncer that is disposed of between the two callbacks of a
flush calls the second one, although no timer had expired. An engine that is stopped by a listener
when the first file of a flush could not be processed goes on to process the second one.
-/
theorem flush_outlasts_disposal :
    (¬ ∀ delay label actions later,
      let s := Debouncer.Ledger.after delay label (actions ++ [.dispose])
      ∀ c ∈ s.started later, ∃ k ∈ s.tasks, c ∈ k.queued ∧ k.cause = .expiry c) ∧
    (flush (publish 2) restlessEngineLater).1.callbacks = [(0, absentPage), (0, absentNote)] ∧
    ((flush (publish 2) restlessEngineLater).1.published.map Event.type).filter
      (· ∈ [.processFailed, .stopped]) = [.processFailed, .stopped, .processFailed] := by
  refine ⟨fun h => ?_, by decide +kernel, by decide +kernel⟩
  obtain ⟨k, hk, hqueued, hcause⟩ := h ⟨0, 0⟩ ""
    [.notify absentPage, .notify absentNote, .flush, .call 0] [.call 0] ⟨absentNote, 2⟩
    (by decide +kernel)
  have hcauses : ∀ k ∈ (Debouncer.Ledger.after ⟨0, 0⟩ "" [.notify absentPage, .notify absentNote,
      .flush, .call 0, .dispose]).tasks, k.cause = .flush := by decide +kernel
  rw [hcauses k hk] at hcause
  cases hcause

end LiveTemplates.Engine
