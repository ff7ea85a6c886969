import Mathlib.Logic.Relation
import LiveTemplates.Proofs.Engine.Frame

/-!
# Runs of an engine

A run is a sequence of calls. Between them and while they go on, other things happen: files change,
faults come and go, listeners subscribe and unsubscribe, and they take notes (`Aside`). An event is
answered by any listeners at all if all that happens before its publication is over are such things
and calls, whose events are answered in turn; `Answered` bounds how deep this goes, as `publish`
does (`answered_publish`).
-/

namespace LiveTemplates.Engine

open Relation

/-- What an engine is asked for. To enter it and to leave it are `start` and `stop`. -/
inductive Call
  | start
  | stop
  | configure (changes : List (String × Settings.Value))
  | processChanged (p : Path)
  | processAll
  | fileEvent (e : FileEvent)
  | advance (fuel : Nat) (ms : Int)
  | flush

/-- The engine after a call, whether it fails or not. -/
def call (emit : Event → Engine → Engine) (s : Engine) : Call → Engine
  | .start => (start emit s).1
  | .stop => (stop emit s).1
  | .configure changes => (configure changes s).1
  | .processChanged p => (processChanged emit p s).1
  | .processAll => (processAll emit s).1
  | .fileEvent e => (dispatch e s).1
  | .advance fuel ms => advance emit fuel ms s
  | .flush => (flush emit s).1

/-- The calls that are about the life cycle. -/
def Call.isControl : Call → Bool
  | .start | .stop | .configure _ => true
  | _ => false

theorem Call.eq_of_isControl {c : Call} (h : c.isControl = true) :
    c = .start ∨ c = .stop ∨ ∃ changes, c = .configure changes := by
  cases c with
  | start => exact .inl rfl
  | stop => exact .inr (.inl rfl)
  | configure changes => exact .inr (.inr ⟨changes, rfl⟩)
  | processChanged p => cases h
  | processAll => cases h
  | fileEvent e => cases h
  | advance fuel ms => cases h
  | flush => cases h

/-- What happens beside the calls. -/
def Aside (s s' : Engine) : Prop :=
  ∃ bus spent tree environment faults observations log, s' = { s with
    bus := bus, spent := spent, tree := tree, environment := environment, faults := faults,
    observations := observations, log := log }

/-- The engine after it took note of an event. -/
def note (e : Event) (s : Engine) : Engine :=
  { s with published := s.published ++ [e] }

/-- What happens at a time, if events are published in certain ways. -/
inductive Happens (ways : (Event → Engine → Engine) → Prop) : Engine → Engine → Prop
  | call {emit s} (c : Call) (hemit : ways emit) : Happens ways s (s.call emit c)
  | aside {s s'} (h : Aside s s') : Happens ways s s'

/-- What happens at a time while the listeners of the bus stay of a kind. -/
inductive HappensAmong (K : EventBus Listener → Prop) (ways : (Event → Engine → Engine) → Prop) :
    Engine → Engine → Prop
  | call {emit s} (c : Call) (hemit : ways emit) : HappensAmong K ways s (s.call emit c)
  | aside {s s'} (h : Aside s s') (hkind : K s.bus → K s'.bus) : HappensAmong K ways s s'

theorem HappensAmong.happens {K : EventBus Listener → Prop}
    {ways : (Event → Engine → Engine) → Prop} {s s' : Engine} (h : HappensAmong K ways s s') :
    Happens ways s s' := by
  cases h with
  | call c hemit => exact .call c hemit
  | aside h _ => exact .aside h

/-- A way to publish events to listeners whose answers are nested less deep than a bound. -/
def Answered : Nat → (Event → Engine → Engine) → Prop
  | 0, _ => False
  | depth + 1, emit => ∀ e s, ReflTransGen (Happens (Answered depth)) (s.note e) (emit e s)

/-- The engines that are reached by runs with any listeners, when no call is in progress. -/
def Reached (depth : Nat) (s : Engine) : Prop :=
  ∃ settings ignorePatterns environment tree faults program,
    ReflTransGen (Happens (Answered depth))
      (initial settings ignorePatterns environment tree faults program) s

theorem reached_initial {depth : Nat} (settings : EngineSettings) (ignorePatterns : List String)
    (environment : Settings.Variables) (tree : FileTree) (faults : Faults)
    (program : Option AppSettings) :
    Reached depth (initial settings ignorePatterns environment tree faults program) :=
  ⟨_, _, _, _, _, _, .refl⟩

theorem Reached.tail {depth : Nat} {s s' : Engine} (h : Reached depth s)
    (hstep : Happens (Answered depth) s s') : Reached depth s' := by
  obtain ⟨_, _, _, _, _, _, hrun⟩ := h
  exact ⟨_, _, _, _, _, _, hrun.tail hstep⟩

/-! ## The listeners of the bus -/

theorem aside_entries (s : Engine) (entries : List Log.Entry) : Aside s (s.addEntries entries) :=
  ⟨_, _, _, _, _, _, _, rfl⟩

theorem aside_subscribe (name : String) (type : Option EventType) (listener : Listener)
    (s : Engine) : Aside s (s.subscribe name type listener) :=
  ⟨_, _, _, _, _, _, _, rfl⟩

section Listeners

variable {K : EventBus Listener → Prop} {ways : (Event → Engine → Engine) → Prop}
  {emit : Event → Engine → Engine}

theorem happens_perform (hkind : ∀ b name, K b → K (b.unsubscribe name)) (hemit : ways emit)
    (action : ListenerAction) (s : Engine) :
    ReflTransGen (HappensAmong K ways) s (perform emit action s).1 := by
  cases action with
  | record => exact .refl
  | fail => exact .refl
  | start => exact .single (.call .start hemit)
  | stop => exact .single (.call .stop hemit)
  | configure changes => exact .single (.call (.configure changes) hemit)
  | process p => exact .single (.call (.processChanged p) hemit)
  | unsubscribe name => exact .single (.aside ⟨_, _, _, _, _, _, _, rfl⟩ (hkind _ name))

theorem happens_hear (hkind : ∀ b name, K b → K (b.unsubscribe name)) (hemit : ways emit)
    (subscription : Subscription Listener) (e : Event) (s : Engine) :
    ReflTransGen (HappensAmong K ways) s (hear emit subscription e s).1 := by
  refine keeps_hear (P := ReflTransGen (HappensAmong K ways) s) (fun _ _ h => ?_) (fun _ _ h => ?_)
    (fun _ h => h.trans (happens_perform hkind hemit _ _)) .refl
  · exact h.tail (.aside ⟨_, _, _, _, _, _, _, rfl⟩ id)
  · exact h.tail (.aside ⟨_, _, _, _, _, _, _, rfl⟩ id)

/-- The listeners of the bus act while an event is published, and may end subscriptions. -/
theorem happens_publish (hkind : ∀ b name, K b → K (b.unsubscribe name)) {depth : Nat}
    (hemit : ways (publish depth)) (e : Event) (s : Engine) :
    ReflTransGen (HappensAmong K ways) (s.note e) (publish (depth + 1) e s) :=
  BusHost.publish_induction (fun _ _ hs => hs.tail (.aside (aside_entries _ _) id))
    (fun subscription _ _ hs => hs.trans (happens_hear hkind hemit subscription e _)) .refl

end Listeners

/-- **The listeners of the bus are such listeners.** -/
theorem answered_publish (depth : Nat) : Answered (depth + 1) (publish depth) := by
  induction depth with
  | zero => exact fun _ _ => .refl
  | succ depth ih =>
    intro e s
    have hpublished : ReflTransGen (HappensAmong (fun _ => True) (Answered (depth + 1)))
        (s.note e) (publish (depth + 1) e s) := happens_publish (fun _ _ h => h) ih e s
    exact ReflTransGen.mono (fun _ _ h => h.happens) _ _ hpublished

/-! ## What runs keep -/

variable {emit : Event → Engine → Engine} {P : Engine → Prop} {s s' : Engine}

theorem Owing.keeps_call {P : List Owed → Engine → Prop} (h : Owing emit P) {owed : List Owed}
    {c : Call} (hc : c.isControl = false) (hs : P owed s) : P owed (s.call emit c) := by
  cases c with
  | start => cases hc
  | stop => cases hc
  | configure changes => cases hc
  | processChanged p => exact (h.processing owed).processChanged hs
  | processAll => exact (h.processing owed).processAll hs
  | fileEvent e => exact h.dispatch e hs
  | advance fuel ms => exact h.advance fuel ms hs
  | flush => exact h.flushAll hs

theorem Unmoved.keeps_call {Q : Nat → Prop} (h : Unmoved emit P Q) {c : Call}
    (hc : c.isControl = false) (hs : P s) : P (s.call emit c) :=
  (h.owing.keeps_call hc (unowed hs)).1

theorem Enduring.keeps_call (h : Enduring emit P) {c : Call} (hc : c.isControl = true)
    (hs : P s) : P (s.call emit c) := by
  rcases Call.eq_of_isControl hc with rfl | rfl | ⟨changes, rfl⟩
  · exact h.start hs
  · exact h.stop hs
  · exact h.configure changes hs

/-- A property that is kept by what happens at a time is kept by runs. -/
theorem keeps_run {ways : (Event → Engine → Engine) → Prop}
    (haside : ∀ {s s'}, Aside s s' → P s → P s')
    (hcall : ∀ {emit}, ways emit → ∀ c s, P s → P (s.call emit c))
    (h : ReflTransGen (Happens ways) s s') (hs : P s) : P s' := by
  induction h with
  | refl => exact hs
  | tail _ hstep ih =>
    cases hstep with
    | call c hemit => exact hcall hemit c _ ih
    | aside haside' => exact haside haside' ih

/--
A property that is kept by calls, provided that events keep it, is kept by events, however deep
their answers are nested.
-/
theorem Answered.keeps (haside : ∀ {s s'}, Aside s s' → P s → P s')
    (hnote : ∀ e s, P s → P (s.note e))
    (hcall : ∀ {depth emit}, Answered depth emit → (∀ e s, P s → P (emit e s)) →
      ∀ c s, P s → P (s.call emit c))
    {depth : Nat} (hemit : Answered depth emit) (e : Event) (hs : P s) : P (emit e s) := by
  induction depth generalizing emit e s with
  | zero => exact hemit.elim
  | succ depth ih =>
    exact keeps_run haside (fun hways c s => hcall hways (fun e _ hs => ih hways e hs) c s)
      (hemit e s) (hnote e s hs)

end LiveTemplates.Engine
