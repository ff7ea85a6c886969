import LiveTemplates.Proofs.Engine.Agreement

/-!
# Starts and stops are not interrupted

What a listener does when it hears of an event may depend on how it finds the engine and on what
comes of the calls that it asks for (`Response`). Such listeners are answered in turn, to any depth
(`answer`); those of the bus are among them (`publish_eq_answer`).

A start or a stop, as a whole, is the same if the listeners ask neither to start nor to stop nor to
configure the engine and go on as if they had been refused, and it does not matter at all what they
would do in an engine that is not in a transition (`start_stop_undisturbed`).
-/

namespace LiveTemplates.Engine

open Relation

variable {emit emit' : Event → Engine → Engine} {s : Engine} {c : Call} {operation : Operation}

/-! ## Calls and their outcomes -/

/-- The operation that is not allowed in every state, if a call is for one. -/
def Call.operation? : Call → Option Operation
  | .start => some .start
  | .stop => some .stop
  | .configure _ => some .configure
  | _ => none

theorem Call.isSome_operation? (c : Call) : c.operation?.isSome = c.isControl := by
  cases c with
  | start => rfl
  | stop => rfl
  | configure changes => rfl
  | processChanged p => rfl
  | processAll => rfl
  | fileEvent e => rfl
  | advance fuel ms => rfl
  | flush => rfl

/-- What comes of a call. -/
def outcome (emit : Event → Engine → Engine) (s : Engine) : Call → Except EngineFailure Unit
  | .start => (start emit s).2
  | .stop => (stop emit s).2
  | .configure changes => (configure changes s).2
  | .processAll => (processAll emit s).2.map fun _ => ()
  | _ => .ok ()

/-- **In a transition an engine refuses to be started, stopped and configured.** -/
theorem call_operation (hs : s.inTransition = true) (hc : c.operation? = some operation) :
    s.call emit c = s ∧ s.outcome emit c = .error (.notAllowed operation s.state) := by
  have hcontrol : c.isControl = true := by rw [← Call.isSome_operation?, hc]; rfl
  have hstate := ne_stopped_of_inTransition hs
  refine ⟨call_control hs hcontrol, ?_⟩
  rcases Call.eq_of_isControl hcontrol with rfl | rfl | ⟨changes, rfl⟩
  · cases hc
    simp [outcome, start, hs]
  · cases hc
    simp [outcome, stop, hs]
  · cases hc
    simp [outcome, configure, hstate]

/-- Ways to publish that agree in transitions lead to the same outcome of what is allowed there. -/
theorem outcome_congr (hemit : Discreet emit) (hagree : Agree InTransition emit emit')
    (hs : InTransition s) (c : Call) : s.outcome emit' c = s.outcome emit c := by
  cases c with
  | start => exact congrArg Prod.snd (start_congr hemit hagree s)
  | stop => exact congrArg Prod.snd (stop_congr hemit hagree s)
  | configure changes => rfl
  | processAll =>
    rw [outcome, outcome, hemit.unmoved.toIndependent.processAll_congr hagree hs]
  | processChanged p => rfl
  | fileEvent e => rfl
  | advance fuel ms => rfl
  | flush => rfl

/-! ## Responses -/

/-- What a listener does when it hears of an event. -/
inductive Response
  | done
  /-- It goes on as it finds the engine. -/
  | look (next : Engine → Response)
  /-- It asks for a call and goes on as it comes out. -/
  | ask (c : Call) (next : Except EngineFailure Unit → Response)
  /-- Something happens beside the calls. -/
  | aside (change : Engine → Engine) (h : ∀ s, Aside s (change s)) (next : Response)

/-- The engine after a response, with a way to publish further events. -/
def Response.run (emit : Event → Engine → Engine) : Response → Engine → Engine
  | .done, s => s
  | .look next, s => (next s).run emit s
  | .ask c next, s => (next (s.outcome emit c)).run emit (s.call emit c)
  | .aside change _ next, s => next.run emit (change s)

/-- Publishes an event to listeners, of which the response to each event is given. -/
def answer (respond : Event → Response) : Nat → Event → Engine → Engine
  | 0, e, s => s.note e
  | depth + 1, e, s => (respond e).run (answer respond depth) (s.note e)

theorem Response.happens {ways : (Event → Engine → Engine) → Prop} (hemit : ways emit)
    (r : Response) (s : Engine) : ReflTransGen (Happens ways) s (r.run emit s) := by
  induction r generalizing s with
  | done => exact .refl
  | look next ih => exact ih s s
  | ask c next ih => exact .head (.call c hemit) (ih _ _)
  | aside change h next ih => exact .head (.aside (h s)) (ih _)

/-- **Such listeners are answered as any listeners are.** -/
theorem answered_answer (respond : Event → Response) (depth : Nat) :
    Answered (depth + 1) (answer respond depth) := by
  induction depth with
  | zero => exact fun _ _ => .refl
  | succ depth ih => exact fun e s => (respond e).happens ih _

theorem discreet_answer (respond : Event → Response) (depth : Nat) :
    Discreet (answer respond depth) :=
  discreet_answered (answered_answer respond depth)

/-! ## The listeners of the bus -/

namespace Response

/-- An action, and what is done after it. -/
def ofAction (next : Except EngineFailure Unit → Response) : ListenerAction → Response
  | .record => next (.ok ())
  | .fail => next (.error (.broken "listener broke"))
  | .start => .ask .start next
  | .stop => .ask .stop next
  | .configure changes => .ask (.configure changes) next
  | .process p => .ask (.processChanged p) next
  | .unsubscribe name => .aside (fun s => { s with bus := s.bus.unsubscribe name })
      (fun _ => ⟨_, _, _, _, _, _, _, rfl⟩) (next (.ok ()))

theorem run_ofAction (next : Except EngineFailure Unit → Response) (action : ListenerAction)
    (s : Engine) : (ofAction next action).run emit s
      = (next (perform emit action s).2).run emit (perform emit action s).1 := by
  cases action with
  | record => rfl
  | fail => rfl
  | start => rfl
  | stop => rfl
  | configure changes => rfl
  | process p => rfl
  | unsubscribe name => rfl

/-- A listener takes note that it acts for the first time. -/
def spend (subscription : Subscription Listener) (next : Response) : Response :=
  if subscription.listener.once then
    .aside (fun s => { s with spent := subscription.id :: s.spent })
      (fun _ => ⟨_, _, _, _, _, _, _, rfl⟩) next
  else next

theorem run_spend (subscription : Subscription Listener) (next : Response) (s : Engine) :
    (spend subscription next).run emit s = next.run emit
      (if subscription.listener.once then { s with spent := subscription.id :: s.spent } else s) := by
  unfold spend
  split
  · rfl
  · rfl

/-- A listener takes note of what came of its action. -/
def observe (name : String) (e : Event) (action : ListenerAction)
    (outcome : Except EngineFailure Unit) (next : Response) : Response :=
  .aside (fun s => { s with
      observations := s.observations ++ [⟨name, e.type, action, outcome.map fun _ => s.state⟩] })
    (fun _ => ⟨_, _, _, _, _, _, _, rfl⟩) <|
  match action, outcome with
  | .fail, .error failure =>
    .aside (fun s => s.addEntries [BusHost.failureEntry e failure.message])
      (fun s => aside_entries s _) next
  | _, _ => next

/-- A listener of the bus hears of an event, and then something else is done. -/
def ofSubscription (e : Event) (subscription : Subscription Listener) (next : Response) : Response :=
  .look fun s =>
    if subscription.listener.once && s.spent.contains subscription.id then next
    else
      spend subscription <| ofAction
        (fun outcome => observe (s.bus.nameOf subscription.id) e subscription.listener.action outcome
          next)
        subscription.listener.action

theorem run_ofSubscription (e : Event) (subscription : Subscription Listener) (next : Response)
    (s : Engine) : (ofSubscription e subscription next).run emit s
      = next.run emit ((busHost emit).deliver e s subscription) := by
  unfold ofSubscription BusHost.deliver busHost hear
  rw [run]
  dsimp only
  split
  · rfl
  · have hbus : (if subscription.listener.once then
        { s with spent := subscription.id :: s.spent } else s).bus = s.bus := by
      split
      · rfl
      · rfl
    rw [run_spend, run_ofAction, hbus]
    cases subscription.listener.action with
    | record => rfl
    | fail => rfl
    | start => rfl
    | stop => rfl
    | configure changes => rfl
    | process p => rfl
    | unsubscribe name => rfl

/-- The listeners of the bus hear of an event. -/
def ofBus (e : Event) : Response :=
  .look fun s => (s.bus.recipients e).foldr (ofSubscription e) .done

end Response

/-- **The listeners of the bus are such listeners.** -/
theorem publish_eq_answer (depth : Nat) : publish depth = answer Response.ofBus depth := by
  have hrun : ∀ emit e (subscriptions : List (Subscription Listener)) s,
      (subscriptions.foldr (Response.ofSubscription e) .done).run emit s
        = subscriptions.foldl ((busHost emit).deliver e) s := by
    intro emit e subscriptions
    induction subscriptions with
    | nil => exact fun _ => rfl
    | cons subscription rest ih =>
      intro s
      rw [List.foldr_cons, Response.run_ofSubscription, ih, List.foldl_cons]
  induction depth with
  | zero => rfl
  | succ depth ih =>
    funext e s
    rw [publish, answer, ← ih, Response.ofBus, Response.run, hrun]
    rfl

/-! ## Undisturbed -/

/-- The response without starts, stops and configurations. It goes on as if they were refused. -/
def Response.withoutControl : Response → Response
  | .done => .done
  | .look next => .look fun s => (next s).withoutControl
  | .ask c next =>
    match c.operation? with
    | some operation => .look fun s =>
        (next (.error (.notAllowed operation s.state))).withoutControl
    | none => .ask c fun outcome => (next outcome).withoutControl
  | .aside change h next => .aside change h next.withoutControl

/-- A response in transitions, and another one at other times. -/
def Response.duringTransition (r other : Response) : Response :=
  .look fun s => if s.inTransition then r else other

/-- In a transition it makes no difference whether what is refused is asked for. -/
theorem Response.run_withoutControl (hemit : Discreet emit)
    (hagree : Agree InTransition emit emit') (r : Response) (hs : InTransition s) :
    r.withoutControl.run emit' s = r.run emit s := by
  induction r generalizing s with
  | done => rfl
  | look next ih => exact ih s hs
  | ask c next ih =>
    rw [withoutControl, run]
    cases hc : c.operation? with
    | some operation =>
      -- What is refused leaves the engine as it is, so it can as well not be asked for.
      obtain ⟨hcall, hrefused⟩ := @call_operation emit s c operation hs hc
      rw [hrefused, hcall]
      exact ih _ hs
    | none =>
      have hcontrol : c.isControl = false := by rw [← Call.isSome_operation?, hc]; rfl
      rw [run, outcome_congr hemit hagree hs, hemit.unmoved.keeps_call_congr hagree hcontrol hs]
      exact ih _ (hemit.unmoved.keeps_call hcontrol hs)
  | aside change h next ih => exact ih ((stands_aside (h s)).inTransition.trans hs)

/-- Listeners ask for nothing about the life cycle in transitions, and do what they like else. -/
theorem agree_answer (respond other : Event → Response) (depth : Nat) :
    Agree InTransition (answer respond depth)
      (answer (fun e => (respond e).withoutControl.duringTransition (other e)) depth) := by
  induction depth with
  | zero => exact fun _ _ _ => rfl
  | succ depth ih =>
    intro e s hs
    have hnoted : InTransition (s.note e) := hs
    rw [answer, answer, Response.duringTransition, Response.run, if_pos hnoted]
    exact Response.run_withoutControl (discreet_answer respond depth) ih _ hnoted

/--
**Starts and stops cannot be interrupted from inside.** Take any listeners, which answer each other
to any depth. A start and a stop are the same, with all that is remembered of them, if these
listeners ask neither to start nor to stop nor to configure the engine but go on as if it had been
refused, and do anything else instead when they find the engine in no transition: they never do.
Whoever asks for that in a transition is told the state of the engine and leaves the engine as it is.
-/
theorem start_stop_undisturbed (respond other : Event → Response) (depth : Nat) (s : Engine) :
    let calm := fun e => (respond e).withoutControl.duringTransition (other e)
    start (answer calm depth) s = start (answer respond depth) s ∧
      stop (answer calm depth) s = stop (answer respond depth) s ∧
      ∀ (emit : Event → Engine → Engine) (s' : Engine) (c : Call) (operation : Operation),
        s'.inTransition = true → c.operation? = some operation →
        s'.call emit c = s' ∧ s'.outcome emit c = .error (.notAllowed operation s'.state) := by
  have hdiscreet := discreet_answer respond depth
  have hagree := agree_answer respond other depth
  exact ⟨start_congr hdiscreet hagree s, stop_congr hdiscreet hagree s,
    fun _ _ _ _ hs hc => call_operation hs hc⟩

/-- A starting engine. -/
def startingEngine : Engine :=
  { smallEngine [".a"] Faults.none with state := .starting }

/-- A listener that would stop it is refused. -/
theorem startingEngine_refuses :
    (startingEngine.inTransition = true ∧ Call.stop.operation? = some .stop) ∧
    startingEngine.call (publish 1) .stop = startingEngine ∧
    startingEngine.outcome (publish 1) .stop = .error (.notAllowed .stop .starting) :=
  ⟨⟨rfl, rfl⟩, (start_stop_undisturbed .ofBus .ofBus 1 startingEngine).2.2 (publish 1)
    startingEngine .stop .stop rfl rfl⟩

end LiveTemplates.Engine
