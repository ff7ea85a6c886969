import LiveTemplates.Engine.Processing

/-!
# Listeners of an engine

A listener may use the engine: start it, stop it, change its settings, process a file or end a
subscription. What it does happens within the operation that published the event, and what it is
refused is noted. Only a listener that fails by itself fails for the bus.

Events nest if listeners cause further ones. `depth` bounds the nesting; an event beyond it is
published to nobody.
-/

namespace LiveTemplates.Engine

/-- What a listener's action does to the engine. -/
def perform (emit : Event → Engine → Engine) (action : ListenerAction) (s : Engine) :
    Engine × Except EngineFailure Unit :=
  match action with
  | .record => (s, .ok ())
  | .fail => (s, .error (.broken "listener broke"))
  | .start => start emit s
  | .stop => stop emit s
  | .configure changes => configure changes s
  | .process p => ((processChanged emit p s).1, .ok ())
  | .unsubscribe name => ({ s with bus := s.bus.unsubscribe name }, .ok ())

/-- A listener hears of an event; with the words with which it fails, if it does. -/
def hear (emit : Event → Engine → Engine) (subscription : Subscription Listener) (e : Event)
    (s : Engine) : Engine × Option String :=
  let listener := subscription.listener
  if listener.once && s.spent.contains subscription.id then (s, none)
  else
    let s := if listener.once then { s with spent := subscription.id :: s.spent } else s
    let name := s.bus.nameOf subscription.id
    let (s, outcome) := perform emit listener.action s
    let observation := ⟨name, e.type, listener.action, outcome.map fun _ => s.state⟩
    let failure :=
      match listener.action, outcome with
      | .fail, .error e => some e.message
      | _, _ => none
    ({ s with observations := s.observations ++ [observation] }, failure)

/-- The engine as the host of its bus, with a way to publish further events. -/
def busHost (emit : Event → Engine → Engine) : BusHost Engine Listener where
  bus := bus
  tell := hear emit
  addEntry entry s := s.addEntries [entry]

/-- Publishes an event. -/
def publish : Nat → Event → Engine → Engine
  | 0, e, s => { s with published := s.published ++ [e] }
  | depth + 1, e, s =>
    (busHost (publish depth)).publish e { s with published := s.published ++ [e] }

/-- A listener subscribes. -/
def subscribe (name : String) (type : Option EventType) (listener : Listener) (s : Engine) :
    Engine :=
  { s with bus := s.bus.subscribe name type listener }

/-- Ends the latest subscription of a name. -/
def unsubscribe (name : String) (s : Engine) : Engine :=
  { s with bus := s.bus.unsubscribe name }

end LiveTemplates.Engine
