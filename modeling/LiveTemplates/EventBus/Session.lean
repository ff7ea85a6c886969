import LiveTemplates.EventBus

/-!
# A bus with scripted listeners

A session has a bus whose listeners have names. Each one does, for each event it hears of, what its
script says: it fails, subscribes a listener, unsubscribes one or publishes an event. The session
takes note of each publication and of each delivery.

Publications nest if listeners publish. `depth` bounds the nesting; nobody hears of a publication
beyond it.
-/

namespace LiveTemplates

/-- What a listener does. -/
inductive BusAction
  | fail (text : String)
  /-- Subscribes a listener with a script, unless one of that name was subscribed before. -/
  | subscribe (name : String) (type : Option EventType) (script : List BusAction)
  /-- Ends the latest subscription of a name. -/
  | unsubscribe (name : String)
  | publish (e : Event)

/-- An event, and the numbers of the subscriptions it was meant for. -/
structure Publication where
  event : Event
  recipients : List Nat
deriving Repr

/-- A listener heard of an event. -/
structure Delivery where
  /-- The place of the publication. -/
  publication : Nat
  /-- The number of the listener's subscription. -/
  subscription : Nat
  name : String
  event : Event
deriving Repr

/-- A bus and what has happened on it. -/
structure BusSession where
  /-- The listeners are what they do, up to a failure. -/
  bus : EventBus (List BusAction)
  publications : List Publication
  deliveries : List Delivery
  log : List Log.Entry

namespace BusSession

/-- A session with a bus without subscriptions. -/
def initial : BusSession := ⟨.initial, [], [], []⟩

/-- A new subscription. -/
def subscribe (s : BusSession) (name : String) (type : Option EventType)
    (script : List BusAction) : BusSession :=
  { s with bus := s.bus.subscribe name type script }

/-- Ends the latest subscription of a name. -/
def unsubscribe (s : BusSession) (name : String) : BusSession :=
  { s with bus := s.bus.unsubscribe name }

/-- What a script does, and the words with which it fails. -/
def act (publish : Event → BusSession → BusSession) :
    List BusAction → BusSession → BusSession × Option String
  | [], s => (s, none)
  | .fail text :: _, s => (s, some text)
  | .subscribe name type script :: rest, s =>
    act publish rest
      (if s.bus.names.contains name then s else s.subscribe name type script)
  | .unsubscribe name :: rest, s => act publish rest (s.unsubscribe name)
  | .publish e :: rest, s => act publish rest (publish e s)

/--
The session as the host of its bus during a publication, with a way to publish further events.
-/
def host (publication : Nat) (publish : Event → BusSession → BusSession) :
    BusHost BusSession (List BusAction) where
  bus := bus
  tell subscription e s :=
    let delivery := ⟨publication, subscription.id, s.bus.nameOf subscription.id, e⟩
    act publish subscription.listener { s with deliveries := s.deliveries ++ [delivery] }
  addEntry entry s := { s with log := s.log ++ [entry] }

/-- Publishes an event. -/
def publish : Nat → Event → BusSession → BusSession
  | 0, _, s => s
  | depth + 1, e, s =>
    let publication := ⟨e, (s.bus.recipients e).map Subscription.id⟩
    (host s.publications.length (publish depth)).publish e
      { s with publications := s.publications ++ [publication] }

end BusSession

end LiveTemplates
