import LiveTemplates.Event

/-!
# Event buses

Listeners subscribe to a bus, to all events or to those of one type. An event that is published goes
to those who are subscribed at that moment, in the order in which they subscribed. A listener that
fails keeps nobody else from hearing of the event; its failure is logged.

Listeners may use the bus while they hear of an event. Who subscribes then does not hear of that
event any more, and who is unsubscribed then still does.

A host is a state that holds a bus and knows what telling a listener does to it.
-/

namespace LiveTemplates

/-- A listener and the events it hears of. -/
structure Subscription (L : Type) where
  /-- A number that no other subscription of the bus has. -/
  id : Nat
  /-- The type of the events; without one, all events. -/
  type : Option EventType
  listener : L
deriving Repr

/-- The subscriptions of a bus, in the order in which they were made. -/
structure EventBus (L : Type) where
  subscriptions : List (Subscription L)
  /-- The names of all subscriptions that were ever made; the number of each one is its place. -/
  names : List String
deriving Repr

/-- Whether a subscription is for an event. -/
def Subscription.accepts {L : Type} (s : Subscription L) (e : Event) : Bool :=
  s.type.all (· == e.type)

namespace EventBus

variable {L : Type}

/-- A bus without subscriptions. -/
def initial : EventBus L := ⟨[], []⟩

/-- A new subscription under a name, which may have been used before. -/
def subscribe (b : EventBus L) (name : String) (type : Option EventType) (listener : L) :
    EventBus L :=
  ⟨b.subscriptions ++ [⟨b.names.length, type, listener⟩], b.names ++ [name]⟩

/-- The number of the latest subscription under a name. -/
def latest? (b : EventBus L) (name : String) : Option Nat :=
  (b.names.zipIdx.filter (·.1 == name)).getLast?.map (·.2)

/-- The name of the subscription of a number. -/
def nameOf (b : EventBus L) (id : Nat) : String :=
  b.names[id]?.getD ""

/-- The bus without the latest subscription under a name, which may be gone already. -/
def unsubscribe (b : EventBus L) (name : String) : EventBus L :=
  match b.latest? name with
  | none => b
  | some id => { b with subscriptions := b.subscriptions.filter (·.id != id) }

/-- Those who are to hear of an event that is published now. -/
def recipients (b : EventBus L) (e : Event) : List (Subscription L) :=
  b.subscriptions.filter (·.accepts e)

end EventBus

/-- A state with a bus. -/
structure BusHost (σ L : Type) where
  bus : σ → EventBus L
  /-- A listener hears of an event: the state after that, and the words with which it fails. -/
  tell : Subscription L → Event → σ → σ × Option String
  /-- The state with one more entry in its log. -/
  addEntry : Log.Entry → σ → σ

namespace BusHost

variable {σ L : Type} (h : BusHost σ L)

/-- The entry of a listener that failed. -/
def failureEntry (e : Event) (text : String) : Log.Entry :=
  ⟨.error, "event_handler_failed", [("event_type", .string e.type.name), ("error", .string text)]⟩

/-- A listener hears of an event, and its failure is logged. -/
def deliver (e : Event) (s : σ) (subscription : Subscription L) : σ :=
  match h.tell subscription e s with
  | (s, none) => s
  | (s, some text) => h.addEntry (failureEntry e text) s

/-- All who are subscribed now hear of an event. -/
def publish (e : Event) (s : σ) : σ :=
  ((h.bus s).recipients e).foldl (h.deliver e) s

end BusHost

end LiveTemplates
