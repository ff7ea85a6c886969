/-!
# Timers on a clock

A clock counts microseconds, shows the full milliseconds among them, and holds timers. A timer is due
some time after it was started, and does its action once the clock has come that far, unless it was
cancelled before. Timers that are due at the same time run in the order in which they were started.

Time passes only when a host lets it pass: `nextDue?` says which timer runs next, and `beginTimer`
sets the clock to it.
-/

namespace LiveTemplates

/-- A timer: when it is due, what it does, and whether it is still to run. -/
structure Timer (α : Type) where
  due : Int
  action : α
  active : Bool
deriving Repr

/-- A clock with all timers that were ever started on it, in that order. -/
structure Clock (α : Type) where
  /-- The microseconds. -/
  now : Int
  timers : List (Timer α)
deriving Repr

namespace Clock

variable {α : Type}

/-- A clock at zero without timers. -/
def initial : Clock α := ⟨0, []⟩

/-- What the clock shows. -/
def milliseconds (c : Clock α) : Int :=
  c.now / 1000

/-- A new timer, which waits for some microseconds. -/
def startTimer (c : Clock α) (wait : Int) (action : α) : Clock α :=
  { c with timers := c.timers ++ [⟨c.now + wait, action, true⟩] }

/-- The timers without those that are cancelled. -/
def cancel (c : Clock α) (p : α → Bool) : Clock α :=
  { c with timers := c.timers.map fun t => if p t.action then { t with active := false } else t }

/-- Of two timers with their places, the one that runs first; the first if they are due together. -/
def earlier (a b : Nat × Timer α) : Nat × Timer α :=
  if b.2.due < a.2.due then b else a

/-- The timer that runs next if time passes up to `limit`, with its place. -/
def nextDue? (c : Clock α) (limit : Int) : Option (Nat × Timer α) :=
  let due := (c.timers.zipIdx.map fun (t, i) => (i, t)).filter fun (_, t) =>
    t.active && decide (t.due ≤ limit)
  match due with
  | [] => none
  | t :: rest => some (rest.foldl earlier t)

/-- The clock when the timer at a place begins to run. -/
def beginTimer (c : Clock α) (i : Nat) : Clock α :=
  match c.timers[i]? with
  | none => c
  | some t => ⟨max c.now t.due, c.timers.set i { t with active := false }⟩

end Clock

end LiveTemplates
