import LiveTemplates.Clock
import LiveTemplates.Debounce
import LiveTemplates.Log.Entry

/-!
# Debouncers on a clock

Several debouncers share a clock; each of their timers carries the place of its debouncer and what
to expire. A host is a state that holds them and knows what a callback does to it, also to the
debouncers: `fire`, `flush` and `advance` call back in the order in which the changes settle.
-/

namespace LiveTemplates

/-- What a debouncer's timer does. -/
structure Expiry where
  /-- The place of the debouncer. -/
  owner : Nat
  path : Path
  generation : Nat
deriving DecidableEq, Repr

/-- Debouncers and the clock of their timers. -/
structure Debouncers where
  clock : Clock Expiry
  all : List Debouncer
deriving Repr

namespace Debouncers

/-- No debouncers yet. -/
def initial : Debouncers := ⟨.initial, []⟩

/-- The context of a debouncer's log entries. -/
def context (d : Debouncer) : List (String × Json) :=
  if d.label == "" then [] else [("watcher", .string d.label)]

/-- One more debouncer. -/
def add (s : Debouncers) (d : Debouncer) : Debouncers :=
  { s with all := s.all ++ [d] }

/-- Cancels the timers of some generations of a debouncer. -/
def cancel (s : Debouncers) (owner : Nat) (generations : List Nat) : Debouncers :=
  { s with clock := s.clock.cancel fun e => e.owner == owner && generations.contains e.generation }

/-- A debouncer takes notice of a change. -/
def notify (s : Debouncers) (owner : Nat) (p : Path) : Debouncers :=
  match s.all[owner]? with
  | none => s
  | some d =>
    match d.notify p with
    | (_, none) => s
    | (d', some notice) =>
      let s := s.cancel owner notice.superseded.toList
      ⟨s.clock.startTimer d.delay.microseconds ⟨owner, p, notice.started⟩, s.all.set owner d'⟩

/-- A timer runs: the path to call back for, if its change has settled, and what is logged. -/
def expire (s : Debouncers) (e : Expiry) : Debouncers × Option Path × List Log.Entry :=
  match s.all[e.owner]? with
  | none => (s, none, [])
  | some d =>
    match d.expire e.path e.generation with
    | (_, false) => (s, none, [])
    | (d', true) =>
      ({ s with all := s.all.set e.owner d' }, some e.path,
        [⟨.debug, "change_stable", ("path", .string e.path.toString) :: context d⟩])

/-- The paths to call back for when a debouncer's pending changes are settled at once. -/
def flush (s : Debouncers) (owner : Nat) : Debouncers × List Path :=
  match s.all[owner]? with
  | none => (s, [])
  | some d =>
    let (d', settled) := d.flush
    let s := { s with all := s.all.set owner d' }
    (s.cancel owner (settled.map PendingChange.generation), settled.map PendingChange.path)

/-- A debouncer is disposed of, and what is logged. -/
def dispose (s : Debouncers) (owner : Nat) : Debouncers × List Log.Entry :=
  match s.all[owner]? with
  | none => (s, [])
  | some d =>
    let (d', given) := d.dispose
    let s := { s with all := s.all.set owner d' }
    (s.cancel owner (given.map PendingChange.generation),
      if given.isEmpty then []
      else [⟨.debug, "pending_changes_cancelled", ("count", .int given.length) :: context d⟩])

/-- The pending paths of a debouncer. -/
def pendingPaths (s : Debouncers) (owner : Nat) : List Path :=
  (s.all[owner]?.map Debouncer.pendingPaths).getD []

end Debouncers

/-- A state with debouncers and a callback. -/
structure DebounceHost (σ : Type) where
  debouncers : σ → Debouncers
  /-- The state with other debouncers, and with entries added to its log. -/
  update : σ → Debouncers → List Log.Entry → σ
  /-- The callback of the debouncer at a place. -/
  call : Nat → Path → σ → σ

namespace DebounceHost

variable {σ : Type} (h : DebounceHost σ)

/-- A timer runs, with the callback if the change has settled. -/
def fire (e : Expiry) (s : σ) : σ :=
  match (h.debouncers s).expire e with
  | (d, none, log) => h.update s d log
  | (d, some p, log) => h.call e.owner p (h.update s d log)

/-- The callback for all pending changes of a debouncer, and their paths. -/
def flush (owner : Nat) (s : σ) : σ × List Path :=
  let (d, ps) := (h.debouncers s).flush owner
  (ps.foldl (fun s p => h.call owner p s) (h.update s d []), ps)

/-- Runs the timers that are due up to `limit`, at most `fuel` of them. -/
def runDue (limit : Int) : Nat → σ → σ
  | 0, s => s
  | fuel + 1, s =>
    let d := h.debouncers s
    match d.clock.nextDue? limit with
    | none => s
    | some (i, t) =>
      runDue limit fuel (h.fire t.action (h.update s { d with clock := d.clock.beginTimer i } []))

/-- Milliseconds pass. At most `fuel` timers run; without new ones, all that are due do. -/
def advance (fuel : Nat) (ms : Int) (s : σ) : σ :=
  let limit := (h.debouncers s).clock.now + 1000 * ms
  let s := h.runDue limit fuel s
  let d := h.debouncers s
  h.update s { d with clock := { d.clock with now := limit } } []

end DebounceHost

end LiveTemplates
