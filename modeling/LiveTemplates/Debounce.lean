import LiveTemplates.Delay
import LiveTemplates.Path

/-!
# Debouncing

Editors write a file in several steps. A debouncer waits until a path has been quiet for a while:
each notice of a change starts a new timer for its path, and only the timer of the latest notice
counts.

Which notice is the latest is decided by its generation, a number that is never used twice. A timer
that runs although it was cancelled, because the cancellation came too late, belongs to an old
generation and does nothing.

The four operations are the steps that exclude each other. What they decide about timers and
callbacks is part of their results.
-/

namespace LiveTemplates

/-- A path whose change has not settled, with the generation of its latest notice. -/
structure PendingChange where
  path : Path
  generation : Nat
deriving DecidableEq, Repr

/-- A debouncer. The pending changes are in the order in which their paths became pending. -/
structure Debouncer where
  /-- How long a path has to be quiet. -/
  delay : Delay
  /-- A label for log entries. -/
  label : String
  pending : List PendingChange
  lastGeneration : Nat
  disposed : Bool
deriving Repr

namespace Debouncer

/-- A debouncer without pending changes. -/
def initial (delay : Delay) (label : String) : Debouncer :=
  ⟨delay, label, [], 0, false⟩

/-- The generation of a path's pending change. -/
def generationOf? (d : Debouncer) (p : Path) : Option Nat :=
  (d.pending.find? (·.path == p)).map (·.generation)

/-- The pending paths. -/
def pendingPaths (d : Debouncer) : List Path :=
  d.pending.map (·.path)

/-- The pending changes with a new generation for a path, which keeps its place. -/
def setGeneration (p : Path) (g : Nat) : List PendingChange → List PendingChange
  | [] => [⟨p, g⟩]
  | c :: rest => if c.path == p then ⟨p, g⟩ :: rest else c :: setGeneration p g rest

/-- What a notice asks of the timers. -/
structure Notice where
  /-- The generation whose timer is to be started. -/
  started : Nat
  /-- The generation whose timer is to be cancelled. -/
  superseded : Option Nat
deriving DecidableEq, Repr

/-- Takes notice of a change. After disposal nothing happens. -/
def notify (d : Debouncer) (p : Path) : Debouncer × Option Notice :=
  if d.disposed then (d, none)
  else
    let g := d.lastGeneration + 1
    ({ d with pending := setGeneration p g d.pending, lastGeneration := g },
      some ⟨g, d.generationOf? p⟩)

/-- A timer runs: whether the change has settled, so that the callback is to be called. -/
def expire (d : Debouncer) (p : Path) (g : Nat) : Debouncer × Bool :=
  if d.generationOf? p = some g then
    ({ d with pending := d.pending.filter (·.path != p) }, true)
  else (d, false)

/-- All pending changes are settled at once: the changes for which the callback is to be called. -/
def flush (d : Debouncer) : Debouncer × List PendingChange :=
  ({ d with pending := [] }, d.pending)

/-- Nothing is pending any more, and nothing will be: the changes that are given up. -/
def dispose (d : Debouncer) : Debouncer × List PendingChange :=
  ({ d with pending := [], disposed := true }, d.pending)

end Debouncer

end LiveTemplates
