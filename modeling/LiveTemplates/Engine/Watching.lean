import LiveTemplates.Engine.Processing

/-!
# Watching

The events of the tree reach the debouncers of an engine's watchers, and a change that has settled
is processed.
-/

namespace LiveTemplates.Engine

/-- The engine as the host of its debouncers. -/
def debounceHost (emit : Event → Engine → Engine) : DebounceHost Engine where
  debouncers s := s.watchers.debouncers
  update s d log := { s with watchers := { s.watchers with debouncers := d } }.addEntries log
  call owner p s := (processChanged emit p { s with callbacks := s.callbacks ++ [(owner, p)] }).1

/-- An event of the tree reaches the watchers whose observers run. -/
def dispatch (e : FileEvent) (s : Engine) : Engine × Option Text.Utf8Flaw :=
  let (watchers, flaw, log) := s.watchers.dispatch e
  ({ s with watchers := watchers }.addEntries log, flaw)

/-- Time passes; at most `fuel` timers run. -/
def advance (emit : Event → Engine → Engine) (fuel : Nat) (ms : Int) (s : Engine) : Engine :=
  (debounceHost emit).advance fuel ms s

/-- The changes that are pending with some watchers are settled, with their paths. -/
def flushWatchers (emit : Event → Engine → Engine) :
    List FolderWatcher → Engine → Engine × List (List Path)
  | [], s => (s, [])
  | w :: rest, s =>
    let (s, ps) := (debounceHost emit).flush w.debouncer s
    let (s, others) := flushWatchers emit rest s
    (s, ps :: others)

/--
All pending changes are settled at once, watcher by watcher. The watchers that listeners caused to be
created meanwhile have their turn too; no change is pending with them.
-/
def flush (emit : Event → Engine → Engine) (s : Engine) : Engine × List (List Path) :=
  let (s', ps) := flushWatchers emit s.watchers.all s
  let (s'', others) := flushWatchers emit (s'.watchers.all.drop s.watchers.all.length) s'
  (s'', ps ++ others)

end LiveTemplates.Engine
