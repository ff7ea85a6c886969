import LiveTemplates.Settings
import LiveTemplates.Watch.FolderWatcher

/-!
# A folder watcher that takes note of settled changes

A session has one folder watcher, whose callback notes each path. What is not asked for otherwise is
taken from the settings of the program.
-/

namespace LiveTemplates

/-- A folder watcher and the paths whose changes have settled. -/
structure WatchSession where
  watchers : Watchers
  settled : List Path
  log : List Log.Entry

namespace WatchSession

/-- A session with a watcher that does not run yet, or the fault because of which there is none. -/
def create (settings : AppSettings) (root : Path) (extension : String) (delayMs : Option Int)
    (ignorePatterns : Option (List String)) (recursive : Option Bool) (fault : Option WatchFault) :
    Except WatchFault WatchSession := do
  let delay ← (Delay.ofMilliseconds (delayMs.getD settings.engine.processDelayMs)).mapError .delay
  return {
    watchers := Watchers.initial.create root extension
      (recursive.getD settings.watcher.recursive)
      (ignorePatterns.getD settings.watcher.ignorePatterns) delay fault.toList
    settled := []
    log := [] }

/-- The session as the host of its debouncer. -/
def host : DebounceHost WatchSession where
  debouncers s := s.watchers.debouncers
  update s d log := { s with watchers := { s.watchers with debouncers := d }, log := s.log ++ log }
  call _ p s := { s with settled := s.settled ++ [p] }

/-- Starts the watcher. -/
def start (s : WatchSession) : WatchSession × Option WatchFault :=
  match s.watchers.start 0 with
  | (w, .ok log) => ({ s with watchers := w, log := s.log ++ log }, none)
  | (w, .error fault) => ({ s with watchers := w }, some fault)

/-- Ends the watcher. -/
def dispose (s : WatchSession) : WatchSession × Option WatchFault :=
  let (w, fault, log) := s.watchers.dispose 0
  ({ s with watchers := w, log := s.log ++ log }, fault)

/-- The debouncer takes notice of a change. -/
def notify (s : WatchSession) (p : Path) : WatchSession :=
  host.update s (s.watchers.debouncers.notify 0 p) []

/-- An event reaches the watcher if its observer runs. -/
def dispatch (s : WatchSession) (e : FileEvent) : WatchSession × Option Text.Utf8Flaw :=
  let (w, flaw, log) := s.watchers.dispatch e
  ({ s with watchers := w, log := s.log ++ log }, flaw)

end WatchSession

end LiveTemplates
