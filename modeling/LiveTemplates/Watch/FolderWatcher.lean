import LiveTemplates.Debounce.Host
import LiveTemplates.Watch.FileEvent

/-!
# Folder watchers

A folder watcher observes a directory for files of one extension and has a debouncer for their
changes. While its observer runs, the events of the tree reach the debouncer.

The end of a watcher is final for its debouncer: an observer can be started again, but changes are
not taken notice of any more.

Observers belong to the system and can fail to start or to stop. A watcher whose observer does not
start is not running, one whose observer does not stop still is.
-/

namespace LiveTemplates

/-- What goes wrong with a watcher. -/
inductive WatchFault
  /-- It cannot be created. -/
  | create
  /-- There is no delay for its debouncer. -/
  | delay (e : DelayError)
  /-- Its observer does not start. -/
  | start
  /-- Its observer does not stop. -/
  | stop
deriving DecidableEq, Repr

/-- A fault as it is reported. -/
def WatchFault.message : WatchFault → String
  | .create => "watcher could not be created"
  | .delay e => e.message
  | .start => "observer would not start"
  | .stop => "observer would not stop"

/-- Why there is no delay, if a fault says so. -/
def WatchFault.delayError? : WatchFault → Option DelayError
  | .delay e => some e
  | _ => none

/-- A watcher of a directory. -/
structure FolderWatcher where
  root : Path
  extension : String
  /-- Whether events from below the entries of the directory count. -/
  recursive : Bool
  ignorePatterns : List String
  /-- The place of the watcher's debouncer. -/
  debouncer : Nat
  faults : List WatchFault
  /-- Whether there is an observer, which may have failed to start or stop. -/
  hasObserver : Bool
  running : Bool
  /-- Whether the watcher was ever told to start. -/
  told : Bool
deriving Repr

/-- The events that a watcher lets through. -/
def FolderWatcher.filter (w : FolderWatcher) : WatchFilter :=
  ⟨w.extension, w.ignorePatterns, some w.root⟩

/-- Folder watchers with their debouncers. -/
structure Watchers where
  debouncers : Debouncers
  all : List FolderWatcher
  /-- The watchers whose observers run, in the order in which these started. -/
  observing : List Nat
deriving Repr

namespace Watchers

/-- No watchers yet. -/
def initial : Watchers := ⟨.initial, [], []⟩

/-- One more watcher, with a debouncer of its own. -/
def create (s : Watchers) (root : Path) (extension : String) (recursive : Bool)
    (ignorePatterns : List String) (delay : Delay) (faults : List WatchFault) : Watchers :=
  let w := ⟨root, extension, recursive, ignorePatterns, s.debouncers.all.length, faults, false,
    false, false⟩
  ⟨s.debouncers.add (.initial delay extension), s.all ++ [w], s.observing⟩

/-- Starts a watcher that is not running. -/
def start (s : Watchers) (i : Nat) : Watchers × Except WatchFault (List Log.Entry) :=
  match s.all[i]? with
  | none => (s, .ok [])
  | some w =>
    if w.running then (s, .ok [])
    else if .start ∈ w.faults then
      ({ s with all := s.all.set i { w with hasObserver := true, told := true } }, .error .start)
    else
      ({ s with
          all := s.all.set i { w with hasObserver := true, running := true, told := true }
          observing := s.observing ++ [i] },
        .ok [⟨.info, "file_watcher_started", [("path", .string w.root.toString),
          ("recursive", .bool w.recursive), ("extension", .string w.extension)]⟩])

/-- What is logged when a watcher stops. -/
def stopEntry (w : FolderWatcher) : List Log.Entry :=
  if w.running then [⟨.info, "file_watcher_stopped", [("extension", .string w.extension)]⟩] else []

/-- Ends a watcher: the fault that keeps its observer running, if any, and what is logged. -/
def dispose (s : Watchers) (i : Nat) : Watchers × Option WatchFault × List Log.Entry :=
  match s.all[i]? with
  | none => (s, none, [])
  | some w =>
    let (debouncers, log) := s.debouncers.dispose w.debouncer
    let s := { s with debouncers := debouncers }
    if w.hasObserver ∧ .stop ∈ w.faults then (s, some .stop, log)
    else
      ({ s with
          all := s.all.set i { w with hasObserver := false, running := false }
          observing := s.observing.filter (· != i) },
        none, log ++ stopEntry w)

/-- Some watchers get an event, up to one for which the event's path is no text. -/
def dispatchTo (s : Watchers) (e : FileEvent) :
    List Nat → Watchers × Option Text.Utf8Flaw × List Log.Entry
  | [] => (s, none, [])
  | i :: rest =>
    match s.all[i]? with
    | none => s.dispatchTo e rest
    | some w =>
      match w.filter.forward e with
      | .error flaw => (s, some flaw, [])
      | .ok none => s.dispatchTo e rest
      | .ok (some (p, entry)) =>
        let s := { s with debouncers := s.debouncers.notify w.debouncer p }
        let (s, flaw, log) := s.dispatchTo e rest
        (s, flaw, entry :: log)

/-- The watchers whose observers run get an event. -/
def dispatch (s : Watchers) (e : FileEvent) : Watchers × Option Text.Utf8Flaw × List Log.Entry :=
  s.dispatchTo e s.observing

/-- The pending paths of a watcher. -/
def pendingPaths (s : Watchers) (i : Nat) : List Path :=
  match s.all[i]? with
  | none => []
  | some w => s.debouncers.pendingPaths w.debouncer

end Watchers

end LiveTemplates
