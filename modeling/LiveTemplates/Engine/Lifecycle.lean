import LiveTemplates.Engine.Basic
import LiveTemplates.Settings.Sidecar

/-!
# The life cycle of an engine

An engine is stopped or running. On the way from one to the other, listeners hear of each step, but
they can neither start nor stop the engine, and its settings change only while it is stopped.

A start of a running engine stops it first. If a start fails, what was started is stopped again and
the engine is stopped.
-/

namespace LiveTemplates.Engine

variable (emit : Event → Engine → Engine)

/-! ## The monitored directory -/

/-- The base directory as an absolute path. -/
def baseDir (s : Engine) : Path :=
  s.settings.baseDir.absolute s.tree.cwd

/--
What the settings say to monitor, or else the sidecar file, or else the base directory; with the
reason why the sidecar file does not say it.
-/
def monitorChoice (s : Engine) : Path × Option SidecarError :=
  match s.settings.monitorPath with
  | some p => (p, none)
  | none =>
    match s.tree.monitorEntry (s.baseDir / s.settings.configFileName) with
    | .ok none => (s.baseDir, none)
    | .ok (some text) => (.ofString text, none)
    | .error e => (s.baseDir, some e)

/-- Tells why the sidecar file does not say what to monitor, if there is a reason. -/
def tellSidecarProblem (problem : Option SidecarError) (s : Engine) : Engine :=
  match problem with
  | none => s
  | some e =>
    message emit s!"Failed to read or process {s.settings.configFileName} file" e.message .warning s

/-- Determines the directory to monitor. A failure to read the sidecar file is told only. -/
def loadMonitorPath (s : Engine) : Engine × Path :=
  let base := s.baseDir
  let (choice, problem) := s.monitorChoice
  let monitor := (base.join choice).normalise
  let s := tellSidecarProblem emit problem s
  let s :=
    if monitor = base then s
    else message emit s!"Monitor path set to: {monitor}" "" .diagnostic s
  (s, monitor)

/-- The monitored directory, which is determined if that was not done before. -/
def currentMonitorPath (s : Engine) : Engine × Path :=
  match s.monitorPath with
  | some p => (s, p)
  | none =>
    let (s, p) := loadMonitorPath emit s
    ({ s with monitorPath := some p }, p)

/-! ## Stopping -/

/-- The extension of a watcher. -/
def watcherExtension (s : Engine) (i : Nat) : String :=
  (s.watchers.all[i]?.map FolderWatcher.extension).getD ""

/-- Ends a watcher and tells so, or tells that it does not end. -/
def endWatcher (s : Engine) (i : Nat) : Engine :=
  let extension := s.watcherExtension i
  let (watchers, fault, log) := s.watchers.dispose i
  let s := { s with watchers := watchers }.addEntries log
  match fault with
  | some fault =>
    message emit s!"Failed to stop listening for file type {extension}" fault.message .error s
  | none =>
    message emit s!"Engine stopped listening for file type {extension}" "" .diagnostic
      (emit (.stoppedWatching extension) s)

/-- Ends the present session, if there is one. -/
def teardown (s : Engine) : Engine :=
  match s.registered with
  | none => s
  | some watchers =>
    let s := watchers.foldl (endWatcher emit) { s with state := .stopping, registered := none }
    let s := message emit "Engine stopped" "" .diagnostic (emit .stopped s)
    { s with state := .stopped }

/-- Whether the engine is on its way to another state. -/
def inTransition (s : Engine) : Bool :=
  s.state = .starting || s.state = .stopping

/-- Stops the engine. -/
def stop (s : Engine) : Engine × Except EngineFailure Unit :=
  if s.inTransition then (s, .error (.notAllowed .stop s.state)) else (teardown emit s, .ok ())

/-! ## Starting -/

/-- The delay of a watcher with some faults. -/
def watcherDelay (s : Engine) (faults : List WatchFault) : Except DelayError Delay :=
  match faults.findSome? WatchFault.delayError? with
  | some e => .error e
  | none => Delay.ofMilliseconds s.settings.processDelayMs

/-- Creates the watcher of an extension. -/
def createWatcher (root : Path) (extension : String) (s : Engine) :
    Engine × Except EngineFailure Nat :=
  let faults := s.faults.nextWatcher extension
  let s := { s with faults := s.faults.afterWatcher }
  if .create ∈ faults then (s, .error (.watcher .create))
  else
    match programSettings s.environment s.tree s.program with
    | .error e => (s, .error e)
    | .ok program =>
      let s := { s with program := some program }
      match s.watcherDelay faults with
      | .error e => (s, .error (.watcher (.delay e)))
      | .ok delay =>
        let watchers :=
          s.watchers.create root extension program.watcher.recursive s.ignorePatterns delay faults
        ({ s with watchers := watchers }, .ok s.watchers.all.length)

/-- Creates the watchers of some extensions, up to the first that cannot be created. -/
def createWatchers (root : Path) : List String → Engine → Engine × Except EngineFailure (List Nat)
  | [], s => (s, .ok [])
  | extension :: rest, s =>
    match createWatcher root extension s with
    | (s, .error e) => (s, .error e)
    | (s, .ok i) =>
      let (s, created) := createWatchers root rest s
      (s, created.map (i :: ·))

/-- Tells that an extension is watched and starts its watcher. -/
def startWatcher (s : Engine) (i : Nat) : Engine × Except EngineFailure Unit :=
  let extension := s.watcherExtension i
  let s := emit (.startedWatching extension) s
  let s := message emit s!"Engine listening for file type {extension}" "" .diagnostic s
  match s.watchers.start i with
  | (watchers, .error fault) => ({ s with watchers := watchers }, .error (.watcher fault))
  | (watchers, .ok log) => ({ s with watchers := watchers }.addEntries log, .ok ())

/-- Starts some watchers, up to the first that does not start. -/
def startWatchers : List Nat → Engine → Engine × Except EngineFailure Unit
  | [], s => (s, .ok ())
  | i :: rest, s =>
    match startWatcher emit s i with
    | (s, .error e) => (s, .error e)
    | (s, .ok ()) => startWatchers rest s

/-- Tells that a session begins, in which a directory is monitored. -/
def announceSession (monitor : Path) (s : Engine) : Engine :=
  let s := emit .started { s with monitorPath := some monitor }
  message emit
    s!"Engine started listening to '{monitor}' with {s.settings.processDelayMs}ms delay..." ""
    .diagnostic s

/-- Creates the watchers of a session and starts them. They are registered in between. -/
def openWatchers (monitor : Path) (s : Engine) : Engine × Except EngineFailure Unit :=
  match createWatchers monitor s.settings.extensions s with
  | (s, .error e) => (s, .error e)
  | (s, .ok watchers) => startWatchers emit watchers { s with registered := some watchers }

/-- Begins a session. -/
def setup (s : Engine) : Engine × Except EngineFailure Unit :=
  let (s, monitor) := loadMonitorPath emit s
  match s.tree.isDirectory monitor with
  | .error e => (s, .error (.file e))
  | .ok false => (s, .error (.notDirectory monitor))
  | .ok true => openWatchers emit monitor (announceSession emit monitor s)

/-- Starts the engine, after it was stopped if it is running. -/
def start (s : Engine) : Engine × Except EngineFailure Unit :=
  if s.inTransition then (s, .error (.notAllowed .start s.state))
  else
    let s := teardown emit s
    if s.settings.extensions.isEmpty then (s, .error .noExtensions)
    else
      match setup emit { s with state := .starting } with
      | (s', .ok ()) =>
        ({ s' with state := .running, starts := s.watchers.all.length :: s'.starts }, .ok ())
      | (s', .error e) => ({ teardown emit s' with state := .stopped }, .error e)

/-! ## Settings -/

/-- Changes settings of a stopped engine. -/
def configure (changes : List (String × Settings.Value)) (s : Engine) :
    Engine × Except EngineFailure Unit :=
  if s.state ≠ .stopped then (s, .error (.notAllowed .configure s.state))
  else
    match s.settings.change s.environment s.tree changes with
    | .error e => (s, .error (.settings e))
    | .ok settings => ({ s with settings := settings, monitorPath := none }, .ok ())

end LiveTemplates.Engine
