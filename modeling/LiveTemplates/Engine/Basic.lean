import LiveTemplates.EventBus
import LiveTemplates.References
import LiveTemplates.Watch.FolderWatcher
import LiveTemplates.Settings

/-!
# Engines

An engine watches a directory for templates. A template that was changed is expanded once it is
quiet, its text is written to its outputs, and the files that include it are processed too. Whatever
happens is published on the bus of the engine.

The state of an engine holds all that its operations read and change: its settings, its place in
its life cycle, its watchers, its bus, and the file tree. It also keeps what was published and what
its listeners did.

Listeners may use the engine while they hear of an event. Operations are therefore written over
`emit`, the way in which an event is published; a listener that uses the engine is part of it.
-/

namespace LiveTemplates

/-- Where an engine is in its life cycle. -/
inductive EngineState
  | stopped
  | starting
  | running
  | stopping
deriving DecidableEq, Repr

/-- The name of a state. -/
def EngineState.name : EngineState → String
  | .stopped => "stopped"
  | .starting => "starting"
  | .running => "running"
  | .stopping => "stopping"

/-- What is not allowed in every state. -/
inductive Operation
  | start
  | stop
  | configure
deriving DecidableEq, Repr

/-- An operation in words. -/
def Operation.words : Operation → String
  | .start => "start"
  | .stop => "stop"
  | .configure => "change configuration"

/-- A setting that has no value where one is needed. -/
inductive MissingValue
  | extension
  | outputExtension
deriving DecidableEq, Repr

/-- A missing value as it is reported. -/
def MissingValue.message : MissingValue → String
  | .extension => "unhashable type: 'list'"
  | .outputExtension => "can only concatenate str (not \"list\") to str"

/-- Why an engine cannot do what it is asked for. -/
inductive EngineFailure
  | notAllowed (operation : Operation) (state : EngineState)
  | noExtensions
  /-- What is to be monitored is no directory. -/
  | notDirectory (p : Path)
  | watcher (fault : WatchFault)
  | missing (value : MissingValue)
  | settings (e : Settings.Failure)
  | file (e : FileError)
  | unreadable (e : ReadError)
  /-- Something broke down, with the given words. -/
  | broken (text : String)

/-- A failure as it is reported. -/
def EngineFailure.message : EngineFailure → String
  | .notAllowed operation state => s!"Cannot {operation.words} while engine is {state.name}"
  | .noExtensions => "No engine extensions specified"
  | .notDirectory p => s!"Monitor path is not a directory: {p}"
  | .watcher fault => fault.message
  | .missing value => value.message
  | .settings e => e.message
  | .file e => e.message
  | .unreadable e => e.message
  | .broken text => text

/-- What does not work around an engine. -/
structure Faults where
  /-- What is wrong with the watchers of an extension. -/
  watcher : String → Option WatchFault
  /-- What else is wrong with the watchers that are created next, one after the other. -/
  upcoming : List (List WatchFault)
  /-- The words with which the expansion of a file breaks down. -/
  expansion : Path → Option String
  /-- The words with which the search for the includes of a file breaks down. -/
  includes : Path → Option String
  /-- Whether processing a file yields nothing at all. -/
  noResult : Path → Bool
  /-- The place among the extensions of the first one that has no value, if there is one. -/
  missingExtension : Option Nat
  /-- Whether the output extension has no value. -/
  missingOutputExtension : Bool

/-- Everything works. -/
def Faults.none : Faults where
  watcher _ := .none
  upcoming := []
  expansion _ := .none
  includes _ := .none
  noResult _ := false
  missingExtension := .none
  missingOutputExtension := false

/-- All that is wrong with the next watcher, which is for some extension. -/
def Faults.nextWatcher (f : Faults) (extension : String) : List WatchFault :=
  (f.watcher extension).toList ++ f.upcoming.headD []

/-- What does not work after one more watcher was asked for. -/
def Faults.afterWatcher (f : Faults) : Faults :=
  { f with upcoming := f.upcoming.tail }

/-- What a listener does when it hears of an event. -/
inductive ListenerAction
  | record
  | fail
  | start
  | stop
  | configure (changes : List (String × Settings.Value))
  | process (p : Path)
  | unsubscribe (name : String)

/-- The name of an action. -/
def ListenerAction.name : ListenerAction → String
  | .record => "record"
  | .fail => "raise"
  | .start => "start"
  | .stop => "stop"
  | .configure _ => "configure"
  | .process _ => "process"
  | .unsubscribe _ => "unsubscribe"

/-- A listener. -/
structure Listener where
  action : ListenerAction
  /-- Whether it acts for the first event only. -/
  once : Bool

/-- What a listener did, and the state of the engine after that or the failure. -/
structure Observation where
  listener : String
  event : EventType
  action : ListenerAction
  outcome : Except EngineFailure EngineState

/--
An engine. Its last fields are its history: its operations add to them and do not read them.
-/
structure Engine where
  settings : EngineSettings
  ignorePatterns : List String
  state : EngineState
  /-- The watchers of the present session, if the engine is not stopped. -/
  registered : Option (List Nat)
  /-- The directory to monitor, once it was determined. -/
  monitorPath : Option Path
  /-- All watchers that were ever created. -/
  watchers : Watchers
  bus : EventBus Listener
  /-- The subscriptions whose listeners acted already and do not act again. -/
  spent : List Nat
  tree : FileTree
  environment : Settings.Variables
  /-- The settings of the program, once they were read. -/
  program : Option AppSettings
  faults : Faults
  /-- For each start that succeeded, the latest first, how many watchers there were before. -/
  starts : List Nat
  /-- The callbacks of the watchers, each with the place of its debouncer, in that order. -/
  callbacks : List (Nat × Path)
  /-- The events that were published, in that order. -/
  published : List Event
  observations : List Observation
  log : List Log.Entry

namespace Engine

/-- Reads the settings of the program, unless they were read before. -/
def programSettings (environment : Settings.Variables) (tree : FileTree) :
    Option AppSettings → Except EngineFailure AppSettings
  | some settings => .ok settings
  | none => (AppSettings.load environment tree []).mapError .settings

/-- An engine with settings of its own. -/
def initial (settings : EngineSettings) (ignorePatterns : List String)
    (environment : Settings.Variables) (tree : FileTree) (faults : Faults)
    (program : Option AppSettings) : Engine where
  settings := settings
  ignorePatterns := ignorePatterns
  state := .stopped
  registered := none
  monitorPath := none
  watchers := .initial
  bus := .initial
  spent := []
  tree := tree
  environment := environment
  program := program
  faults := faults
  starts := []
  callbacks := []
  published := []
  observations := []
  log := []

/--
An engine. Settings that are not given, as arguments, and ignore patterns that are not given are
those of the program.
-/
def create (arguments : Option (List (String × Settings.Value)))
    (ignorePatterns : Option (List String)) (environment : Settings.Variables) (tree : FileTree)
    (faults : Faults) : Except EngineFailure Engine := do
  let load := programSettings environment tree
  let (settings, program) ←
    match arguments with
    | some arguments =>
      match EngineSettings.load environment tree arguments with
      | .ok settings => .ok (settings, none)
      | .error e => .error (.settings e)
    | none => (load none).map fun program => (program.engine, some program)
  match ignorePatterns with
  | some patterns => .ok (initial settings patterns environment tree faults program)
  | none => do
    let program ← load program
    .ok (initial settings program.watcher.ignorePatterns environment tree faults (some program))

/-- The engine with more entries in its log. -/
def addEntries (entries : List Log.Entry) (s : Engine) : Engine :=
  { s with log := s.log ++ entries }

variable (emit : Event → Engine → Engine)

/-- A message for people, which is logged and published. -/
def message (title detail : String) (severity : Severity) (s : Engine) : Engine :=
  emit (.logMessage title detail severity) <| s.addEntries [⟨severity.level, "engine_message",
    [("title", .string title), ("detail", .string detail), ("severity", .string severity.name)]⟩]

end Engine

end LiveTemplates
