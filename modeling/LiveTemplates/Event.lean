import LiveTemplates.Log.Entry
import LiveTemplates.ProcessResult

/-!
# Events

What an engine tells those who listen: that it starts and stops, which extensions it watches, what
became of each file, and messages for people.
-/

namespace LiveTemplates

/-- How grave a message is. -/
inductive Severity
  | diagnostic
  | information
  | success
  | warning
  | error
deriving DecidableEq, Repr

namespace Severity

/-- The name of a severity. -/
def name : Severity → String
  | .diagnostic => "diagnostic"
  | .information => "information"
  | .success => "success"
  | .warning => "warning"
  | .error => "error"

/-- The level at which a message is logged. -/
def level : Severity → Log.Level
  | .diagnostic => .debug
  | .information | .success => .info
  | .warning => .warning
  | .error => .error

end Severity

/-- An event. -/
inductive Event
  | started
  | stopped
  | startedWatching (extension : String)
  | stoppedWatching (extension : String)
  | processSucceeded (result : ProcessResult)
  | processFailed (result : ProcessResult)
  | logMessage (title message : String) (severity : Severity)
deriving DecidableEq, Repr

/-- The type of an event. -/
inductive EventType
  | started
  | stopped
  | startedWatching
  | stoppedWatching
  | processSucceeded
  | processFailed
  | logMessage
deriving DecidableEq, Repr

/-- The name of a type of events. -/
def EventType.name : EventType → String
  | .started => "Started"
  | .stopped => "Stopped"
  | .startedWatching => "StartedWatching"
  | .stoppedWatching => "StoppedWatching"
  | .processSucceeded => "ProcessSucceeded"
  | .processFailed => "ProcessFailed"
  | .logMessage => "LogMessage"

/-- The type of an event. -/
def Event.type : Event → EventType
  | .started => .started
  | .stopped => .stopped
  | .startedWatching _ => .startedWatching
  | .stoppedWatching _ => .stoppedWatching
  | .processSucceeded _ => .processSucceeded
  | .processFailed _ => .processFailed
  | .logMessage .. => .logMessage

end LiveTemplates
