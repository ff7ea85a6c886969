import LiveTemplates.Json.Writer
import LiveTemplates.Log.Entry
import LiveTemplates.Settings
import LiveTemplates.Text.Padded
import LiveTemplates.Text.Uppercase

/-!
# Loggers

A logger writes the entries from some level on, each one as a line. It adds the name and the version
of the program to what an entry says itself. A line is a JSON object, or a text for people in which
the values follow the event in the order of their names. A line for people shows the name of a
logger before the other values, in brackets, and a trace of calls below.

Lines have no time, and an entry cannot give them one. Nor can it have values under the names that a
logger uses for itself and for the event; such an entry is refused, and so is one whose trace is no
text where people are to read it.
-/

namespace LiveTemplates.Log

/-- How a line is written. -/
inductive LineFormat
  | json
  | console
deriving DecidableEq, Repr

/-- What is logged, and how. -/
structure Logger where
  /-- The lowest rank that is logged. -/
  threshold : Nat
  format : LineFormat
  appName : String
  appVersion : String
deriving Repr

/-- Why a name stands for no level. -/
inductive LevelError
  | unknown (name : String)
  /-- The name stands for a text. -/
  | isText (s : String)
  /-- The name stands for a table. -/
  | isTable
deriving DecidableEq, Repr

/-- A failure to find a level as it is reported. -/
def LevelError.message : LevelError → String
  | .unknown name => s!"module 'logging' has no attribute '{name}'"
  | .isText s => Text.quotedString s
  | .isTable => "unhashable type: 'dict'"

/-- The ranks that names stand for. The last one lets everything through. -/
def ranks : List (String × Nat) :=
  [("CRITICAL", 50), ("FATAL", 50), ("ERROR", 40), ("WARNING", 30), ("WARN", 30), ("INFO", 20),
    ("DEBUG", 10), ("NOTSET", 0)]

/-- The rank that a name in upper case stands for. Two names are taken for something else. -/
def rankOf (name : String) : Except LevelError Nat :=
  match ranks.lookup name with
  | some rank => .ok rank
  | none =>
    if name == "BASIC_FORMAT" then .error (.isText "%(levelname)s:%(name)s:%(message)s")
    else if name == "_STYLES" then .error .isTable
    else .error (.unknown name)

/-! ## Values in a line for people -/

mutual

/-- A value in full, with strings in quotes. -/
def display : Json → String
  | .null => "None"
  | .bool b => if b then "True" else "False"
  | .int n => toString n
  | .float x => x.toString
  | .string s => Text.quotedString s
  | .array items => "[" ++ ", ".intercalate (displayItems items) ++ "]"
  | .object fields => "\x7b" ++ ", ".intercalate (displayFields fields) ++ "\x7d"

/-- The items of an array in full. -/
def displayItems : List Json → List String
  | [] => []
  | v :: rest => display v :: displayItems rest

/-- The fields of an object in full. -/
def displayFields : List (String × Json) → List String
  | [] => []
  | (name, v) :: rest => (Text.quotedString name ++ ": " ++ display v) :: displayFields rest

end

/-- The characters because of which a string is put in quotes. -/
def quotedFor : List Char := [' ', '\t', '=', '\r', '\n', '"', '\'']

/-- A value after its name: a string stands as it is, unless one could not tell where it ends. -/
def displayShort : Json → String
  | .string s => if s.toList.any quotedFor.contains then Text.quotedString s else s
  | v => display v

/-- A value without its name: a string stands as it is. -/
def displayAlone : Json → String
  | .string s => s
  | v => display v

/-! ## Lines -/

/-- The names under which an entry gives no value of its own. -/
def ignoredNames : List String := ["exc_info", "timestamp"]

/-- The names of loggers, which stand in brackets after the event. -/
def loggerNames : List String := ["logger", "logger_name"]

/-- The names of the texts that stand below a line for people. -/
def traceNames : List String := ["stack", "exception"]

namespace Logger

/-- The logger that the settings ask for, unless a level or a format is given that is not empty. -/
def create (settings : AppSettings) (level format : Option String) :
    Except LevelError Logger :=
  let chosen := fun (given : Option String) (default : String) =>
    match given with
    | some s => if s.isEmpty then default else s
    | none => default
  match rankOf (Text.uppercaseString (chosen level settings.logging.level)) with
  | .error e => .error e
  | .ok threshold =>
    let format :=
      if chosen format settings.logging.format == "json" then LineFormat.json else .console
    .ok ⟨threshold, format, settings.appName, settings.appVersion⟩

/-- Whether an entry is logged. -/
def accepts (l : Logger) (e : Entry) : Bool :=
  decide (l.threshold ≤ e.level.rank)

/-- The values of an entry under the names that a logger gives to its own. -/
def fields (l : Logger) (e : Entry) : List (String × Json) :=
  [("event", .string e.event), ("level", .string e.level.name), ("app", .string l.appName),
    ("version", .string l.appVersion)].foldl (fun fields f => Json.putField f.1 f.2 fields)
      (e.values.filter fun f => !ignoredNames.contains f.1)

/-- The line for people. -/
def consoleLine (l : Logger) (e : Entry) : String :=
  let fields := l.fields e
  let others := fields.filter fun f =>
    !(["event", "level"] ++ loggerNames ++ traceNames).contains f.1
  let sorted := others.mergeSort fun f g => !decide (g.1 < f.1)
  " ".intercalate <|
    ["[" ++ Text.padRight 9 e.level.name ++ "]", Text.padRight 30 e.event]
      ++ loggerNames.filterMap (fun name =>
        (fields.lookup name).map fun v => "[" ++ displayAlone v ++ "]")
      ++ sorted.map fun f => f.1 ++ "=" ++ displayShort f.2

/-- What an entry gives under a name, unless that is null. -/
def given? (e : Entry) (name : String) : Option Json :=
  match e.values.lookup name with
  | some .null => none
  | v => v

/-- A text below the line for people. -/
def trace (e : Entry) (name : String) : String :=
  match given? e name with
  | some (.string s) => "\n" ++ s
  | _ => ""

/--
The texts below the line for people. A rule of equals signs stands below the first one if there is
a second one or an error is said to be at hand.
-/
def traces (e : Entry) : String :=
  let more := (given? e "exception").isSome || (e.values.lookup "exc_info").any Json.isYes
  let rule := "\n\n" ++ String.ofList (List.replicate 79 '=') ++ "\n"
  let first := trace e "stack" ++ if (given? e "stack").isSome && more then rule else ""
  first ++ trace e "exception"

/-- The line of an entry, with what stands below it. -/
def line (l : Logger) (e : Entry) : String :=
  match l.format with
  | .json => (Json.object (l.fields e)).render
  | .console => l.consoleLine e ++ traces e

/-! ## Refused entries -/

/-- Why an entry is refused. -/
inductive EntryError
  /-- The context has a name that a logger uses when it is made. -/
  | takenContextName (place name : String)
  /-- The entry has a name that a logger uses, whether its level is logged or not. -/
  | takenName (logged : Bool) (name : String)
  /-- The entry has a name that a logger uses for the level. -/
  | takenLevelName
  /-- A trace is no text, but a value of the given kind. -/
  | notText (kind : String)
deriving DecidableEq, Repr

/-- A refusal as it is reported. -/
def EntryError.message : EntryError → String
  | .takenContextName place name => s!"{place}() got multiple values for argument '{name}'"
  | .takenName logged name =>
    let place := if logged then "_make_filtering_bound_logger.<locals>.make_method.<locals>.meth"
      else "_nop"
    s!"{place}() got multiple values for argument '{name}'"
  | .takenLevelName =>
    "BoundLoggerBase._proxy_to_logger() got multiple values for argument 'method_name'"
  | .notText kind => s!"can only concatenate str (not \"{kind}\") to str"

/-- The reason for which a context is refused. -/
def contextError? (context : List (String × Json)) : Option EntryError :=
  if (context.lookup "name").isSome then some (.takenContextName "get_logger" "name")
  else if (context.lookup "self").isSome then
    some (.takenContextName "BoundLoggerLazyProxy.bind" "self")
  else none

/-- The reason for which an entry is refused that has a trace which is no text. -/
def traceError? (e : Entry) : Option EntryError :=
  (traceNames.filterMap (given? e)).findSome? fun v =>
    match v with
    | .string _ => none
    | v => some (.notText (Settings.kindName (.json v)))

/-- An entry with the values of its context. What the entry says itself goes before. -/
def inContext (context : List (String × Json)) (e : Entry) : Entry :=
  { e with values := e.values.foldl (fun fields f => Json.putField f.1 f.2 fields) context }

/-- The reason for which a logger refuses an entry in a context. -/
def refusal? (l : Logger) (context : List (String × Json)) (e : Entry) : Option EntryError :=
  let taken := (e.values.find? fun f => f.1 == "event" || f.1 == "self").map fun f =>
    EntryError.takenName (l.accepts e) f.1
  let level := if l.accepts e && (e.values.lookup "method_name").isSome then some .takenLevelName
    else none
  let trace := if l.accepts e && l.format = .console then traceError? (inContext context e)
    else none
  (contextError? context).or (taken.or (level.or trace))

/-- The entries that are logged, with the values of their contexts; the first refused one ends all. -/
def logged (l : Logger) : List (List (String × Json) × Entry) → Except EntryError (List Entry)
  | [] => .ok []
  | (context, e) :: rest =>
    match l.refusal? context e with
    | some error => .error error
    | none => (l.logged rest).map fun others =>
        if l.accepts e then inContext context e :: others else others

end Logger

end LiveTemplates.Log
