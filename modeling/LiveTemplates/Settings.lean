import LiveTemplates.Settings.Assignment
import LiveTemplates.Settings.Sources

/-!
# Settings

The settings of the program are in three groups, for the engine, its watchers and its log, and a few
of their own. A setting is taken from the first source that gives it: the arguments, the variables
of the environment, for settings outside the groups a file `.env` in the working directory, and the
default.

All problems of a group are reported together, in the order of its fields and with unknown fields at
the end. A variable that is no JSON where JSON is needed comes before all of them.
-/

namespace LiveTemplates

open Settings

/-- The settings of an engine. -/
structure EngineSettings where
  /-- The directory to watch; without one, the sidecar file or the base directory says it. -/
  monitorPath : Option Path
  /-- The directory that holds the sidecar file and anchors relative paths. -/
  baseDir : Path
  extensions : List String
  outputExtension : String
  /-- How long a file must be quiet before it is processed. -/
  processDelayMs : Int
  configFileName : String
  writeOutputs : Bool
  /-- Whether the files that include a changed file are processed too. -/
  cascadeDependents : Bool
  /-- Whether that goes on with their includers. -/
  transitiveDependents : Bool
deriving DecidableEq, Repr

/-- The settings of a watcher. -/
structure WatcherSettings where
  recursive : Bool
  ignorePatterns : List String
deriving DecidableEq, Repr

/-- The settings of the log. -/
structure LoggingSettings where
  level : String
  format : String
deriving DecidableEq, Repr

/-- All settings. -/
structure AppSettings where
  appName : String
  appVersion : String
  environment : String
  engine : EngineSettings
  watcher : WatcherSettings
  logging : LoggingSettings
deriving DecidableEq, Repr

namespace Settings

/-- The texts of a list; another item is a failure. -/
def textsOf : List Json → Except Failure (List String)
  | [] => .ok []
  | .string s :: rest => (textsOf rest).map (s :: ·)
  | v :: _ => .error (.notText (kindName (.json v)))

/-- Extensions: a list of texts, or a text in which commas separate them, without blank ones. -/
def readExtensions : Value → Except Failure (List String)
  | .json (.string s) => .ok (itemsOfText s)
  | .json (.array items) => (textsOf items).map cleanItems
  | .json (.object fields) => .ok (cleanItems (fields.map (·.1)))
  | v => .error (.notIterable (kindName v))

/-- The texts of a list, or a problem for each other item. -/
def textItems (name : String) (index : Int) : List Json → Except (List Problem) (List String)
  | [] => .ok []
  | v :: rest =>
    match v, textItems name (index + 1) rest with
    | .string s, .ok items => .ok (s :: items)
    | .string _, .error ps => .error ps
    | _, .ok _ => .error [⟨[.string name, .int index], .notString⟩]
    | _, .error ps => .error (⟨[.string name, .int index], .notString⟩ :: ps)

/-- Ignore patterns: a list of texts, or a text in which commas separate them. -/
def readPatterns (name : String) : Value → Except (List Problem) (List String)
  | .json (.string s) => .ok (itemsOfText s)
  | .json (.array items) => textItems name 0 items
  | _ => .error [⟨[.string name], .notList⟩]

/-- The problems of a list or of a group, if it has any. -/
def problemsOf {α : Type} : Except (List Problem) α → List Problem
  | .error ps => ps
  | .ok _ => []

/-- JSON values as given settings. -/
def ofJson (fields : List (String × Json)) : List (String × Value) :=
  fields.map fun f => (f.1, .json f.2)

/-- Given settings with others that take the place of those of the same name. -/
def override (given : List (String × Value)) (changes : List (String × Value)) :
    List (String × Value) :=
  given.map (fun g => (g.1, (changes.lookup g.1).getD g.2))
    ++ changes.filter fun c => !given.any (·.1 == c.1)

end Settings

namespace EngineSettings

/-- The fields of the group. -/
def fields : List Field :=
  [⟨"monitor_path", .text⟩, ⟨"base_dir", .text⟩, ⟨"extensions", .json⟩,
    ⟨"output_extension", .text⟩, ⟨"process_delay_ms", .text⟩, ⟨"config_file_name", .text⟩,
    ⟨"write_outputs", .text⟩, ⟨"cascade_dependents", .text⟩, ⟨"transitive_dependents", .text⟩]

/-- The longest delay. -/
def maxDelayMs : Int := 60000

/-- Reads the group from what is given for each field. -/
def read (cwd : Path) (given : String → Option Value) (unknown : List Problem) :
    Except Failure EngineSettings := do
  let extensions ←
    match given "extensions" with
    | none => .ok [".dnaweb"]
    | some v => readExtensions v
  let monitorPath := readField given "monitor_path" readOptionalPath none
  let baseDir := readField given "base_dir" readPath cwd
  let outputExtension := readField given "output_extension" readString ".dna"
  let processDelayMs := readField given "process_delay_ms" (readIntegerIn 0 maxDelayMs) 100
  let configFileName := readField given "config_file_name" readString "dna.config"
  let writeOutputs := readField given "write_outputs" readBoolean true
  let cascadeDependents := readField given "cascade_dependents" readBoolean true
  let transitiveDependents := readField given "transitive_dependents" readBoolean false
  let problems := problemOf monitorPath ++ problemOf baseDir ++ problemOf outputExtension
    ++ problemOf processDelayMs ++ problemOf configFileName ++ problemOf writeOutputs
    ++ problemOf cascadeDependents ++ problemOf transitiveDependents ++ unknown
  match problems, monitorPath, baseDir, outputExtension, processDelayMs, configFileName,
      writeOutputs, cascadeDependents, transitiveDependents with
  | [], .ok a, .ok b, .ok d, .ok e, .ok f, .ok g, .ok h, .ok i =>
    .ok ⟨a, b, extensions, d, e, f, g, h, i⟩
  | ps, _, _, _, _, _, _, _, _ => .error (.invalid ps)

/-- The settings that arguments and variables give. -/
def load (environment : Variables) (t : FileTree) (arguments : List (String × Value)) :
    Except Failure EngineSettings := do
  let given ← gather (.initial "ENGINE_" .null) environment t fields arguments
  read t.cwd given.value given.problems

/-- The settings as arguments that give them. -/
def toArguments (s : EngineSettings) : List (String × Value) :=
  [("monitor_path", (s.monitorPath.map Value.path).getD (.json .null)),
    ("base_dir", .path s.baseDir),
    ("extensions", .json (.array (s.extensions.map .string))),
    ("output_extension", .json (.string s.outputExtension)),
    ("process_delay_ms", .json (.int s.processDelayMs)),
    ("config_file_name", .json (.string s.configFileName)),
    ("write_outputs", .json (.bool s.writeOutputs)),
    ("cascade_dependents", .json (.bool s.cascadeDependents)),
    ("transitive_dependents", .json (.bool s.transitiveDependents))]

/-- The settings with changes to some fields; all are read anew. -/
def change (environment : Variables) (t : FileTree) (s : EngineSettings)
    (changes : List (String × Value)) : Except Failure EngineSettings :=
  (load environment t (override s.toArguments changes)).mapError Failure.asProblem

end EngineSettings

namespace WatcherSettings

/-- The fields of the group. -/
def fields : List Field := [⟨"recursive", .text⟩, ⟨"ignore_patterns", .json⟩]

/-- The patterns that are ignored unless others are given. -/
def defaultPatterns : List String :=
  [".git", ".venv", "venv", ".idea", ".vscode", "node_modules", "__pycache__", "*.swp", "*~"]

/-- The settings that arguments and variables give. -/
def load (environment : Variables) (t : FileTree) (arguments : List (String × Value)) :
    Except Failure WatcherSettings := do
  let given ← gather (.initial "WATCHER_" .null) environment t fields arguments
  let recursive := readField given.value "recursive" readBoolean true
  let patterns : Except (List Problem) (List String) :=
    match given.value "ignore_patterns" with
    | none => .ok defaultPatterns
    | some v => readPatterns "ignore_patterns" v
  match problemOf recursive ++ problemsOf patterns ++ given.problems, recursive, patterns with
  | [], .ok a, .ok b => .ok ⟨a, b⟩
  | ps, _, _ => .error (.invalid ps)

/-- The settings as arguments that give them. -/
def toArguments (s : WatcherSettings) : List (String × Value) :=
  [("recursive", .json (.bool s.recursive)),
    ("ignore_patterns", .json (.array (s.ignorePatterns.map .string)))]

end WatcherSettings

namespace LoggingSettings

/-- The fields of the group. -/
def fields : List Field := [⟨"level", .text⟩, ⟨"format", .text⟩]

/-- The settings that arguments and variables give. -/
def load (environment : Variables) (t : FileTree) (arguments : List (String × Value)) :
    Except Failure LoggingSettings := do
  let given ← gather (.initial "LOG_" .null) environment t fields arguments
  let level := readField given.value "level" readString "INFO"
  let format := readField given.value "format" readString "console"
  match problemOf level ++ problemOf format ++ given.problems, level, format with
  | [], .ok a, .ok b => .ok ⟨a, b⟩
  | ps, _, _ => .error (.invalid ps)

/-- The settings as arguments that give them. -/
def toArguments (s : LoggingSettings) : List (String × Value) :=
  [("level", .json (.string s.level)), ("format", .json (.string s.format))]

end LoggingSettings

namespace AppSettings

/-- The fields; the groups are objects. -/
def fields : List Field :=
  let group := fun (members : List Field) => FieldForm.group (members.map Field.toMember)
  [⟨"app_name", .text⟩, ⟨"app_version", .text⟩, ⟨"environment", .text⟩,
    ⟨"engine", group EngineSettings.fields⟩, ⟨"watcher", group WatcherSettings.fields⟩,
    ⟨"logging", group LoggingSettings.fields⟩]

/-- The variables that give settings, in lower case. -/
def variableNames : List String :=
  let names := fun (leading : String) (fields : List Field) => fields.map fun f => leading ++ f.name
  names "" fields ++ names "engine_" EngineSettings.fields
    ++ names "watcher_" WatcherSettings.fields ++ names "log_" LoggingSettings.fields

/-- A problem seen from the group that holds its field. Places in lists become texts there. -/
def Problem.inGroup (group : String) (p : Problem) : Problem :=
  let step := fun (j : Json) =>
    match j with
    | .int n => .string (toString n)
    | j => j
  { p with location := .string group :: p.location.map step }

/--
A group. If it is not given, its own sources give it, and their failure is that of all settings. If
it is, the problems of its fields are problems of the group.
-/
def readGroup {α : Type} (name kind : String) (load : List (String × Value) → Except Failure α)
    (given : Option Value) : Except Failure (Except (List Problem) α) :=
  match given with
  | none => (load []).map .ok
  | some (.json (.object fields)) =>
    match load (ofJson fields) with
    | .ok a => .ok (.ok a)
    | .error (.invalid ps) => .ok (.error (ps.map (Problem.inGroup name)))
    | .error e =>
      if e.isOfValue then .ok (.error [⟨[.string name], .failed e.message⟩]) else .error e
  | some _ => .ok (.error [⟨[.string name], .notGroup kind⟩])

/-- The settings that arguments, variables and the file of variables give. -/
def load (environment : Variables) (t : FileTree) (arguments : List (String × Value)) :
    Except Failure AppSettings := do
  let given ← gather (.initial "" (.string ".env")) environment t fields arguments
  let text := fun name default => readField given.value name readString default
  let appName := text "app_name" "TagWeave"
  let appVersion := text "app_version" "0.1.0"
  let environmentName := text "environment" "development"
  let engine ← readGroup "engine" "EngineSettings" (EngineSettings.load environment t)
    (given.value "engine")
  let watcher ← readGroup "watcher" "WatcherSettings" (WatcherSettings.load environment t)
    (given.value "watcher")
  let logging ← readGroup "logging" "LoggingSettings" (LoggingSettings.load environment t)
    (given.value "logging")
  match appName, appVersion, environmentName, engine, watcher, logging with
  | .ok a, .ok b, .ok c, .ok d, .ok e, .ok f => .ok ⟨a, b, c, d, e, f⟩
  | a, b, c, d, e, f =>
    .error (.invalid (problemOf a ++ problemOf b ++ problemOf c ++ problemsOf d ++ problemsOf e
      ++ problemsOf f))

/-- The names of what the settings say of themselves. -/
def computedNames : List String := "is_development" :: Settings.computedNames

/-- Whether the program runs where it is developed. -/
def isDevelopment (s : AppSettings) : Bool :=
  ["development", "dev", "local"].contains (Text.lowercaseString s.environment)

end AppSettings

end LiveTemplates
