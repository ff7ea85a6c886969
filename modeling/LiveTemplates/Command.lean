import LiveTemplates.Command.Arguments
import LiveTemplates.Command.HelpText
import LiveTemplates.Engine.Listening
import LiveTemplates.Engine.Watching
import LiveTemplates.Log.Logger
import LiveTemplates.Text.Padded

/-!
# The command

The command lists the tags of one file, processes all files of a directory once, or watches the
directory until it is interrupted. It prints what becomes of each file.

`Command.begin` runs up to the end or to the point where the command waits for changes. While it
waits, events and time reach its engine, and `Watch.interrupt` ends it.
-/

namespace LiveTemplates.Command

/-- How the command ends. -/
inductive Ending
  | exit (code : Nat)
  /-- The help cannot be written. -/
  | noHelp (e : HelpError)
  | noLevel (e : Log.LevelError)
  /-- The file whose tags are to be listed is not named. -/
  | missingFile
  /-- The extensions cannot be told because the one at a place has no value. -/
  | missingExtension (place : Nat)
  | failed (e : EngineFailure)

/-- What the command ends with in words, if it fails. -/
def Ending.message : Ending → String
  | .exit _ => ""
  | .noHelp e => e.message
  | .noLevel e => e.message
  | .missingFile => "'list' object has no attribute 'is_file'"
  | .missingExtension place => s!"sequence item {place}: expected str instance, list found"
  | .failed e => e.message

/-- The command came to its end. -/
structure Outcome where
  /-- What was printed. -/
  lines : List String
  /-- What was logged. -/
  log : List String
  tree : FileTree
  ending : Ending

/-- The lines as they are printed. -/
def Outcome.output (o : Outcome) : String :=
  String.join (o.lines.map (· ++ "\n"))

/-- The command waits for changes. -/
structure Watch where
  /-- What was printed, without the events of the engine that come after `told` ones. -/
  lines : List String
  told : Nat
  engine : Engine
  logger : Log.Logger

/-- How far the command has come. -/
inductive Progress
  | finished (o : Outcome)
  | watching (w : Watch)

/-! ## What is printed -/

/-- The lines that tell people of an event. -/
def eventLines : Event → List String
  | .processSucceeded r =>
    if r.isPartial then [s!"  partial   {r.path}"]
    else r.outputPaths.map fun o => s!"  rendered  {r.path} -> {o}"
  | .processFailed r => [s!"  FAILED    {r.path}: {r.error}"]
  | .logMessage title message .warning =>
    let line := s!"  warning   {title} {message}"
    [String.ofList (Text.dropTrailing Text.isBlank line.toList)]
  | _ => []

/-- The line of a tag in a list. -/
def tagLine (tag : Tag) : String :=
  let kind := match tag.kind with
    | some k => k.name
    | none => s!"unknown({String.ofList tag.name})"
  s!"{Text.padLeft 6 (toString tag.start)}  {Text.padRight 10 kind} {String.ofList tag.argument}"

/-- The lines of the engine's events from some number on. -/
def linesFrom (told : Nat) (s : Engine) : List String :=
  (s.published.drop told).flatMap eventLines

/-- The lines of the engine's log from some number on. -/
def logFrom (logged : Nat) (logger : Log.Logger) (s : Engine) : List String :=
  ((s.log.drop logged).filter logger.accepts).map logger.line

/-- The end after some lines were printed and the engine has logged what it has. -/
def conclude (lines : List String) (logger : Log.Logger) (s : Engine) (ending : Ending) : Outcome :=
  ⟨lines, logFrom 0 logger s, s.tree, ending⟩

/-- The end of a command that has no engine. -/
def Outcome.early (lines : List String) (t : FileTree) (ending : Ending) : Outcome :=
  ⟨lines, [], t, ending⟩

/-! ## Listing tags -/

/-- Lists the tags of a file. -/
def listTags (t : FileTree) (file : Path) : Outcome :=
  match t.isFile file with
  | .error e => .early [] t (.failed (.file e))
  | .ok false => .early [s!"Error: File does not exist: {file}"] t (.exit 1)
  | .ok true =>
    match t.readText file with
    | .error e => .early [] t (.failed (.unreadable e))
    | .ok text =>
      let tags := Tag.scan text
      .early (tags.map tagLine ++ ["", s!"{tags.length} tag(s)"]) t (.exit 0)

/-! ## Running the engine -/

/-- Nobody but the command itself listens. -/
def emit : Event → Engine → Engine := Engine.publish 0

/-- The settings of the program with those that arguments take the place of. -/
def engineSettings (settings : EngineSettings) (a : Arguments) (t : FileTree) : EngineSettings :=
  { settings with
    monitorPath := a.path.map fun p => { p.absolute t.cwd with root := .slash }
    extensions :=
      if a.extensions.isEmpty then settings.extensions else a.extensions.map (·.getD "")
    outputExtension := a.outputExtension.join.getD settings.outputExtension
    processDelayMs := a.delayMs.join.getD settings.processDelayMs
    writeOutputs := !a.noWrite }

/-- The place of the first extension that is given without a value. -/
def missingExtension? (a : Arguments) : Option Nat :=
  a.extensions.findIdx? (·.isNone)

/-- What does not work because arguments lack values. -/
def faults (a : Arguments) : Faults :=
  { Faults.none with
    watcher := fun _ => if a.delayMs = some none then some (.delay .missing) else none
    missingExtension := missingExtension? a
    missingOutputExtension := a.outputExtension = some none }

/-- Processes every file once. -/
def processOnce (logger : Log.Logger) (s : Engine) : Outcome :=
  match s.processAll emit with
  | (s, .error e) => conclude (linesFrom 0 s) logger s (.failed e)
  | (s, .ok results) =>
    let failures := results.countP fun r => !r.success
    let summary := ["", s!"Processed {results.length} file(s), {failures} failed"]
    conclude (linesFrom 0 s ++ summary) logger s (.exit (if failures = 0 then 0 else 1))

/-- Whether a failure is one of the engine's own, which is told and not passed on. -/
def isOwnFailure : EngineFailure → Bool
  | .notAllowed .. | .noExtensions | .notDirectory _ => true
  | _ => false

/-- Ends an engine that did not start. -/
def abandon (logger : Log.Logger) (s : Engine) (e : EngineFailure) : Outcome :=
  let lines := linesFrom 0 s
  let told := s.published.length
  let own := isOwnFailure e
  let entry := ⟨.error, "engine_start_failed", [("error", .string e.message)]⟩
  let (s, _) := (if own then s.addEntries [entry] else s).stop emit
  let message := if own then [s!"Error: {e.message}"] else []
  conclude (lines ++ message ++ linesFrom told s) logger s (if own then .exit 1 else .failed e)

/-- Starts to watch, and tells so unless an extension has no value. -/
def watch (logger : Log.Logger) (a : Arguments) (s : Engine) : Progress :=
  match s.start emit with
  | (s, .error e) => .finished (abandon logger s e)
  | (s, .ok ()) =>
    let (s, root) := s.currentMonitorPath emit
    match missingExtension? a with
    | some place =>
      let (s, _) := s.stop emit
      .finished (conclude (linesFrom 0 s) logger s (.missingExtension place))
    | none =>
      let extensions := ", ".intercalate s.settings.extensions
      .watching ⟨linesFrom 0 s ++ [s!"Watching {root} for {extensions}", "Press Ctrl+C to stop"],
        s.published.length, s, logger⟩

/-- Runs the command that the arguments ask for. -/
def run (program : AppSettings) (environment : Settings.Variables) (t : FileTree)
    (logger : Log.Logger) (a : Arguments) : Progress :=
  match a.listTags with
  | some none => .finished (.early [] t .missingFile)
  | some (some file) => .finished (listTags t file)
  | none =>
    let refused : Except FileError (Option Path) := match a.path with
      | none => .ok none
      | some p => (t.isDirectory p).map fun found => if found then none else some p
    match refused with
    | .error e => .finished (.early [] t (.failed (.file e)))
    | .ok (some p) =>
      .finished (.early [s!"Error: Path is not a directory: {p}"] t (.exit 1))
    | .ok none =>
      let s := Engine.initial (engineSettings program.engine a t) program.watcher.ignorePatterns
        environment t (faults a) (some program)
      if a.once then .finished (processOnce logger s) else watch logger a s

/-- Runs the command up to its end or to where it waits. -/
def begin (environment : Settings.Variables) (t : FileTree) (argv : List String) : Progress :=
  let ends := fun ending => Progress.finished (.early [] t ending)
  match AppSettings.load environment t [] with
  | .error e => ends (.failed (.settings e))
  | .ok program =>
    match Arguments.ofWords argv with
    | .error .usage => ends (.exit 2)
    | .error .help =>
      ends (((helpError? program.engine.extensions).map Ending.noHelp).getD (.exit 0))
    | .ok a =>
      match Log.Logger.create program a.logLevel none with
      | .error e => ends (.noLevel e)
      | .ok logger => run program environment t logger a

namespace Watch

/-- What was printed so far. -/
def allLines (w : Watch) : List String :=
  w.lines ++ linesFrom w.told w.engine

/-- What was logged so far. -/
def log (w : Watch) : List String :=
  logFrom 0 w.logger w.engine

/-- Time passes. -/
def advance (fuel : Nat) (ms : Int) (w : Watch) : Watch :=
  { w with engine := w.engine.advance emit fuel ms }

/-- The tree was changed from outside. -/
def setTree (t : FileTree) (w : Watch) : Watch :=
  { w with engine := { w.engine with tree := t } }

/-- Stops the engine after some lines. -/
def finish (lines : List String) (ending : Ending) (w : Watch) : Outcome :=
  let told := w.engine.published.length
  let (s, _) := w.engine.stop emit
  conclude (w.allLines ++ lines ++ linesFrom told s) w.logger s ending

/-- An event of the tree. One whose path is no text ends the command. -/
def dispatch (e : FileEvent) (w : Watch) : Progress :=
  match w.engine.dispatch e with
  | (s, none) => .watching { w with engine := s }
  | (s, some flaw) =>
    .finished (finish [] (.failed (.unreadable (.illFormed flaw))) { w with engine := s })

/-- The command is interrupted. -/
def interrupt (w : Watch) : Outcome :=
  w.finish ["", "Stopping"] (.exit 0)

end Watch

end LiveTemplates.Command
