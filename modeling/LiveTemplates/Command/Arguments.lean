import LiveTemplates.Text.Decimal
import LiveTemplates.Path

/-!
# Arguments of the command

The command has options, which start with two dashes, and at most one argument without a name: the
directory to monitor. An option may be shortened to what no other option starts with, and its value
may follow an equals sign or be the next word.

Two dashes alone end the options. A negative number and a text with spaces are no options, whatever
they start with. As the value of an option, after an equals sign, two dashes say nothing: the option
is given without a value.
-/

namespace LiveTemplates.Command

/-- An option. -/
inductive OptionName
  | help
  | extension
  | outputExtension
  | delay
  | noWrite
  | once
  | listTags
  | logLevel
deriving DecidableEq, Repr

namespace OptionName

/-- All options in full. -/
def texts : List (OptionName × String) :=
  [(.help, "--help"), (.extension, "--ext"), (.outputExtension, "--output-extension"),
    (.delay, "--delay"), (.noWrite, "--no-write"), (.once, "--once"), (.listTags, "--list-tags"),
    (.logLevel, "--log-level")]

/-- Whether an option has a value. -/
def takesValue : OptionName → Bool
  | .help | .noWrite | .once => false
  | _ => true

/-- The options that a text stands for: the one of that name, or else all that start so. -/
def ofText (s : String) : List OptionName :=
  match texts.find? (·.2 == s) with
  | some (o, _) => [o]
  | none => (texts.filter fun o => s.toList.isPrefixOf o.2.toList).map (·.1)

end OptionName

/-- A word of the command line. -/
inductive Word
  | plain (s : String)
  /-- The end of the options. -/
  | separator
  | option (name : OptionName) (value : Option String)
  | unknownOption
deriving DecidableEq, Repr

/-- Why the arguments say nothing. -/
inductive Refusal
  /-- The arguments are wrong. -/
  | usage
  /-- Help was asked for. -/
  | help
deriving DecidableEq, Repr

/-- A text before its first equals sign and after it. -/
def splitValue (s : String) : String × Option String :=
  match s.toList.dropWhile (· != '=') with
  | [] => (s, none)
  | _ :: value => (String.ofList (s.toList.takeWhile (· != '=')), some (String.ofList value))

/-- A text without the end of the line behind it. -/
def dropLineEnd (s : List Char) : List Char :=
  if s.getLast? == some '\n' then s.dropLast else s

/--
Whether a text is a minus sign and a number, with or without places. The end of a line may follow.
-/
def isNegativeNumber (s : String) : Bool :=
  match dropLineEnd s.toList with
  | '-' :: rest =>
    let whole := rest.takeWhile Text.isDecimal
    match rest.dropWhile Text.isDecimal with
    | [] => !whole.isEmpty
    | '.' :: places => !places.isEmpty && places.all Text.isDecimal
    | _ => false
  | _ => false

/--
The option for help in its short form, with what is attached to it. It may be repeated; anything else
is a value.
-/
def shortHelp (attached : List Char) : Word :=
  let value :=
    match attached with
    | '=' :: value => some value
    | [] => none
    | value => some value
  match value with
  | none => .option .help none
  | some value =>
    if !value.isEmpty && value.all (· == 'h') then .option .help none
    else .option .help (some (String.ofList value))

/-- A word that starts with a dash and is longer than that. -/
def readDashed (s : String) : Except Refusal Word :=
  let (name, value) := splitValue s
  match s.toList with
  | '-' :: '-' :: _ =>
    match OptionName.ofText name with
    | [o] => .ok (.option o value)
    | _ :: _ => .error .usage
    | [] => .ok (if s.contains ' ' then .plain s else .unknownOption)
  | '-' :: 'h' :: rest => .ok (shortHelp rest)
  | _ => .ok (if isNegativeNumber s || s.contains ' ' then .plain s else .unknownOption)

/-- The words of a command line. -/
def readWords : List String → Except Refusal (List Word)
  | [] => .ok []
  | "--" :: rest => .ok (.separator :: rest.map .plain)
  | s :: rest => do
    let word ←
      if s.toList.head? = some '-' ∧ 1 < s.length then readDashed s else .ok (.plain s)
    return word :: (← readWords rest)

/-- What the arguments say. An option can be given without a value. -/
structure Arguments where
  path : Option Path
  /-- The extensions in place of those of the settings. -/
  extensions : List (Option String)
  outputExtension : Option (Option String)
  delayMs : Option (Option Int)
  noWrite : Bool
  once : Bool
  /-- The file whose tags are to be listed. -/
  listTags : Option (Option Path)
  logLevel : Option String
deriving DecidableEq, Repr

namespace Arguments

/-- Arguments that say nothing. -/
def initial : Arguments := ⟨none, [], none, none, false, false, none, none⟩

/-- The arguments with one more option, which may have no value. -/
def apply (a : Arguments) (name : OptionName) (value : Option String) :
    Except Refusal Arguments :=
  match name with
  | .help => .error .help
  | .extension => .ok { a with extensions := a.extensions ++ [value] }
  | .outputExtension => .ok { a with outputExtension := some value }
  | .delay =>
    match value with
    | none => .ok { a with delayMs := some none }
    | some text =>
      match Text.readInteger? text.toList with
      | none => .error .usage
      | some ms => .ok { a with delayMs := some (some ms) }
  | .noWrite => .ok { a with noWrite := true }
  | .once => .ok { a with once := true }
  | .listTags => .ok { a with listTags := some (value.map .ofString) }
  | .logLevel => .ok { a with logLevel := value }

/-- The value that a text after an equals sign gives. -/
def givenValue (text : String) : Option String :=
  if text == "--" then none else some text

/--
Reads words. `complete` says whether nothing was met so far that has no place in the arguments; such
words are refused in the end, after all options were read.
-/
def read (a : Arguments) (complete : Bool) : List Word → Except Refusal Arguments
  | [] => if complete then .ok a else .error .usage
  | .plain s :: .separator :: rest =>
    if a.path.isNone then read { a with path := some (.ofString s) } complete rest
    else read a false rest
  | .plain s :: rest =>
    if a.path.isNone then read { a with path := some (.ofString s) } complete rest
    else read a false rest
  | .separator :: rest => read a (complete && a.path.isNone) rest
  | .unknownOption :: rest => read a false rest
  | .option name (some value) :: rest => do
    if name.takesValue then read (← a.apply name (givenValue value)) complete rest
    else .error .usage
  | .option name none :: .plain s :: rest => do
    if name.takesValue then read (← a.apply name (some s)) complete rest
    else read (← a.apply name none) complete (.plain s :: rest)
  | .option name none :: rest => do
    if name.takesValue then .error .usage else read (← a.apply name none) complete rest

/-- What the words of a command line say. -/
def ofWords (argv : List String) : Except Refusal Arguments := do
  initial.read true (← readWords argv)

end Arguments

end LiveTemplates.Command
