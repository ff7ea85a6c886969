import LiveTemplates.Settings.Environment

/-!
# Files of variables

A line `name=value` gives a variable. The word `export` may stand before the name, which may be in
single quotes. A value in quotes may run over several lines and has escapes; one without quotes ends
at a comment, which starts with a number sign after a blank. A line that fits none of this is passed
over. A line that is a name alone takes the variable's value away.

A later line for the same name counts, in the place of the first one. A byte order mark at the start
of the text is no part of it.

Inside a value `${name}` stands for the value of a variable, and `${name:-text}` for the text if
there is no such variable; variables that the file gave before win over the others.

This is the format that dotenv documents for its files: the escapes of each kind of quotes, values
over several lines, names without a value, and the expansion of variables, which are looked up in
the file, in the environment, and in the text given with the name, in this order.
-/

namespace LiveTemplates.Settings.VariableFile

/-- Blanks other than line ends. -/
def isInlineBlank (c : Char) : Bool :=
  Text.isBlank c && c != '\n' && c != '\r'

/-- Whether a character ends a line. -/
def isLineEnd (c : Char) : Bool :=
  c == '\n' || c == '\r'

/-- The text without the word `export` and the blanks after it. -/
def skipExport (s : List Char) : List Char :=
  if "export".toList.isPrefixOf s then
    let rest := s.drop 6
    if (rest.head?.map isInlineBlank).getD false then rest.dropWhile isInlineBlank else s
  else s

/--
The text up to the closing quote, and what follows it. A backslash and the character after it belong
to the text, also if that character is a quote.
-/
def quotedFrom? (quote : Char) : List Char → Option (List Char × List Char)
  | [] => none
  | '\\' :: c :: rest => (quotedFrom? quote rest).map fun r => ('\\' :: c :: r.1, r.2)
  | c :: rest =>
    if c == quote then some ([], rest) else (quotedFrom? quote rest).map fun r => (c :: r.1, r.2)

/-- The text with each listed escape replaced by the character that it stands for. -/
def unescape (escapes : List (Char × Char)) : List Char → List Char
  | '\\' :: c :: rest =>
    match escapes.lookup c with
    | some d => d :: unescape escapes rest
    | none => '\\' :: unescape escapes (c :: rest)
  | c :: rest => c :: unescape escapes rest
  | [] => []
termination_by s => s.length

/-- The escapes between single quotes. -/
def singleEscapes : List (Char × Char) :=
  [('\\', '\\'), ('\'', '\'')]

/-- The escapes between double quotes. -/
def doubleEscapes : List (Char × Char) :=
  [('\\', '\\'), ('\'', '\''), ('"', '"'), ('a', '\x07'), ('b', '\x08'), ('f', '\x0c'),
    ('n', '\n'), ('r', '\r'), ('t', '\t'), ('v', '\x0b')]

/-- A value without quotes, up to a comment. `blank` says whether a blank stands before the text. -/
def beforeComment (blank : Bool) : List Char → List Char
  | [] => []
  | c :: rest =>
    if blank && c == '#' then [] else c :: beforeComment (Text.isBlank c) rest

/-- The name of a variable. A comment has none. -/
def name? (s : List Char) : Option (Option (List Char) × List Char) :=
  match s with
  | '#' :: _ => some (none, s)
  | '\'' :: rest =>
    let inside := rest.takeWhile (· != '\'')
    match rest.dropWhile (· != '\'') with
    | _ :: after => if inside.isEmpty then none else some (some inside, after)
    | [] => none
  | _ =>
    let isNameChar := fun c => c != '=' && c != '#' && !Text.isBlank c
    let word := s.takeWhile isNameChar
    if word.isEmpty then none else some (some word, s.dropWhile isNameChar)

/-- The value after the sign of equality and its blanks; `blank` says whether there are some. -/
def value? (blank : Bool) (s : List Char) : Option (List Char × List Char) :=
  match s with
  | '\'' :: rest => (quotedFrom? '\'' rest).map fun r => (unescape singleEscapes r.1, r.2)
  | '"' :: rest => (quotedFrom? '"' rest).map fun r => (unescape doubleEscapes r.1, r.2)
  | _ =>
    let line := s.takeWhile (!isLineEnd ·)
    some (Text.dropTrailing Text.isBlank (beforeComment blank line), s.dropWhile (!isLineEnd ·))

/-- What follows a comment, blanks and the end of the line, if nothing else stands there. -/
def endOfLine? (s : List Char) : Option (List Char) :=
  let s := s.dropWhile isInlineBlank
  let s := if s.head? == some '#' then s.dropWhile (!isLineEnd ·) else s
  match s with
  | [] => some []
  | '\r' :: '\n' :: rest => some rest
  | c :: rest => if isLineEnd c then some rest else none

/-- The value if there is one, and else an error at the place where the reading stopped. -/
def orStopAt {α : Type} (place : List Char) : Option α → Except (List Char) α
  | some a => .ok a
  | none => .error place

/-- A name and its value; a name without a sign of equality has none. -/
abbrev Binding := List Char × Option (List Char)

/-- The variable of a line and what follows the line, or the place where the line fits no more. -/
def binding (s : List Char) : Except (List Char) (Option Binding × List Char) := do
  let s := skipExport s
  let (name, rest) ← orStopAt s (name? s)
  let rest := rest.dropWhile isInlineBlank
  let (value, rest) ←
    match rest with
    | '=' :: rest =>
      let blank := (rest.head?.map isInlineBlank).getD false
      let rest := rest.dropWhile isInlineBlank
      orStopAt rest ((value? blank rest).map fun r => (some r.1, r.2))
    | _ => .ok (none, rest)
  let rest ← orStopAt rest (endOfLine? rest)
  return (name.map (·, value), rest)

/-- The variables of a text, from at most `fuel` lines. -/
def bindingsFrom : Nat → List Char → List Binding
  | 0, _ => []
  | fuel + 1, s =>
    match s.dropWhile Text.isBlank with
    | [] => []
    | s =>
      match binding s with
      | .ok (b, rest) => b.toList ++ bindingsFrom fuel rest
      | .error place =>
        match place.dropWhile (!isLineEnd ·) with
        | '\r' :: '\n' :: rest => bindingsFrom fuel rest
        | _ :: rest => bindingsFrom fuel rest
        | [] => []

/-- The variable that stands after a dollar sign, with its replacement text, and what follows. -/
def reference? (s : List Char) : Option ((List Char × Option (List Char)) × List Char) :=
  match s with
  | '\x7b' :: rest =>
    let isNameChar := fun c => c != '\x7d' && c != ':'
    let name := rest.takeWhile isNameChar
    match rest.dropWhile isNameChar with
    | '\x7d' :: after => some ((name, none), after)
    | ':' :: '-' :: after =>
      match after.dropWhile (· != '\x7d') with
      | _ :: after' => some ((name, some (after.takeWhile (· != '\x7d'))), after')
      | [] => none
    | _ => none
  | _ => none

/-- A value with the variables in it replaced; `fuel` is at least its length. -/
def interpolate (lookup : List Char → Option (List Char)) : Nat → List Char → List Char
  | 0, s => s
  | _, [] => []
  | fuel + 1, c :: rest =>
    if c == '$' then
      match reference? rest with
      | some ((name, replacement), after) =>
        ((lookup name).or replacement).getD [] ++ interpolate lookup fuel after
      | none => c :: interpolate lookup fuel rest
    else c :: interpolate lookup fuel rest

/-- The entries of a file; one whose name stands alone has no value. -/
abbrev Entries := List (String × Option String)

/--
The value that a name in a value stands for: what the file gave it before, which may be nothing, or
else the value of the variable.
-/
def meaning (environment : Variables) (given : Entries) (name : List Char) :
    Option (List Char) :=
  let key := String.ofList name
  match given.lookup key with
  | some value => some ((value.getD "").toList)
  | none => (environment.reverse.lookup key).map String.toList

/-- The entries with that of one more line. -/
def addBinding (environment : Variables) (given : Entries) (b : Binding) : Entries :=
  putPair (String.ofList b.1)
    (b.2.map fun value =>
      String.ofList (interpolate (meaning environment given) (value.length + 1) value))
    given

/-- The entries that a text gives. -/
def entries (environment : Variables) (text : List Char) : Entries :=
  let text := if text.head? == some '\ufeff' then text.drop 1 else text
  (bindingsFrom (text.length + 1) text).foldl (addBinding environment) []

end LiveTemplates.Settings.VariableFile
