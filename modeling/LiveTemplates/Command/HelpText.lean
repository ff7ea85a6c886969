import LiveTemplates.Text.Quoted

/-!
# Texts of the help

The help on an option may name parameters of the option. A percent sign starts a conversion: the name
of a parameter in parentheses, flags, a width, a precision and the letter that says how the parameter
is written. Two percent signs stand for one. A conversion without a name takes the table of all
parameters, once.

The help itself is not modelled, only whether it can be written. The extensions of the settings are
part of the help on the option for extensions, and they may hold percent signs.
-/

namespace LiveTemplates.Command

/-- A parameter of an option. -/
inductive Parameter
  /-- It is not set. -/
  | unset
  /-- It is yes or no. -/
  | flag
  | text
  | list
  /-- The table of all parameters. -/
  | table
  /-- The group of options that the option belongs to. -/
  | group
deriving DecidableEq, Repr

/-- The kind of a parameter, as messages name it. -/
def Parameter.kind : Parameter → String
  | .unset => "NoneType"
  | .flag => "bool"
  | .text => "str"
  | .list => "list"
  | .table => "dict"
  | .group => "_ArgumentGroup"

/-- The parameters of the option for extensions. -/
def extensionParameters : List (String × Parameter) :=
  [("option_strings", .list), ("dest", .text), ("nargs", .unset), ("const", .unset),
    ("default", .unset), ("type", .unset), ("choices", .unset), ("required", .flag),
    ("help", .text), ("metavar", .unset), ("container", .group), ("prog", .text)]

/-- Why a help text cannot be written. -/
inductive HelpError
  | incomplete
  | incompleteName
  | unknownName (name : String)
  | widthTooBig
  | precisionTooBig
  /-- A width or a precision is no number. -/
  | notWidth
  /-- The table is taken twice. -/
  | exhausted
  | notReal (letter : Char) (kind : String)
  | notInteger (letter : Char) (kind : String)
  | notNumber (kind : String)
  | notCharacter
  | unsupported (letter : Char) (index : Nat)
deriving DecidableEq, Repr

/-- An error as it is reported. -/
def HelpError.message : HelpError → String
  | .incomplete => "incomplete format"
  | .incompleteName => "incomplete format key"
  | .unknownName name => Text.quotedString name
  | .widthTooBig => "width too big"
  | .precisionTooBig => "precision too big"
  | .notWidth => "* wants int"
  | .exhausted => "not enough arguments for format string"
  | .notReal letter kind => s!"%{letter} format: a real number is required, not {kind}"
  | .notInteger letter kind => s!"%{letter} format: an integer is required, not {kind}"
  | .notNumber kind => s!"must be real number, not {kind}"
  | .notCharacter => "%c requires int or char"
  | .unsupported letter index =>
    let shown := if 31 ≤ letter.toNat ∧ letter.toNat ≤ 126 then letter else '?'
    let code := String.ofList (Nat.toDigits 16 letter.toNat)
    s!"unsupported format character '{shown}' (0x{code}) at index {index}"

/-- What the next conversion without a name takes; nothing if that was taken. -/
abbrev Supply := Option Parameter

/-! ## The parts of a conversion -/

/-- The name up to the closing parenthesis and what follows it, inside `depth` more parentheses. -/
def nameFrom? (depth : Nat) : List Char → Option (List Char × List Char)
  | [] => none
  | c :: rest =>
    if c == ')' && depth == 0 then some ([], rest)
    else
      let depth := if c == ')' then depth - 1 else if c == '(' then depth + 1 else depth
      (nameFrom? depth rest).map fun r => (c :: r.1, r.2)

/-- The named parameter, if a conversion starts with a name, and what follows the name. -/
def readName (parameters : List (String × Parameter)) (supply : Supply) (s : List Char) :
    Except HelpError (Supply × List Char) :=
  match s with
  | '(' :: rest =>
    match nameFrom? 0 rest with
    | none => .error .incompleteName
    | some (name, rest) =>
      match parameters.lookup (String.ofList name) with
      | none => .error (.unknownName (String.ofList name))
      | some p => .ok (some p, rest)
  | _ => .ok (supply, s)

/-- Whether a character is a flag of a conversion. -/
def isFlag (c : Char) : Bool :=
  c == '-' || c == '+' || c == ' ' || c == '#' || c == '0'

/-- A width or a precision, if there is one; an asterisk takes it from the parameter. -/
def readSize (limit : Nat) (tooBig : HelpError) (supply : Supply) (s : List Char) :
    Except HelpError (Supply × List Char) :=
  match s with
  | '*' :: rest =>
    match supply with
    | none => .error .exhausted
    | some .flag => .ok (none, rest)
    | some _ => .error .notWidth
  | _ =>
    let size := (s.takeWhile Char.isDigit).foldl (fun n c => 10 * n + (c.toNat - '0'.toNat)) 0
    if limit < size then .error tooBig else .ok (supply, s.dropWhile Char.isDigit)

/-- The largest width. -/
def maxWidth : Nat := 9223372036854775807

/-- The largest precision. -/
def maxPrecision : Nat := 2147483647

/-- A precision, if there is one. -/
def readPrecision (supply : Supply) (s : List Char) : Except HelpError (Supply × List Char) :=
  match s with
  | '.' :: rest => readSize maxPrecision .precisionTooBig supply rest
  | _ => .ok (supply, s)

/-- Writes a parameter as a letter says. -/
def write (letter : Char) (index : Nat) (p : Parameter) : Except HelpError Unit :=
  if "sra".contains letter then .ok ()
  else if "diu".contains letter then
    if p = .flag then .ok () else .error (.notReal letter p.kind)
  else if "oxX".contains letter then
    if p = .flag then .ok () else .error (.notInteger letter p.kind)
  else if "eEfFgG".contains letter then
    if p = .flag then .ok () else .error (.notNumber p.kind)
  else if letter == 'c' then
    if p = .flag then .ok () else .error .notCharacter
  else .error (.unsupported letter index)

/-- Reads a conversion after its sign. The result says how many characters it has. -/
def convert (parameters : List (String × Parameter)) (supply : Supply) (index : Nat)
    (s : List Char) : Except HelpError (Supply × Nat) :=
  if s.head? == some '%' then .ok (supply, 1)
  else do
    let (supply, rest) ← readName parameters supply s
    let (supply, rest) ← readSize maxWidth .widthTooBig supply (rest.dropWhile isFlag)
    let (supply, rest) ← readPrecision supply rest
    let rest := if (rest.head?.map fun c => "hlL".contains c).getD false then rest.drop 1 else rest
    match rest with
    | [] => .error .incomplete
    | letter :: rest =>
      let size := s.length - rest.length
      match supply with
      | none => .error .exhausted
      | some p => (write letter (index + size - 1) p).map fun _ => (none, size)

/-- Writes what is left of a text from an index on. -/
def writeFrom (parameters : List (String × Parameter)) (supply : Supply) (index : Nat) :
    List Char → Except HelpError Unit
  | [] => .ok ()
  | '%' :: rest =>
    match convert parameters supply (index + 1) rest with
    | .error e => .error e
    | .ok (supply, size) => writeFrom parameters supply (index + 1 + size) (rest.drop size)
  | _ :: rest => writeFrom parameters supply (index + 1) rest
termination_by s => s.length

/-- The help on the option for extensions. -/
def extensionHelp (extensions : List String) : String :=
  "Extension to watch, repeatable (default: " ++ ", ".intercalate extensions ++ ")"

/-- Why the help cannot be written where some extensions are the default ones. -/
def helpError? (extensions : List String) : Option HelpError :=
  match writeFrom extensionParameters (some .table) 0 (extensionHelp extensions).toList with
  | .error e => some e
  | .ok () => none

end LiveTemplates.Command
