import LiveTemplates.Json
import LiveTemplates.Path
import LiveTemplates.Text.Decimal

/-!
# Reading single settings

A setting is given as a JSON value, or as a path if it was read before. Each kind of setting accepts
its own values and some that stand for them: a number may be written as text, a truth value as a
word or as 0 and 1.

An integer as text may have blanks around it, a sign, zeros in front, single low lines between its
digits, and a point that zeros follow.

What is accepted for a kind of setting is what the conversion table of pydantic documents for it
where types are not strict.
-/

namespace LiveTemplates.Settings

/-- A setting as it is given. -/
inductive Value
  | json (v : Json)
  | path (p : Path)
deriving Repr, Inhabited

/-- The kind of a value, as messages name it. -/
def kindName : Value → String
  | .path _ => "PosixPath"
  | .json .null => "NoneType"
  | .json (.bool _) => "bool"
  | .json (.int _) => "int"
  | .json (.float _) => "float"
  | .json (.string _) => "str"
  | .json (.array _) => "list"
  | .json (.object _) => "dict"

/-- Why a setting is refused. -/
inductive ProblemKind
  | notPath
  | notString
  | notInteger
  | unreadableInteger
  | oversizedInteger
  | fractionalNumber
  | infiniteNumber
  | notBoolean
  | unreadableBoolean
  | notList
  | tooLarge (bound : Int)
  | tooSmall (bound : Int)
  | unknownField
  | frozenField
  /-- Neither an object nor a group of settings of the given name. -/
  | notGroup (name : String)
  /-- Another failure, in its own words. -/
  | failed (text : String)
deriving DecidableEq, Repr

/-- The code of a problem. -/
def ProblemKind.code : ProblemKind → String
  | .notPath => "path_type"
  | .notString => "string_type"
  | .notInteger => "int_type"
  | .unreadableInteger => "int_parsing"
  | .oversizedInteger => "int_parsing_size"
  | .fractionalNumber => "int_from_float"
  | .infiniteNumber => "finite_number"
  | .notBoolean => "bool_type"
  | .unreadableBoolean => "bool_parsing"
  | .notList => "list_type"
  | .tooLarge _ => "less_than_equal"
  | .tooSmall _ => "greater_than_equal"
  | .unknownField => "extra_forbidden"
  | .frozenField => "frozen_instance"
  | .notGroup _ => "model_type"
  | .failed _ => "value_error"

/-- A problem in words. -/
def ProblemKind.message : ProblemKind → String
  | .notPath => "Input is not a valid path for <class 'pathlib.Path'>"
  | .notString => "Input should be a valid string"
  | .notInteger => "Input should be a valid integer"
  | .unreadableInteger =>
    "Input should be a valid integer, unable to parse string as an integer"
  | .oversizedInteger => "Unable to parse input string as an integer, exceeded maximum size"
  | .fractionalNumber => "Input should be a valid integer, got a number with a fractional part"
  | .infiniteNumber => "Input should be a finite number"
  | .notBoolean => "Input should be a valid boolean"
  | .unreadableBoolean => "Input should be a valid boolean, unable to interpret input"
  | .notList => "Input should be a valid list"
  | .tooLarge bound => s!"Input should be less than or equal to {bound}"
  | .tooSmall bound => s!"Input should be greater than or equal to {bound}"
  | .unknownField => "Extra inputs are not permitted"
  | .frozenField => "Instance is frozen"
  | .notGroup name => s!"Input should be a valid dictionary or instance of {name}"
  | .failed text => s!"Value error, {text}"

/-! ## Texts and paths -/

/-- A text. -/
def readString : Value → Except ProblemKind String
  | .json (.string s) => .ok s
  | _ => .error .notString

/-- A path. -/
def readPath : Value → Except ProblemKind Path
  | .json (.string s) => .ok (Path.ofString s)
  | .path p => .ok p
  | _ => .error .notPath

/-- A path that may be missing. -/
def readOptionalPath : Value → Except ProblemKind (Option Path)
  | .json .null => .ok none
  | v => (readPath v).map some

/-! ## Integers -/

/--
An integer in its plain form: a minus sign if any, and digits without zeros in front. Too many digits
are told of before what follows them.
-/
def plainInteger? (s : List Char) : Except ProblemKind Int :=
  let (negative, unsigned) :=
    match s with
    | '-' :: rest => (true, rest)
    | _ => (false, s)
  let ds := unsigned.takeWhile Char.isDigit
  let rest := unsigned.dropWhile Char.isDigit
  if ds.isEmpty then .error .unreadableInteger
  else if ds.head? == some '0' && (1 < ds.length || !rest.isEmpty) then .error .unreadableInteger
  else if Text.maxDigits < ds.length then .error .oversizedInteger
  else if !rest.isEmpty then .error .unreadableInteger
  else
    let n : Int := Text.natOfDigits ds
    .ok (if negative then -n else n)

/--
A text without zeros in front. Low lines between such zeros go with them, and a minus sign may follow
them; one zero stays if only a point or nothing follows.
-/
def dropLeadingZeros? (s : List Char) : Option (List Char) :=
  match s with
  | '0' :: rest => go '0' rest
  | c :: _ => if c.isDigit || c == '-' then some s else none
  | [] => none
where
  /-- What is left after `last`, which is a zero or a low line. -/
  go (last : Char) : List Char → Option (List Char)
    | [] => some [last]
    | c :: rest =>
      if c == '0' || c == '_' then go c rest
      else if c.isDigit || c == '-' then some (c :: rest)
      else if c == '.' then some (last :: c :: rest)
      else none

/-- A text without a point and the zeros after it, if there are some and nothing else follows it. -/
def dropZeroPlaces (s : List Char) : List Char :=
  match s.dropWhile (· != '.') with
  | _ :: places =>
    if !places.isEmpty && places.all (· == '0') then s.takeWhile (· != '.') else s
  | [] => s

/-- A text without single low lines between other characters. -/
def dropLowLines (s : List Char) : List Char :=
  let pairs := s.zip (s.drop 1)
  if s.head? == some '_' || s.getLast? == some '_' || pairs.contains ('_', '_') then s
  else s.filter (· != '_')

/-- The plain form of an integer's text without blanks and signs. -/
def plainUnsigned? (s : List Char) : Option (List Char) :=
  (dropLeadingZeros? s).map fun s => dropLowLines (dropZeroPlaces s)

/-- The plain form of an integer's text. A plus sign goes, unless a minus sign follows it. -/
def plainForm? (s : List Char) : Option (List Char) :=
  match Text.trimOf Text.isWhiteSpace s with
  | '+' :: '-' :: _ => none
  | '+' :: rest => plainUnsigned? rest
  | '-' :: rest => (plainUnsigned? rest).map ('-' :: ·)
  | s => plainUnsigned? s

/-- An integer as text. Only a text in plain form is told of as too long. -/
def readIntegerText (s : List Char) : Except ProblemKind Int :=
  match plainInteger? s with
  | .error .unreadableInteger =>
    match (plainForm? s).map plainInteger? with
    | some (.ok n) => .ok n
    | _ => .error .unreadableInteger
  | r => r

/-- `2 ^ 63`. A machine word holds the integers below it, down to its negative. -/
def wordLimit : Int := 9223372036854775808

/-- A number of double precision that is an integer below `2 ^ 63` in size. -/
def integerOfFloat (x : Binary64) : Except ProblemKind Int :=
  match x with
  | .finite .. =>
    match x.toInt? with
    | none => .error .fractionalNumber
    | some n => if -wordLimit < n ∧ n < wordLimit then .ok n else .error .oversizedInteger
  | _ => .error .infiniteNumber

/-- An integer. -/
def readInteger : Value → Except ProblemKind Int
  | .json (.int n) => .ok n
  | .json (.bool b) => .ok (if b then 1 else 0)
  | .json (.float x) => integerOfFloat x
  | .json (.string s) => readIntegerText s.toList
  | _ => .error .notInteger

/-- An integer between two bounds, which belong to the range. -/
def readIntegerIn (low high : Int) (v : Value) : Except ProblemKind Int :=
  match readInteger v with
  | .error k => .error k
  | .ok n =>
    if high < n then .error (.tooLarge high)
    else if n < low then .error (.tooSmall low)
    else .ok n

/-! ## Truth values -/

/-- The words for true. -/
def trueWords : List String := ["1", "t", "true", "y", "yes", "on"]

/-- The words for false. -/
def falseWords : List String := ["0", "f", "false", "n", "no", "off"]

/-- The truth value that an integer stands for. -/
def booleanOfInteger (n : Int) : Except ProblemKind Bool :=
  if n = 0 then .ok false else if n = 1 then .ok true else .error .unreadableBoolean

/-- A truth value. The case of words does not matter. -/
def readBoolean : Value → Except ProblemKind Bool
  | .json (.bool b) => .ok b
  | .json (.string s) =>
    let word := String.ofList (s.toList.map Char.toLower)
    if trueWords.contains word then .ok true
    else if falseWords.contains word then .ok false
    else .error .unreadableBoolean
  | .json (.int n) =>
    if -wordLimit ≤ n ∧ n < wordLimit then booleanOfInteger n else .error .notBoolean
  | .json (.float x) =>
    match integerOfFloat x with
    | .ok n => booleanOfInteger n
    | .error _ => .error .notBoolean
  | _ => .error .notBoolean

/-! ## Lists -/

/-- The texts between commas. -/
def splitCommas (s : List Char) : List (List Char) :=
  s.foldr
    (fun c pieces =>
      if c == ',' then [] :: pieces
      else
        match pieces with
        | [] => [[c]]
        | p :: rest => (c :: p) :: rest)
    [[]]

/-- Trimmed texts, without those that are blank. -/
def cleanItems (items : List String) : List String :=
  (items.map Text.trimString).filter (· != "")

/-- The items of a text in which commas separate them. -/
def itemsOfText (s : String) : List String :=
  cleanItems ((splitCommas s.toList).map String.ofList)

end LiveTemplates.Settings
