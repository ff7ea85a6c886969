import LiveTemplates.Json
import LiveTemplates.Text.Decimal

/-!
# Reading JSON

A text is one value with blanks around it. Beyond the standard, the words `NaN`, `Infinity` and
`-Infinity` are numbers. Control characters in a string are refused, and so are half a surrogate
pair and an integer of more than `Text.maxDigits` digits.

Values nest, and each one takes at least one character, so the length of the text bounds the depth
of the reader's recursion.
-/

namespace LiveTemplates.Json

/-- A reader takes a value from the start of a text and returns it with what follows. -/
abbrev Step (α : Type) := Option (α × List Char)

/-- The text without blanks at its start. -/
def skipBlanks (s : List Char) : List Char :=
  s.dropWhile fun c => c == ' ' || c == '\t' || c == '\n' || c == '\r'

/-- The value of a hexadecimal digit. -/
def hexValue? (c : Char) : Option Nat :=
  if c.isDigit then some (c.toNat - '0'.toNat)
  else if 'a' ≤ c ∧ c ≤ 'f' then some (c.toNat - 'a'.toNat + 10)
  else if 'A' ≤ c ∧ c ≤ 'F' then some (c.toNat - 'A'.toNat + 10)
  else none

/-- Four hexadecimal digits. -/
def unit? : List Char → Option (Nat × List Char)
  | a :: b :: c :: d :: rest => do
    let n := (← hexValue? a) * 4096 + (← hexValue? b) * 256 + (← hexValue? c) * 16 + (← hexValue? d)
    some (n, rest)
  | _ => none

/-- The character that the digits after `\u` stand for; a pair of units is one character. -/
def unicodeEscape? (s : List Char) : Option (Char × List Char) := do
  let (u, rest) ← unit? s
  if 0xD800 ≤ u ∧ u < 0xDC00 then
    match rest with
    | '\\' :: 'u' :: rest =>
      let (v, rest) ← unit? rest
      if 0xDC00 ≤ v ∧ v < 0xE000 then
        some (Char.ofNat (0x10000 + (u - 0xD800) * 0x400 + (v - 0xDC00)), rest)
      else none
    | _ => none
  else if 0xDC00 ≤ u ∧ u < 0xE000 then none
  else some (Char.ofNat u, rest)

/-- The rest of a string after its opening quote, where `before` is read already, in reverse. -/
def stringFrom? (fuel : Nat) (before : List Char) (s : List Char) : Step String :=
  match fuel with
  | 0 => none
  | fuel + 1 =>
    match s with
    | [] => none
    | '"' :: rest => some (String.ofList before.reverse, rest)
    | '\\' :: 'u' :: rest =>
      match unicodeEscape? rest with
      | some (c, rest) => stringFrom? fuel (c :: before) rest
      | none => none
    | '\\' :: c :: rest =>
      match [('"', '"'), ('\\', '\\'), ('/', '/'), ('b', '\x08'), ('f', '\x0c'), ('n', '\n'),
          ('r', '\r'), ('t', '\t')].lookup c with
      | some d => stringFrom? fuel (d :: before) rest
      | none => none
    | c :: rest =>
      if c.toNat < 0x20 || c == '\\' then none else stringFrom? fuel (c :: before) rest

/-- The digits after a point, if a point with digits stands there. -/
def fraction (s : List Char) : List Char × List Char :=
  match s with
  | '.' :: rest =>
    let ds := rest.takeWhile Char.isDigit
    if ds.isEmpty then ([], s) else (ds, rest.dropWhile Char.isDigit)
  | _ => ([], s)

/-- The exponent, if one stands there. -/
def exponent? (s : List Char) : Step Int :=
  match s with
  | e :: rest =>
    if e == 'e' || e == 'E' then
      let (negative, rest) :=
        match rest with
        | '-' :: rest => (true, rest)
        | '+' :: rest => (false, rest)
        | _ => (false, rest)
      let ds := rest.takeWhile Char.isDigit
      if ds.isEmpty then none
      else
        let n : Int := Text.natOfDigits ds
        some (if negative then -n else n, rest.dropWhile Char.isDigit)
    else none
  | [] => none

/-- A number, after its sign. -/
def number? (negative : Bool) (s : List Char) : Step Json :=
  let whole :=
    match s with
    | '0' :: _ => ['0']
    | _ => s.takeWhile Char.isDigit
  if whole.isEmpty then none
  else
    let (places, rest) := fraction (s.drop whole.length)
    match exponent? rest with
    | some (e, rest) =>
      some (.float (.ofDecimal negative (Text.natOfDigits (whole ++ places)) (e - places.length)), rest)
    | none =>
      if places.isEmpty then
        if Text.maxDigits < whole.length then none
        else
          let n : Int := Text.natOfDigits whole
          some (.int (if negative then -n else n), rest)
      else
        some (.float (.ofDecimal negative (Text.natOfDigits (whole ++ places)) (-places.length)), rest)

/-- What follows a word, if the text starts with it. -/
def afterWord? (word : String) (s : List Char) : Option (List Char) :=
  if word.toList.isPrefixOf s then some (s.drop word.length) else none

mutual

/-- A value. -/
def value? (fuel : Nat) (s : List Char) : Step Json :=
  match fuel with
  | 0 => none
  | fuel + 1 =>
    match s with
    | '"' :: rest => (stringFrom? (rest.length + 1) [] rest).map fun (t, rest) => (.string t, rest)
    | '[' :: rest =>
      match skipBlanks rest with
      | ']' :: rest => some (.array [], rest)
      | rest => (items? fuel rest).map fun (items, rest) => (.array items, rest)
    | '{' :: rest =>
      match skipBlanks rest with
      | '}' :: rest => some (.object [], rest)
      | rest => (fields? fuel [] rest).map fun (fields, rest) => (.object fields, rest)
    | 'n' :: _ => (afterWord? "null" s).map (.null, ·)
    | 't' :: _ => (afterWord? "true" s).map (.bool true, ·)
    | 'f' :: _ => (afterWord? "false" s).map (.bool false, ·)
    | 'N' :: _ => (afterWord? "NaN" s).map (.float .notANumber, ·)
    | 'I' :: _ => (afterWord? "Infinity" s).map (.float (.infinite false), ·)
    | '-' :: 'I' :: rest => (afterWord? "Infinity" ('I' :: rest)).map (.float (.infinite true), ·)
    | '-' :: rest => number? true rest
    | _ => number? false s

/-- The items of an array and its closing bracket. -/
def items? (fuel : Nat) (s : List Char) : Step (List Json) :=
  match fuel with
  | 0 => none
  | fuel + 1 =>
    match value? fuel s with
    | none => none
    | some (v, rest) =>
      match skipBlanks rest with
      | ']' :: rest => some ([v], rest)
      | ',' :: rest => (items? fuel (skipBlanks rest)).map fun (vs, rest) => (v :: vs, rest)
      | _ => none

/-- The fields of an object and its closing brace, after those that are read already. -/
def fields? (fuel : Nat) (before : List (String × Json)) (s : List Char) :
    Step (List (String × Json)) :=
  match fuel with
  | 0 => none
  | fuel + 1 =>
    match s with
    | '"' :: rest =>
      match stringFrom? (rest.length + 1) [] rest with
      | none => none
      | some (name, rest) =>
        match skipBlanks rest with
        | ':' :: rest =>
          match value? fuel (skipBlanks rest) with
          | none => none
          | some (v, rest) =>
            match skipBlanks rest with
            | '\x7d' :: rest => some (putField name v before, rest)
            | ',' :: rest => fields? fuel (putField name v before) (skipBlanks rest)
            | _ => none
        | _ => none
    | _ => none

end

/-- The value that a text stands for. -/
def parse? (s : String) : Option Json :=
  let cs := s.toList
  match value? (2 * cs.length + 2) (skipBlanks cs) with
  | some (v, rest) => if (skipBlanks rest).isEmpty then some v else none
  | none => none

end LiveTemplates.Json
