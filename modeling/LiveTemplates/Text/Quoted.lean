import LiveTemplates.Text.Printable

/-!
# Quoted text

The form in which a path stands in an error message and a value in a log line. Single quotes
surround it, unless it holds single quotes and no double ones. Backslashes and the surrounding
quote are escaped, and what is not printable is written as a code point.
-/

namespace LiveTemplates.Text

/-- A number in base sixteen with at least `width` lower-case digits. -/
def hexPadded (width n : Nat) : List Char :=
  let digits := Nat.toDigits 16 n
  List.replicate (width - digits.length) '0' ++ digits

/-- A character as it stands between the given quotes. -/
def quotedChar (quote c : Char) : List Char :=
  if c == quote || c == '\\' then ['\\', c]
  else if c == '\t' then ['\\', 't']
  else if c == '\n' then ['\\', 'n']
  else if c == '\r' then ['\\', 'r']
  else if isPrintable c then [c]
  else if c.toNat < 0x100 then '\\' :: 'x' :: hexPadded 2 c.toNat
  else if c.toNat < 0x10000 then '\\' :: 'u' :: hexPadded 4 c.toNat
  else '\\' :: 'U' :: hexPadded 8 c.toNat

/-- The quote that surrounds a text. -/
def quoteFor (s : List Char) : Char :=
  if s.contains '\'' && !s.contains '"' then '"' else '\''

/-- A text in quotes. -/
def quoted (s : List Char) : List Char :=
  let q := quoteFor s
  q :: s.flatMap (quotedChar q) ++ [q]

/-- A string in quotes. -/
def quotedString (s : String) : String :=
  String.ofList (quoted s.toList)

end LiveTemplates.Text
