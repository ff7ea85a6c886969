/-!
# Lines

Reading a text file writes each of the three line ends as a line feed. Splitting into lines also
breaks at the other characters that end a line or a page.
-/

namespace LiveTemplates.Text

/-- A text with each carriage return, alone or before a line feed, written as a line feed. -/
def unifyLineEnds : List Char → List Char
  | [] => []
  | '\r' :: '\n' :: rest => '\n' :: unifyLineEnds rest
  | c :: rest => (if c == '\r' then '\n' else c) :: unifyLineEnds rest

/-- Whether a line ends at the character. -/
def isLineBreak (c : Char) : Bool :=
  let n := c.toNat
  (0x0A ≤ n && n ≤ 0x0D) || (0x1C ≤ n && n ≤ 0x1E) || n == 0x85 || n == 0x2028 || n == 0x2029

/-- The lines of a text, where `line` holds the start of the first one in reverse order. -/
def linesFrom (line : List Char) : List Char → List (List Char)
  | [] => if line.isEmpty then [] else [line.reverse]
  | '\r' :: '\n' :: rest => line.reverse :: linesFrom [] rest
  | c :: rest =>
    if isLineBreak c then line.reverse :: linesFrom [] rest else linesFrom (c :: line) rest

/-- The lines of a text. A break at the very end opens no further line. -/
def lines (s : List Char) : List (List Char) :=
  linesFrom [] s

end LiveTemplates.Text
