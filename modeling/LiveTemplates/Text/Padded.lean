/-!
# Padded text

Columns of text: spaces fill a text up to a width. A longer text stays as it is.
-/

namespace LiveTemplates.Text

/-- A text with spaces after it. -/
def padRight (width : Nat) (s : String) : String :=
  s ++ String.ofList (List.replicate (width - s.length) ' ')

/-- A text with spaces before it. -/
def padLeft (width : Nat) (s : String) : String :=
  String.ofList (List.replicate (width - s.length) ' ') ++ s

end LiveTemplates.Text
