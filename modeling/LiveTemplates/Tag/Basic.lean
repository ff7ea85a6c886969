import LiveTemplates.Text.Blank
import LiveTemplates.Text.Lowercase

/-!
# Tags

A tag is a directive that stands in a text as a comment: `<!--@ name argument -->`. Three names
have a meaning, and their case does not matter.
-/

namespace LiveTemplates

/-- What a directive asks for. -/
inductive TagKind
  /-- The file is only a part of others and has no output of its own. -/
  | partialFile
  /-- The text is also written to the named file. -/
  | outputFile
  /-- The named file's text takes the place of the tag. -/
  | includeFile
deriving DecidableEq, Repr

namespace TagKind

/-- The name of a directive. -/
def name : TagKind → String
  | .partialFile => "partial"
  | .outputFile => "output"
  | .includeFile => "include"

/-- The directive of a name, in any case and with blanks around it. -/
def ofName? (s : List Char) : Option TagKind :=
  let key := Text.lowercase (Text.trim s)
  [partialFile, outputFile, includeFile].find? fun k => k.name.toList == key

/-- Whether a directive is malformed without an argument. -/
def requiresArgument : TagKind → Bool
  | .partialFile => false
  | _ => true

end TagKind

/-- A directive found in a text. Places count characters from the start of the text. -/
structure Tag where
  name : List Char
  /-- What stands after the name, without blanks at its ends. -/
  argument : List Char
  /-- The place of the tag's first character. -/
  start : Nat
  /-- The place after the tag's last character. -/
  stop : Nat
  /-- The whole tag as it stands in the text. -/
  raw : List Char
deriving DecidableEq, Repr

/-- What a tag asks for, if its name has a meaning. -/
def Tag.kind (t : Tag) : Option TagKind :=
  TagKind.ofName? t.name

end LiveTemplates
