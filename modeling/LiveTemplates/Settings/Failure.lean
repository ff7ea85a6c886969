import LiveTemplates.FileTree
import LiveTemplates.Settings.Coercion

/-!
# Refused settings

Settings are refused for problems with single values, which are all told together, or because a
source of settings cannot be used at all.
-/

namespace LiveTemplates.Settings

/-- A refused setting: where it stands and why. -/
structure Problem where
  location : List Json
  kind : ProblemKind

/-- Why settings cannot be had. -/
inductive Failure
  /-- Settings that are refused. -/
  | invalid (problems : List Problem)
  /-- The variable of a field is no JSON, in the named source. -/
  | unreadableVariable (field source : String)
  /-- What the named source gives to a field cannot be found out. -/
  | unknownVariable (field source : String)
  /-- A directory of values is a file. -/
  | notDirectory
  /-- A file of variables cannot be read. -/
  | unreadableFile (error : String)
  /-- Files of variables are in an encoding that is not known. -/
  | unknownEncoding (name : String)
  /-- The encoding is not given by a name, but by a value of the given kind. -/
  | notEncoding (kind : String)
  /-- A path cannot be used. -/
  | file (e : FileError)
  /-- Something that cannot be gone through item by item, of the given kind. -/
  | notIterable (kind : String)
  /-- An item that has no text, of the given kind. -/
  | notText (kind : String)
  /-- Something that is no path, of the given kind. -/
  | notPath (kind : String)

/-- A failure in words, unless it is a list of problems. -/
def Failure.message : Failure → String
  | .invalid _ => ""
  | .unreadableVariable field source =>
    s!"error parsing value for field \"{field}\" from source \"{source}\""
  | .unknownVariable field source =>
    s!"error getting value for field \"{field}\" from source \"{source}\""
  | .notDirectory => "secrets_dir must reference a directory, not a file"
  | .unreadableFile error => error
  | .unknownEncoding name => s!"unknown encoding: {name}"
  | .notEncoding kind => s!"open() argument 'encoding' must be str or None, not {kind}"
  | .file e => e.message
  | .notIterable kind => s!"'{kind}' object is not iterable"
  | .notText kind => s!"'{kind}' object has no attribute 'strip'"
  | .notPath kind => s!"expected str, bytes or os.PathLike object, not {kind}"

/-- Whether a failure is about a value that was found, and not about the way to it. -/
def Failure.isOfValue : Failure → Bool
  | .invalid _ | .unreadableVariable .. | .unknownVariable .. | .notDirectory
  | .unreadableFile _ => true
  | .unknownEncoding _ | .notEncoding _ | .file _ | .notIterable _ | .notText _ | .notPath _ => false

/--
A failure as one to read settings that are themselves a value. What is wrong with a value that was
found is then a problem of the settings as a whole.
-/
def Failure.asProblem : Failure → Failure
  | .invalid problems => .invalid problems
  | e => if e.isOfValue then .invalid [⟨[], .failed e.message⟩] else e

end LiveTemplates.Settings
