import LiveTemplates.FileTree
import LiveTemplates.Text.Blank

/-!
# The sidecar file

A file beside the templates may say which directory to watch, in a line that starts with `monitor:`.
The first such line counts.
-/

namespace LiveTemplates

/-- Why a sidecar file does not say what to watch. -/
inductive SidecarError
  | unreadable (e : ReadError)
  /-- The entry has no value. -/
  | emptyEntry (file : Path)
deriving DecidableEq, Repr

/-- An error as it is reported. -/
def SidecarError.message : SidecarError → String
  | .unreadable e => e.message
  | .emptyEntry file => s!"Empty monitor entry in {file}"

/-- The start of the line that says what to watch. -/
def monitorKey : List Char := "monitor:".toList

/-- What the sidecar file says to watch, if the file and the entry are there. -/
def FileTree.monitorEntry (t : FileTree) (file : Path) : Except SidecarError (Option String) :=
  match t.isFile file with
  | .error e => .error (.unreadable (.file e))
  | .ok false => .ok none
  | .ok true =>
    match t.readText file with
    | .error e => .error (.unreadable e)
    | .ok text =>
      match (Text.lines text).find? monitorKey.isPrefixOf with
      | none => .ok none
      | some line =>
        let value := Text.trim (line.drop monitorKey.length)
        if value.isEmpty then .error (.emptyEntry file) else .ok (some (String.ofList value))

end LiveTemplates
