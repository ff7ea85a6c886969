import LiveTemplates.Log.Entry
import LiveTemplates.Path.Filter
import LiveTemplates.Text.Utf8

/-!
# File events

The system reports what happens to files and directories. Of interest is that a file was created,
changed or moved: such an event says which path now holds new content. A watch filter lets the paths
through that have its extension and are not ignored. Below the watched root, ignore patterns see
only the part of the path that lies below it.
-/

namespace LiveTemplates

/-- What an event says about an entry of the tree. -/
inductive ChangeType
  | created
  | modified
  | moved
deriving DecidableEq, Repr

/-- The name of a type of change. -/
def ChangeType.name : ChangeType → String
  | .created => "created"
  | .modified => "modified"
  | .moved => "moved"

/-- A path as the system reports it. -/
inductive RawPath
  | text (s : String)
  /-- Octets in UTF-8. -/
  | octets (bytes : ByteArray)

/-- A reported path as text. -/
def RawPath.decode : RawPath → Except Text.Utf8Flaw String
  | .text s => .ok s
  | .octets bytes => Text.decodeUtf8 bytes

/-- A reported event. -/
structure FileEvent where
  isDirectory : Bool
  /-- What happened; nothing for all that does not bring new content. -/
  change : Option ChangeType
  path : RawPath
  /-- Where the entry was moved to. -/
  destination : RawPath

/-- The path of an event that now has new content. -/
def FileEvent.changed? (e : FileEvent) : Option (ChangeType × RawPath) :=
  if e.isDirectory then none
  else e.change.map fun c => (c, if c = .moved then e.destination else e.path)

/-- Which changed files are let through. -/
structure WatchFilter where
  extension : String
  ignorePatterns : List String
  root : Option Path
deriving DecidableEq, Repr

namespace WatchFilter

/-- The part of a path that ignore patterns see. -/
def visiblePart (f : WatchFilter) (p : Path) : Path :=
  ((f.root.bind fun r => p.below? r).getD p)

/-- Whether a path is let through. -/
def accepts (f : WatchFilter) (p : Path) : Bool :=
  p.hasExtension f.extension && !(f.visiblePart p).isIgnored f.ignorePatterns

/-- The path that an event lets through, and what is logged. -/
def forward (f : WatchFilter) (e : FileEvent) :
    Except Text.Utf8Flaw (Option (Path × Log.Entry)) :=
  match e.changed? with
  | none => .ok none
  | some (change, raw) =>
    match raw.decode with
    | .error flaw => .error flaw
    | .ok s =>
      let p := Path.ofString s
      if f.accepts p then
        .ok (some (p, ⟨.debug, "file_changed", [("path", .string s),
          ("change_type", .string change.name), ("extension", .string f.extension)]⟩))
      else .ok none

end WatchFilter

end LiveTemplates
