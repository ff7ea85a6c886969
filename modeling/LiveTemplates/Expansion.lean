import LiveTemplates.Expansion.Termination
import LiveTemplates.Log.Entry

/-!
# Expansion

Expansion replaces the first tag of a text until none is left. What an include brings in is searched
like the rest, and so is what stands around a tag once the tag is gone.

## Termination

No text and no tree make this go on forever (`Expansion.follows_wellFounded`), so `run` goes on as
long as there is a step.
-/

namespace LiveTemplates

/-- Steps until no tag is left. `isFirst` says whether the first one is still to come. -/
def Expansion.run (t : FileTree) (source : Path) (isFirst : Bool) (e : Expansion) :
    Except ExpansionError Expansion :=
  match _h : step? t source isFirst e with
  | .error err => .error err
  | .ok none => .ok e
  | .ok (some e') => run t source false e'
termination_by (follows_wellFounded t source).wrap e
decreasing_by exact ⟨isFirst, _h⟩

/-- The expansion of a text as that of the file `source`. -/
def expand (t : FileTree) (source : Path) (text : List Char) : Except ExpansionError Expansion :=
  Expansion.run t source true (Expansion.initial text)

/-- The log entry of an expansion that came to its end. -/
def Expansion.logEntry (e : Expansion) (source : Path) : Log.Entry where
  level := .debug
  event := "file_expanded"
  values := [
    ("path", .string source.toString),
    ("includes", .int e.chain.length),
    ("outputs", .int e.outputPaths.length),
    ("is_partial", .bool e.isPartial)]

end LiveTemplates
