import LiveTemplates.Path
import LiveTemplates.Text.Glob

/-!
# Which files are of interest

A file is monitored if its name ends in a monitored extension, whatever the case, and if no ignore
pattern meets it.
-/

namespace LiveTemplates.Path

/-- The extensions that every file has. -/
def wildcardExtensions : List String :=
  [".*", "*", "*.*"]

/-- Whether the name of a file ends in an extension. -/
def hasExtension (p : Path) (extension : String) : Bool :=
  wildcardExtensions.contains extension
    || (Text.caseFold extension.toList).isSuffixOf (Text.caseFold p.name.toList)

/-- Whether a pattern is one of the pieces of a path, or matches its last name. -/
def isIgnored (p : Path) (patterns : List String) : Bool :=
  patterns.any fun pattern =>
    p.pieces.contains pattern || Text.Glob.matchesName pattern p.name

end LiveTemplates.Path
