import LiveTemplates.Text.Blank
import LiveTemplates.Text.CaseFold

/-!
# Paths

A path is a root and a list of names. Reading one drops empty names and single dots, so that `a//b`
and `a/./b` are the same path; names of two dots stay, because only a walk over the directories, or
`normalise`, says where they lead.

A path may start with one slash or with exactly two. The two are different paths, although a
walk starts at the same directory for both; three slashes and more count as one.
-/

namespace LiveTemplates

/-- Where a path starts. -/
inductive Root
  /-- The working directory. -/
  | workingDirectory
  /-- One leading slash. -/
  | slash
  /-- Two leading slashes. -/
  | doubleSlash
deriving DecidableEq, Repr

/-- A path: where it starts and the names on it. -/
structure Path where
  root : Root
  names : List String
deriving DecidableEq, Repr

/-- The leading slashes of a path. -/
def Root.text : Root → String
  | .workingDirectory => ""
  | .slash => "/"
  | .doubleSlash => "//"

namespace Path

/-! ## Reading and writing -/

/-- A name read in reverse order, unless it is empty or a single dot. -/
def nameOfReverse : List Char → List String
  | [] => []
  | ['.'] => []
  | cs => [String.ofList cs.reverse]

/-- The names of a path's text, where `before` holds the start of the first one in reverse order. -/
def namesFrom (before : List Char) : List Char → List String
  | [] => nameOfReverse before
  | c :: rest =>
    if c == '/' then nameOfReverse before ++ namesFrom [] rest else namesFrom (c :: before) rest

/-- The start that the leading slashes of a text stand for. -/
def rootOf : List Char → Root
  | '/' :: '/' :: '/' :: _ => .slash
  | '/' :: '/' :: _ => .doubleSlash
  | '/' :: _ => .slash
  | _ => .workingDirectory

/-- The path that a text stands for. -/
def ofString (s : String) : Path :=
  ⟨rootOf s.toList, namesFrom [] s.toList⟩

/-- A path as text. The path without names that starts at the working directory is a dot. -/
def toString (p : Path) : String :=
  if p.root = .workingDirectory ∧ p.names = [] then "."
  else p.root.text ++ "/".intercalate p.names

instance : ToString Path := ⟨Path.toString⟩

/-- The root, if the path has one, and the names: the pieces that paths are ordered by. -/
def pieces (p : Path) : List String :=
  match p.root with
  | .workingDirectory => p.names
  | r => r.text :: p.names

/-- Whether a path stands before another, or is the same, in the order of their pieces. -/
def le (p q : Path) : Bool :=
  !decide (q.pieces < p.pieces)

/-- Paths in ascending order. -/
def sort (ps : List Path) : List Path :=
  ps.mergeSort le

/-! ## Parts of a path -/

/-- Whether a path says itself where it starts. -/
def isAbsolute (p : Path) : Bool :=
  p.root != .workingDirectory

/-- The path without its last name. -/
def parent (p : Path) : Path :=
  { p with names := p.names.dropLast }

/-- The last name of a path; empty if it has none. -/
def name (p : Path) : String :=
  p.names.getLast?.getD ""

/--
The last name without what follows its last dot. A dot at either end of the name is part of the
stem.
-/
def stem (p : Path) : String :=
  let cs := p.name.toList
  let suffix := cs.reverse.takeWhile (· != '.')
  let base := cs.take (cs.length - suffix.length - 1)
  if suffix.isEmpty || base.isEmpty then p.name else String.ofList base

/-- The path `q` seen from the directory `p`. -/
def join (p q : Path) : Path :=
  match q.root with
  | .workingDirectory => { p with names := p.names ++ q.names }
  | _ => q

instance : HDiv Path String Path := ⟨fun p s => p.join (ofString s)⟩

/-- The path beside a file whose name is the stem of the file and an extension. -/
def withExtension (p : Path) (extension : String) : Path :=
  p.parent / (p.stem ++ extension)

/-- The rest of a path below a directory, if its pieces start with those of the directory. -/
def below? (p dir : Path) : Option Path :=
  if p.root = dir.root ∧ dir.names <+: p.names then
    some ⟨.workingDirectory, p.names.drop dir.names.length⟩
  else none

/-! ## Absolute and normal paths -/

/-- Takes one name into account: two dots undo the name before them. `above` is in reverse order. -/
def stepName (absolute : Bool) (above : List String) (n : String) : List String :=
  if n == ".." then
    match above with
    | [] => if absolute then [] else [".."]
    | a :: rest => if a == ".." then ".." :: a :: rest else rest
  else n :: above

/-- The same path without names of two dots, except that a relative one may start with them. -/
def normalise (p : Path) : Path :=
  { p with names := (p.names.foldl (stepName p.isAbsolute) []).reverse }

/-- The path as seen from a working directory, without names of two dots. -/
def absolute (p cwd : Path) : Path :=
  (cwd.join p).normalise

/-- The text by which paths are compared without regard to case. -/
def key (p cwd : Path) : String :=
  Text.caseFoldString (p.absolute cwd).toString

/-- Whether two paths differ at most in case. -/
def sameAs (p q cwd : Path) : Bool :=
  p.key cwd == q.key cwd

/-- The path that a directive's argument stands for in the file `source`. -/
def resolve (source : Path) (argument : String) (cwd : Path) : Path :=
  (source.parent / Text.trimString argument).absolute cwd

end Path

end LiveTemplates
