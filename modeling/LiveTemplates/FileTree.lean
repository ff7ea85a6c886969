import LiveTemplates.Path
import LiveTemplates.Text.Lines
import LiveTemplates.Text.Quoted
import LiveTemplates.Text.Utf8

/-!
# File trees

A file tree says, for each place, whether a directory or a file is there and what the file holds. A
place is the list of names that leads to it from the root. The tree also has a working directory, at
which relative paths start.

A path is followed name by name. Each name is looked up in a directory; two dots lead to the
directory above, and from the root to the root itself. A name of more than 255 octets and a path of
more than 4095 are refused, whatever the tree holds.

Paths with the character U+0000 are left out. A system does not look such a path up or make it, and
the refusal is none of the errors here. In a tree the character is like any other.
-/

namespace LiveTemplates

/-- What stands at a place. -/
inductive Entry
  | directory
  | file (content : ByteArray)

instance : DecidableEq Entry
  | .directory, .directory => .isTrue rfl
  | .directory, .file _ => .isFalse nofun
  | .file _, .directory => .isFalse nofun
  | .file a, .file b =>
    match decEq a.data b.data with
    | .isTrue h => .isTrue (congrArg Entry.file (ByteArray.ext h))
    | .isFalse h => .isFalse fun e => h (congrArg ByteArray.data (Entry.file.inj e))

/-- The names that lead from the root to an entry. -/
abbrev Place := List String

/-- A tree of directories and files. The root is always a directory and has no entry of its own. -/
structure FileTree where
  entries : List (Place × Entry)
  workingDirectory : Place

/-- Why a path cannot be used as it was meant. -/
inductive FileErrorKind
  | notFound
  | alreadyExists
  | notDirectory
  | isDirectory
  | nameTooLong
deriving DecidableEq, Repr

namespace FileErrorKind

/-- The number of an error. -/
def number : FileErrorKind → Nat
  | .notFound => 2
  | .alreadyExists => 17
  | .notDirectory => 20
  | .isDirectory => 21
  | .nameTooLong => 36

/-- An error in words. -/
def description : FileErrorKind → String
  | .notFound => "No such file or directory"
  | .alreadyExists => "File exists"
  | .notDirectory => "Not a directory"
  | .isDirectory => "Is a directory"
  | .nameTooLong => "File name too long"

end FileErrorKind

/-- A refused path and the reason. -/
structure FileError where
  kind : FileErrorKind
  path : String
deriving DecidableEq, Repr

/-- An error as it is reported. -/
def FileError.message (e : FileError) : String :=
  s!"[Errno {e.kind.number}] {e.kind.description}: {Text.quotedString e.path}"

/-- Why the text of a file cannot be had. -/
inductive ReadError
  | file (e : FileError)
  | illFormed (flaw : Text.Utf8Flaw)
deriving DecidableEq, Repr

namespace Text

/-- A fault of ill-formed octets in words. -/
def Utf8Fault.description : Utf8Fault → String
  | .invalidStart => "invalid start byte"
  | .invalidContinuation => "invalid continuation byte"
  | .unexpectedEnd => "unexpected end of data"

/-- A flaw of ill-formed octets as it is reported. -/
def Utf8Flaw.message (flaw : Utf8Flaw) : String :=
  let place :=
    if flaw.count = 1 then
      s!"byte 0x{String.ofList (hexPadded 2 flaw.octet.toNat)} in position {flaw.position}"
    else s!"bytes in position {flaw.position}-{flaw.position + flaw.count - 1}"
  s!"'utf-8' codec can't decode {place}: {flaw.fault.description}"

end Text

/-- An error as it is reported. -/
def ReadError.message : ReadError → String
  | .file e => e.message
  | .illFormed flaw => flaw.message

namespace FileTree

/-! ## Looking up -/

/-- The working directory as a path. -/
def cwd (t : FileTree) : Path :=
  ⟨.slash, t.workingDirectory⟩

/-- What stands at a place. -/
def entry? (t : FileTree) (place : Place) : Option Entry :=
  if place = [] then some .directory else t.entries.lookup place

/-- The longest name, in octets. -/
def maxNameSize : Nat := 255

/-- The longest path, in octets. -/
def maxPathSize : Nat := 4095

/-- The place where the names lead from a directory. -/
def follow (t : FileTree) (place : Place) : List String → Except FileErrorKind Place
  | [] => .ok place
  | n :: rest =>
    if t.entry? place ≠ some .directory then .error .notDirectory
    else if n == ".." then t.follow place.dropLast rest
    else if maxNameSize < n.utf8ByteSize then .error .nameTooLong
    else if (t.entry? (place ++ [n])).isNone then .error .notFound
    else t.follow (place ++ [n]) rest

/-- The place at which a path starts. -/
def startOf (t : FileTree) (p : Path) : Place :=
  if p.isAbsolute then [] else t.workingDirectory

/-- The place that a path leads to, which has an entry. -/
def find (t : FileTree) (p : Path) : Except FileErrorKind Place :=
  if maxPathSize < p.toString.utf8ByteSize then .error .nameTooLong
  else t.follow (t.startOf p) p.names

/--
Whether a path leads to an entry of some kind. A path that leads nowhere is no error, one that is
too long is.
-/
def hasEntry (t : FileTree) (p : Path) (kind : Entry → Bool) : Except FileError Bool :=
  match t.find p with
  | .ok place => .ok ((t.entry? place).any kind)
  | .error .nameTooLong => .error ⟨.nameTooLong, p.toString⟩
  | .error _ => .ok false

/-- Whether a path leads to a file. -/
def isFile (t : FileTree) (p : Path) : Except FileError Bool :=
  t.hasEntry p (· ≠ .directory)

/-- Whether a path leads to a directory. -/
def isDirectory (t : FileTree) (p : Path) : Except FileError Bool :=
  t.hasEntry p (· = .directory)

/-- Why it cannot be told what a path leads to: only a path that is too long is refused. -/
def refusal? (t : FileTree) (p : Path) : Option FileError :=
  match t.isFile p with
  | .error e => some e
  | .ok _ => none

/-- The octets of the file that a path leads to. -/
def read (t : FileTree) (p : Path) : Except FileError ByteArray :=
  match t.find p with
  | .error k => .error ⟨k, p.toString⟩
  | .ok place =>
    match t.entry? place with
    | some (.file content) => .ok content
    | _ => .error ⟨.isDirectory, p.toString⟩

/-- The text of the file that a path leads to, with every line end written as a line feed. -/
def readText (t : FileTree) (p : Path) : Except ReadError (List Char) :=
  match t.read p with
  | .error e => .error (.file e)
  | .ok content =>
    match Text.decodeUtf8 content with
    | .error flaw => .error (.illFormed flaw)
    | .ok s => .ok (Text.unifyLineEnds s.toList)

/-- The paths of everything below a directory, given the directory's path and place. -/
def below (t : FileTree) (dir : Path) (place : Place) : List Path :=
  t.entries.filterMap fun (q, _) =>
    if place <+: q ∧ place ≠ q then
      some { dir with names := dir.names ++ q.drop place.length }
    else none

/-- The paths of the directories among them. -/
def directoriesBelow (t : FileTree) (dir : Path) (place : Place) : List Path :=
  FileTree.below { t with entries := t.entries.filter fun e => e.2 = .directory } dir place

/-! ## Changing the tree -/

/-- The tree with another entry at a place. -/
def put (t : FileTree) (place : Place) (e : Entry) : FileTree :=
  if (t.entries.lookup place).isSome then
    { t with entries := t.entries.map fun q => if q.1 = place then (place, e) else q }
  else { t with entries := t.entries ++ [(place, e)] }

/-- The tree without a place and everything below it. -/
def remove (t : FileTree) (place : Place) : FileTree :=
  { t with entries := t.entries.filter fun q => !decide (place <+: q.1) }

/-- The directory in which a path's last name is looked up, and that name. -/
def lastStep (t : FileTree) (p : Path) : Except FileErrorKind (Option (Place × String)) :=
  if maxPathSize < p.toString.utf8ByteSize then .error .nameTooLong
  else
    match p.names.getLast? with
    | none => .ok none
    | some n =>
      match t.follow (t.startOf p) p.names.dropLast with
      | .error k => .error k
      | .ok place =>
        if t.entry? place ≠ some .directory then .error .notDirectory
        else if n == ".." then .ok none
        else if maxNameSize < n.utf8ByteSize then .error .nameTooLong
        else .ok (some (place, n))

/-- The tree with a new directory, whose parent must exist. -/
def makeDirectory (t : FileTree) (p : Path) : Except FileErrorKind FileTree :=
  match t.lastStep p with
  | .error k => .error k
  | .ok none => .error .alreadyExists
  | .ok (some (place, n)) =>
    if (t.entry? (place ++ [n])).isSome then .error .alreadyExists
    else .ok (t.put (place ++ [n]) .directory)

/--
The tree in which a path leads to a directory. Missing directories on the way are made, from the
root on; the tree may have more of them even when the path is refused in the end.
-/
def ensureDirectory (t : FileTree) (p : Path) : FileTree × Option FileError :=
  match t.makeDirectory p with
  | .ok t' => (t', none)
  | .error .notFound =>
    if _h : p.names = [] then (t, some ⟨.notFound, p.toString⟩)
    else
      match t.ensureDirectory p.parent with
      | (t', some e) => (t', some e)
      | (t', none) =>
        match t'.makeDirectory p with
        | .ok t'' => (t'', none)
        | .error k =>
          if k ≠ .notFound ∧ (t'.isDirectory p).toOption = some true then (t', none)
          else (t', some ⟨k, p.toString⟩)
  | .error k =>
    if (t.isDirectory p).toOption = some true then (t, none) else (t, some ⟨k, p.toString⟩)
termination_by p.names.length
decreasing_by
  simp only [Path.parent, List.length_dropLast]
  have := List.length_pos_iff.2 _h
  omega

/-- The tree in which a path leads to a file with the given content. -/
def write (t : FileTree) (p : Path) (content : ByteArray) : Except FileError FileTree :=
  match t.lastStep p with
  | .error k => .error ⟨k, p.toString⟩
  | .ok none => .error ⟨.isDirectory, p.toString⟩
  | .ok (some (place, n)) =>
    if t.entry? (place ++ [n]) = some .directory then .error ⟨.isDirectory, p.toString⟩
    else .ok (t.put (place ++ [n]) (.file content))

end FileTree

end LiveTemplates
