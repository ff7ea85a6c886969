import LiveTemplates.Settings.VariableFile
import LiveTemplates.Text.Encoding

/-!
# Sources of settings

A setting is taken from the first source that gives it: the arguments, the variables of the
environment, files of variables, and directories in which a file holds the value of a field. Objects
that several sources give are merged.

The files are read before any variable, but what they say counts less than the environment. Of
several files, and of several directories, the later one counts more.

This is the priority of sources that pydantic-settings documents: arguments, environment, files of
variables, directories of secrets, defaults. It also documents that values which are no single ones
are read as JSON, that objects of several sources are merged member by member, and that a name in a
file of variables which is no field is refused like an argument.
-/

namespace LiveTemplates.Settings

/-- Paths that are given as a text or as a list of texts. -/
def pathTexts : Json → Except Failure (List Json)
  | .null => .ok []
  | .string s => .ok [.string s]
  | .array items => .ok items
  | .object fields => .ok (fields.map fun f => .string f.1)
  | v => .error (.notIterable (kindName (.json v)))

/-- The path that a value stands for. -/
def pathOf : Json → Except Failure Path
  | .string s => .ok (.ofString s)
  | v => .error (.notPath (kindName (.json v)))

/-! ## Files of variables -/

/-- The encoding that a value stands for. -/
def encodingOf (v : Json) : Except Failure Text.Encoding :=
  match v.isYes, v with
  | false, _ => .ok .utf8
  | true, .string name =>
    match Text.Encoding.ofName? name with
    | some e => .ok e
    | none => .error (.unknownEncoding name)
  | true, v => .error (.notEncoding (kindName (.json v)))

/-- The entries of a file of variables, which are none without the file. -/
def SourceOptions.fileEntries (o : SourceOptions) (environment : Variables) (t : FileTree)
    (file : Path) : Except Failure VariableFile.Entries := do
  if ← (t.isFile file).mapError .file then
    let encoding ← encodingOf o.encoding
    let octets ← (t.read file).mapError .file
    let text ← (encoding.decode octets).mapError .unreadableFile
    return VariableFile.entries environment (Text.unifyLineEnds text)
  else return []

/-- The variables that files offer. -/
def SourceOptions.offerOfFiles (o : SourceOptions) (environment : Variables) (t : FileTree) :
    Except Failure Offer := do
  (← pathTexts o.files).foldlM
    (fun offer file => do
      let entries ← o.fileEntries environment t (← pathOf file)
      return (o.offer entries).foldl (fun offer e => putPair e.1 e.2 offer) offer)
    []

/-! ## Directories of values -/

/-- The directories among some paths. A path that leads nowhere is passed over. -/
def directoriesAmong (t : FileTree) : List Path → Except Failure (List Path)
  | [] => .ok []
  | p :: rest => do
    let others ← directoriesAmong t rest
    match t.isDirectory p, t.isFile p with
    | .error e, _ | _, .error e => .error (.file e)
    | .ok true, _ => .ok (p :: others)
    | _, .ok true => .error .notDirectory
    | _, _ => .ok others

/-- The file in a directory that holds the value of a variable. -/
def SourceOptions.valueFile? (o : SourceOptions) (t : FileTree) (key : String)
    (directory : Path) : Option Path :=
  match t.find directory with
  | .error _ => none
  | .ok place =>
    let names := t.entries.filterMap fun (q, _) =>
      if q.dropLast = place then q.getLast? else none
    let alike := fun (n : String) =>
      !o.caseSensitive && Text.lowercaseString n == Text.lowercaseString key
    let found := (names.find? (· == key)).or (names.find? alike)
    found.map (fun n => { directory with names := directory.names ++ [n] }) |>.filter fun p =>
      (t.isFile p).toOption = some true

/-- The name of the source of values in directories, in messages. -/
def directorySource : String := "SecretsSettingsSource"

/-- The settings that directories give to fields. -/
def SourceOptions.fromDirectories (o : SourceOptions) (t : FileTree) (directories : List Path) :
    List Field → Except Failure (List (String × Json))
  | [] => .ok []
  | f :: rest =>
    match o.keyOf? f with
    | none => .error (.unknownVariable f.name directorySource)
    | some key =>
      match directories.reverse.findSome? (o.valueFile? t key) with
      | none => o.fromDirectories t directories rest
      | some file =>
        match t.readText file with
        | .error _ => .error (.unknownVariable f.name directorySource)
        | .ok text =>
          let text := String.ofList (Text.trim text)
          let value := match f.form with
            | .text => some (Json.string text)
            | _ => Json.parse? text
          match value with
          | none => .error (.unreadableVariable f.name directorySource)
          | some v => (o.fromDirectories t directories rest).map fun others =>
              match v with
              | .null => others
              | v => (f.name, o.adapt f v) :: others

/-! ## All sources -/

/-- The name of the source of variables, in messages. -/
def environmentSource : String := "EnvSettingsSource"

/-- The name of the source of variables in files, in messages. -/
def variableFileSource : String := "DotEnvSettingsSource"

/-- What all sources give. -/
structure Gathered where
  /-- What is given for each field. -/
  value : String → Option Value
  /-- The names that are given and stand for no field. -/
  unknown : List String

/-- The problems of the names that stand for no field. -/
def Gathered.problems (g : Gathered) : List Problem :=
  g.unknown.map fun n => ⟨[.string n], .unknownField⟩

/-- The arguments that are JSON. -/
def jsonArguments (arguments : List (String × Value)) : List (String × Json) :=
  arguments.filterMap fun a =>
    match a.2 with
    | .json v => some (a.1, v)
    | .path _ => none

/--
What the sources give to fields, where the options that the arguments do not choose are given. The
arguments for options are no names of fields. The sources are taken in their documented priority.
-/
def gather (default : SourceOptions) (environment : Variables) (t : FileTree) (fields : List Field)
    (arguments : List (String × Value)) : Except Failure Gathered := do
  let o := default.withArguments (jsonArguments arguments)
  let arguments := arguments.filter fun a => !SourceOptions.names.contains a.1
  let inFiles ← o.offerOfFiles environment t
  let inEnvironment := o.offer (environment.map fun v => (v.1, some v.2))
  let fromEnvironment ← o.fromOffer environmentSource inEnvironment fields
  let fromFiles ← o.fromOffer variableFileSource inFiles fields
  let directories ← directoriesAmong t (← (← pathTexts o.directories).mapM pathOf)
  let fromDirectories ← o.fromDirectories t directories fields
  let strays := o.strays fields inFiles
  return {
    value := givenOver (givenFields fields arguments)
      (combined [fromEnvironment, fromFiles, fromDirectories])
    unknown := strays ++ (unknownNames fields arguments).filter fun n => !strays.contains n }

end LiveTemplates.Settings
