import LiveTemplates.Command

/-!
# The program

The command sees the files below the working directory, below the directories that its arguments
name and beside the files that they name. It reads them before it runs and writes what it changed
afterwards. While it watches, it looks for changes at short intervals.
-/

namespace LiveTemplates.Program

/-- What lies below a directory of the system, under a place. Links are passed over. -/
partial def readBelow (directory : String) (place : Place) : IO (List (Place × Entry)) := do
  let root ← IO.FS.realPath directory
  let mut found := []
  for e in (← root.readDir) do
    let here := place ++ [e.fileName]
    match (← e.path.symlinkMetadata).type with
    | .dir => found := found ++ (here, .directory) :: (← readBelow e.path.toString here)
    | .file => found := found ++ [(here, .file (← IO.FS.readBinFile e.path))]
    | _ => pure ()
  return found

/-- The place of a directory of the system. -/
def placeOf (directory : String) : IO Place := do
  return (Path.ofString (← IO.FS.realPath directory).toString).names

/-- The tree that the command sees. -/
def readTree (directories : List String) : IO FileTree := do
  let mut tree : FileTree := ⟨[], ← placeOf "."⟩
  for d in directories do
    let place ← placeOf d
    for n in List.range place.length do
      tree := tree.put (place.take (n + 1)) .directory
    for (p, e) in (← readBelow d place) do
      tree := tree.put p e
  return tree

/-- The entries of a tree that are not in another one. -/
def changes (old new : FileTree) : List (Place × Entry) :=
  new.entries.filter fun (place, e) => old.entry? place ≠ some e

/-- Writes what is new in a tree. -/
def writeChanges (old new : FileTree) : IO Unit := do
  for (place, e) in changes old new do
    let path := (Path.mk .slash place).toString
    match e with
    | .directory => IO.FS.createDirAll path
    | .file content => IO.FS.writeBinFile path content

/-- The variables of the environment that settings are read from. -/
def readVariables : IO Settings.Variables := do
  let mut found := []
  for name in AppSettings.variableNames do
    for spelling in [Text.uppercaseString name, name] do
      if let some v ← IO.getEnv spelling then
        found := found ++ [(spelling, v)]
  return found

/-- The events of files that are new or different. -/
def events (old new : FileTree) : List FileEvent :=
  (changes old new).filterMap fun (place, e) =>
    match e with
    | .directory => none
    | .file _ =>
      let change := if (old.entry? place).isSome then ChangeType.modified else .created
      some ⟨false, some change, .text (Path.mk .slash place).toString, .text ""⟩

/-- Prints lines, and those of the log apart from them. -/
def print (lines log : List String) : IO Unit := do
  for line in lines do IO.println line
  for line in log do IO.eprintln line

/-- Prints the end of the command from some lines on, and writes what it changed. -/
def conclude (seen : FileTree) (printed logged : Nat) (o : Command.Outcome) : IO UInt32 := do
  print (o.lines.drop printed) (o.log.drop logged)
  writeChanges seen o.tree
  match o.ending with
  | .exit code => return code.toUInt32
  | e => IO.eprintln e.message; return 1

/-- How long the command sleeps between two looks at the tree. -/
def intervalMs : UInt32 := 50

/-- Watches from a moment on, with the tree that was seen last. -/
partial def keepWatching (directories : List String) (moment : Nat) (seen : FileTree)
    (printed logged : Nat) (w : Command.Watch) : IO UInt32 := do
  print (w.allLines.drop printed) (w.log.drop logged)
  let printed := w.allLines.length
  let logged := w.log.length
  IO.sleep intervalMs
  let now ← IO.monoMsNow
  let tree ← readTree directories
  let progress := (events seen tree).foldl
    (fun p e => match p with
      | .watching w => w.dispatch e
      | p => p)
    (Command.Progress.watching (w.setTree tree))
  match progress with
  | .finished o => conclude tree printed logged o
  | .watching w =>
    let w := w.advance 1000000 (now - moment)
    writeChanges tree w.engine.tree
    keepWatching directories now tree printed logged w

end LiveTemplates.Program

open LiveTemplates Program in
/-- Runs the command. -/
def main (argv : List String) : IO UInt32 := do
  let mut directories := ["."]
  for word in argv do
    if let .ok path ← (IO.FS.realPath word).toBaseIO then
      let p := Path.ofString word
      if (← path.isDir) then directories := directories ++ [word]
      else if (← path.pathExists) then directories := directories ++ [p.parent.toString]
  let tree ← readTree directories
  match Command.begin (← readVariables) tree argv with
  | .finished o => conclude tree 0 0 o
  | .watching w => keepWatching directories (← IO.monoMsNow) tree 0 0 w
