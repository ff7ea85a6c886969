import LiveTemplates.Include
import LiveTemplates.Log.Entry
import LiveTemplates.Path.Filter
import LiveTemplates.Unused

/-!
# References between files

Which files include which. A reference index is a root directory with the extensions and the ignore
patterns that select the monitored files below it; it is built from the tree anew for each question,
so that the answer always fits the tree.

Paths are compared by their keys, without regard to case. A file never depends on itself.

`dependents` follows includers of includers on demand. It does so depth first and keeps the keys it
has visited. The order in which the includers of one file are followed is a parameter: the index is
a collection of sets and has no order of its own.
-/

namespace LiveTemplates

/-- Where to look for files that include others. -/
structure ReferenceIndex where
  root : Path
  extensions : List String
  ignorePatterns : List String

/-- For the key of each included file, the files that include it. -/
abbrev Includers := List (String × List Path)

namespace ReferenceIndex

/-! ## Monitored files -/

/--
Everything below the root, in the order of paths. Without a directory there is nothing, and a
directory whose path is too long cannot be listed.
-/
def candidates (x : ReferenceIndex) (t : FileTree) : Except FileError (List Path) :=
  match t.isDirectory x.root with
  | .error e => .error e
  | .ok false => .ok []
  | .ok true =>
    match t.find x.root with
    | .error _ => .ok []
    | .ok place =>
      match (t.directoriesBelow x.root place).findSome? t.refusal? with
      | some e => .error e
      | none => .ok (Path.sort (t.below x.root place))

/-- Whether a path below the root is a file that is not ignored. -/
def admits (x : ReferenceIndex) (t : FileTree) (p : Path) : Bool :=
  (t.isFile p).toOption = some true && !((p.below? x.root).getD p).isIgnored x.ignorePatterns

/-- Whether a path below the root is a file with a monitored extension that is not ignored. -/
def selects (x : ReferenceIndex) (t : FileTree) (p : Path) : Bool :=
  x.admits t p && x.extensions.any fun e => p.hasExtension e

/-- The monitored files among some paths, up to the first path that is refused. -/
def monitoredAmong (x : ReferenceIndex) (t : FileTree) (ps : List Path) :
    List Path × Option FileError :=
  ((ps.takeWhile fun p => (t.refusal? p).isNone).filter (x.selects t), ps.findSome? t.refusal?)

/-- The monitored files, in the order of paths. -/
def monitoredFiles (x : ReferenceIndex) (t : FileTree) : Except FileError (List Path) :=
  match x.candidates t with
  | .error e => .error e
  | .ok ps =>
    match x.monitoredAmong t ps with
    | (_, some e) => .error e
    | (files, none) => .ok files

/-! ## Building the index -/

/-- The files that a file refers to directly; none if it cannot be read, which is logged. -/
def resolvedIncludes (t : FileTree) (p : Path) : List Path × List Log.Entry :=
  match t.readText p with
  | .ok text => (t.includedPaths p text, [])
  | .error e =>
    ([], [⟨.warning, "reference_scan_skipped",
      [("path", .string p.toString), ("error", .string e.message)]⟩])

/-- The includers with one more for a key. -/
def addIncluder (key : String) (includer : Path) : Includers → Includers
  | [] => [(key, [includer])]
  | (k, ps) :: rest =>
    if k == key then (k, if ps.contains includer then ps else ps ++ [includer]) :: rest
    else (k, ps) :: addIncluder key includer rest

/-- The includers of each file that the given files refer to. -/
def includersOf (cwd : Path) (targets : Path → List Path) (files : List Path) : Includers :=
  files.foldl
    (fun index p => (targets p).foldl (fun index q => addIncluder (q.key cwd) p index) index) []

/-- Why an index cannot be built. -/
inductive Failure
  | file (e : FileError)
  /-- Reading the tags of a file broke down, with the given words. -/
  | broken (text : String)

/-- A failure as it is reported. -/
def Failure.message : Failure → String
  | .file e => e.message
  | .broken text => text

/--
The index, and what is logged while it is built. `breaksDown` gives the words with which reading the
tags of a file breaks down, if it does; the entries up to there stay in the log.
-/
def build (x : ReferenceIndex) (t : FileTree) (breaksDown : Path → Option String) :
    Except Failure Includers × List Log.Entry :=
  match x.candidates t with
  | .error e => (.error (.file e), [])
  | .ok ps =>
    let (files, refused) := x.monitoredAmong t ps
    let broken? := fun p => if (t.readText p).isOk then breaksDown p else none
    let logs := fun (ps : List Path) => ps.flatMap fun p => (resolvedIncludes t p).2
    match files.findSome? broken?, refused with
    | some text, _ =>
      (.error (.broken text), logs (files.takeWhile fun p => (broken? p).isNone))
    | none, some e => (.error (.file e), logs files)
    | none, none =>
      let index := includersOf t.cwd (fun p => (resolvedIncludes t p).1) files
      (.ok index, logs files ++ [⟨.debug, "reference_index_built",
        [("files", .int files.length), ("targets", .int index.length)]⟩])

/-! ## Dependents -/

/-- The files that include the file of a key. -/
def includers (index : Includers) (key : String) : List Path :=
  (index.lookup key).getD []

/-- A file that is included has its key in the index. -/
theorem mem_of_includers_ne_nil {index : Includers} {key : String}
    (h : includers index key ≠ []) : key ∈ index.map (·.1) := by
  unfold includers at h
  cases hl : index.lookup key with
  | none => simp [hl] at h
  | some ps =>
    obtain ⟨l, r, hsplit, _⟩ := List.lookup_eq_some_iff.1 hl
    simp [hsplit]

/--
The files found so far, with those that are found from the frontier. A file whose key was visited
is passed over.
-/
def search (cwd : Path) (arrange : List Path → List Path) (index : Includers)
    (visited : List String) (found : List Path) (frontier : List Path) : List Path :=
  match frontier with
  | [] => found
  | p :: frontier =>
    let key := p.key cwd
    if _h : visited.contains key then search cwd arrange index visited found frontier
    else if _hk : includers index key = [] then
      search cwd arrange index (key :: visited) found frontier
    else
      let fresh := (arrange (includers index key)).filter
        fun q => !(key :: visited).contains (q.key cwd)
      search cwd arrange index (key :: visited)
        (found ++ fresh.filter fun q => !found.contains q) (fresh.reverse ++ frontier)
termination_by (unused (index.map (·.1)) visited, frontier.length)
decreasing_by
  · exact Prod.Lex.right _ (by simp)
  · rcases Nat.lt_or_eq_of_le (unused_cons_le (index.map (·.1)) visited key) with h | h
    · exact Prod.Lex.left _ _ h
    · rw [h]
      exact Prod.Lex.right _ (by simp)
  · exact Prod.Lex.left _ _ (unused_cons_lt (mem_of_includers_ne_nil _hk) (by simpa using _h))

/-- The files that include the file of a key, directly or, on demand, through others. -/
def dependentsOf (cwd : Path) (arrange : List Path → List Path) (index : Includers)
    (transitive : Bool) (target : String) : List Path :=
  let direct := includers index target
  let found :=
    if transitive then search cwd arrange index [target] direct (arrange direct).reverse
    else direct
  found.filter fun p => p.key cwd != target

/-- The files that include the named file, in the order of paths, and what is logged. -/
def findDependents (x : ReferenceIndex) (t : FileTree) (breaksDown : Path → Option String)
    (transitive : Bool) (target : String) : Except Failure (List Path) × List Log.Entry :=
  if (Text.trim target.toList).isEmpty then (.ok [], [])
  else
    match x.build t breaksDown with
    | (.error e, log) => (.error e, log)
    | (.ok index, log) =>
      let found :=
        dependentsOf t.cwd Path.sort index transitive ((Path.ofString target).key t.cwd)
      if found.isEmpty then (.ok [], log)
      else
        (.ok (Path.sort found), log ++ [⟨.info, "dependents_found",
          [("path", .string target), ("count", .int found.length),
            ("transitive", .bool transitive)]⟩])

end ReferenceIndex

end LiveTemplates
