import LiveTemplates.Engine.Lifecycle

/-!
# Processing files

A file is processed by expanding it and writing its text to its outputs, unless it is a part of
others. What became of it is published. Whatever goes wrong with one file is told as its result and
ends neither the engine nor the processing of other files.

The text is never written to the file it comes from. What was written before a failure stays.
-/

namespace LiveTemplates.Engine

variable (emit : Event → Engine → Engine)

/-! ## One file -/

/-- The output of a file that names none. -/
def defaultOutputPath (s : Engine) (p : Path) : Path :=
  p.withExtension s.settings.outputExtension

/-- Writes a text to one output of a file, whose directory is made if it is missing. -/
def writeOutput (source : Path) (text : List Char) (output : Path) (s : Engine) :
    Engine × Except EngineFailure Unit :=
  match s.tree.ensureDirectory output.parent with
  | (tree, some e) => ({ s with tree := tree }, .error (.file e))
  | (tree, none) =>
    match tree.write output (String.ofList text).toUTF8 with
    | .error e => ({ s with tree := tree }, .error (.file e))
    | .ok tree =>
      ({ s with tree := tree }.addEntries [⟨.debug, "output_written",
        [("source", .string source.toString), ("output", .string output.toString)]⟩], .ok ())

/-- Writes a text to the outputs of a file, except to the file itself, up to the first failure. -/
def writeOutputs (source : Path) (text : List Char) :
    List Path → Engine → Engine × Except EngineFailure Unit
  | [], s => (s, .ok ())
  | output :: rest, s =>
    if output.sameAs source s.tree.cwd then
      writeOutputs source text rest
        (message emit s!"Skipped output {output}" "Output path is the source file" .warning s)
    else
      match writeOutput source text output s with
      | (s, .error e) => (s, .error e)
      | (s, .ok ()) => writeOutputs source text rest s

/-- Expands the text of a file. -/
def expandFile (p : Path) (text : List Char) (s : Engine) :
    Engine × Except EngineFailure (Except TagError Expansion) :=
  match s.faults.expansion p with
  | some words => (s, .error (.broken words))
  | none =>
    match expand s.tree p text with
    | .ok e => (s.addEntries [e.logEntry p], .ok (.ok e))
    | .error (.tag e) => (s, .ok (.error e))
    | .error (.unreadable e) => (s, .error (.unreadable e))

/-- The outputs of an expanded file: those that it names, or else the default one. -/
def outputsOf (s : Engine) (p : Path) (e : Expansion) : Except EngineFailure (List Path) :=
  if !e.outputPaths.isEmpty then .ok e.outputPaths
  else if s.faults.missingOutputExtension then .error (.missing .outputExtension)
  else .ok [s.defaultOutputPath p]

/-- Expands a file and writes its outputs. Nothing is the result if the faults say so. -/
def processFile (p : Path) (s : Engine) : Engine × Except EngineFailure (Option ProcessResult) :=
  if s.faults.noResult p then (s, .ok none)
  else
    match s.tree.readText p with
    | .error e => (s, .error (.unreadable e))
    | .ok text =>
      match expandFile p text s with
      | (s, .error e) => (s, .error e)
      | (s, .ok (.error e)) => (s, .ok (some (.failed p (.tag e.kind) e.message)))
      | (s, .ok (.ok e)) =>
        match s.outputsOf p e with
        | .error e => (s, .error e)
        | .ok outputs =>
          let result := ProcessResult.succeeded p outputs e.isPartial
          if s.settings.writeOutputs && !e.isPartial then
            let (s, written) := writeOutputs emit p e.text outputs s
            (s, written.map fun _ => some result)
          else (s, .ok (some result))

/-- Tells that a file could not be processed for a reason beyond its tags. -/
def reportBreakdown (p : Path) (text : String) (s : Engine) : Engine × ProcessResult :=
  let result := ProcessResult.failed p .unexpected text
  let s := emit (.processFailed result) s
  (message emit s!"Unexpected failure processing file {p}" text .error s, result)

/-- Processes a file and tells what became of it. -/
def processAndReport (p : Path) (s : Engine) : Engine × ProcessResult :=
  let s := message emit s!"Processing file {p}..." "" .information s
  match processFile emit p s with
  | (s, .error e) => reportBreakdown emit p e.message s
  | (s, .ok none) =>
    reportBreakdown emit p "Unknown error processing file. No result provided" s
  | (s, .ok (some result)) =>
    if result.success then
      let s := emit (.processSucceeded result) s
      (message emit s!"Successfully processed file {p}" "" .success s, result)
    else
      let s := emit (.processFailed result) s
      (message emit s!"Failed to process file {p}" result.error .error s, result)

/-! ## Several files -/

/-- Where the engine looks for monitored files. -/
def referenceIndex (s : Engine) : Engine × ReferenceIndex :=
  let (s, root) := currentMonitorPath emit s
  (s, ⟨root, s.settings.extensions, s.ignorePatterns⟩)

/-- The monitored files that include a file, in the order of paths. -/
def findDependents (target : String) (s : Engine) : Engine × Except EngineFailure (List Path) :=
  let (s, index) := referenceIndex emit s
  let (found, log) :=
    index.findDependents s.tree s.faults.includes s.settings.transitiveDependents target
  (s.addEntries log, found.mapError fun
    | .file e => .file e
    | .broken text => .broken text)

/-- Processes files one after the other. -/
def processEach (ps : List Path) (s : Engine) : Engine :=
  ps.foldl (fun s p => (processAndReport emit p s).1) s

/-- Processes a changed file and, if the settings say so, the files that include it. -/
def processChanged (p : Path) (s : Engine) : Engine × ProcessResult :=
  let (s, result) := processAndReport emit p s
  if s.settings.cascadeDependents then
    match findDependents emit p.toString s with
    | (s, .ok dependents) => (processEach emit dependents s, result)
    | (s, .error e) =>
      (message emit s!"Failed to find files referencing {p}" e.message .error s, result)
  else (s, result)

/--
Whether the choice of a path comes to an extension that has no value: none of those before it fits.
-/
def meetsMissingExtension (s : Engine) (index : ReferenceIndex) (p : Path) : Bool :=
  match s.faults.missingExtension with
  | none => false
  | some place =>
    index.admits s.tree p && !(index.extensions.take place).any fun e => p.hasExtension e

/--
Processes those of some paths that are monitored files when it is their turn, up to a path that is
refused.
-/
def processSelected (index : ReferenceIndex) :
    List Path → Engine → Engine × Except EngineFailure (List ProcessResult)
  | [], s => (s, .ok [])
  | p :: rest, s =>
    match s.tree.refusal? p with
    | some e => (s, .error (.file e))
    | none =>
      if s.meetsMissingExtension index p then (s, .error (.missing .extension))
      else if index.selects s.tree p then
        let (s, result) := processAndReport emit p s
        let (s, results) := processSelected index rest s
        (s, results.map (result :: ·))
      else processSelected index rest s

/-- Processes every monitored file once. -/
def processAll (s : Engine) : Engine × Except EngineFailure (List ProcessResult) :=
  let (s, index) := referenceIndex emit s
  match index.candidates s.tree with
  | .error e => (s, .error (.file e))
  | .ok candidates => processSelected emit index candidates s

end LiveTemplates.Engine
