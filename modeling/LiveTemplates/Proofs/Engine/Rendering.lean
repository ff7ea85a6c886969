import LiveTemplates.Proofs.Engine.Reports

/-!
# What processing does to a tree

As long as listeners do not use the engine, all that is told on the way makes no difference to what
is written and returned. Then to process a file is a function of the tree: what is to be done with
it (`plan`), what becomes of the tree and which result is returned (`render`). So are the processing
of some files (`renderSelected`) and of all (`renderAll`), and the operations of an engine are these
functions (`carries_processAll`).
-/

namespace LiveTemplates

/--
Writes a content to the outputs of a file, except to the file itself, up to the first failure. The
outputs that were written are told.
-/
def FileTree.writeAll (source : Path) (content : ByteArray) :
    List Path → FileTree → FileTree × List Path × Option FileError
  | [], t => (t, [], none)
  | output :: rest, t =>
    if output.sameAs source t.cwd then writeAll source content rest t
    else
      match t.ensureDirectory output.parent with
      | (t, some e) => (t, [], some e)
      | (t, none) =>
        match t.write output content with
        | .error e => (t, [], some e)
        | .ok t =>
          let (t, written, failure) := writeAll source content rest t
          (t, output :: written, failure)

namespace Engine

/-- What is to be done with a file: its result stands, or a text is to be written to its outputs. -/
inductive Plan
  | settled (result : ProcessResult)
  | writing (text : List Char) (outputs : List Path)

variable {emit : Event → Engine → Engine} {s s' : Engine} {p : Path} {t t' : FileTree}

/-- What is to be done with a file. -/
def plan (s : Engine) (p : Path) (t : FileTree) : Plan :=
  if s.faults.noResult p then
    .settled (.failed p .unexpected "Unknown error processing file. No result provided")
  else
    match t.readText p with
    | .error e => .settled (.failed p .unexpected e.message)
    | .ok text =>
      match s.faults.expansion p with
      | some words => .settled (.failed p .unexpected words)
      | none =>
        match expand t p text with
        | .error (.tag e) => .settled (.failed p (.tag e.kind) e.message)
        | .error (.unreadable e) => .settled (.failed p .unexpected e.message)
        | .ok e =>
          match s.outputsOf p e with
          | .error e => .settled (.failed p .unexpected e.message)
          | .ok outputs =>
            if s.settings.writeOutputs && !e.isPartial then .writing e.text outputs
            else .settled (.succeeded p outputs e.isPartial)

/-- Does what is to be done with a file: the tree, the outputs that were written, and the result. -/
def Plan.carryOut (p : Path) : Plan → FileTree → FileTree × List Path × ProcessResult
  | .settled result, t => (t, [], result)
  | .writing text outputs, t =>
    match t.writeAll p (String.ofList text).toUTF8 outputs with
    | (t, written, none) => (t, written, .succeeded p outputs false)
    | (t, written, some e) => (t, written, .failed p .unexpected e.message)

/-- The tree after a file was processed, the outputs that were written, and the result. -/
def render (s : Engine) (p : Path) (t : FileTree) : FileTree × List Path × ProcessResult :=
  (s.plan p t).carryOut p t

/-- The tree after those of some paths were processed that are monitored, and the results. -/
def renderSelected (s : Engine) (x : ReferenceIndex) :
    List Path → FileTree → FileTree × Except EngineFailure (List ProcessResult)
  | [], t => (t, .ok [])
  | p :: rest, t =>
    match t.refusal? p with
    | some e => (t, .error (.file e))
    | none =>
      if meetsMissingExtension { s with tree := t } x p then (t, .error (.missing .extension))
      else if x.selects t p then
        let (t, _, result) := s.render p t
        let (t, results) := renderSelected s x rest t
        (t, results.map (result :: ·))
      else renderSelected s x rest t

/-- The tree after all monitored files were processed, and the results. -/
def renderAll (s : Engine) (x : ReferenceIndex) (t : FileTree) :
    FileTree × Except EngineFailure (List ProcessResult) :=
  match x.candidates t with
  | .error e => (t, .error (.file e))
  | .ok candidates => s.renderSelected x candidates t

/-- The files that are processed, each with the tree in which its turn comes. -/
def turns (s : Engine) (x : ReferenceIndex) : List Path → FileTree → List (Path × FileTree)
  | [], _ => []
  | p :: rest, t =>
    match t.refusal? p with
    | some _ => []
    | none =>
      if meetsMissingExtension { s with tree := t } x p then []
      else if x.selects t p then (p, t) :: turns s x rest (s.render p t).1
      else turns s x rest t

/-- The files that are processed when all are, each with the tree in which its turn comes. -/
def allTurns (s : Engine) (x : ReferenceIndex) (t : FileTree) : List (Path × FileTree) :=
  match x.candidates t with
  | .error _ => []
  | .ok candidates => s.turns x candidates t

/-- A text that is expanded is to be written, if the settings say so. -/
theorem plan_of_expand {text : List Char} {e : Expansion} {outputs : List Path}
    (hresult : s.faults.noResult p = false) (hfault : s.faults.expansion p = none)
    (htext : t.readText p = .ok text) (hexpand : expand t p text = .ok e)
    (houtputs : s.outputsOf p e = .ok outputs)
    (hwrites : (s.settings.writeOutputs && !e.isPartial) = true) :
    s.plan p t = .writing e.text outputs := by
  rw [plan, if_neg (by simp [hresult]), htext]
  dsimp only
  rw [hfault]
  dsimp only
  rw [hexpand]
  dsimp only
  rw [houtputs]
  dsimp only
  rw [if_pos hwrites]

/-! ## Engines and what they do to their trees -/

/-- An engine carries a tree and is as another one but for the record of what was told. -/
structure Carries (s : Engine) (t : FileTree) (s' : Engine) : Prop where
  quiet : Quiet s'.bus
  settings : s'.settings = s.settings
  faults : s'.faults = s.faults
  ignorePatterns : s'.ignorePatterns = s.ignorePatterns
  monitorPath : s'.monitorPath = s.monitorPath
  tree : s'.tree = t

theorem carries_refl (h : Quiet s.bus) : Carries s s.tree s :=
  ⟨h, rfl, rfl, rfl, rfl, rfl⟩

theorem Carries.withTree (h : Carries s t s') (t' : FileTree) :
    Carries s t' { s' with tree := t' } :=
  ⟨h.quiet, h.settings, h.faults, h.ignorePatterns, h.monitorPath, rfl⟩

theorem Carries.publish (hemit : Passive emit) (h : Carries s t s') (e : Event) :
    Carries s t (emit e s') := by
  have hoverhears := hemit e s' h.quiet
  have hquiet : Quiet (emit e s').bus := Quiet.overhears (s := s'.note e) h.quiet hoverhears
  obtain ⟨_, _, _, _, heq, _⟩ := hoverhears
  rw [heq] at hquiet ⊢
  exact ⟨hquiet, h.settings, h.faults, h.ignorePatterns, h.monitorPath, h.tree⟩

/-- To tell something changes nothing but the record. -/
theorem steady_carries (hemit : Passive emit) (s : Engine) (t : FileTree) :
    Steady emit (Carries s t) where
  logMessage _ _ _ h := h.publish hemit _
  log _ h := ⟨h.quiet, h.settings, h.faults, h.ignorePatterns, h.monitorPath, h.tree⟩

theorem plan_congr (hsettings : s'.settings = s.settings) (hfaults : s'.faults = s.faults) :
    s'.plan p t = s.plan p t := by
  simp only [plan, outputsOf, defaultOutputPath, hsettings, hfaults]

theorem render_congr (hsettings : s'.settings = s.settings) (hfaults : s'.faults = s.faults) :
    s'.render p t = s.render p t := by
  rw [render, render, plan_congr hsettings hfaults]

theorem meetsMissingExtension_congr (hfaults : s'.faults = s.faults) (htree : s'.tree = t)
    (x : ReferenceIndex) :
    s'.meetsMissingExtension x p = meetsMissingExtension { s with tree := t } x p := by
  simp only [meetsMissingExtension, hfaults, htree]

/-- The settings and the faults of an engine decide what processing does to a tree. -/
theorem renderAll_congr (hsettings : s'.settings = s.settings) (hfaults : s'.faults = s.faults)
    (x : ReferenceIndex) : s'.renderAll x t = s.renderAll x t := by
  have hselected : ∀ ps t, s'.renderSelected x ps t = s.renderSelected x ps t := by
    intro ps
    induction ps with
    | nil => exact fun _ => rfl
    | cons p ps ih =>
      intro t
      have hmissing : meetsMissingExtension { s' with tree := t } x p
          = meetsMissingExtension { s with tree := t } x p := by
        simp only [meetsMissingExtension, hfaults]
      simp only [renderSelected, render_congr hsettings hfaults, hmissing, ih]
  simp only [renderAll, hselected]

/-! ## One file -/

theorem carries_writeOutputs (hemit : Passive emit) (text : List Char) (outputs : List Path)
    (h : Carries s t s') :
    Carries s (t.writeAll p (String.ofList text).toUTF8 outputs).1
        (writeOutputs emit p text outputs s').1 ∧
      (writeOutputs emit p text outputs s').2
        = match (t.writeAll p (String.ofList text).toUTF8 outputs).2.2 with
          | none => .ok ()
          | some e => .error (.file e) := by
  induction outputs generalizing s' t with
  | nil => exact ⟨h, rfl⟩
  | cons output rest ih =>
    have htree := h.tree
    rw [writeOutputs, FileTree.writeAll, htree]
    split
    · exact ih ((steady_carries hemit s t).message _ _ _ h)
    · unfold writeOutput
      rw [htree]
      cases hensure : t.ensureDirectory output.parent with
      | mk t₁ failure =>
        cases failure with
        | some e => exact ⟨h.withTree t₁, rfl⟩
        | none =>
          dsimp only
          cases hwrite : t₁.write output (String.ofList text).toUTF8 with
          | error e => exact ⟨h.withTree t₁, rfl⟩
          | ok t₂ => exact ih ((steady_carries hemit s t₂).log _ (h.withTree t₂))

/-- The result that is told of what became of a file. -/
def told (p : Path) : Except EngineFailure (Option ProcessResult) → ProcessResult
  | .error e => .failed p .unexpected e.message
  | .ok none => .failed p .unexpected "Unknown error processing file. No result provided"
  | .ok (some result) => result

theorem carries_processFile (hemit : Passive emit) (p : Path) (h : Carries s t s') :
    Carries s (s.render p t).1 (processFile emit p s').1 ∧
      told p (processFile emit p s').2 = (s.render p t).2.2 := by
  rw [← render_congr h.settings h.faults]
  have htree := h.tree
  unfold processFile render plan
  rw [htree]
  by_cases hresult : s'.faults.noResult p = true
  · rw [if_pos hresult, if_pos hresult]
    exact ⟨h, rfl⟩
  · rw [if_neg hresult, if_neg hresult]
    cases t.readText p with
    | error e => exact ⟨h, rfl⟩
    | ok text =>
      unfold expandFile
      rw [htree]
      dsimp only
      cases s'.faults.expansion p with
      | some words => exact ⟨h, rfl⟩
      | none =>
        dsimp only
        cases expand t p text with
        | error err =>
          cases err with
          | tag e => exact ⟨h, rfl⟩
          | unreadable e => exact ⟨h, rfl⟩
        | ok e =>
          have hlogged := (steady_carries hemit s t).log [e.logEntry p] h
          have houtputs : (s'.addEntries [e.logEntry p]).outputsOf p e = s'.outputsOf p e := rfl
          have hsettings : (s'.addEntries [e.logEntry p]).settings = s'.settings := rfl
          dsimp only
          rw [houtputs]
          cases s'.outputsOf p e with
          | error e => exact ⟨hlogged, rfl⟩
          | ok outputs =>
            dsimp only
            rw [hsettings]
            by_cases hwrites : (s'.settings.writeOutputs && !e.isPartial) = true
            · rw [if_pos hwrites, if_pos hwrites]
              obtain ⟨hcarries, hwritten⟩ :=
                carries_writeOutputs (p := p) hemit e.text outputs hlogged
              have hpartial : e.isPartial = false := by simp_all
              rw [hwritten, hpartial]
              dsimp only [Plan.carryOut]
              generalize t.writeAll p (String.ofList e.text).toUTF8 outputs = w at hcarries
              obtain ⟨t', written, failure⟩ := w
              cases failure with
              | none => exact ⟨hcarries, rfl⟩
              | some e => exact ⟨hcarries, rfl⟩
            · rw [if_neg hwrites, if_neg hwrites]
              exact ⟨hlogged, rfl⟩

/-- What becomes of a file is told, and its result is returned. -/
theorem carries_processAndReport (hemit : Passive emit) (p : Path) (h : Carries s t s') :
    Carries s (s.render p t).1 (processAndReport emit p s').1 ∧
      (processAndReport emit p s').2 = (s.render p t).2.2 := by
  have hsteady := steady_carries hemit s (s.render p t).1
  obtain ⟨hprocessed, hresult⟩ := carries_processFile hemit p
    ((steady_carries hemit s t).message s!"Processing file {p}..." "" .information h)
  unfold processAndReport
  dsimp only
  split
  · next heq =>
    rw [heq] at hprocessed hresult
    exact ⟨hsteady.message _ _ _ (hprocessed.publish hemit _), hresult⟩
  · next heq =>
    rw [heq] at hprocessed hresult
    exact ⟨hsteady.message _ _ _ (hprocessed.publish hemit _), hresult⟩
  · next heq =>
    rw [heq] at hprocessed hresult
    split
    · exact ⟨hsteady.message _ _ _ (hprocessed.publish hemit _), hresult⟩
    · exact ⟨hsteady.message _ _ _ (hprocessed.publish hemit _), hresult⟩

/-! ## Several files -/

theorem carries_processSelected (hemit : Passive emit) (x : ReferenceIndex) (ps : List Path)
    (h : Carries s t s') :
    Carries s (s.renderSelected x ps t).1 (processSelected emit x ps s').1 ∧
      (processSelected emit x ps s').2 = (s.renderSelected x ps t).2 := by
  induction ps generalizing s' t with
  | nil => exact ⟨h, rfl⟩
  | cons p ps ih =>
    rw [processSelected, renderSelected, h.tree, meetsMissingExtension_congr h.faults h.tree x]
    cases t.refusal? p with
    | some e => exact ⟨h, rfl⟩
    | none =>
      dsimp only
      split
      · exact ⟨h, rfl⟩
      · split
        · obtain ⟨hprocessed, hresult⟩ := carries_processAndReport hemit p h
          obtain ⟨hrest, hresults⟩ := ih hprocessed
          refine ⟨hrest, ?_⟩
          rw [hresult, hresults]
        · exact ih h

/-- An engine knows where to look for files once it was asked. -/
theorem carries_currentMonitorPath (hemit : Passive emit) (hquiet : Quiet s.bus) :
    Carries { s with monitorPath := some (currentMonitorPath emit s).2 } s.tree
      (currentMonitorPath emit s).1 := by
  unfold currentMonitorPath
  split
  · next root hroot =>
    exact ⟨hquiet, rfl, rfl, rfl, hroot, rfl⟩
  · obtain ⟨hquiet', hsettings, hfaults, hpatterns, _, htree⟩ :=
      (steady_carries hemit s s.tree).loadMonitorPath (carries_refl hquiet)
    exact ⟨hquiet', hsettings, hfaults, hpatterns, rfl, htree⟩

/-- **To process all files is a function of the tree**, if listeners do not use the engine. -/
theorem carries_processAll (hemit : Passive emit) (hquiet : Quiet s.bus) :
    let x := (referenceIndex emit s).2
    Carries { s with monitorPath := some x.root } (s.renderAll x s.tree).1 (processAll emit s).1 ∧
      (processAll emit s).2 = (s.renderAll x s.tree).2 := by
  intro x
  have hindex := carries_currentMonitorPath hemit hquiet
  have hcandidates : x.candidates (referenceIndex emit s).1.tree = x.candidates s.tree :=
    congrArg x.candidates hindex.tree
  have hrendered : renderAll { s with monitorPath := some x.root } x s.tree
      = s.renderAll x s.tree :=
    @renderAll_congr s { s with monitorPath := some x.root } s.tree rfl rfl x
  rw [← hrendered]
  unfold processAll renderAll
  dsimp only
  rw [hcandidates]
  cases x.candidates s.tree with
  | error e => exact ⟨hindex, rfl⟩
  | ok candidates => exact carries_processSelected hemit x candidates hindex

end Engine

end LiveTemplates
