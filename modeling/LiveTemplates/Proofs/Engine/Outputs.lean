import LiveTemplates.Proofs.Engine.Overwriting
import LiveTemplates.Proofs.FileTree.Writings

/-!
# Which files processing changes

To process a file changes the files at its outputs and no others (`processFile_changes`). All
outputs hold the expanded text in the end, or those do that come before the first one that fails. An
output with the path of the source is passed over.

Nothing is written when the expansion fails, for a part of other files, and where the settings say
so. An expansion may also fail because an included file has no text that can be read; this is no
error of a directive, and there is no result then.

That an output is passed over is told to listeners. A listener that processes files changes what it
likes, so there must be none of the kind if an output is passed over.
-/

namespace LiveTemplates.Engine

open FileTree

variable {s s' : Engine} {p output : Path} {text : List Char} {t₀ : FileTree} {depth : Nat}
  {written tried outputs : List Path}

/-- The outputs of a file apart from the file itself. -/
def apartFrom (p cwd : Path) (outputs : List Path) : List Path :=
  outputs.filter fun output => !output.sameAs p cwd

/-- The outputs of a file that was expanded. -/
def outputPathsOf (s : Engine) (p : Path) (e : Expansion) : List Path :=
  if e.outputPaths = [] then [s.defaultOutputPath p] else e.outputPaths

/-! ## Writing -/

/-- One output is written, or it fails and may leave new directories. -/
theorem writings_writeOutput (hcwd : ".." ∉ t₀.workingDirectory)
    (h : Writings t₀ s.tree (octetsOf text) written tried) (output : Path) :
    (∃ s', writeOutput p text output s = (s', .ok ()) ∧
      Writings t₀ s'.tree (octetsOf text) (written ++ [output]) (tried ++ [output])) ∨
    ∃ s' e, writeOutput p text output s = (s', .error (.file e)) ∧
      Writings t₀ s'.tree (octetsOf text) written (tried ++ [output]) := by
  have hensured := (h.mono (List.subset_append_left tried [output])).ensureDirectory hcwd
    (List.mem_append_right _ (List.mem_singleton_self output))
  unfold writeOutput
  cases hensure : s.tree.ensureDirectory output.parent with
  | mk t failure =>
    rw [hensure] at hensured
    cases failure with
    | some e => exact Or.inr ⟨_, e, rfl, hensured⟩
    | none =>
      dsimp only
      cases hwrite : t.write output (String.ofList text).toUTF8 with
      | error e => exact Or.inr ⟨_, e, rfl, hensured⟩
      | ok t' => exact Or.inl ⟨_, rfl, hensured.write hcwd hwrite⟩

/-- **Outputs are written up to the first one that fails.** -/
theorem writings_writeOutputs (hcwd : ".." ∉ t₀.workingDirectory)
    (hlisteners : ∀ output ∈ outputs, output.sameAs p t₀.cwd = true → LeavesFiles s.bus)
    (h : Writings t₀ s.tree (octetsOf text) written tried) :
    ((writeOutputs (publish depth) p text outputs s).2 = .ok () ∧
      Writings t₀ (writeOutputs (publish depth) p text outputs s).1.tree (octetsOf text)
        (written ++ apartFrom p t₀.cwd outputs) (tried ++ apartFrom p t₀.cwd outputs)) ∨
    ∃ done failed rest e, outputs = done ++ failed :: rest ∧ failed.sameAs p t₀.cwd = false ∧
      (writeOutputs (publish depth) p text outputs s).2 = .error (.file e) ∧
      Writings t₀ (writeOutputs (publish depth) p text outputs s).1.tree (octetsOf text)
        (written ++ apartFrom p t₀.cwd done) (tried ++ apartFrom p t₀.cwd (done ++ [failed])) := by
  induction outputs generalizing s written tried with
  | nil => exact Or.inl ⟨rfl, by simpa [apartFrom, writeOutputs] using h⟩
  | cons output rest ih =>
    have hcwd_eq : s.tree.cwd = t₀.cwd := congrArg (Path.mk .slash) h.workingDirectory
    rw [writeOutputs, hcwd_eq]
    by_cases hsame : output.sameAs p t₀.cwd = true
    · rw [if_pos hsame]
      have hmessage := @hasTree_message s depth (hlisteners output List.mem_cons_self hsame)
        s!"Skipped output {output}" "Output path is the source file" .warning
      have hapart : ∀ os, apartFrom p t₀.cwd (output :: os) = apartFrom p t₀.cwd os := by
        intro os
        simp [apartFrom, hsame]
      rcases ih (fun _ _ _ => hmessage.2) (hmessage.1 ▸ h) with
        hall | ⟨done, failed, rest', e, hsplit, hfailed, hresult, hwritings⟩
      · rw [hapart]
        exact Or.inl hall
      · refine Or.inr ⟨output :: done, failed, rest', e, by rw [hsplit]; rfl, hfailed, hresult, ?_⟩
        rw [List.cons_append, hapart, hapart]
        exact hwritings
    · rw [if_neg hsame]
      have hapart : ∀ os, apartFrom p t₀.cwd (output :: os)
          = [output] ++ apartFrom p t₀.cwd os := by
        intro os
        simp [apartFrom, hsame]
      have hbus := bus_writeOutput p text output s
      rcases writings_writeOutput (p := p) hcwd h output with
        ⟨s', heq, hwritings⟩ | ⟨s', e, heq, hwritings⟩
      · rw [heq] at hbus ⊢
        have hrest : ∀ o ∈ rest, o.sameAs p t₀.cwd = true → LeavesFiles s'.bus := by
          intro o ho hskip
          rw [hbus]
          exact hlisteners o (List.mem_cons_of_mem _ ho) hskip
        rcases ih hrest hwritings with
          hall | ⟨done, failed, rest', e, hsplit, hfailed, hresult, hwritings'⟩
        · rw [hapart, ← List.append_assoc, ← List.append_assoc]
          exact Or.inl hall
        · refine Or.inr ⟨output :: done, failed, rest', e, by rw [hsplit]; rfl, hfailed, hresult,
            ?_⟩
          rw [List.cons_append, hapart, hapart, ← List.append_assoc, ← List.append_assoc]
          exact hwritings'
      · rw [heq]
        refine Or.inr ⟨[], output, rest, e, rfl, by simpa using hsame, rfl, ?_⟩
        rw [List.nil_append, hapart]
        simpa [apartFrom] using hwritings

/-! ## Processing -/

/-- What comes of a file with a text, as its expansion says. -/
theorem processFile_eq {emit : Event → Engine → Engine} (hresult : s.faults.noResult p = false)
    (hfault : s.faults.expansion p = none) (hextension : s.faults.missingOutputExtension = false)
    (htext : s.tree.readText p = .ok text) :
    processFile emit p s = match expand s.tree p text with
      | .error (.tag e) => (s, .ok (some (.failed p (.tag e.kind) e.message)))
      | .error (.unreadable e) => (s, .error (.unreadable e))
      | .ok e =>
        let result := ProcessResult.succeeded p (s.outputPathsOf p e) e.isPartial
        if s.settings.writeOutputs && !e.isPartial then
          let (s, written) := writeOutputs emit p e.text (s.outputPathsOf p e)
            (s.addEntries [e.logEntry p])
          (s, written.map fun _ => some result)
        else (s.addEntries [e.logEntry p], .ok (some result)) := by
  unfold processFile expandFile
  rw [if_neg (by simp [hresult]), htext]
  dsimp only
  rw [hfault]
  dsimp only
  cases expand s.tree p text with
  | error err =>
    cases err with
    | tag e => rfl
    | unreadable e => rfl
  | ok e =>
    have houtputs : (s.addEntries [e.logEntry p]).outputsOf p e = .ok (s.outputPathsOf p e) := by
      unfold outputsOf outputPathsOf
      by_cases hnone : e.outputPaths = []
      · rw [if_neg (by simp [hnone]), if_pos hnone]
        exact if_neg (by simp [addEntries, hextension])
      · rw [if_pos (by simpa using hnone), if_neg hnone]
    dsimp only
    rw [houtputs]
    rfl

/-- What becomes of a file whose text is to be written. -/
theorem processFile_of_writes {emit : Event → Engine → Engine} {e : Expansion}
    (hresult : s.faults.noResult p = false) (hfault : s.faults.expansion p = none)
    (hextension : s.faults.missingOutputExtension = false)
    (htext : s.tree.readText p = .ok text) (hexpand : expand s.tree p text = .ok e)
    (hwrites : (s.settings.writeOutputs && !e.isPartial) = true) :
    processFile emit p s
      = ((writeOutputs emit p e.text (s.outputPathsOf p e) (s.addEntries [e.logEntry p])).1,
        (writeOutputs emit p e.text (s.outputPathsOf p e) (s.addEntries [e.logEntry p])).2.map
          fun _ => some (.succeeded p (s.outputPathsOf p e) e.isPartial)) := by
  rw [processFile_eq hresult hfault hextension htext, hexpand]
  dsimp only
  rw [if_pos hwrites]

/--
**Processing a file changes the files at its outputs and no others.** If a directive is wrong, the
result is the failure of its kind; if an included file cannot be read, there is no result. In both
cases the tree stays as it is, and so it does after a success for a part of other files and where
nothing is to be written. Otherwise all outputs, apart from the file itself, hold the text in the
end, or those do that come before one that fails; besides, only directories on the way to outputs
that were tried are new.
-/
theorem processFile_changes (depth : Nat) (s : Engine) (p : Path) (text : List Char)
    (hcwd : ".." ∉ s.tree.workingDirectory) (hresult : s.faults.noResult p = false)
    (hfault : s.faults.expansion p = none) (hextension : s.faults.missingOutputExtension = false)
    (htext : s.tree.readText p = .ok text) :
    let after := (processFile (publish depth) p s).1.tree
    let result := (processFile (publish depth) p s).2
    (∀ e, expand s.tree p text = .error (.tag e) →
      result = .ok (some (.failed p (.tag e.kind) e.message)) ∧ after = s.tree) ∧
    (∀ e, expand s.tree p text = .error (.unreadable e) →
      result = .error (.unreadable e) ∧ after = s.tree) ∧
    ∀ e, expand s.tree p text = .ok e →
      (e.isPartial = true ∨ s.settings.writeOutputs = false →
        result = .ok (some (.succeeded p (s.outputPathsOf p e) e.isPartial)) ∧ after = s.tree) ∧
      (e.isPartial = false → s.settings.writeOutputs = true →
        (∀ output ∈ s.outputPathsOf p e, output.sameAs p s.tree.cwd = true →
          LeavesFiles s.bus) →
        (result = .ok (some (.succeeded p (s.outputPathsOf p e) false)) ∧
          Writings s.tree after (octetsOf e.text) (apartFrom p s.tree.cwd (s.outputPathsOf p e))
            (apartFrom p s.tree.cwd (s.outputPathsOf p e))) ∨
        ∃ done failed rest err, s.outputPathsOf p e = done ++ failed :: rest ∧
          failed.sameAs p s.tree.cwd = false ∧ result = .error (.file err) ∧
          Writings s.tree after (octetsOf e.text) (apartFrom p s.tree.cwd done)
            (apartFrom p s.tree.cwd (done ++ [failed]))) := by
  intro after result
  have heq := @processFile_eq s p text (publish depth) hresult hfault hextension htext
  refine ⟨fun e he => ?_, fun e he => ?_, fun e he => ⟨fun hwrites => ?_, ?_⟩⟩
  · rw [he] at heq
    exact ⟨congrArg Prod.snd heq, congrArg (fun r => r.1.tree) heq⟩
  · rw [he] at heq
    exact ⟨congrArg Prod.snd heq, congrArg (fun r => r.1.tree) heq⟩
  · rw [he] at heq
    dsimp only at heq
    rw [if_neg (by rcases hwrites with h | h <;> simp [h])] at heq
    exact ⟨congrArg Prod.snd heq, congrArg (fun r => r.1.tree) heq⟩
  · intro hpartial hwrites hlisteners
    have heq := @processFile_of_writes s p text (publish depth) e hresult hfault hextension htext he
      (by simp [hpartial, hwrites])
    have hwritten := @writings_writeOutputs (s.addEntries [e.logEntry p]) p e.text s.tree depth []
      [] (s.outputPathsOf p e) hcwd hlisteners (.refl s.tree (octetsOf e.text))
    simp only [List.nil_append] at hwritten
    have hafter : after = _ := congrArg (fun r => r.1.tree) heq
    have hresult : result = _ := congrArg Prod.snd heq
    rw [hafter, hresult]
    rcases hwritten with
      ⟨hok, hwritings⟩ | ⟨done, failed, rest, err, hsplit, hfailed, herr, hwritings⟩
    · rw [hok, hpartial]
      exact Or.inl ⟨rfl, hwritings⟩
    · rw [herr]
      exact Or.inr ⟨done, failed, rest, err, hsplit, hfailed, rfl, hwritings⟩

/-- An output in a directory that is there is written. -/
theorem writeOutputs_singleton {emit : Event → Engine → Engine} {t : FileTree}
    (hsame : output.sameAs p s.tree.cwd = false)
    (hensure : s.tree.ensureDirectory output.parent = (s.tree, none))
    (hwrite : s.tree.write output (octetsOf text) = .ok t) :
    (writeOutputs emit p text [output] s).1.tree = t ∧
      (writeOutputs emit p text [output] s).2 = .ok () := by
  rw [writeOutputs, if_neg (by simp [hsame]), writeOutput, hensure]
  dsimp only
  rw [show s.tree.write output (String.ofList text).toUTF8 = .ok t from hwrite]
  exact ⟨rfl, rfl⟩

/-- A page that names itself and another output. -/
def halfSelfishPage : String :=
  "<!--@ output page.t --><!--@ output o -->;"

/-- The other output of that page holds its text. -/
theorem halfSelfishPage_written :
    (".." ∉ (engineWith halfSelfishPage).tree.workingDirectory ∧
      (engineWith halfSelfishPage).faults.noResult (.ofString "page.t") = false ∧
      (engineWith halfSelfishPage).faults.expansion (.ofString "page.t") = none ∧
      (engineWith halfSelfishPage).faults.missingOutputExtension = false ∧
      (engineWith halfSelfishPage).tree.readText (.ofString "page.t")
        = .ok halfSelfishPage.toList ∧
      LeavesFiles (engineWith halfSelfishPage).bus) ∧
    (processFile (publish 2) (.ofString "page.t") (engineWith halfSelfishPage)).1.tree.Holds
      ⟨.slash, ["w", "o"]⟩ ["w", "o"] (octetsOf [';']) := by
  let s := engineWith halfSelfishPage
  let p := Path.ofString "page.t"
  let source : Path := ⟨.slash, ["w", "page.t"]⟩
  let output : Path := ⟨.slash, ["w", "o"]⟩
  let e : Expansion := ⟨[';'], [source, output], false, []⟩
  have hlisteners := leavesFiles_engineWith halfSelfishPage
  have hcwd : ".." ∉ s.tree.workingDirectory := by decide
  have htext : s.tree.readText p = .ok halfSelfishPage.toList := by decide +kernel
  have hexpand : expand s.tree p halfSelfishPage.toList = .ok e :=
    @Expansion.run_eq_of_runWithin _ _ _ _ 3 _ (by decide +kernel)
  have hapart : apartFrom p s.tree.cwd (s.outputPathsOf p e) = [output] := by decide +kernel
  have houtputs : s.outputPathsOf p e = [source, output] := rfl
  have hwritten : (writeOutputs (publish 2) p e.text (s.outputPathsOf p e)
      (s.addEntries [e.logEntry p])).2 = .ok () := by
    have htree := (@hasTree_message (s.addEntries [e.logEntry p]) 2 hlisteners
      s!"Skipped output {source}" "Output path is the source file" .warning).1
    rw [houtputs, writeOutputs, if_pos (by decide +kernel)]
    refine (@writeOutputs_singleton _ p output e.text (publish 2)
      (s.tree.put ["w", "o"] (.file (octetsOf [';']))) ?_ ?_ ?_).2
    · rw [htree]
      decide +kernel
    · rw [htree, FileTree.ensureDirectory]
      rfl
    · rw [htree]
      rfl
  have hok : (processFile (publish 2) p s).2
      = .ok (some (.succeeded p (s.outputPathsOf p e) false)) := by
    rw [processFile_of_writes rfl rfl rfl htext hexpand rfl, hwritten]
    rfl
  rcases ((processFile_changes 2 s p _ hcwd rfl rfl rfl htext).2.2 e hexpand).2 rfl rfl
    (fun _ _ _ => hlisteners) with ⟨_, hwritings⟩ | ⟨_, _, _, _, _, _, herr, _⟩
  · refine ⟨⟨hcwd, rfl, rfl, rfl, htext, hlisteners⟩, ?_⟩
    exact hwritings.holds output (by rw [hapart]; exact List.mem_singleton_self _)
  · rw [hok] at herr
    cases herr

/-! ## Changes elsewhere -/

/-- If nobody hears of events, a changed file alone is processed. The rest is not in the tree. -/
theorem tree_processChanged (p : Path) (hcascade : s.settings.cascadeDependents = false) :
    (processChanged (publish 0) p s).1.tree = (processFile (publish 0) p
      (message (publish 0) s!"Processing file {p}..." "" .information s)).1.tree := by
  have hsettings : (processAndReport (publish 0) p s).1.settings = s.settings := by
    have hindependent : Independent (publish 0) fun s' => s'.settings = s.settings :=
      .of_publishes (fun _ _ hs => hs) (fun _ hs => hs) (fun _ hs => hs) fun _ hs => hs
    exact hindependent.processAndReport rfl
  rw [processChanged]
  dsimp only
  rw [hsettings, hcascade, if_neg Bool.false_ne_true]
  unfold processAndReport reportBreakdown
  dsimp only
  generalize processFile (publish 0) p (message (publish 0) _ "" .information s) = r
  obtain ⟨s', result⟩ := r
  cases result with
  | error e => rfl
  | ok result =>
    cases result with
    | none => rfl
    | some result =>
      dsimp only
      split <;> rfl

/-- The only listener of an engine processes a file when it first hears of an event. -/
theorem tree_publish_of_listener (id : Nat) (names : List String) (e : Event) (p : Path)
    (s : Engine) :
    (publish (depth + 1) e
      { s with bus := ⟨[⟨id, none, ⟨.process p, true⟩⟩], names⟩, spent := [] }).tree
    = (processChanged (publish depth) p
      { s with bus := ⟨[⟨id, none, ⟨.process p, true⟩⟩], names⟩, spent := [id],
               published := s.published ++ [e] }).1.tree :=
  rfl

/-- A page that names itself, and another page. -/
def meddledTree : FileTree :=
  ⟨[(["w"], .directory), (["w", "page.t"], .file "<!--@ output page.t -->;".toUTF8),
    (["w", "q.t"], .file "<!--@ output o -->;".toUTF8)], ["w"]⟩

/-- An engine for that page, with a listener that processes the other one when it first hears. -/
def meddledEngine : Engine :=
  { engineWith "" with
    tree := meddledTree
    bus := ⟨[⟨0, none, ⟨.process ⟨.slash, ["w", "q.t"]⟩, true⟩⟩], ["p"]⟩ }

/-- The other page is written, if nobody hears of it. -/
theorem tree_processChanged_meddledTree (hsettings : s.settings = meddledEngine.settings)
    (hfaults : s.faults = .none) (htree : s.tree = meddledTree) :
    (processChanged (publish 0) ⟨.slash, ["w", "q.t"]⟩ s).1.tree
      = meddledTree.put ["w", "o"] (.file (octetsOf [';'])) := by
  let q : Path := ⟨.slash, ["w", "q.t"]⟩
  let e : Expansion := ⟨[';'], [⟨.slash, ["w", "o"]⟩], false, []⟩
  rw [tree_processChanged _ (by rw [hsettings]; rfl)]
  generalize hs' : message (publish 0) s!"Processing file {q}..." "" .information s = s'
  have hsettings' : s'.settings = meddledEngine.settings := by rw [← hs', ← hsettings]; rfl
  have hfaults' : s'.faults = .none := by rw [← hs', ← hfaults]; rfl
  have htree' : s'.tree = meddledTree := by rw [← hs', ← htree]; rfl
  have htext : s'.tree.readText q = .ok "<!--@ output o -->;".toList := by
    rw [htree']
    decide +kernel
  have hexpand : expand s'.tree q "<!--@ output o -->;".toList = .ok e := by
    rw [htree']
    exact @Expansion.run_eq_of_runWithin _ _ _ _ 2 _ (by decide +kernel)
  rw [processFile_of_expand (by rw [hfaults']; rfl) (by rw [hfaults']; rfl) htext hexpand
    (List.cons_ne_nil _ _) rfl (by rw [hsettings']; rfl),
    show e.outputPaths = [⟨.slash, ["w", "o"]⟩] from rfl]
  refine (@writeOutputs_singleton (s'.addEntries [e.logEntry q]) q ⟨.slash, ["w", "o"]⟩ e.text
    (publish 0) (meddledTree.put ["w", "o"] (.file (octetsOf [';']))) ?_ ?_ ?_).1
  · rw [tree_addEntries, htree']
    decide +kernel
  · rw [tree_addEntries, htree', FileTree.ensureDirectory]
    rfl
  · rw [tree_addEntries, htree']
    rfl

/-- To process the page changes a file that is no output of it. -/
theorem meddledEngine_changes :
    (processFile (publish 1) (.ofString "page.t") meddledEngine).2
      = .ok (some (.succeeded (.ofString "page.t") [⟨.slash, ["w", "page.t"]⟩] false)) ∧
    (processFile (publish 1) (.ofString "page.t") meddledEngine).1.tree
      = meddledTree.put ["w", "o"] (.file (octetsOf [';'])) := by
  let s := meddledEngine
  let p := Path.ofString "page.t"
  let source : Path := ⟨.slash, ["w", "page.t"]⟩
  let e : Expansion := ⟨[';'], [source], false, []⟩
  have htext : meddledTree.readText p = .ok "<!--@ output page.t -->;".toList := by decide +kernel
  have hexpand : expand meddledTree p "<!--@ output page.t -->;".toList = .ok e :=
    @Expansion.run_eq_of_runWithin _ _ _ _ 2 _ (by decide +kernel)
  have hwritten : writeOutputs (publish 1) p e.text e.outputPaths (s.addEntries [e.logEntry p])
      = (message (publish 1) s!"Skipped output {source}" "Output path is the source file" .warning
        (s.addEntries [e.logEntry p]), .ok ()) := by
    rw [writeOutputs, if_pos (by decide +kernel), writeOutputs]
  have hprocessed := @processFile_of_writes s p _ (publish 1) e rfl rfl rfl htext hexpand rfl
  rw [show s.outputPathsOf p e = e.outputPaths from rfl, hwritten] at hprocessed
  rw [hprocessed]
  refine ⟨rfl, ?_⟩
  dsimp only
  let s' := (s.addEntries [e.logEntry p]).addEntries [⟨Severity.warning.level, "engine_message",
    [("title", .string s!"Skipped output {source}"),
      ("detail", .string "Output path is the source file"),
      ("severity", .string Severity.warning.name)]⟩]
  have hheard := @tree_publish_of_listener 0 0 ["p"]
    (.logMessage s!"Skipped output {source}" "Output path is the source file" .warning)
    ⟨.slash, ["w", "q.t"]⟩ s'
  rw [show ({ s' with bus := ⟨[⟨0, none, ⟨.process ⟨.slash, ["w", "q.t"]⟩, true⟩⟩], ["p"]⟩,
                      spent := [] } : Engine) = s' from rfl] at hheard
  rw [message]
  refine hheard.trans ?_
  exact tree_processChanged_meddledTree rfl rfl rfl

/-- An engine that writes nothing, for a page that includes a file without a readable text. -/
def unreadableEngine : Engine :=
  { engineWith "" with
    settings := { (engineWith "").settings with writeOutputs := false }
    tree := ⟨[(["w"], .directory), (["w", "page.t"], .file "<!--@ include bad -->".toUTF8),
      (["w", "bad"], .file ⟨#[255]⟩)], ["w"]⟩ }

/--
**Both provisos are needed.** To process a page may have no result although nothing is to be written
and no directive is wrong, and it may change a file that is no output of the page.
-/
theorem changes_can_differ :
    (unreadableEngine.faults = .none ∧ unreadableEngine.settings.writeOutputs = false ∧
      unreadableEngine.tree.readText (.ofString "page.t") = .ok "<!--@ include bad -->".toList ∧
      ∀ depth result, (processFile (publish depth) (.ofString "page.t") unreadableEngine).2
        ≠ .ok result) ∧
    meddledEngine.faults = .none ∧ meddledEngine.settings.writeOutputs = true ∧
      (processFile (publish 1) (.ofString "page.t") meddledEngine).2
        = .ok (some (.succeeded (.ofString "page.t") [⟨.slash, ["w", "page.t"]⟩] false)) ∧
      meddledEngine.tree.entry? ["w", "o"] = none ∧
      (processFile (publish 1) (.ofString "page.t") meddledEngine).1.tree.entry? ["w", "o"]
        = some (.file (octetsOf [';'])) := by
  have htext : unreadableEngine.tree.readText (.ofString "page.t")
      = .ok "<!--@ include bad -->".toList := by decide +kernel
  have hexpand : expand unreadableEngine.tree (.ofString "page.t") "<!--@ include bad -->".toList
      = .error (.unreadable (.illFormed ⟨.invalidStart, 0, 1, 255⟩)) :=
    @Expansion.run_eq_of_runWithin _ _ _ _ 1 _ (by decide +kernel)
  refine ⟨⟨rfl, rfl, htext, fun depth result h => ?_⟩, rfl, rfl, meddledEngine_changes.1, rfl, ?_⟩
  · rw [processFile_eq rfl rfl rfl htext, hexpand] at h
    cases h
  · rw [meddledEngine_changes.2]
    exact entry_put_self _ (List.cons_ne_nil _ _)

end LiveTemplates.Engine
