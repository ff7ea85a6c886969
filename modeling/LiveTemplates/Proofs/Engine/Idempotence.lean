import LiveTemplates.Proofs.Engine.Retracing

/-!
# Processing all files twice

What is written stays apart from what is read, and is not itself picked up as a source. Then an
engine that is asked to process all files a second time leaves every file and directory as it is,
and gives the same results (`processAll_again`). Only a failure to make directories may be told of
in other words: when it could be done in part the first time (`results_can_differ`).
-/

namespace LiveTemplates

deriving instance DecidableEq for FileTree

namespace FileTree

/-- What is found below a directory stands below its place. -/
theorem place_of_find_below {t : FileTree} {dir : Path} {place q : Place} {rest : List String}
    (ht : t.Rooted) (hdir : t.find dir = .ok place) (hdots : ".." ∉ rest)
    (h : t.find { dir with names := dir.names ++ rest } = .ok q) : q = place ++ rest := by
  have hplace : ".." ∉ place := by
    rw [place_of_find ht.workingDirectory hdir]
    exact Path.notMem_absolute t.isAbsolute_cwd dir
  have hstart : t.startOf { dir with names := dir.names ++ rest } = t.startOf dir := rfl
  have hfollow := follow_of_find h
  rw [hstart, follow_append_of_ok (follow_of_find hdir)] at hfollow
  rw [place_of_follow hplace hfollow, Path.foldl_stepName_of_notMem hdots]
  simp

end FileTree

namespace Engine

open FileTree

variable {s : Engine} {x : ReferenceIndex} {t : FileTree} {place : Place}

/--
Whether a file at a path would be taken for a source: it is not ignored and has a monitored
extension, or there is an extension without a value to be met.
-/
def Regards (s : Engine) (x : ReferenceIndex) (p : Path) : Prop :=
  ((p.below? x.root).getD p).isIgnored x.ignorePatterns = false ∧
    (s.faults.missingExtension.isSome = true ∨ ∃ e ∈ x.extensions, p.hasExtension e = true)

/-- What is no file, or would not be taken for a source, is passed over. -/
theorem passes_of_not_regards {p : Path} (hrefusal : t.refusal? p = none)
    (h : t.isFile p = .ok true → ¬ s.Regards x p) :
    s.stopsAt? x p t = none ∧ x.selects t p = false := by
  constructor
  · have hextension : meetsMissingExtension { s with tree := t } x p = false := by
      unfold meetsMissingExtension
      cases hmissing : s.faults.missingExtension with
      | none => rfl
      | some n =>
        have hadmits : x.admits t p = false := by
          by_contra hadmitted
          obtain ⟨hfile, hunignored⟩ :=
            ReferenceIndex.admits_iff.mp (Bool.not_eq_false _ ▸ hadmitted)
          exact h hfile ⟨hunignored, Or.inl (by rw [hmissing, Option.isSome_some])⟩
        dsimp only
        rw [hadmits, Bool.false_and]
    unfold stopsAt?
    rw [hrefusal]
    dsimp only
    rw [hextension]
    rfl
  · by_contra hselected
    obtain ⟨hfile, hunignored, hextension⟩ :=
      ReferenceIndex.selects_iff.mp (Bool.not_eq_false _ ▸ hselected)
    exact h hfile ⟨hunignored, Or.inr hextension⟩

variable {final : FileTree}

/-- What is new below the root is passed over, unless an output would be taken for a source. -/
theorem passesOver_of_new (ht : t.Rooted) (hroot : t.find x.root = .ok place)
    {written : List Path} (hreceives : t.Receives written final)
    (hunregarded : ∀ output ∈ written, ∀ rest, (output.absolute t.cwd).names = place ++ rest →
      ¬ s.Regards x { x.root with names := x.root.names ++ rest })
    {p : Path} (hbelow : p ∈ final.below x.root place) (hnew : p ∉ t.below x.root place)
    (hrefusal : final.refusal? p = none) : s.PassesOver x place final p := by
  have hpasses : s.stopsAt? x p final = none ∧ x.selects final p = false := by
    refine passes_of_not_regards hrefusal fun hfile => ?_
    obtain ⟨rest, hrest, hmem, rfl⟩ := mem_below_iff.mp hbelow
    have hne : place ++ rest ≠ [] := by simp [hrest]
    have hdots : ".." ∉ rest := by
      obtain ⟨e, he, heq⟩ := List.mem_map.mp hmem
      intro h
      exact hreceives.rooted.entries e he (heq ▸ List.mem_append_right _ h)
    obtain ⟨q, b, hholds⟩ := isFile_iff.mp hfile
    have hroot' := hreceives.grows.find ht hroot
    obtain rfl := place_of_find_below hreceives.rooted hroot' hdots hholds.find
    -- the file was not there before, so it is an output
    have hnone : t.entry? (place ++ rest) ≠ some (.file b) := by
      intro hentry
      refine hnew (mem_below_iff.mpr ⟨rest, hrest, (mem_places_iff hne).mpr ?_, rfl⟩)
      rw [hentry, Option.isSome_some]
    intro hregards
    refine hnone (((hreceives.same (place ++ rest) fun output ho heq => ?_) b).mpr hholds.entry)
    exact hunregarded output ho rest heq hregards
  exact ⟨hbelow, hpasses.1, hpasses.2⟩

/-! ## All files -/

/--
What is written when all files are processed stays apart from what is read, and would not itself be
taken for a source. What is new below the root can be looked up by its path from there.
-/
structure AllApart (s : Engine) (x : ReferenceIndex) (t : FileTree) : Prop
    extends Apart s t.cwd (s.allTurns x t) where
  unregarded : ∀ place, t.find x.root = .ok place →
    ∀ output ∈ s.writtenIn (s.allTurns x t), ∀ rest,
      (output.absolute t.cwd).names = place ++ rest →
      ¬ s.Regards x { x.root with names := x.root.names ++ rest }
  listed : ∀ place, t.find x.root = .ok place →
    ∀ p ∈ (s.renderAll x t).1.below x.root place, p ∉ t.below x.root place →
      (s.renderAll x t).1.refusal? p = none

/--
To process all files once more changes nothing: the tree stays as it is, and the results are the
same, up to how a failure to make directories is told of.
-/
theorem renderAll_again (ht : t.Rooted) (hapart : s.AllApart x t) :
    (s.renderAll x (s.renderAll x t).1).1 = (s.renderAll x t).1 ∧
      Repeats (fun r r' => r.Again (s.plan r.path (s.renderAll x t).1).outputs r')
        (s.renderAll x t).2 (s.renderAll x (s.renderAll x t).1).2 := by
  cases hcandidates : x.candidates t with
  | error e =>
    have hrendered : s.renderAll x t = (t, .error (.file e)) := by rw [renderAll, hcandidates]
    rw [hrendered]
    dsimp only
    rw [hrendered]
    exact ⟨rfl, rfl⟩
  | ok ps =>
    have hrendered : s.renderAll x t = s.renderSelected x ps t := by rw [renderAll, hcandidates]
    have hturns : s.allTurns x t = s.turns x ps t := by rw [allTurns, hcandidates]
    rcases ReferenceIndex.candidates_cases hcandidates with
      rfl | ⟨place, hdirectory, hroot, hdirectories, rfl⟩
    · rw [hrendered]
      dsimp only [renderSelected]
      rw [hrendered]
      exact ⟨rfl, .nil⟩
    · have hreceives := receives_renderSelected s x (Path.sort (t.below x.root place)) ht
      rw [← hrendered, ← hturns] at hreceives
      have hnew := hapart.listed place hroot
      have hagain := ReferenceIndex.candidates_grows ht hreceives.rooted hreceives.grows hdirectory
        hroot hdirectories hnew
      have hrendered' : s.renderAll x (s.renderAll x t).1
          = s.renderSelected x (Path.sort ((s.renderAll x t).1.below x.root place))
            (s.renderAll x t).1 := by
        rw [renderAll, hagain]
      have hfilter :=
        ReferenceIndex.filter_sort_below (x := x) hreceives.rooted hreceives.grows place
      have hrepeated := renderSelected_again (fun p => decide (p ∈ t.below x.root place))
        (Path.sort ((s.renderAll x t).1.below x.root place)) ht hroot
        (fun p _ hp => of_decide_eq_true hp)
        (fun p hp hkept => passesOver_of_new ht hroot hreceives (hapart.unregarded place hroot)
          (List.mem_mergeSort.mp hp) (of_decide_eq_false hkept)
          (hnew p (List.mem_mergeSort.mp hp) (of_decide_eq_false hkept)))
        (by rw [hfilter, hrendered]) (by rw [hfilter, ← hturns]; exact hapart.toApart)
        (retraces_final hreceives.rooted t)
      rw [hfilter, ← hrendered, ← hrendered'] at hrepeated
      exact hrepeated

/-- Once an engine knows where to look for files, it goes on to look there. -/
theorem referenceIndex_carries {emit : Event → Engine → Engine} (hemit : Passive emit)
    {s' : Engine} (hquiet : Quiet s.bus)
    (h : Carries { s with monitorPath := some (referenceIndex emit s).2.root } t s') :
    (referenceIndex emit s').2 = (referenceIndex emit s).2 := by
  have hasked := carries_currentMonitorPath hemit hquiet
  have hcurrent : currentMonitorPath emit s' = (s', (currentMonitorPath emit s).2) := by
    rw [currentMonitorPath, h.monitorPath]
    rfl
  simp only [referenceIndex, hcurrent, h.settings, h.ignorePatterns, hasked.settings,
    hasked.ignorePatterns]

/-- To process all files twice is a function of the tree, if listeners do not use the engine. -/
theorem processAll_twice (depth : Nat) {s first second : Engine}
    {results results' : Except EngineFailure (List ProcessResult)} (hquiet : Quiet s.bus)
    (hfirst : processAll (publish depth) s = (first, results))
    (hsecond : processAll (publish depth) first = (second, results')) :
    let x := (referenceIndex (publish depth) s).2
    (first.tree, results) = s.renderAll x s.tree ∧
      (second.tree, results') = s.renderAll x first.tree := by
  intro x
  have hemit := passive_publish depth
  obtain ⟨hcarries, hresults⟩ := carries_processAll hemit hquiet
  rw [hfirst] at hcarries hresults
  obtain ⟨hcarries', hresults'⟩ := carries_processAll hemit hcarries.quiet
  rw [hsecond, referenceIndex_carries hemit hquiet hcarries] at hcarries' hresults'
  have hrendered : first.renderAll x first.tree = s.renderAll x first.tree :=
    @renderAll_congr s first first.tree hcarries.settings hcarries.faults x
  refine ⟨Prod.ext hcarries.tree hresults, ?_⟩
  rw [← hrendered]
  exact Prod.ext hcarries'.tree hresults'

/--
**To process all files once more changes nothing**, if no listener uses the engine and what is
written stays apart: every file and directory is left as it is, and the results are the same, up to
how a failure to make directories is told of.
-/
theorem processAll_again (depth : Nat) {s first second : Engine}
    {results results' : Except EngineFailure (List ProcessResult)} (hquiet : Quiet s.bus)
    (ht : s.tree.Rooted) (hapart : s.AllApart (referenceIndex (publish depth) s).2 s.tree)
    (hfirst : processAll (publish depth) s = (first, results))
    (hsecond : processAll (publish depth) first = (second, results')) :
    second.tree = first.tree ∧
      Repeats (fun r r' => r.Again (s.plan r.path first.tree).outputs r') results results' := by
  obtain ⟨hrendered, hrendered'⟩ := processAll_twice depth hquiet hfirst hsecond
  have hagain := renderAll_again ht hapart
  rw [← hrendered] at hagain
  dsimp only at hagain
  rw [← hrendered'] at hagain
  exact hagain

/-! ## An engine with a file in its way -/

/-- A file of the example. -/
def exampleFile (name : String) : Path :=
  ⟨.slash, ["w", name]⟩

/-- A page that brings in a note, and a site whose output is to be in a directory below the note. -/
def obstructedTree : FileTree :=
  ⟨[(["w"], .directory), (["w", "note"], .file "x".toUTF8),
    (["w", "page.t"], .file "<!--@ output o --><!--@ include note -->".toUTF8),
    (["w", "site.t"], .file "Body".toUTF8)], ["w"]⟩

/-- That tree once the page is written. -/
def obstructedMidway : FileTree :=
  obstructedTree.put ["w", "o"] (.file "x".toUTF8)

/-- That tree once a first directory is made for the output of the site. -/
def obstructedFinal : FileTree :=
  obstructedMidway.put ["w", "site"] .directory

/-- An engine that takes the page and the site for sources. -/
def obstructedEngine : Engine :=
  initial
    { baseDir := .ofString "/w", monitorPath := none, configFileName := "", extensions := [".t"],
      outputExtension := "/../note/c/d", processDelayMs := 50, cascadeDependents := false,
      transitiveDependents := false, writeOutputs := true }
    [] [] obstructedTree .none none

/-- Where that engine looks for files. -/
def obstructedIndex : ReferenceIndex :=
  ⟨⟨.slash, ["w"]⟩, [".t"], []⟩

/-- The page is expanded to the note, and the site to itself, the first time and the second time. -/
theorem plan_obstructed {page site : FileTree}
    (hpage : page = obstructedTree ∨ page = obstructedFinal)
    (hsite : site = obstructedMidway ∨ site = obstructedFinal) :
    obstructedEngine.plan (exampleFile "page.t") page = .writing ['x'] [exampleFile "o"] ∧
      obstructedEngine.plan (exampleFile "site.t") site
        = .writing "Body".toList [⟨.slash, ["w", "site", "..", "note", "c", "d"]⟩] := by
  constructor
  · have hread : page.readText (exampleFile "page.t")
        = .ok "<!--@ output o --><!--@ include note -->".toList := by
      rcases hpage with rfl | rfl <;> decide +kernel
    have hexpand : expand page (exampleFile "page.t")
        "<!--@ output o --><!--@ include note -->".toList
        = .ok ⟨['x'], [exampleFile "o"], false, ["note".toList]⟩ :=
      @Expansion.run_eq_of_runWithin _ _ _ _ 3 _ (by rcases hpage with rfl | rfl <;> decide +kernel)
    exact plan_of_expand rfl rfl hread hexpand rfl rfl
  · have hread : site.readText (exampleFile "site.t") = .ok "Body".toList := by
      rcases hsite with rfl | rfl <;> decide +kernel
    have hexpand : expand site (exampleFile "site.t") "Body".toList
        = .ok ⟨"Body".toList, [], false, []⟩ :=
      @Expansion.run_eq_of_runWithin _ _ _ _ 1 _ (by rcases hsite with rfl | rfl <;> decide +kernel)
    refine plan_of_expand rfl rfl hread hexpand (congrArg Except.ok ?_) rfl
    decide +kernel

/-- The result of the page. -/
def writtenPage : ProcessResult :=
  .succeeded (exampleFile "page.t") [exampleFile "o"] false

/-- The result of the site, whose output fails. -/
def unwrittenSite (words : String) : ProcessResult :=
  .failed (exampleFile "site.t") .unexpected words

/-- The first time the note is met where a directory is to be made. -/
theorem render_obstructed :
    obstructedEngine.render (exampleFile "page.t") obstructedTree
        = (obstructedMidway, [exampleFile "o"], writtenPage) ∧
      obstructedEngine.render (exampleFile "site.t") obstructedMidway
        = (obstructedFinal, [],
          unwrittenSite "[Errno 17] File exists: '/w/site/../note'") := by
  obtain ⟨hpage, hsite⟩ := plan_obstructed (Or.inl rfl) (Or.inl rfl)
  rw [render, hpage, render, hsite]
  constructor <;> decide +kernel

/-- The second time the note is met on the way to the whole directory. -/
theorem render_obstructedFinal :
    obstructedEngine.render (exampleFile "page.t") obstructedFinal
        = (obstructedFinal, [exampleFile "o"], writtenPage) ∧
      obstructedEngine.render (exampleFile "site.t") obstructedFinal
        = (obstructedFinal, [],
          unwrittenSite "[Errno 20] Not a directory: '/w/site/../note/c'") := by
  obtain ⟨hpage, hsite⟩ := plan_obstructed (Or.inr rfl) (Or.inr rfl)
  rw [render, hpage, render, hsite]
  constructor <;> decide +kernel

/-- Of the files that are there before or after, the page and the site are selected. -/
theorem selects_obstructed : ∀ t ∈ [obstructedTree, obstructedMidway, obstructedFinal],
    ∀ name ∈ ["note", "o", "page.t", "site", "site.t"],
      obstructedEngine.stopsAt? obstructedIndex (exampleFile name) t = none ∧
        obstructedIndex.selects t (exampleFile name) = (name == "page.t" || name == "site.t") := by
  have h : ∀ t ∈ [obstructedTree, obstructedMidway, obstructedFinal],
      ∀ name ∈ ["note", "o", "page.t", "site", "site.t"], t.refusal? (exampleFile name) = none ∧
        obstructedIndex.selects t (exampleFile name) = (name == "page.t" || name == "site.t") := by
    decide +kernel
  intro t ht name hname
  obtain ⟨hrefusal, hselects⟩ := h t ht name hname
  refine ⟨?_, hselects⟩
  rw [stopsAt?, hrefusal]
  rfl

theorem renderAll_obstructedTree :
    obstructedEngine.renderAll obstructedIndex obstructedTree
        = (obstructedFinal,
          .ok [writtenPage, unwrittenSite "[Errno 17] File exists: '/w/site/../note'"]) ∧
      obstructedEngine.allTurns obstructedIndex obstructedTree
        = [(exampleFile "page.t", obstructedTree), (exampleFile "site.t", obstructedMidway)] := by
  have hsort : Path.sort (obstructedTree.below obstructedIndex.root ["w"])
      = [exampleFile "note", exampleFile "page.t", exampleFile "site.t"] :=
    @Path.sort_eq_of_perm _ _ .slash (by decide) (by decide +kernel) (by decide +kernel)
  have hcandidates := @ReferenceIndex.candidates_eq obstructedIndex obstructedTree ["w"]
    (by decide +kernel) (by decide +kernel) (by decide +kernel)
  rw [hsort] at hcandidates
  have htree := selects_obstructed obstructedTree (by simp)
  have hmidway := selects_obstructed obstructedMidway (by simp)
  have hnote := renderSelected_of_passes [exampleFile "page.t", exampleFile "site.t"]
    (htree "note" (by simp)).1 (htree "note" (by simp)).2
  have hpage := renderSelected_of_selects [exampleFile "site.t"]
    (htree "page.t" (by simp)).1 (htree "page.t" (by simp)).2
  have hsite := renderSelected_of_selects []
    (hmidway "site.t" (by simp)).1 (hmidway "site.t" (by simp)).2
  rw [render_obstructed.1] at hpage
  rw [render_obstructed.2] at hsite
  dsimp only at hpage hsite
  constructor
  · rw [renderAll, hcandidates]
    dsimp only
    rw [hnote.1, hpage.1, hsite.1]
    rfl
  · rw [allTurns, hcandidates]
    dsimp only
    rw [hnote.2, hpage.2, hsite.2]
    rfl

theorem renderAll_obstructedFinal :
    obstructedEngine.renderAll obstructedIndex obstructedFinal
      = (obstructedFinal,
        .ok [writtenPage, unwrittenSite "[Errno 20] Not a directory: '/w/site/../note/c'"]) := by
  have hsort : Path.sort (obstructedFinal.below obstructedIndex.root ["w"])
      = [exampleFile "note", exampleFile "o", exampleFile "page.t", exampleFile "site",
        exampleFile "site.t"] :=
    @Path.sort_eq_of_perm _ _ .slash (by decide) (by decide +kernel) (by decide +kernel)
  have hcandidates := @ReferenceIndex.candidates_eq obstructedIndex obstructedFinal ["w"]
    (by decide +kernel) (by decide +kernel) (by decide +kernel)
  rw [hsort] at hcandidates
  have hfinal := selects_obstructed obstructedFinal (by simp)
  have hpasses := fun (name : String) (ps : List Path)
      (hname : name ∈ ["note", "o", "page.t", "site", "site.t"])
      (hother : (name == "page.t" || name == "site.t") = false) =>
    (renderSelected_of_passes ps (hfinal name hname).1 ((hfinal name hname).2.trans hother)).1
  have hpage := fun ps => (renderSelected_of_selects ps
    (hfinal "page.t" (by simp)).1 (hfinal "page.t" (by simp)).2).1
  have hsite := fun ps => (renderSelected_of_selects ps
    (hfinal "site.t" (by simp)).1 (hfinal "site.t" (by simp)).2).1
  rw [render_obstructedFinal.1] at hpage
  rw [render_obstructedFinal.2] at hsite
  dsimp only at hpage hsite
  rw [renderAll, hcandidates]
  dsimp only
  rw [hpasses "note" _ (by simp) rfl, hpasses "o" _ (by simp) rfl, hpage,
    hpasses "site" _ (by simp) rfl, hsite]
  rfl

theorem rooted_obstructedTree : obstructedTree.Rooted :=
  rooted_of_entries (by decide) (by decide) (by decide) (by decide)

/-- The output of the page stays apart from the note, the page and the site. -/
theorem allApart_obstructed : obstructedEngine.AllApart obstructedIndex obstructedTree := by
  have hwritten : obstructedEngine.writtenIn
      (obstructedEngine.allTurns obstructedIndex obstructedTree) = [exampleFile "o"] := by
    rw [renderAll_obstructedTree.2, writtenIn, List.flatMap_cons, List.flatMap_cons]
    dsimp only
    rw [render_obstructed.1, render_obstructed.2]
    rfl
  have hfind : obstructedTree.find obstructedIndex.root = .ok ["w"] := by decide +kernel
  refine ⟨⟨?_, ?_⟩, ?_, ?_⟩
  · rw [hwritten, renderAll_obstructedTree.2]
    decide
  · rw [hwritten, renderAll_obstructedTree.2]
    intro output houtput turn hturn text q htext hq
    obtain rfl : output = exampleFile "o" := by simpa using houtput
    have hturn' : turn = (exampleFile "page.t", obstructedTree) ∨
        turn = (exampleFile "site.t", obstructedMidway) := by simpa using hturn
    rcases hturn' with rfl | rfl
    · have hread : obstructedTree.readText (exampleFile "page.t")
          = .ok "<!--@ output o --><!--@ include note -->".toList := by decide +kernel
      obtain rfl := Except.ok.inj (hread.symm.trans htext)
      have hmem : q ∈ [["w", "note"]] := @Expansion.LooksUp.mem _ _ _ 3 _ _ hq (by decide +kernel)
      obtain rfl : q = ["w", "note"] := by simpa using hmem
      decide
    · have hread : obstructedMidway.readText (exampleFile "site.t") = .ok "Body".toList := by
        decide +kernel
      obtain rfl := Except.ok.inj (hread.symm.trans htext)
      have hmem : q ∈ [] := @Expansion.LooksUp.mem _ _ _ 1 _ _ hq (by decide +kernel)
      cases hmem
  · intro place hplace output houtput rest hrest
    obtain rfl := Except.ok.inj (hfind.symm.trans hplace)
    obtain rfl : output = exampleFile "o" := by simpa [hwritten] using houtput
    have hnames : ["w"] ++ ["o"] = ["w"] ++ rest := hrest
    obtain rfl := List.append_cancel_left hnames
    rintro ⟨_, hmissing | ⟨e, he, hextension⟩⟩
    · cases hmissing
    · obtain rfl : e = ".t" := by simpa [obstructedIndex] using he
      revert hextension
      decide +kernel
  · intro place hplace p hp _
    obtain rfl := Except.ok.inj (hfind.symm.trans hplace)
    rw [renderAll_obstructedTree.1] at hp ⊢
    have hlisted : ∀ p ∈ obstructedFinal.below obstructedIndex.root ["w"],
        obstructedFinal.refusal? p = none := by decide +kernel
    exact hlisted p hp

/-- No listener of that engine uses it, as it has none. -/
theorem quiet_obstructed : Quiet obstructedEngine.bus :=
  fun _ h => nomatch h

/-- That engine leaves all as it is the second time. -/
theorem obstructedEngine_settles :
    (Quiet obstructedEngine.bus ∧ obstructedEngine.tree.Rooted ∧
      obstructedEngine.AllApart (referenceIndex (publish 0) obstructedEngine).2
        obstructedEngine.tree) ∧
    (processAll (publish 0) (processAll (publish 0) obstructedEngine).1).1.tree
        = (processAll (publish 0) obstructedEngine).1.tree ∧
      Repeats (fun r r' => r.Again (obstructedEngine.plan r.path
          (processAll (publish 0) obstructedEngine).1.tree).outputs r')
        (processAll (publish 0) obstructedEngine).2
        (processAll (publish 0) (processAll (publish 0) obstructedEngine).1).2 :=
  ⟨⟨quiet_obstructed, rooted_obstructedTree, allApart_obstructed⟩,
    processAll_again 0 quiet_obstructed rooted_obstructedTree allApart_obstructed rfl rfl⟩

/-- **The results are not always the same**: the site fails in other words the second time. -/
theorem results_can_differ :
    ¬ ∀ (depth : Nat) (s first second : Engine)
      (results results' : Except EngineFailure (List ProcessResult)),
      Quiet s.bus → s.tree.Rooted → s.AllApart (referenceIndex (publish depth) s).2 s.tree →
      processAll (publish depth) s = (first, results) →
      processAll (publish depth) first = (second, results') →
      results' = results ∧ second.tree = first.tree := by
  intro h
  obtain ⟨first, results, hfirst⟩ : ∃ first results,
    processAll (publish 0) obstructedEngine = (first, results) := ⟨_, _, rfl⟩
  obtain ⟨second, results', hsecond⟩ : ∃ second results',
    processAll (publish 0) first = (second, results') := ⟨_, _, rfl⟩
  obtain ⟨hrendered, hrendered'⟩ := processAll_twice 0 quiet_obstructed hfirst hsecond
  obtain ⟨htree, hresults⟩ :=
    Prod.mk.inj (hrendered.trans renderAll_obstructedTree.1)
  rw [htree] at hrendered'
  obtain ⟨_, hresults'⟩ := Prod.mk.inj (hrendered'.trans renderAll_obstructedFinal)
  obtain ⟨hsame, _⟩ := h 0 _ _ _ _ _ quiet_obstructed rooted_obstructedTree allApart_obstructed
    hfirst hsecond
  rw [hresults, hresults'] at hsame
  exact absurd (Except.ok.inj hsame) (by decide)

end Engine

end LiveTemplates
