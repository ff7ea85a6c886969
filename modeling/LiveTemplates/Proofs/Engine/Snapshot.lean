import LiveTemplates.Proofs.Engine.Idempotence
import LiveTemplates.Proofs.Engine.Selection

/-!
# All files that were there are processed, and no others

An engine that processes all files lists what is below its directory first and then goes through the
list. Whether a path is a file is asked only when its turn comes, in a tree to which the processing
of earlier files has added. It makes no difference: what is on the list was there before, and is
still what it was then (`renderSelected_snapshot`). What has come below the directory meanwhile is
not on the list. So the results are those of the files that were there in the beginning, in order
and each one once, and one event tells of each of them (`processAll_snapshot`).

The directory must be such that its files can be looked up by their paths. If a path is too long,
there is no list of results at all (`processAll_refused`).
-/

namespace LiveTemplates

/-- Paths that start alike are in a strict order if they are in order and differ. -/
theorem Path.pieces_lt_of_le {p q : Path} (hroot : p.root = q.root) (hle : Path.le p q = true)
    (hne : p ≠ q) : p.pieces < q.pieces := by
  rw [Path.le_iff, List.not_lt] at hle
  by_contra hlt
  rw [List.not_lt] at hlt
  exact hne (Path.eq_of_pieces hroot (List.le_antisymm hle hlt))

namespace FileTree

variable {t : FileTree} {dir : Path} {place : Place}

/-- What is below a directory is listed once. -/
theorem nodup_below (ht : t.Rooted) (dir : Path) (place : Place) : (t.below dir place).Nodup := by
  rw [below_eq]
  refine ht.distinct.filterMap fun q q' p hp hp' => ?_
  obtain ⟨⟨⟨rest, rfl⟩, _⟩, heq⟩ := Option.ite_none_right_eq_some.mp hp
  obtain ⟨⟨⟨rest', rfl⟩, _⟩, heq'⟩ := Option.ite_none_right_eq_some.mp hp'
  rw [← heq'] at heq
  have hrest : rest = rest' := by simpa using heq
  rw [hrest]

/-- Below a directory a path that is not refused leads to the place that its names say. -/
theorem find_of_refusal (ht : t.Rooted) (hdir : t.find dir = .ok place) {rest : List String}
    (hrest : rest ≠ []) (hmem : place ++ rest ∈ t.places)
    (hrefusal : t.refusal? { dir with names := dir.names ++ rest } = none) :
    t.find { dir with names := dir.names ++ rest } = .ok (place ++ rest) := by
  have hfind := find_below_eq ht hdir hrest hmem
  unfold refusal? isFile hasEntry at hrefusal
  rw [hfind] at hrefusal ⊢
  split_ifs at hrefusal ⊢
  rfl

/-- Below a directory a path that is not refused leads to a file if there is one at its place. -/
theorem isFile_below_iff (ht : t.Rooted) (hdir : t.find dir = .ok place) {rest : List String}
    (hrest : rest ≠ []) (hmem : place ++ rest ∈ t.places)
    (hrefusal : t.refusal? { dir with names := dir.names ++ rest } = none) :
    t.isFile { dir with names := dir.names ++ rest } = .ok true ↔
      ∃ content, t.entry? (place ++ rest) = some (.file content) := by
  rw [isFile, hasEntry, find_of_refusal ht hdir hrest hmem hrefusal]
  cases hentry : t.entry? (place ++ rest) with
  | none => simp [hentry]
  | some entry => cases entry <;> simp [hentry]

/-- What is below a directory is listed in a strict order. -/
theorem pairwise_sort_below (ht : t.Rooted) (dir : Path) (place : Place) :
    (Path.sort (t.below dir place)).Pairwise fun p q => p.pieces < q.pieces := by
  have hdistinct : (Path.sort (t.below dir place)).Nodup :=
    (List.mergeSort_perm _ _).nodup_iff.mpr (nodup_below ht dir place)
  refine List.Pairwise.imp_of_mem ?_ ((Path.pairwise_sort _).and hdistinct)
  rintro p q hp hq ⟨hle, hne⟩
  obtain ⟨_, _, _, rfl⟩ := mem_below_iff.mp (List.mem_mergeSort.mp hp)
  obtain ⟨_, _, _, rfl⟩ := mem_below_iff.mp (List.mem_mergeSort.mp hq)
  exact Path.pieces_lt_of_le rfl hle hne

end FileTree

/-! ## The files that are selected -/

namespace ReferenceIndex

open FileTree

variable {x : ReferenceIndex} {t : FileTree} {place : Place}

/-- If each path below a place can be looked up, they are listed, be it a directory or a file. -/
theorem candidates_of_listed (ht : t.Rooted) (hroot : t.find x.root = .ok place)
    (hlisted : ∀ p ∈ t.below x.root place, t.refusal? p = none) :
    x.candidates t = .ok (Path.sort (t.below x.root place)) := by
  obtain ⟨entry, hentry⟩ := Option.isSome_iff_exists.mp (ht.isSome_of_find hroot)
  cases entry with
  | directory =>
    refine candidates_eq ?_ hroot (List.findSome?_eq_none_iff.mpr fun p hp => ?_)
    · rw [isDirectory, hasEntry, hroot]
      simp [hentry]
    · obtain ⟨rest, hrest, hdirectory, rfl⟩ := (mem_directoriesBelow_iff ht).mp hp
      refine hlisted _ (mem_below_iff.mpr ⟨rest, hrest, ?_, rfl⟩)
      exact (mem_places_iff (by simp [hrest])).mpr (by rw [hdirectory, Option.isSome_some])
  | file content =>
    have hfile : t.isDirectory x.root = .ok false := by
      rw [isDirectory, hasEntry, hroot]
      simp [hentry]
    have hnothing : t.below x.root place = [] := by
      refine List.eq_nil_iff_forall_not_mem.mpr fun p hp => ?_
      obtain ⟨rest, hrest, hmem, rfl⟩ := mem_below_iff.mp hp
      obtain ⟨n, names, rfl⟩ := List.exists_cons_of_ne_nil hrest
      have habove := ht.above ((mem_places_iff (by simp)).mp hmem)
      rw [hentry] at habove
      cases habove
    rw [candidates, hfile, hnothing, Path.sort, List.mergeSort_nil]

/-- What is selected below the root, by the names on the way from there. -/
theorem selects_below_iff (ht : t.Rooted) (hroot : t.find x.root = .ok place)
    {rest : List String} (hrest : rest ≠ []) (hmem : place ++ rest ∈ t.places)
    (hrefusal : t.refusal? { x.root with names := x.root.names ++ rest } = none) :
    x.selects t { x.root with names := x.root.names ++ rest } = true ↔
      (∃ content, t.entry? (place ++ rest) = some (.file content)) ∧
        Path.isIgnored ⟨.workingDirectory, rest⟩ x.ignorePatterns = false ∧
        ∃ extension ∈ x.extensions,
          Path.hasExtension { x.root with names := x.root.names ++ rest } extension = true := by
  have hrelative : ({ x.root with names := x.root.names ++ rest } : Path).below? x.root
      = some ⟨.workingDirectory, rest⟩ := by
    simp [Path.below?]
  rw [selects_iff, isFile_below_iff ht hroot hrest hmem hrefusal, hrelative]
  rfl

/--
**The selected paths are those of the monitored files that are not ignored**, if each path below the
root can be looked up.
-/
theorem mem_selected_iff (ht : t.Rooted) (hroot : t.find x.root = .ok place)
    (hlisted : ∀ p ∈ t.below x.root place, t.refusal? p = none) {p : Path} :
    p ∈ (Path.sort (t.below x.root place)).filter (x.selects t) ↔
      ∃ rest content, rest ≠ [] ∧ t.entry? (place ++ rest) = some (.file content) ∧
        p = { x.root with names := x.root.names ++ rest } ∧
        Path.isIgnored ⟨.workingDirectory, rest⟩ x.ignorePatterns = false ∧
        ∃ extension ∈ x.extensions, p.hasExtension extension = true := by
  rw [List.mem_filter, Path.sort, List.mem_mergeSort]
  constructor
  · rintro ⟨hp, hselects⟩
    obtain ⟨rest, hrest, hmem, rfl⟩ := mem_below_iff.mp hp
    obtain ⟨⟨content, hentry⟩, hunignored, hextension⟩ :=
      (selects_below_iff ht hroot hrest hmem (hlisted _ hp)).mp hselects
    exact ⟨rest, content, hrest, hentry, rfl, hunignored, hextension⟩
  · rintro ⟨rest, content, hrest, hentry, rfl, hunignored, hextension⟩
    have hmem : place ++ rest ∈ t.places :=
      (mem_places_iff (by simp [hrest])).mpr (by rw [hentry, Option.isSome_some])
    have hp : { x.root with names := x.root.names ++ rest } ∈ t.below x.root place :=
      mem_below_iff.mpr ⟨rest, hrest, hmem, rfl⟩
    exact ⟨hp, (selects_below_iff ht hroot hrest hmem (hlisted _ hp)).mpr
      ⟨⟨content, hentry⟩, hunignored, hextension⟩⟩

end ReferenceIndex

namespace Engine

open FileTree

variable {emit : Event → Engine → Engine} {s s' : Engine} {x : ReferenceIndex}
  {t t' : FileTree} {place : Place}

/-! ## Going through a list of paths -/

/--
**To go through what was below the root processes what was selected in the beginning.** The
induction is along the list; the tree `t'` in which the turn of a path comes has grown from `t`.
-/
theorem renderSelected_snapshot (ht : t.Rooted) (hroot : t.find x.root = .ok place)
    (ps : List Path) (hbelow : ∀ p ∈ ps, p ∈ t.below x.root place)
    (hstops : ∀ p ∈ ps, s.stopsAt? x p t = none) (ht' : t'.Rooted) (hgrows : Grows t t') :
    ∃ results, (s.renderSelected x ps t').2 = .ok results ∧
      results.map ProcessResult.path = ps.filter (x.selects t) := by
  induction ps generalizing t' with
  | nil => exact ⟨[], rfl, rfl⟩
  | cons p ps ih =>
    have hbelow' := fun q hq => hbelow q (List.mem_cons_of_mem _ hq)
    have hstops' := fun q hq => hstops q (List.mem_cons_of_mem _ hq)
    -- the path was below the root in `t`, so what it leads to is what it led to then
    have hfile := isFile_of_below ht ht' hgrows hroot (hbelow p List.mem_cons_self)
    have hgoes : s.stopsAt? x p t' = none :=
      (stopsAt_of_isFile hfile).trans (hstops p List.mem_cons_self)
    have hselects : x.selects t' p = x.selects t p := ReferenceIndex.selects_of_isFile hfile
    cases hselected : x.selects t p with
    | false =>
      rw [(renderSelected_of_passes ps hgoes (hselects.trans hselected)).1,
        List.filter_cons_of_neg (by simp [hselected])]
      exact ih hbelow' hstops' ht' hgrows
    | true =>
      have hreceives := receives_render s p ht'
      obtain ⟨results, hresults, hpaths⟩ :=
        ih hbelow' hstops' hreceives.rooted (hgrows.trans hreceives.grows)
      rw [(renderSelected_of_selects ps hgoes (hselects.trans hselected)).1, hresults,
        List.filter_cons_of_pos hselected]
      exact ⟨_, rfl, by rw [List.map_cons, path_render, hpaths]⟩

/-- All files are those that are selected in the beginning. -/
theorem renderAll_snapshot (ht : t.Rooted) (hextensions : s.faults.missingExtension = none)
    (hroot : t.find x.root = .ok place)
    (hlisted : ∀ p ∈ t.below x.root place, t.refusal? p = none) :
    ∃ results, (s.renderAll x t).2 = .ok results ∧
      results.map ProcessResult.path
        = (Path.sort (t.below x.root place)).filter (x.selects t) := by
  have hstops : ∀ p ∈ Path.sort (t.below x.root place), s.stopsAt? x p t = none := fun p hp =>
    stopsAt_eq_none_iff.mpr ⟨hlisted p (List.mem_mergeSort.mp hp), by
      simp [meetsMissingExtension, hextensions]⟩
  rw [renderAll, ReferenceIndex.candidates_of_listed ht hroot hlisted]
  exact renderSelected_snapshot ht hroot (Path.sort (t.below x.root place))
    (fun p hp => List.mem_mergeSort.mp hp) hstops ht (Grows.refl t)

/-- One event tells of each result, in their order. -/
theorem accounts_processSelected (hemit : Passive emit) (ps : List Path)
    {before results : List ProcessResult} (h : Accounts s before s')
    (hresults : (processSelected emit x ps s').2 = .ok results) :
    Accounts s (before ++ results) (processSelected emit x ps s').1 := by
  induction ps generalizing s' before results with
  | nil =>
    cases hresults
    rwa [List.append_nil]
  | cons p ps ih =>
    rw [processSelected] at hresults ⊢
    cases hrefusal : s'.tree.refusal? p with
    | some e => simp [hrefusal] at hresults
    | none =>
      rw [hrefusal] at hresults
      dsimp only at hresults ⊢
      by_cases hmissing : s'.meetsMissingExtension x p = true
      · simp [hmissing] at hresults
      · rw [if_neg hmissing] at hresults ⊢
        by_cases hselected : x.selects s'.tree p = true
        · rw [if_pos hselected] at hresults ⊢
          have hfirst := (accounts_processAndReport hemit h p).1
          dsimp only at hresults ⊢
          cases hrest : (processSelected emit x ps (processAndReport emit p s').1).2 with
          | error e => simp [hrest, Except.map] at hresults
          | ok rest =>
            rw [hrest] at hresults
            cases hresults
            have hall := ih hfirst hrest
            rwa [List.append_assoc] at hall
        · rw [if_neg hselected] at hresults ⊢
          exact ih h hresults

/-! ## All files -/

/-- To determine the directory tells of nothing that became of files. -/
theorem accounts_referenceIndex (hemit : Passive emit) (hquiet : Quiet s.bus) :
    Accounts s [] (referenceIndex emit s).1 :=
  (working_accounts hemit s []).toSteady.currentMonitorPath
    (fun _ h => ⟨h.quiet, h.settings, h.outcomes⟩) (accounts_refl hquiet)

/-- The results of all files are told of, one event each. -/
theorem accounts_processAll (hemit : Passive emit) (hquiet : Quiet s.bus)
    {results : List ProcessResult} (hresults : (processAll emit s).2 = .ok results) :
    Accounts s results (processAll emit s).1 := by
  have hindex := accounts_referenceIndex hemit hquiet
  unfold processAll at hresults ⊢
  dsimp only at hresults ⊢
  cases hcandidates : (referenceIndex emit s).2.candidates (referenceIndex emit s).1.tree with
  | error e => simp [hcandidates] at hresults
  | ok candidates =>
    rw [hcandidates] at hresults
    exact accounts_processSelected hemit candidates hindex hresults

/--
**To process all files processes those that were there when it began.** The listeners of an engine
do not use it, its root exists, and no path below the root is too long. It gives one result for each
file that is below the root in the beginning, is not ignored and has a monitored extension, in the
order of their paths, and no other results. This is so whatever the files write, be it below the
root and with a monitored extension. Of the events that are published, one tells of each result, in
the same order.
-/
theorem processAll_snapshot (depth : Nat) (hquiet : Quiet s.bus) (ht : s.tree.Rooted)
    (hextensions : s.faults.missingExtension = none)
    (hroot : s.tree.find (referenceIndex (publish depth) s).2.root = .ok place)
    (hlisted : ∀ p ∈ s.tree.below (referenceIndex (publish depth) s).2.root place,
      s.tree.refusal? p = none) :
    let root := (referenceIndex (publish depth) s).2.root
    ∃ results, (processAll (publish depth) s).2 = .ok results ∧
      (results.map ProcessResult.path).Pairwise (fun p q => p.pieces < q.pieces) ∧
      (∀ p, p ∈ results.map ProcessResult.path ↔ ∃ rest content, rest ≠ [] ∧
        s.tree.entry? (place ++ rest) = some (.file content) ∧
        p = { root with names := root.names ++ rest } ∧
        Path.isIgnored ⟨.workingDirectory, rest⟩ s.ignorePatterns = false ∧
        ∃ extension ∈ s.settings.extensions, p.hasExtension extension = true) ∧
      ∃ news, (processAll (publish depth) s).1.published = s.published ++ news ∧
        news.filter Event.isOutcome = results.map ProcessResult.event := by
  intro root
  have hemit := passive_publish depth
  have hasked := carries_currentMonitorPath hemit hquiet
  have hindexed : (referenceIndex (publish depth) s).2
      = ⟨root, s.settings.extensions, s.ignorePatterns⟩ := by
    rw [← hasked.settings, ← hasked.ignorePatterns]
    rfl
  obtain ⟨_, hrendered⟩ := carries_processAll hemit hquiet
  rw [hindexed] at hrendered hroot hlisted
  obtain ⟨results, hresults, hpaths⟩ := renderAll_snapshot ht hextensions hroot hlisted
  have hall : (processAll (publish depth) s).2 = .ok results := hrendered.trans hresults
  refine ⟨results, hall, ?_, fun p => ?_, (accounts_processAll hemit hquiet hall).outcomes⟩
  · rw [hpaths]
    exact (pairwise_sort_below ht root place).filter _
  · rw [hpaths]
    exact ReferenceIndex.mem_selected_iff ht hroot hlisted

/-! ## An engine that writes among its sources -/

/-- Two texts in a directory. -/
def prolificTree : FileTree :=
  ⟨[(["w"], .directory), (["w", "a.t"], .file "A".toUTF8), (["w", "b.t"], .file "B".toUTF8)], ["w"]⟩

/-- An engine whose outputs are below its directory, and have the extension of its sources. -/
def prolificEngine : Engine :=
  { obstructedEngine with
    tree := prolificTree
    settings := { obstructedEngine.settings with outputExtension := ".x.t" } }

/-- The result of a text of that engine. -/
def prolificResult (name output : String) : ProcessResult :=
  .succeeded (exampleFile name) [exampleFile output] false

/-- That tree when the first text has been written. -/
def prolificMidway : FileTree :=
  prolificTree.put ["w", "a.x.t"] (.file "A".toUTF8)

/-- That tree when both texts have been written. -/
def prolificFinal : FileTree :=
  prolificMidway.put ["w", "b.x.t"] (.file "B".toUTF8)

theorem rooted_prolificTree : prolificTree.Rooted :=
  rooted_of_entries (by decide) (by decide) (by decide) (by decide)

/-- Each text is written beside itself. -/
theorem render_prolific :
    prolificEngine.render (exampleFile "a.t") prolificTree
        = (prolificMidway, [exampleFile "a.x.t"], prolificResult "a.t" "a.x.t") ∧
      prolificEngine.render (exampleFile "b.t") prolificMidway
        = (prolificFinal, [exampleFile "b.x.t"], prolificResult "b.t" "b.x.t") := by
  have hread : prolificTree.readText (exampleFile "a.t") = .ok ['A'] ∧
      prolificMidway.readText (exampleFile "b.t") = .ok ['B'] := by
    decide +kernel
  have hfirst : expand prolificTree (exampleFile "a.t") ['A'] = .ok ⟨['A'], [], false, []⟩ :=
    @Expansion.run_eq_of_runWithin _ _ _ _ 1 _ (by decide +kernel)
  have hsecond : expand prolificMidway (exampleFile "b.t") ['B'] = .ok ⟨['B'], [], false, []⟩ :=
    @Expansion.run_eq_of_runWithin _ _ _ _ 1 _ (by decide +kernel)
  have hplan : prolificEngine.plan (exampleFile "a.t") prolificTree
      = .writing ['A'] [exampleFile "a.x.t"] :=
    plan_of_expand rfl rfl hread.1 hfirst (congrArg Except.ok (by decide +kernel)) rfl
  have hplan' : prolificEngine.plan (exampleFile "b.t") prolificMidway
      = .writing ['B'] [exampleFile "b.x.t"] :=
    plan_of_expand rfl rfl hread.2 hsecond (congrArg Except.ok (by decide +kernel)) rfl
  rw [render, hplan, render, hplan']
  constructor <;> decide +kernel

/-- The list of what is there in the beginning is gone through to its end. -/
theorem renderAll_prolific : prolificEngine.renderAll obstructedIndex prolificTree
    = (prolificFinal, .ok [prolificResult "a.t" "a.x.t", prolificResult "b.t" "b.x.t"]) := by
  have hsort : Path.sort (prolificTree.below obstructedIndex.root ["w"])
      = [exampleFile "a.t", exampleFile "b.t"] :=
    @Path.sort_eq_of_perm _ _ .slash (by decide) (by decide +kernel) (by decide +kernel)
  have hcandidates := @ReferenceIndex.candidates_eq obstructedIndex prolificTree ["w"]
    (by decide +kernel) (by decide +kernel) (by decide +kernel)
  have hturns : prolificTree.refusal? (exampleFile "a.t") = none ∧
      prolificMidway.refusal? (exampleFile "b.t") = none ∧
      obstructedIndex.selects prolificTree (exampleFile "a.t") = true ∧
      obstructedIndex.selects prolificMidway (exampleFile "b.t") = true := by
    decide +kernel
  obtain ⟨hlooked, hlooked', hselects, hselects'⟩ := hturns
  have hfirst := (renderSelected_of_selects (s := prolificEngine) [exampleFile "b.t"]
    (stopsAt_eq_none_iff.mpr ⟨hlooked, rfl⟩) hselects).1
  have hsecond := (renderSelected_of_selects (s := prolificEngine) []
    (stopsAt_eq_none_iff.mpr ⟨hlooked', rfl⟩) hselects').1
  rw [render_prolific.1] at hfirst
  rw [render_prolific.2] at hsecond
  rw [renderAll, hcandidates, hsort]
  dsimp only at hfirst hsecond ⊢
  rw [hfirst, hsecond]
  rfl

/--
That engine leaves files that it monitors below its directory, but it tells only of the two texts
that were there when it began.
-/
theorem prolificEngine_snapshot :
    let s := (processAll (publish 1) prolificEngine).1
    (∀ name ∈ ["a.x.t", "b.x.t"], obstructedIndex.selects s.tree (exampleFile name) = true) ∧
      ∃ news, s.published = prolificEngine.published ++ news ∧ news.filter Event.isOutcome
        = [(prolificResult "a.t" "a.x.t").event, (prolificResult "b.t" "b.x.t").event] := by
  intro s
  have hquiet : Quiet prolificEngine.bus := fun _ h => nomatch h
  obtain ⟨hcarries, hrendered⟩ := carries_processAll (passive_publish 1) hquiet
  have hindex : (referenceIndex (publish 1) prolificEngine).2 = obstructedIndex := rfl
  have htree : prolificEngine.tree = prolificTree := rfl
  have hroot : prolificTree.find obstructedIndex.root = .ok ["w"] := by decide +kernel
  obtain ⟨results, hresults, -, -, news, hnews, houtcomes⟩ :=
    processAll_snapshot 1 hquiet rooted_prolificTree rfl hroot (by decide +kernel)
  rw [hindex, htree, renderAll_prolific] at hcarries hrendered
  obtain rfl := Except.ok.inj (hresults.symm.trans hrendered)
  refine ⟨?_, news, hnews, houtcomes⟩
  rw [show s.tree = prolificFinal from hcarries.tree]
  decide +kernel

/-! ## A path that is too long -/

theorem rooted_deepDirectory : deepDirectory.Rooted :=
  rooted_of_entries (by decide +kernel) (by decide +kernel) (by decide +kernel)
    (by decide +kernel)

/--
**A path that is too long keeps all results away.** There is a monitored file below the directory of
an engine without listeners, but to process all files fails.
-/
theorem processAll_refused :
    let s := curiousEngineDeep
    let x := (referenceIndex (publish 1) s).2
    Quiet s.bus ∧ s.tree.Rooted ∧ s.faults.missingExtension = none ∧
      s.tree.find x.root = .ok ["w"] ∧
      (∃ rest content, s.tree.entry? (["w"] ++ rest) = some (.file content) ∧
        Path.isIgnored ⟨.workingDirectory, rest⟩ x.ignorePatterns = false ∧
        ∃ extension ∈ x.extensions,
          Path.hasExtension { x.root with names := x.root.names ++ rest } extension = true) ∧
      ∃ e, (processAll (publish 1) s).2 = .error e := by
  have hnobody : curiousEngineDeep.bus.subscriptions.isEmpty = true := by decide +kernel
  refine ⟨fun subscription hmem => ?_, rooted_deepDirectory, by decide +kernel, by decide +kernel,
    ⟨deepFile.names.tail, ⟨#[255]⟩, by decide +kernel, by decide +kernel, ".t",
      by decide +kernel, by decide +kernel⟩, curiousEngineDeep_refuses.2⟩
  rw [List.isEmpty_iff.mp hnobody] at hmem
  cases hmem

end Engine

end LiveTemplates
