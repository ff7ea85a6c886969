import LiveTemplates.Proofs.Engine.Lifecycle
import LiveTemplates.Proofs.Engine.Quiet
import LiveTemplates.Proofs.Path.Reading
import LiveTemplates.Proofs.References.Listing

/-!
# Every file is reported once

Whatever goes wrong while a file is processed, one event tells what became of it, and it carries the
result that is returned. This event is an outcome; all other events on the way are messages. So when
a change is processed, the outcomes are those of the changed file and of its dependents, one each and
in that order (`outcomes_processChanged`).

Listeners may fail as they like, as long as they do not use the engine.
-/

namespace LiveTemplates

/-- Whether an event tells what became of a file. -/
def Event.isOutcome : Event → Bool
  | .processSucceeded _ | .processFailed _ => true
  | _ => false

/-- The event that tells of a result. -/
def ProcessResult.event (r : ProcessResult) : Event :=
  if r.success then .processSucceeded r else .processFailed r

theorem ProcessResult.isOutcome_event (r : ProcessResult) : r.event.isOutcome = true := by
  unfold event
  split <;> rfl

namespace Engine

variable {emit : Event → Engine → Engine} {s s' : Engine} {p : Path}
  {results : List ProcessResult}

/-! ## Accounts -/

/-- The outcomes that were published since a state tell of some results, in that order. -/
structure Accounts (s : Engine) (results : List ProcessResult) (s' : Engine) : Prop where
  quiet : Quiet s'.bus
  settings : s'.settings = s.settings
  outcomes : ∃ news, s'.published = s.published ++ news ∧
    news.filter Event.isOutcome = results.map ProcessResult.event

theorem accounts_refl (h : Quiet s.bus) : Accounts s [] s :=
  ⟨h, rfl, [], by simp, rfl⟩

/-- An event that is published when listeners are quiet is one more piece of news. -/
theorem exists_published (hemit : Passive emit) (h : Accounts s results s') (e : Event) :
    Quiet (emit e s').bus ∧ (emit e s').settings = s.settings ∧
      (emit e s').published = s'.published ++ [e] := by
  have hoverhears := hemit e s' h.quiet
  have hquiet : Quiet (emit e s').bus := Quiet.overhears (s := s'.note e) h.quiet hoverhears
  obtain ⟨_, _, _, _, heq, _⟩ := hoverhears
  rw [heq] at hquiet ⊢
  exact ⟨hquiet, h.settings, rfl⟩

theorem Accounts.beside (hemit : Passive emit) (h : Accounts s results s') {e : Event}
    (he : e.isOutcome = false) : Accounts s results (emit e s') := by
  obtain ⟨hquiet, hsettings, hpublished⟩ := exists_published hemit h e
  obtain ⟨news, hnews, hresults⟩ := h.outcomes
  refine ⟨hquiet, hsettings, news ++ [e], ?_, ?_⟩
  · rw [hpublished, hnews, List.append_assoc]
  · rw [List.filter_append, hresults, List.filter_cons_of_neg (by simp [he]), List.filter_nil,
      List.append_nil]

theorem Accounts.tell (hemit : Passive emit) (h : Accounts s results s') (r : ProcessResult) :
    Accounts s (results ++ [r]) (emit r.event s') := by
  obtain ⟨hquiet, hsettings, hpublished⟩ := exists_published hemit h r.event
  obtain ⟨news, hnews, hresults⟩ := h.outcomes
  refine ⟨hquiet, hsettings, news ++ [r.event], ?_, ?_⟩
  · rw [hpublished, hnews, List.append_assoc]
  · rw [List.filter_append, hresults, List.map_append,
      List.filter_cons_of_pos r.isOutcome_event, List.filter_nil]
    rfl

/-- To read, expand and write tells of nothing. -/
theorem working_accounts (hemit : Passive emit) (s : Engine) (results : List ProcessResult) :
    Working emit (Accounts s results) where
  logMessage _ _ _ h := h.beside hemit rfl
  log _ h := ⟨h.quiet, h.settings, h.outcomes⟩
  tree _ h := ⟨h.quiet, h.settings, h.outcomes⟩

/-! ## One file -/

/-- The result of a file is about the file. -/
theorem path_of_processFile {r : ProcessResult} (h : (processFile emit p s).2 = .ok (some r)) :
    r.path = p := by
  unfold processFile at h
  split at h
  · cases h
  · split at h
    · cases h
    · split at h
      · cases h
      · cases h
        rfl
      · split at h
        · cases h
        · dsimp only at h
          split at h
          · generalize writeOutputs emit p _ _ _ = w at h
            obtain ⟨_, _ | _⟩ := w
            · cases h
            · cases h
              rfl
          · cases h
            rfl

theorem accounts_reportBreakdown (hemit : Passive emit) (h : Accounts s results s')
    (text : String) :
    Accounts s (results ++ [(reportBreakdown emit p text s').2]) (reportBreakdown emit p text s').1 ∧
      (reportBreakdown emit p text s').2.path = p := by
  refine ⟨?_, rfl⟩
  have htold := h.tell hemit (.failed p .unexpected text)
  exact (working_accounts hemit _ _).message _ _ _ htold

/-- **Whatever goes wrong with a file, it is told of once**, with the result that is returned. -/
theorem accounts_processAndReport (hemit : Passive emit) (h : Accounts s results s') (p : Path) :
    Accounts s (results ++ [(processAndReport emit p s').2]) (processAndReport emit p s').1 ∧
      (processAndReport emit p s').2.path = p := by
  have hworking := working_accounts hemit s results
  have hprocessed := hworking.processFile (p := p)
    (hworking.message s!"Processing file {p}..." "" .information h)
  unfold processAndReport
  dsimp only
  split
  · next heq =>
    rw [heq] at hprocessed
    exact accounts_reportBreakdown hemit hprocessed _
  · next heq =>
    rw [heq] at hprocessed
    exact accounts_reportBreakdown hemit hprocessed _
  · next s₁ r heq =>
    rw [heq] at hprocessed
    have hpath : r.path = p := path_of_processFile (by rw [heq])
    have htold := hprocessed.tell hemit r
    unfold ProcessResult.event at htold
    split
    · next hsuccess =>
      rw [if_pos hsuccess] at htold
      exact ⟨(working_accounts hemit _ _).message _ _ _ htold, hpath⟩
    · next hfailure =>
      rw [if_neg hfailure] at htold
      exact ⟨(working_accounts hemit _ _).message _ _ _ htold, hpath⟩

/-! ## A changed file and those that depend on it -/

/-- Processes files one after the other, each as it is when its turn comes. -/
def reportEach (emit : Event → Engine → Engine) :
    List Path → Engine → Engine × List ProcessResult
  | [], s => (s, [])
  | p :: rest, s =>
    let (s, r) := processAndReport emit p s
    let (s, rs) := reportEach emit rest s
    (s, r :: rs)

theorem processEach_eq (ps : List Path) (s : Engine) :
    processEach emit ps s = (reportEach emit ps s).1 := by
  induction ps generalizing s with
  | nil => rfl
  | cons p rest ih => exact ih _

/-- Each of some files is told of once, in their order. -/
theorem accounts_reportEach (hemit : Passive emit) (ps : List Path) (h : Accounts s results s') :
    Accounts s (results ++ (reportEach emit ps s').2) (reportEach emit ps s').1 ∧
      (reportEach emit ps s').2.map ProcessResult.path = ps := by
  induction ps generalizing s' results with
  | nil => exact ⟨by rwa [reportEach, List.append_nil], rfl⟩
  | cons p rest ih =>
    obtain ⟨hfirst, hpath⟩ := accounts_processAndReport hemit h p
    obtain ⟨hrest, hpaths⟩ := ih hfirst
    rw [reportEach]
    refine ⟨?_, ?_⟩
    · rwa [List.append_assoc] at hrest
    · rw [List.map_cons, hpath, hpaths]

/--
The files to which a change is passed on once the changed file was processed: those that include it,
if the settings say so and they can be found.
-/
def cascade (emit : Event → Engine → Engine) (p : Path) (s : Engine) : List Path :=
  if s.settings.cascadeDependents then ((findDependents emit p.toString s).2.toOption).getD []
  else []

theorem accounts_findDependents (hemit : Passive emit) (target : String)
    (h : Accounts s results s') : Accounts s results (findDependents emit target s').1 := by
  have hsteady := (working_accounts hemit s results).toSteady
  exact hsteady.log _ (hsteady.currentMonitorPath
    (fun _ h => ⟨h.quiet, h.settings, h.outcomes⟩) h)

/-- After the changed file was processed, those to which the change is passed on are. -/
theorem exists_reportEach_processChanged (hemit : Passive emit)
    (hquiet : Quiet (processAndReport emit p s).1.bus)
    (h : Accounts s' results (processAndReport emit p s).1) :
    ∃ s₁, Remarks (processAndReport emit p s).1 s₁ ∧ Accounts s' results s₁ ∧
      processChanged emit p s
        = ((reportEach emit (cascade emit p (processAndReport emit p s).1) s₁).1,
          (processAndReport emit p s).2) := by
  have hfound := accounts_findDependents hemit p.toString h
  have hsteady := steady_remarks hemit hquiet
  have hremarks : Remarks (processAndReport emit p s).1
      (findDependents emit p.toString (processAndReport emit p s).1).1 :=
    hsteady.log _ (remarks_currentMonitorPath hemit hquiet)
  unfold processChanged cascade
  dsimp only
  split
  · split
    · next heq =>
      rw [heq] at hfound hremarks ⊢
      exact ⟨_, hremarks, hfound, by rw [processEach_eq]; rfl⟩
    · next heq =>
      rw [heq] at hfound hremarks ⊢
      exact ⟨_, hsteady.message _ _ _ hremarks,
        (working_accounts hemit s' results).message _ _ _ hfound, rfl⟩
  · exact ⟨_, remarks_refl _, h, rfl⟩

/-- The files to which a change is passed on are in order, each once, without the changed file. -/
theorem listed_cascade (name : String) (s : Engine) :
    ((cascade emit (.ofString name) s).Pairwise fun p q => Path.le p q = true) ∧
      (cascade emit (.ofString name) s).Nodup ∧ .ofString name ∉ cascade emit (.ofString name) s := by
  have hnone : (([] : List Path).Pairwise fun p q => Path.le p q = true) ∧ ([] : List Path).Nodup ∧
      .ofString name ∉ ([] : List Path) := ⟨.nil, .nil, List.not_mem_nil⟩
  unfold cascade
  split
  · cases hfound : (findDependents emit (Path.ofString name).toString s).2 with
    | error e => exact hnone
    | ok ps =>
      unfold findDependents at hfound
      dsimp only at hfound
      generalize referenceIndex emit s = r at hfound
      obtain ⟨s₁, x⟩ := r
      dsimp only at hfound
      cases hlisted : (x.findDependents s₁.tree s₁.faults.includes
          s₁.settings.transitiveDependents (Path.ofString name).toString).1 with
      | error e =>
        rw [hlisted] at hfound
        cases e <;> cases hfound
      | ok ps' =>
        rw [hlisted] at hfound
        cases hfound
        obtain ⟨hsorted, hnodup, hkeys⟩ := ReferenceIndex.listed_findDependents hlisted
        refine ⟨hsorted, hnodup, fun hmem => hkeys _ hmem ?_⟩
        rw [Path.ofString_toString (Path.isSpelled_ofString name)]
  · exact hnone

/--
**A change is reported in full, whatever goes wrong.** To process a changed file returns a result for
it. Of the events that are published, the outcomes tell of this result and then, if changes are
passed on, of one result for each dependent that is found once the file was processed: in the order
of paths, each of them once, and not of the changed file again. Each of these files is processed as
it is when its turn comes, whatever became of those before it.
-/
theorem outcomes_processChanged (depth : Nat) (name : String) (h : Quiet s.bus) :
    let p := Path.ofString name
    let first := processAndReport (publish depth) p s
    let last := processChanged (publish depth) p s
    let dependents := cascade (publish depth) p first.1
    last.2 = first.2 ∧ last.2.path = p ∧
      (∃ news s₁ results, last.1.published = s.published ++ news ∧
        news.filter Event.isOutcome = (last.2 :: results).map ProcessResult.event ∧
        results.map ProcessResult.path = dependents ∧
        Remarks first.1 s₁ ∧ reportEach (publish depth) dependents s₁ = (last.1, results)) ∧
      (dependents.Pairwise fun p q => Path.le p q = true) ∧ dependents.Nodup ∧ p ∉ dependents := by
  intro p first last dependents
  have hemit := passive_publish depth
  obtain ⟨hfirst, hpath⟩ := accounts_processAndReport hemit (accounts_refl h) p
  obtain ⟨s₁, hremarks, hsearched, hlast⟩ :=
    exists_reportEach_processChanged hemit hfirst.quiet hfirst
  obtain ⟨hall, hpaths⟩ := accounts_reportEach hemit dependents hsearched
  have hresult : last.2 = first.2 := by
    show (processChanged (publish depth) p s).2 = first.2
    rw [hlast]
  have hstate : last.1 = (reportEach (publish depth) dependents s₁).1 := by
    show (processChanged (publish depth) p s).1 = _
    rw [hlast]
  refine ⟨hresult, hresult ▸ hpath, ?_, listed_cascade name first.1⟩
  obtain ⟨news, hnews, houtcomes⟩ := hall.outcomes
  refine ⟨news, s₁, (reportEach (publish depth) dependents s₁).2, ?_, ?_, hpaths, hremarks, ?_⟩
  · rw [hstate, hnews]
  · rw [houtcomes, hresult]
    rfl
  · rw [hstate]

/-- An engine with a listener that fails whatever it hears of. -/
def grumblingEngine : Engine :=
  (smallEngine [".t"] Faults.none).subscribe "a" none ⟨.fail, false⟩

/-- That engine reports a file that is not there, once. -/
theorem grumblingEngine_reports :
    let last := processChanged (publish 1) (.ofString "/w/a.t") grumblingEngine
    Quiet grumblingEngine.bus ∧ last.2.path = .ofString "/w/a.t" ∧ last.2.success = false ∧
      ∃ news, last.1.published = news ∧ news.filter Event.isOutcome = [.processFailed last.2] := by
  intro last
  have hquiet : Quiet grumblingEngine.bus := by
    intro subscription hmem
    obtain rfl := List.mem_singleton.mp hmem
    rfl
  obtain ⟨hresult, hpath, ⟨news, s₁, results, hnews, houtcomes, hpaths, _, _⟩, _, _, _⟩ :=
    outcomes_processChanged 1 "/w/a.t" hquiet
  have hfailed : last.2.success = false := by decide +kernel
  have hnone : results = [] := List.map_eq_nil_iff.mp (hpaths.trans (by decide +kernel))
  refine ⟨hquiet, hpath, hfailed, news, hnews, ?_⟩
  rw [houtcomes, hnone]
  show [ProcessResult.event last.2] = _
  rw [ProcessResult.event, hfailed, if_neg (by simp)]

end Engine

end LiveTemplates
