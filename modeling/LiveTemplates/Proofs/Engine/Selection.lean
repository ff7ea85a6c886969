import LiveTemplates.Proofs.Engine.Heeding
import LiveTemplates.Proofs.Engine.Reports

/-!
# Watched files and listed files

A running engine learns of files in two ways: its watchers hear of them, each for one extension, and
it can list its directory. Both ways select the same files (`selection_of_events`). What is heard is
pending with each watcher that heeds it until the delay is over; then each of them calls back once
(`exists_made_advance`). What is listed is filtered by the same tests on extension and ignore
patterns (`exists_results_processAll`).
-/

namespace LiveTemplates.Engine

open Relation

variable {emit : Event → Engine → Engine} {s s' : Engine} {depth : Nat} {p : Path}
  {K : EventBus Listener → Prop} {w : Watchers} {callbacks : List (Nat × Path)}

/-! ## Changes that settle -/

/-- Quiet listeners, some watchers and some callbacks. -/
structure Bystands (w : Watchers) (callbacks : List (Nat × Path)) (s : Engine) : Prop where
  quiet : Quiet s.bus
  watchers : s.watchers = w
  callbacks : s.callbacks = callbacks

/-- With quiet listeners, to process files is nothing to watchers. -/
theorem independent_bystands (hemit : Passive emit) (w : Watchers) (callbacks : List (Nat × Path)) :
    Independent emit (Bystands w callbacks) := by
  refine .of_publishes (fun e s hs => ?_) (fun _ hs => ⟨hs.quiet, hs.watchers, hs.callbacks⟩)
    (fun _ hs => ⟨hs.quiet, hs.watchers, hs.callbacks⟩)
    (fun _ hs => ⟨hs.quiet, hs.watchers, hs.callbacks⟩)
  have hoverhears := hemit e s hs.quiet
  have hquiet : Quiet (emit e s).bus := Quiet.overhears (s := s.note e) hs.quiet hoverhears
  obtain ⟨_, _, _, _, heq, _⟩ := hoverhears
  rw [heq] at hquiet ⊢
  exact ⟨hquiet, hs.watchers, hs.callbacks⟩

/-- A timer runs: what was pending is called back for. -/
theorem Bystands.fire (hemit : Passive emit) (hs : Bystands w callbacks s) (e : Expiry) :
    Bystands { w with debouncers := (w.debouncers.expire e).1 }
      (callbacks ++ ((w.debouncers.expire e).2.1.map (Prod.mk e.owner)).toList)
      ((debounceHost emit).fire e s) := by
  obtain ⟨hquiet, rfl, rfl⟩ := hs
  unfold DebounceHost.fire
  rw [debouncers_debounceHost]
  split
  · next heq =>
    rw [heq]
    exact ⟨hquiet, rfl, by simp [update_debounceHost, withDebouncers, addEntries]⟩
  · next d q log heq =>
    rw [heq]
    have hnoted : Bystands { s.watchers with debouncers := d } (s.callbacks ++ [(e.owner, q)])
        ((((s.withDebouncers d).addEntries log)).noteCallback e.owner q) := ⟨hquiet, rfl, rfl⟩
    exact (independent_bystands hemit _ _).processChanged hnoted

/-- When no timer is still to run, no callback is due. -/
theorem exists_made_of_no_due (hs : Bystands w callbacks s) {limit : Int}
    (harmed : w.debouncers.Armed limit) (hnone : w.debouncers.clock.dueCount limit = 0) :
    ∃ made, s.callbacks = callbacks ++ made ∧
      ∀ i q, made.count (i, q) = (w.debouncers.pendingPaths i).count q := by
  refine ⟨[], by rw [hs.callbacks, List.append_nil], fun i q => ?_⟩
  rw [harmed.pendingPaths_eq_nil hnone i]
  rfl

/-- **Whatever is pending settles** while time passes up to a limit, if timers are in time. -/
theorem exists_made_runDue (hemit : Passive emit) (limit : Int) (fuel : Nat)
    (hs : Bystands w callbacks s) (harmed : w.debouncers.Armed limit)
    (hfuel : w.debouncers.clock.dueCount limit ≤ fuel) :
    ∃ made, ((debounceHost emit).runDue limit fuel s).callbacks = callbacks ++ made ∧
      ∀ i q, made.count (i, q) = (w.debouncers.pendingPaths i).count q := by
  induction fuel generalizing s w callbacks with
  | zero => exact exists_made_of_no_due hs harmed (Nat.le_zero.mp hfuel)
  | succ fuel ih =>
    rw [DebounceHost.runDue, debouncers_debounceHost, hs.watchers]
    split
    · next hnext =>
      refine exists_made_of_no_due hs harmed (List.countP_eq_zero.mpr fun t ht => ?_)
      rw [Clock.not_isDue_of_nextDue? hnext ht]
      exact Bool.false_ne_true
    · next i t hnext =>
      obtain ⟨hget, hdue⟩ := Clock.isDue_of_nextDue? hnext
      have hcount := Clock.dueCount_beginTimer hget hdue
      generalize hd : ({ w.debouncers with clock := w.debouncers.clock.beginTimer i } : Debouncers)
        = d
      have hbegun : Bystands { w with debouncers := d } callbacks
          ((debounceHost emit).update s d []) := by
        refine ⟨hs.quiet, ?_, hs.callbacks⟩
        show { s.watchers with debouncers := d } = _
        rw [hs.watchers]
      have hclock : (d.expire t.action).1.clock = w.debouncers.clock.beginTimer i := by
        rw [Debouncers.clock_expire, ← hd]
      have hfuel' : (d.expire t.action).1.clock.dueCount limit ≤ fuel := by
        rw [hclock]
        omega
      obtain ⟨made, hmade, hcounts⟩ :=
        ih (hbegun.fire hemit t.action) (hd ▸ harmed.expire hget) hfuel'
      -- What is called back for now was pending before, and what is called back for later still is.
      refine ⟨_, by rw [hmade, List.append_assoc], fun j q => ?_⟩
      have hdistinct : ∀ x ∈ d.all, x.Distinct := fun x hx =>
        harmed.distinct x (by rw [← hd] at hx; exact hx)
      have hsame : d.pendingPaths j = w.debouncers.pendingPaths j := by rw [← hd]; rfl
      rw [List.count_append, hcounts, Debouncers.count_pendingPaths_expire hdistinct, hsame]

/-- When the delay is over, each pending change has been called back for. -/
theorem exists_made_advance (hemit : Passive emit) (hquiet : Quiet s.bus) (ms : Int) {fuel : Nat}
    (harmed : s.watchers.debouncers.Armed (s.watchers.debouncers.clock.now + 1000 * ms))
    (hfuel : s.watchers.debouncers.clock.timers.length ≤ fuel) :
    ∃ made, (advance emit fuel ms s).callbacks = s.callbacks ++ made ∧
      ∀ i q, made.count (i, q) = (s.watchers.debouncers.pendingPaths i).count q :=
  exists_made_runDue hemit _ fuel ⟨hquiet, rfl, rfl⟩ harmed
    (Nat.le_trans List.countP_le_length hfuel)

/-! ## Files that are listed -/

/-- A file that is processed without writing leaves everything but the record as it was. -/
theorem remarks_processAndReport (hemit : Passive emit) (hquiet : Quiet s.bus)
    (hwrites : s.settings.writeOutputs = false) (p : Path) :
    Remarks s (processAndReport emit p s).1 := by
  have hsteady := steady_remarks hemit hquiet
  have hfirst := hsteady.message s!"Processing file {p}..." "" .information (remarks_refl s)
  have htell : ∀ {s'} (e : Event) (title detail : String) (severity : Severity), Remarks s s' →
      Remarks s (message emit title detail severity (emit e s')) := fun e _ _ _ h =>
    hsteady.message _ _ _ (h.trans (hemit.remarks (hquiet.remarks h) e))
  unfold processAndReport
  dsimp only
  generalize message emit s!"Processing file {p}..." "" .information s = s₁ at hfirst
  have hwrites₁ : s₁.settings.writeOutputs = false := by
    obtain ⟨_, _, _, _, _, _, rfl, _⟩ := hfirst
    exact hwrites
  have hprocessed := hsteady.processFile_of_unwritten (p := p) hwrites₁ hfirst
  split
  · next heq =>
    rw [heq] at hprocessed
    exact htell _ _ _ _ hprocessed
  · next heq =>
    rw [heq] at hprocessed
    exact htell _ _ _ _ hprocessed
  · next heq =>
    rw [heq] at hprocessed
    split
    · exact htell _ _ _ _ hprocessed
    · exact htell _ _ _ _ hprocessed

/--
**The files among some paths that are processed** without writing are the monitored ones, unless a
path is refused.
-/
theorem processSelected_monitoredAmong (hemit : Passive emit) (index : ReferenceIndex)
    (ps : List Path) (hquiet : Quiet s.bus) (hwrites : s.settings.writeOutputs = false)
    (hextensions : s.faults.missingExtension = none) :
    (∀ e, (index.monitoredAmong s.tree ps).2 = some e →
      (processSelected emit index ps s).2 = .error (.file e)) ∧
    ((index.monitoredAmong s.tree ps).2 = none → ∃ results,
      (processSelected emit index ps s).2 = .ok results ∧
        results.map ProcessResult.path = (index.monitoredAmong s.tree ps).1) := by
  induction ps generalizing s with
  | nil => exact ⟨fun e he => (by cases he), fun _ => ⟨[], rfl, rfl⟩⟩
  | cons p ps ih =>
    unfold ReferenceIndex.monitoredAmong at ih ⊢
    rw [processSelected, List.findSome?_cons, List.takeWhile_cons]
    cases hrefusal : s.tree.refusal? p with
    | some e => exact ⟨fun e' he' => by cases he'; rfl, fun hnone => (by cases hnone)⟩
    | none =>
      dsimp only [Option.isNone_none]
      rw [if_pos rfl, if_neg (by simp [meetsMissingExtension, hextensions])]
      by_cases hselected : index.selects s.tree p = true
      · have hremarks := remarks_processAndReport hemit hquiet hwrites p
        have hpath := (accounts_processAndReport hemit (accounts_refl hquiet) p).2
        have hquiet' := hquiet.remarks hremarks
        obtain ⟨_, _, _, _, _, _, heq, _⟩ := hremarks
        rw [if_pos hselected, List.filter_cons_of_pos hselected]
        generalize processAndReport emit p s = r at heq hpath hquiet'
        obtain ⟨s₁, result⟩ := r
        dsimp only at heq hpath hquiet' ⊢
        have htree : s₁.tree = s.tree := by rw [heq]
        obtain ⟨hrefused, hlisted⟩ := ih (s := s₁) hquiet' (by rw [heq]; exact hwrites)
          (by rw [heq]; exact hextensions)
        rw [htree] at hrefused hlisted
        refine ⟨fun e he => by rw [hrefused e he]; rfl, fun hnone => ?_⟩
        obtain ⟨results, hresults, hpaths⟩ := hlisted hnone
        exact ⟨result :: results, by rw [hresults]; rfl, by rw [List.map_cons, hpath, hpaths]⟩
      · rw [if_neg hselected, List.filter_cons_of_neg hselected]
        exact ih hquiet hwrites hextensions

/-! ## Both ways -/

/-- A path is called back for by as many as call back for it once. -/
theorem count_map_snd {ws : List Nat} (hnodup : ws.Nodup) {made : List (Nat × Path)}
    {f : Nat → Bool} (hmade : ∀ i, made.count (i, p) = if i ∈ ws ∧ f i = true then 1 else 0) :
    (made.map Prod.snd).count p = ws.countP f := by
  -- The owners of the callbacks for the path are those of `ws` that call back for it.
  have howners : ∀ i, ((made.filter (·.2 == p)).map Prod.fst).count i = made.count (i, p) := by
    intro i
    rw [List.count, List.countP_map, List.countP_filter, List.count]
    refine List.countP_congr fun c _ => ?_
    obtain ⟨j, q⟩ := c
    simp
  have hperm : ((made.filter (·.2 == p)).map Prod.fst).Perm (ws.filter f) := by
    refine (List.perm_ext_iff_of_nodup ?_ (hnodup.filter _)).mpr fun i => ?_
    · refine List.nodup_iff_count_le_one.mpr fun i => ?_
      rw [howners, hmade]
      split
      · exact Nat.le_refl 1
      · exact Nat.zero_le 1
    · rw [← List.count_pos_iff, howners, hmade, List.mem_filter]
      split
      · next h => exact ⟨fun _ => h, fun _ => Nat.one_pos⟩
      · next h => exact ⟨fun h' => absurd h' (Nat.lt_irrefl 0), fun h' => absurd h' h⟩
  have hlength := hperm.length_eq
  rw [List.length_map, ← List.countP_eq_length_filter, ← List.countP_eq_length_filter] at hlength
  rw [List.count, List.countP_map, ← hlength]
  rfl

/-- The engine after some events of the tree. -/
def dispatchAll (es : List FileEvent) (s : Engine) : Engine :=
  es.foldl (fun s e => (dispatch e s).1) s

/-- Events of the tree are noticed, and nothing else happens. -/
theorem noticed_dispatchAll {es : List FileEvent} {ps qs : List Path} {ms : Int}
    (hevents : List.Forall₂ FileEvent.Announces es ps) (hlow : 0 ≤ ms) (hhigh : ms ≤ 2 ^ 32)
    (htidy : w.Tidy) (hwaits : ∀ i ∈ w.observing, w.gone? i = some false → w.Waits ms i)
    (h : Watchers.Noticed ms w qs s.watchers) :
    Watchers.Noticed ms w (qs ++ ps) (dispatchAll es s).watchers ∧
      (dispatchAll es s).callbacks = s.callbacks ∧ (dispatchAll es s).bus = s.bus := by
  induction hevents generalizing s qs with
  | nil => exact ⟨by rwa [List.append_nil], rfl, rfl⟩
  | @cons e p es ps he _ ih =>
    have hnoticed : Watchers.Noticed ms w (qs ++ [p]) (dispatch e s).1.watchers :=
      h.dispatch he hlow hhigh htidy hwaits
    obtain ⟨hrest, hcallbacks, hbus⟩ := ih hnoticed
    rw [List.append_assoc] at hrest
    exact ⟨hrest, hcallbacks, hbus⟩

/-- Whether an engine that watches a directory would monitor a path for an extension. -/
def Monitors (s : Engine) (root : Path) (extension : String) (p : Path) : Prop :=
  p.hasExtension extension = true ∧ ((p.below? root).getD p).isIgnored s.ignorePatterns = false

/--
Told of some paths, a running engine has called back for those that it would monitor when the delay
is over: the watcher of an extension once for each that it would monitor for it.
-/
theorem exists_made_of_events {ws : List Nat} {root : Path} (hwatches : Watches s ws root)
    (hemit : Passive emit) (hquiet : Quiet s.bus)
    (hidle : ∀ d ∈ s.watchers.debouncers.all, d.pending = [])
    (hlow : 0 ≤ s.settings.processDelayMs)
    (hhigh : s.settings.processDelayMs ≤ EngineSettings.maxDelayMs) {es : List FileEvent}
    {ps : List Path} (hevents : List.Forall₂ FileEvent.Announces es ps) {fuel : Nat}
    (hfuel : (dispatchAll es s).watchers.debouncers.clock.timers.length ≤ fuel) :
    ∃ made, (advance emit fuel s.settings.processDelayMs (dispatchAll es s)).callbacks
        = s.callbacks ++ made ∧
      (∀ i p, (i, p) ∈ made ↔ i ∈ ws ∧ s.Monitors root (s.watcherExtension i) p ∧ p ∈ ps) ∧
      ∀ c, made.count c ≤ 1 := by
  have hms : s.settings.processDelayMs ≤ 2 ^ 32 := by
    unfold EngineSettings.maxDelayMs at hhigh
    omega
  obtain ⟨hnoticed, hbefore, hbus⟩ := noticed_dispatchAll hevents hlow hms hwatches.tidy
    (fun i hi hgone => hwatches.waits_of_observing hi hgone)
    (Watchers.noticed_nil s.settings.processDelayMs hidle)
  obtain ⟨made, hmade, hcounts⟩ := exists_made_advance (s := dispatchAll es s) hemit
    (hbus ▸ hquiet) s.settings.processDelayMs (by rw [hnoticed.now]; exact hnoticed.armed) hfuel
  refine ⟨made, by rw [hmade, hbefore], fun i p => ?_, fun ⟨i, p⟩ => ?_⟩
  · rw [← List.count_pos_iff, hcounts, List.count_pos_iff, hnoticed.pending, ← and_assoc,
      hwatches.heeds_iff, List.nil_append, and_assoc]
    exact Iff.rfl
  · rw [hcounts]
    exact List.nodup_iff_count_le_one.mp (hnoticed.armed.nodup_pendingPaths i) p

/-- Asked to process all files, an engine whose directory is determined processes what it lists. -/
theorem processAll_eq {root : Path} (hroot : s.monitorPath = some root) {candidates : List Path}
    (hcandidates : ReferenceIndex.candidates ⟨root, s.settings.extensions, s.ignorePatterns⟩ s.tree
      = .ok candidates) :
    processAll emit s
      = processSelected emit ⟨root, s.settings.extensions, s.ignorePatterns⟩ candidates s := by
  unfold processAll referenceIndex currentMonitorPath
  rw [hroot]
  dsimp only
  rw [hcandidates]

/-- Asked to process all files, an engine processes those below its directory that it monitors. -/
theorem exists_results_processAll (hemit : Passive emit) (hquiet : Quiet s.bus)
    (hwrites : s.settings.writeOutputs = false) (hextensions : s.faults.missingExtension = none)
    {root : Path} (hroot : s.monitorPath = some root) {candidates : List Path}
    (hcandidates : ReferenceIndex.candidates ⟨root, s.settings.extensions, s.ignorePatterns⟩ s.tree
      = .ok candidates)
    (hlisted : ∀ p ∈ candidates, s.tree.refusal? p = none) :
    ∃ results, (processAll emit s).2 = .ok results ∧ ∀ p, p ∈ results.map ProcessResult.path ↔
      (p ∈ candidates ∧ s.tree.isFile p = .ok true) ∧
        ∃ extension ∈ s.settings.extensions, s.Monitors root extension p := by
  have hall : ∀ p ∈ candidates, (s.tree.refusal? p).isNone = true := fun p hp =>
    Option.isNone_iff_eq_none.mpr (hlisted p hp)
  obtain ⟨results, hresults, hpaths⟩ := (processSelected_monitoredAmong hemit
    ⟨root, s.settings.extensions, s.ignorePatterns⟩ candidates hquiet hwrites hextensions).2
    (List.findSome?_eq_none_iff.mpr hlisted)
  refine ⟨results, by rw [processAll_eq hroot hcandidates, hresults], fun p => ?_⟩
  · rw [hpaths, ReferenceIndex.monitoredAmong, List.takeWhile_eq_self_iff.mpr hall,
      List.mem_filter, ReferenceIndex.selects_iff]
    constructor
    · rintro ⟨hp, hfile, hunignored, extension, hextension, hmatches⟩
      exact ⟨⟨hp, hfile⟩, extension, hextension, hmatches, hunignored⟩
    · rintro ⟨⟨hp, hfile⟩, extension, hextension, hmatches, hunignored⟩
      exact ⟨hp, hfile, hunignored, extension, hextension, hmatches⟩

/--
**To be told of all files and to list them selects the same.** A running engine whose listeners do
not use it, with which no change is pending and which writes no outputs, is told of each file below
its directory, by any events and in any order. When the delay is over, its watchers have called back
for the files that it processes when it is asked to process all, and for no others: the watcher of
an extension once for each of them that has the extension.
-/
theorem selection_of_events {settings : EngineSettings} {ignorePatterns : List String}
    {environment : Settings.Variables} {tree : FileTree} {faults : Faults}
    {program : Option AppSettings} (hkind : K .initial)
    (hrun : ReflTransGen (HappensAmong K (Tactful K depth))
      (initial settings ignorePatterns environment tree faults program) s)
    (hrunning : s.state = .running) (hquiet : Quiet s.bus)
    (hidle : ∀ d ∈ s.watchers.debouncers.all, d.pending = [])
    (hwrites : s.settings.writeOutputs = false) (hlow : 0 ≤ s.settings.processDelayMs)
    (hhigh : s.settings.processDelayMs ≤ EngineSettings.maxDelayMs)
    (hextensions : s.faults.missingExtension = none) {nesting : Nat} {candidates : List Path}
    (hcandidates : (referenceIndex (publish nesting) s).2.candidates s.tree = .ok candidates)
    (hlisted : ∀ p ∈ candidates, s.tree.refusal? p = none) {es : List FileEvent} {ps : List Path}
    (hevents : List.Forall₂ FileEvent.Announces es ps)
    (hfiles : ∀ p, p ∈ ps ↔ p ∈ candidates ∧ s.tree.isFile p = .ok true) {fuel : Nat}
    (hfuel : (dispatchAll es s).watchers.debouncers.clock.timers.length ≤ fuel) :
    ∃ made results,
      (advance (publish nesting) fuel s.settings.processDelayMs (dispatchAll es s)).callbacks
        = s.callbacks ++ made ∧
      (processAll (publish nesting) s).2 = .ok results ∧
      (∀ p, p ∈ made.map Prod.snd ↔ p ∈ results.map ProcessResult.path) ∧
      ∀ p ∈ made.map Prod.snd,
        (∀ i, made.count (i, p)
          = if i ∈ s.registered.getD [] ∧ p.hasExtension (s.watcherExtension i) then 1 else 0) ∧
        (made.map Prod.snd).count p
          = s.settings.extensions.countP fun extension => p.hasExtension extension := by
  obtain ⟨ws, root, hwatches, hroot⟩ := watches_of_running hkind hrun hrunning
  have hemit := passive_publish nesting
  obtain ⟨made, hmade, hmem, honce⟩ :=
    exists_made_of_events hwatches hemit hquiet hidle hlow hhigh hevents hfuel
  have hindex : (referenceIndex (publish nesting) s).2
      = ⟨root, s.settings.extensions, s.ignorePatterns⟩ := by
    unfold referenceIndex currentMonitorPath
    rw [hroot]
  rw [hindex] at hcandidates
  obtain ⟨results, hresults, hlist⟩ :=
    exists_results_processAll hemit hquiet hwrites hextensions hroot hcandidates hlisted
  have hcalled : ∀ p, p ∈ made.map Prod.snd ↔
      (∃ extension ∈ s.settings.extensions, s.Monitors root extension p) ∧ p ∈ ps := by
    intro p
    rw [← hwatches.extensions]
    simp only [List.mem_map, Prod.exists, exists_eq_right, exists_exists_and_eq_and, hmem]
    constructor
    · rintro ⟨i, hi, hmonitors, hp⟩
      exact ⟨⟨i, hi, hmonitors⟩, hp⟩
    · rintro ⟨⟨i, hi, hmonitors⟩, hp⟩
      exact ⟨i, hi, hmonitors, hp⟩
  refine ⟨made, results, hmade, hresults, fun p => ?_, fun p hp => ?_⟩
  · rw [hcalled, hlist, hfiles, and_comm]
  · obtain ⟨⟨_, _, _, hunignored⟩, hannounced⟩ := (hcalled p).mp hp
    have hcount : ∀ i, made.count (i, p)
        = if i ∈ ws ∧ p.hasExtension (s.watcherExtension i) then 1 else 0 := by
      intro i
      split
      · next h =>
        have hpos := List.count_pos_iff.mpr ((hmem i p).mpr ⟨h.1, ⟨h.2, hunignored⟩, hannounced⟩)
        have := honce (i, p)
        omega
      · next h =>
        refine List.count_eq_zero.mpr fun hmade => h ?_
        obtain ⟨hi, hmonitors, _⟩ := (hmem i p).mp hmade
        exact ⟨hi, hmonitors.1⟩
    refine ⟨by rw [hwatches.registered]; exact hcount, ?_⟩
    obtain ⟨_, _, hplaces⟩ := hwatches.places
    rw [count_map_snd (hplaces ▸ List.nodup_range') hcount, ← hwatches.extensions,
      List.countP_map]
    rfl

/-- To report a file as modified announces it. -/
theorem announces_modified (hp : p.IsSpelled) : (modified p).Announces p :=
  ⟨.modified, _, _, rfl, rfl, Path.ofString_toString hp⟩

/-- An engine that watches a directory of a tree for files of two extensions. -/
def curiousEngine (root : Path) (tree : FileTree) : Engine :=
  let engine := smallEngine [".t", ".*"] Faults.none
  initial { engine.settings with monitorPath := some root } [] [] tree Faults.none engine.program

/--
A directory with a file, and with a directory in which there is another. Neither holds a text.
-/
def twoFiles : FileTree :=
  ⟨[(["w"], .directory), (["w", "a.t"], .file ⟨#[255]⟩), (["w", "d"], .directory),
    (["w", "d", "b"], .file ⟨#[255]⟩)], []⟩

theorem candidates_twoFiles (extensions ignorePatterns : List String) :
    ReferenceIndex.candidates ⟨.ofString "/w", extensions, ignorePatterns⟩ twoFiles
      = .ok [.ofString "/w/a.t", .ofString "/w/d", .ofString "/w/d/b"] := by
  have hdirectory : twoFiles.isDirectory (.ofString "/w") = .ok true := by decide +kernel
  have hplace : twoFiles.find (.ofString "/w") = .ok ["w"] := by decide +kernel
  have hlisted : (twoFiles.directoriesBelow (.ofString "/w") ["w"]).findSome? twoFiles.refusal?
      = none := by decide +kernel
  have hbelow : twoFiles.below (.ofString "/w") ["w"]
      = [.ofString "/w/a.t", .ofString "/w/d", .ofString "/w/d/b"] := by decide +kernel
  rw [ReferenceIndex.candidates_eq hdirectory hplace hlisted, hbelow, Path.sort,
    List.mergeSort_of_pairwise (by decide +kernel)]

/-- That engine when it runs. -/
def curiousEngineRunning : Engine :=
  (curiousEngine (.ofString "/w") twoFiles).call (publish 1) .start

/-- Told of both files, the inner one first, that engine processes what it lists. -/
theorem curiousEngine_selects :
    let s := curiousEngineRunning
    let es := [modified (.ofString "/w/d/b"), modified (.ofString "/w/a.t")]
    s.state = .running ∧ (advance (publish 1) 3 50 (dispatchAll es s)).callbacks
      = [(1, .ofString "/w/d/b"), (0, .ofString "/w/a.t"), (1, .ofString "/w/a.t")] ∧
    ∃ results, (processAll (publish 1) s).2 = .ok results ∧
      ∀ p, p ∈ results.map ProcessResult.path ↔
        p = .ofString "/w/d/b" ∨ p = .ofString "/w/a.t" := by
  intro s es
  have hrun : ReflTransGen (HappensAmong QuietOnMessages (Tactful QuietOnMessages 2))
      (curiousEngine (.ofString "/w") twoFiles) s :=
    .single (.call .start (tactful_publish 1))
  obtain ⟨hrunning, hnobody, hidle, hwrites, hdelay, hroot, hempty⟩ : s.state = .running ∧
      s.bus.subscriptions.isEmpty = true ∧ (∀ d ∈ s.watchers.debouncers.all, d.pending = []) ∧
      s.settings.writeOutputs = false ∧ s.settings.processDelayMs = 50 ∧
      s.monitorPath = some (.ofString "/w") ∧ s.callbacks = [] := by
    decide +kernel
  have hquiet : Quiet s.bus := fun subscription hmem => by
    rw [List.isEmpty_iff.mp hnobody] at hmem
    cases hmem
  have hindex : (referenceIndex (publish 1) s).2
      = ⟨.ofString "/w", s.settings.extensions, s.ignorePatterns⟩ := by
    unfold referenceIndex currentMonitorPath
    rw [hroot]
  have htree : s.tree = twoFiles := rfl
  have hcandidates : (referenceIndex (publish 1) s).2.candidates s.tree
      = .ok [.ofString "/w/a.t", .ofString "/w/d", .ofString "/w/d/b"] := by
    rw [hindex, htree, candidates_twoFiles]
  have hfiles : ∀ p, p ∈ [Path.ofString "/w/d/b", .ofString "/w/a.t"] ↔
      p ∈ [Path.ofString "/w/a.t", .ofString "/w/d", .ofString "/w/d/b"] ∧
        s.tree.isFile p = .ok true := by
    intro p
    simp only [List.mem_cons, List.not_mem_nil, or_false]
    constructor
    · rintro (rfl | rfl)
      · exact ⟨.inr (.inr rfl), by decide +kernel⟩
      · exact ⟨.inl rfl, by decide +kernel⟩
    · rintro ⟨rfl | rfl | rfl, hfile⟩
      · exact .inr rfl
      · exact absurd hfile (by decide +kernel)
      · exact .inl rfl
  have hmade : (advance (publish 1) 3 50 (dispatchAll es s)).callbacks
      = [(1, .ofString "/w/d/b"), (0, .ofString "/w/a.t"), (1, .ofString "/w/a.t")] := by
    decide +kernel
  obtain ⟨made, results, hcallbacks, hresults, hsame, _⟩ :=
    selection_of_events (fun _ h => by cases h) hrun hrunning hquiet hidle hwrites
    (by decide +kernel) (by decide +kernel) (by decide +kernel) hcandidates (by decide +kernel)
    (.cons (announces_modified (Path.isSpelled_ofString "/w/d/b"))
      (.cons (announces_modified (Path.isSpelled_ofString "/w/a.t")) .nil)) hfiles
    (show (dispatchAll es s).watchers.debouncers.clock.timers.length ≤ 3 by decide +kernel)
  rw [hdelay, hmade, hempty, List.nil_append] at hcallbacks
  refine ⟨hrunning, hmade, results, hresults, fun p => ?_⟩
  rw [← hsame, ← hcallbacks]
  simp

/-- A directory in which a path of more than 4095 octets leads to a file, if it starts with `//`. -/
def deepDirectory : FileTree :=
  let name := String.ofList (List.replicate 250 'x')
  let place := "w" :: List.replicate 16 name
  ⟨(List.range 17).map (fun k => (place.take (k + 1), .directory)) ++
    [(place ++ [String.ofList (List.replicate 74 'x' ++ ['.', 't'])], .file ⟨#[255]⟩)], []⟩

/-- The path of that file. -/
def deepFile : Path :=
  ⟨.doubleSlash, "w" :: List.replicate 16 (String.ofList (List.replicate 250 'x')) ++
    [String.ofList (List.replicate 74 'x' ++ ['.', 't'])]⟩

/-- That engine with nothing to watch, when a file is reported that is not there. -/
def curiousEngineMisled : Engine :=
  ((curiousEngine (.ofString "/w") ⟨[(["w"], .directory)], []⟩).call (publish 1) .start).call
    (publish 1) (.fileEvent (modified absentPage))

/-- That engine with a listener that stops it when a file could not be processed. -/
def curiousEngineStopping : Engine :=
  ((curiousEngine (.ofString "/w") twoFiles).subscribe "a" (some .processFailed)
    ⟨.stop, false⟩).call (publish 1) .start

/-- That engine in a directory with a file whose path is too long. -/
def curiousEngineDeep : Engine :=
  (curiousEngine (.ofString "//w") deepDirectory).call (publish 1) .start

theorem isSpelled_deepFile : deepFile.IsSpelled := by
  have hname : ∀ cs : List Char, cs ≠ [] → cs ≠ ['.'] → '/' ∉ cs → Path.IsName (.ofList cs) :=
    fun cs hnil hdot hslash => ⟨by simpa using hnil, by simpa using hdot, by simpa using hslash⟩
  intro n hn
  simp only [deepFile, List.mem_append, List.mem_cons, List.mem_replicate, List.not_mem_nil,
    or_false] at hn
  rcases hn with (rfl | ⟨_, rfl⟩) | rfl
  · exact Path.isSpelled_ofString "w" _ (by decide +kernel)
  · exact hname _ (by decide +kernel) (by decide +kernel) (by decide +kernel)
  · exact hname _ (by decide +kernel) (by decide +kernel) (by decide +kernel)

/-- That engine calls back for the file, and refuses to process all. -/
theorem curiousEngineDeep_refuses :
    (∀ fuel, (dispatchAll [modified deepFile]
        curiousEngineDeep).watchers.debouncers.clock.timers.length ≤ fuel →
          (0, deepFile) ∈ (advance (publish 1) fuel curiousEngineDeep.settings.processDelayMs
            (dispatchAll [modified deepFile] curiousEngineDeep)).callbacks) ∧
      ∃ e, (processAll (publish 1) curiousEngineDeep).2 = .error e := by
  have hrun : ReflTransGen (HappensAmong QuietOnMessages (Tactful QuietOnMessages 2))
      (curiousEngine (.ofString "//w") deepDirectory) curiousEngineDeep :=
    .single (.call .start (tactful_publish 1))
  obtain ⟨hrunning, hnobody, hidle, hwrites, hroot, hregistered⟩ :
      curiousEngineDeep.state = .running ∧
      curiousEngineDeep.bus.subscriptions.isEmpty = true ∧
      (∀ d ∈ curiousEngineDeep.watchers.debouncers.all, d.pending = []) ∧
      curiousEngineDeep.settings.writeOutputs = false ∧
      curiousEngineDeep.monitorPath = some (.ofString "//w") ∧
      curiousEngineDeep.registered = some [0, 1] := by
    decide +kernel
  have hquiet : Quiet curiousEngineDeep.bus := fun subscription hmem => by
    rw [List.isEmpty_iff.mp hnobody] at hmem
    cases hmem
  have hemit := passive_publish 1
  constructor
  · intro fuel hfuel
    obtain ⟨ws, root, hwatches, hroot'⟩ := watches_of_running (fun _ h => by cases h) hrun hrunning
    obtain rfl := Option.some.inj (hroot.symm.trans hroot')
    obtain rfl := Option.some.inj (hregistered.symm.trans hwatches.registered)
    obtain ⟨made, hmade, hmem, _⟩ := exists_made_of_events hwatches hemit hquiet hidle
      (by decide +kernel) (by decide +kernel)
      (.cons (announces_modified isSpelled_deepFile) .nil) hfuel
    rw [hmade]
    exact List.mem_append_right _ ((hmem 0 deepFile).mpr
      ⟨by decide, ⟨by decide +kernel, by decide +kernel⟩, List.mem_singleton_self _⟩)
  · have hplace : curiousEngineDeep.tree.find (.ofString "//w") = .ok ["w"] := by decide +kernel
    have hcandidates : ReferenceIndex.candidates ⟨.ofString "//w",
        curiousEngineDeep.settings.extensions, curiousEngineDeep.ignorePatterns⟩
        curiousEngineDeep.tree
        = .ok (Path.sort (curiousEngineDeep.tree.below (.ofString "//w") ["w"])) :=
      ReferenceIndex.candidates_eq (by decide +kernel) hplace (by decide +kernel)
    have hbelow : deepFile ∈ Path.sort (curiousEngineDeep.tree.below (.ofString "//w") ["w"]) :=
      List.mem_mergeSort.mpr (by decide +kernel)
    have hrefused : (curiousEngineDeep.tree.refusal? deepFile).isSome = true := by decide +kernel
    obtain ⟨e, he⟩ := Option.isSome_iff_exists.mp
      (List.findSome?_isSome_iff.mpr ⟨deepFile, hbelow, hrefused⟩)
    rw [processAll_eq hroot hcandidates]
    exact ⟨_, (processSelected_monitoredAmong hemit _ _ hquiet hwrites (by decide +kernel)).1 e he⟩

/--
**Without these conditions the selections can differ.** A file may have been reported before that is
not there. A listener may stop the engine after the first callback. And a path may be too long for
the files to be listed.
-/
theorem selection_can_differ :
    (Reached 2 curiousEngineMisled ∧ curiousEngineMisled.state = .running ∧
      (advance (publish 1) 2 50 (dispatchAll [] curiousEngineMisled)).callbacks
        = [(0, absentPage), (1, absentPage)] ∧
      (processAll (publish 1) curiousEngineMisled).2 = .ok []) ∧
    (Reached 2 curiousEngineStopping ∧ curiousEngineStopping.state = .running ∧
      (advance (publish 1) 3 50 (dispatchAll [modified (.ofString "/w/d/b"),
        modified (.ofString "/w/a.t")] curiousEngineStopping)).callbacks
        = [(1, .ofString "/w/d/b")] ∧
      (processAll (publish 1) curiousEngineStopping).2.toOption.map (List.map ProcessResult.path)
        = some [.ofString "/w/a.t", .ofString "/w/d/b"]) ∧
    Reached 2 curiousEngineDeep ∧ curiousEngineDeep.state = .running ∧
      (∀ fuel, (dispatchAll [modified deepFile]
        curiousEngineDeep).watchers.debouncers.clock.timers.length ≤ fuel →
          (0, deepFile) ∈ (advance (publish 1) fuel curiousEngineDeep.settings.processDelayMs
            (dispatchAll [modified deepFile] curiousEngineDeep)).callbacks) ∧
      ∃ e, (processAll (publish 1) curiousEngineDeep).2 = .error e := by
  have hanswered : Answered 2 (publish 1) := answered_publish 1
  refine ⟨⟨?_, by decide +kernel, by decide +kernel, ?_⟩,
    ⟨?_, by decide +kernel, by decide +kernel, ?_⟩, ?_, by decide +kernel,
    curiousEngineDeep_refuses⟩
  · exact ((reached_initial ..).tail (.call .start hanswered)).tail
      (.call (.fileEvent (modified absentPage)) hanswered)
  · have hplace : curiousEngineMisled.tree.find (.ofString "/w") = .ok ["w"] := by decide +kernel
    have hbelow : curiousEngineMisled.tree.below (.ofString "/w") ["w"] = [] := by decide +kernel
    have hcandidates : ReferenceIndex.candidates ⟨.ofString "/w",
        curiousEngineMisled.settings.extensions, curiousEngineMisled.ignorePatterns⟩
        curiousEngineMisled.tree = .ok [] := by
      rw [ReferenceIndex.candidates_eq (by decide +kernel) hplace (by decide +kernel), hbelow,
        Path.sort, List.mergeSort_of_pairwise .nil]
    rw [processAll_eq (by decide +kernel) hcandidates]
    rfl
  · exact ((reached_initial ..).tail (.aside (aside_subscribe ..))).tail (.call .start hanswered)
  · rw [processAll_eq (by decide +kernel) (candidates_twoFiles _ _)]
    decide +kernel
  · exact (reached_initial ..).tail (.call .start hanswered)

end LiveTemplates.Engine
