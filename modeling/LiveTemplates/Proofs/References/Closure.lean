import Mathlib.Logic.Relation
import LiveTemplates.Proofs.References.Cascade

/-!
# The dependents of a file are a closure

A monitored file depends on a key if it refers to a file of the key, or to a file with the key of
one that depends on it. The transitive dependents are the files that depend on the key of the target,
except that of several files whose paths differ only in case one may stand for all
(`isClosure_findDependents`).

Nothing is assumed of the order in which the includers of a file are followed: each visit of a search
may take them in an order of its own (`Search.Step`). No search goes on forever, and whenever one
stops, what it has found is the closure.
-/

namespace LiveTemplates.ReferenceIndex

/-! ## Files that depend on a key -/

/-- A chain of monitored files leads from a file to a key, each one referring to the next. -/
inductive DependsOn (t : FileTree) (files : List Path) (goal : String) : Path → Prop
  | direct {p q : Path} (hp : p ∈ files) (hq : q ∈ (resolvedIncludes t p).1)
      (hkey : q.key t.cwd = goal) : DependsOn t files goal p
  | through {p q r : Path} (hp : p ∈ files) (hq : q ∈ (resolvedIncludes t p).1)
      (hkey : q.key t.cwd = r.key t.cwd) (hr : DependsOn t files goal r) :
      DependsOn t files goal p

/-- Some files are those that depend on a key, up to the case of their paths. -/
structure IsClosure (t : FileTree) (files : List Path) (goal : String) (found : List Path) :
    Prop where
  sound : ∀ p ∈ found, p ∈ files ∧ p.key t.cwd ≠ goal ∧ DependsOn t files goal p
  complete : ∀ p ∈ files, DependsOn t files goal p → p.key t.cwd ≠ goal →
    ∃ q ∈ found, q.key t.cwd = p.key t.cwd

variable {x : ReferenceIndex} {t : FileTree} {files found : List Path} {goal : String} {p : Path}

/-- The files of a chain are monitored. -/
theorem DependsOn.mem (h : DependsOn t files goal p) : p ∈ files := by
  cases h with
  | direct hp => exact hp
  | through hp => exact hp

/-- An includer of the key depends on it. -/
theorem DependsOn.of_includers (hp : p ∈ includers (indexOf t files) goal) :
    DependsOn t files goal p := by
  obtain ⟨hp, q, hq, hkey⟩ := mem_includers_includersOf.mp hp
  exact .direct hp hq hkey

/-- An includer of a file that depends on the key depends on it too. -/
theorem DependsOn.includer {r : Path} (hr : DependsOn t files goal r)
    (hp : p ∈ includers (indexOf t files) (r.key t.cwd)) : DependsOn t files goal p := by
  obtain ⟨hp, q, hq, hkey⟩ := mem_includers_includersOf.mp hp
  exact .through hp hq hkey hr

/-- Going from included files to including ones reaches the key of every file that depends. -/
theorem DependsOn.reaches (h : DependsOn t files goal p) :
    Reaches t.cwd (indexOf t files) goal (p.key t.cwd) := by
  induction h with
  | direct hp hq hkey => exact .step .refl (mem_includers_includersOf.mpr ⟨hp, _, hq, hkey⟩)
  | through hp hq hkey _ ih => exact .step ih (mem_includers_includersOf.mpr ⟨hp, _, hq, hkey⟩)

/-- Only which files are found matters. -/
theorem IsClosure.of_mem_iff {found' : List Path} (h : IsClosure t files goal found)
    (hmem : ∀ p, p ∈ found' ↔ p ∈ found) : IsClosure t files goal found' where
  sound p hp := h.sound p ((hmem p).mp hp)
  complete p hp hdepends hne := by
    obtain ⟨q, hq, hkey⟩ := h.complete p hp hdepends hne
    exact ⟨q, (hmem q).mpr hq, hkey⟩

/-! ## Searches in any order -/

/-- A search: the keys that were visited, the files that were found, and those to be dealt with. -/
structure Search where
  visited : List String
  found : List Path
  frontier : List Path

namespace Search

variable {cwd : Path} {index : Includers} {s s' : Search}

/-- One step of a search. The includers of a file are followed in some order. -/
inductive Step (cwd : Path) (index : Includers) : Search → Search → Prop
  | skip {visited : List String} {found frontier : List Path} {p : Path}
      (hkey : p.key cwd ∈ visited) :
      Step cwd index ⟨visited, found, p :: frontier⟩ ⟨visited, found, frontier⟩
  | visit {visited : List String} {found frontier order fresh : List Path} {p : Path}
      (hkey : p.key cwd ∉ visited) (horder : order.Perm (includers index (p.key cwd)))
      (hfresh : fresh = order.filter fun q => !(p.key cwd :: visited).contains (q.key cwd)) :
      Step cwd index ⟨visited, found, p :: frontier⟩
        ⟨p.key cwd :: visited, found ++ fresh.filter fun q => !found.contains q,
          fresh.reverse ++ frontier⟩

/-- The searches for the includers of a key, from the direct ones in some order. -/
inductive Reached (cwd : Path) (index : Includers) (goal : String) : Search → Prop
  | start {order : List Path} (horder : order.Perm (includers index goal)) :
      Reached cwd index goal ⟨[goal], includers index goal, order⟩
  | step {s s' : Search} (hs : Reached cwd index goal s) (h : Step cwd index s s') :
      Reached cwd index goal s'

/-- As long as there are files to be dealt with, the search goes on. -/
theorem exists_step (h : s.frontier ≠ []) : ∃ s', Step cwd index s s' := by
  obtain ⟨visited, found, frontier⟩ := s
  cases frontier with
  | nil => exact absurd rfl h
  | cons p frontier =>
    by_cases hkey : p.key cwd ∈ visited
    · exact ⟨_, .skip hkey⟩
    · exact ⟨_, .visit hkey (.refl _) rfl⟩

/-- **No search goes on forever.** A visit uses up a key, or it adds nothing to the frontier. -/
theorem wellFounded_step (cwd : Path) (index : Includers) :
    WellFounded fun s' s => Step cwd index s s' := by
  let size : Search → Nat × Nat := fun s =>
    (unused (index.map (·.1)) s.visited, s.frontier.length)
  refine Subrelation.wf ?_ (InvImage.wf size (Prod.lex Nat.lt_wfRel Nat.lt_wfRel).wf)
  intro s' s h
  cases h with
  | skip hkey => exact Prod.Lex.right _ (Nat.lt_succ_self _)
  | @visit visited found frontier order fresh p hkey horder hfresh =>
    by_cases hnone : includers index (p.key cwd) = []
    · obtain rfl : order = [] := List.perm_nil.mp (hnone ▸ horder)
      subst hfresh
      rcases Nat.lt_or_eq_of_le (unused_cons_le (index.map (·.1)) visited (p.key cwd)) with h | h
      · exact Prod.Lex.left _ _ h
      · show Prod.Lex _ _ (unused (index.map (·.1)) (p.key cwd :: visited), _)
          (unused (index.map (·.1)) visited, _)
        rw [h]
        exact Prod.Lex.right _ (Nat.lt_succ_self _)
    · exact Prod.Lex.left _ _ (unused_cons_lt (mem_of_includers_ne_nil hnone) hkey)

/-- A step keeps the invariant of the search. -/
theorem Step.explores (h : Step cwd index s s')
    (hs : Explores cwd index goal s.visited s.found s.frontier) :
    Explores cwd index goal s'.visited s'.found s'.frontier := by
  cases h with
  | skip hkey => exact hs.skip hkey
  | @visit visited found frontier order fresh p hkey horder hfresh =>
    refine hs.visit fun q hq => ?_
    by_cases hmem : q.key cwd ∈ p.key cwd :: visited
    · exact Or.inl hmem
    · subst hfresh
      exact Or.inr (List.mem_filter.mpr ⟨horder.mem_iff.mpr hq, by simpa using hmem⟩)

/-- A step finds includers of a file in the frontier only. -/
theorem Step.mem_found (h : Step cwd index s s') (hp : p ∈ s'.found) :
    p ∈ s.found ∨ ∃ r ∈ s.frontier, p ∈ includers index (r.key cwd) := by
  cases h with
  | skip hkey => exact Or.inl hp
  | @visit visited found frontier order fresh r hkey horder hfresh =>
    rcases List.mem_append.mp hp with hp | hp
    · exact Or.inl hp
    · have hfilter := (List.mem_filter.mp hp).1
      subst hfresh
      exact Or.inr ⟨r, List.mem_cons_self, horder.mem_iff.mp (List.mem_filter.mp hfilter).1⟩

/-- What was visited stays visited. -/
theorem Reached.goal_mem (h : Reached cwd index goal s) : goal ∈ s.visited := by
  induction h with
  | start _ => exact List.mem_singleton_self goal
  | step _ h ih =>
    cases h with
    | skip _ => exact ih
    | visit _ _ _ => exact List.mem_cons_of_mem _ ih

theorem Reached.explores (h : Reached cwd index goal s) :
    Explores cwd index goal s.visited s.found s.frontier := by
  induction h with
  | start horder => exact explores_start fun p => horder.mem_iff
  | step _ h ih => exact h.explores ih

/-- What is found depends on the key, by induction along the search. -/
theorem Reached.dependsOn (h : Reached t.cwd (indexOf t files) goal s) :
    ∀ p ∈ s.found, DependsOn t files goal p := by
  induction h with
  | start horder => exact fun p hp => .of_includers hp
  | @step s s' hs h ih =>
    intro p hp
    rcases h.mem_found hp with hp | ⟨r, hr, hp⟩
    · exact ih p hp
    · exact (ih r (hs.explores.pending r hr)).includer hp

/-- **Whenever a search stops, it has found the closure**, apart from files of the key itself. -/
theorem Reached.isClosure (h : Reached t.cwd (indexOf t files) goal s) (hend : s.frontier = []) :
    IsClosure t files goal (s.found.filter fun p => p.key t.cwd != goal) where
  sound p hp := by
    obtain ⟨hp, hne⟩ := List.mem_filter.mp hp
    have hdepends := h.dependsOn p hp
    exact ⟨hdepends.mem, by simpa using hne, hdepends⟩
  complete p _ hdepends hne := by
    have hvisited : ∀ k, Reaches t.cwd (indexOf t files) goal k → k ∈ s.visited := by
      intro k hk
      induction hk with
      | refl => exact h.goal_mem
      | step _ hp ih =>
        rcases h.explores.followed _ ih _ hp with hmem | ⟨q, hq, _⟩
        · exact hmem
        · rw [hend] at hq
          cases hq
    rcases h.explores.known _ (hvisited _ hdepends.reaches) with hkey | ⟨q, hq, hkey⟩
    · exact absurd hkey hne
    · refine ⟨q, List.mem_filter.mpr ⟨hq, ?_⟩, hkey⟩
      simpa [hkey] using hne

/-- The search that follows includers in the order `arrange` comes to its end. -/
theorem Reached.search {arrange : List Path → List Path} (harrange : ∀ ps, (arrange ps).Perm ps)
    {visited : List String} {found frontier : List Path}
    (h : Reached cwd index goal ⟨visited, found, frontier⟩) :
    ∃ s, Reached cwd index goal s ∧ s.frontier = [] ∧
      s.found = ReferenceIndex.search cwd arrange index visited found frontier := by
  fun_induction ReferenceIndex.search cwd arrange index visited found frontier with
  | case1 visited found => exact ⟨_, h, rfl, rfl⟩
  | case2 visited found p frontier key hkey ih => exact ih (h.step (.skip (by simpa using hkey)))
  | case3 visited found p frontier key hkey hnone ih =>
    have hstep := @Step.visit cwd index visited found frontier [] [] p (by simpa using hkey)
      (by rw [show includers index (p.key cwd) = [] from hnone]) rfl
    exact ih (h.step (by simpa using hstep))
  | case4 visited found p frontier key hkey hsome fresh ih =>
    exact ih (h.step (.visit (by simpa using hkey) (harrange _) rfl))

end Search

/-! ## The answer -/

/-- The answer to a question for dependents. -/
theorem isClosure_dependentsOf (t : FileTree) (files : List Path) (goal : String)
    {arrange : List Path → List Path} (harrange : ∀ ps, (arrange ps).Perm ps) :
    IsClosure t files goal (dependentsOf t.cwd arrange (indexOf t files) true goal) := by
  have hstart : Search.Reached t.cwd (indexOf t files) goal
      ⟨[goal], includers (indexOf t files) goal,
        (arrange (includers (indexOf t files) goal)).reverse⟩ :=
    .start ((List.reverse_perm _).trans (harrange _))
  obtain ⟨s, hs, hend, hfound⟩ := hstart.search harrange
  have hclosure := hs.isClosure hend
  rw [hfound] at hclosure
  exact hclosure

/-- A path that says itself where it starts is not blank. -/
theorem trim_ne_nil_of_isAbsolute {name : String} (h : (Path.ofString name).isAbsolute = true) :
    (Text.trim name.toList).isEmpty = false := by
  obtain ⟨rest, hslash⟩ : ∃ rest, name.toList = '/' :: rest := by
    unfold Path.isAbsolute Path.ofString Path.rootOf at h
    dsimp only at h
    split at h
    · exact ⟨_, ‹_›⟩
    · exact ⟨_, ‹_›⟩
    · exact ⟨_, ‹_›⟩
    · simp at h
  have hblank : Text.isBlank '/' = false := by decide
  rw [hslash, Text.trim, Text.trimOf, List.dropWhile_cons_of_neg (by simp [hblank]),
    List.isEmpty_eq_false_iff, Text.dropTrailing, ne_eq, List.reverse_eq_nil_iff,
    List.dropWhile_eq_nil_iff]
  intro hall
  have := hall '/' (by simp)
  simp [hblank] at this

/--
**The transitive dependents of a file are the closure on path keys**, cycles, files that include
themselves and unreadable files included.

No search for them goes on forever, in whatever order includers are followed. One that has files
left to deal with takes another step, and one that has none has found the closure. If the monitored
files can be listed there is an answer, and the answer is the closure.
-/
theorem isClosure_findDependents (x : ReferenceIndex) (t : FileTree) {name : String}
    (hname : (Path.ofString name).isAbsolute = true) :
    let goal := (Path.ofString name).key t.cwd
    (∀ e, x.monitoredFiles t = .error e →
      ∃ log, x.findDependents t (fun _ => none) true name = (.error (.file e), log)) ∧
    ∀ files, x.monitoredFiles t = .ok files →
      (WellFounded fun s' s => Search.Step t.cwd (indexOf t files) s s') ∧
      (∀ s, Search.Reached t.cwd (indexOf t files) goal s →
        (s.frontier ≠ [] → ∃ s', Search.Step t.cwd (indexOf t files) s s') ∧
        (s.frontier = [] →
          IsClosure t files goal (s.found.filter fun p => p.key t.cwd != goal))) ∧
      ∃ found log, x.findDependents t (fun _ => none) true name = (.ok found, log) ∧
        IsClosure t files goal found := by
  have hblank := trim_ne_nil_of_isAbsolute hname
  refine ⟨fun e he => findDependents_error he hblank, fun files hfiles => ⟨?_, ?_, ?_⟩⟩
  · exact Search.wellFounded_step _ _
  · exact fun s hs => ⟨Search.exists_step, hs.isClosure⟩
  · obtain ⟨log, hfound⟩ := findDependents_eq hfiles hblank
    refine ⟨_, log, hfound, ?_⟩
    exact (isClosure_dependentsOf t files _ perm_sort).of_mem_iff fun p => (perm_sort _).mem_iff

/-- A site in which two pages include each other, and one includes itself. -/
def cycleSite : FileTree :=
  site [("f.t", "x"), ("p.t", "<!--@ include q.t -->"),
    ("q.t", "<!--@ include p.t --><!--@ include q.t --><!--@ include f.t -->")] []

/-- Both pages of that site depend on the file that one of them includes. -/
theorem cycleSite_pages_found :
    (Path.ofString "/w/f.t").isAbsolute = true ∧
      ∃ found log, siteIndex.findDependents cycleSite (fun _ => none) true "/w/f.t"
        = (.ok found, log) ∧ ∀ p, p ∈ found ↔ p = sitePath ["p.t"] ∨ p = sitePath ["q.t"] := by
  have hname : (Path.ofString "/w/f.t").isAbsolute = true := by decide +kernel
  let files := [sitePath ["f.t"], sitePath ["p.t"], sitePath ["q.t"]]
  have hfiles : siteIndex.monitoredFiles cycleSite = .ok files :=
    (monitoredFiles_of_sorted rfl rfl (by decide +kernel)).trans
      (congrArg Except.ok (by decide +kernel))
  have hindex : indexOf cycleSite files = [("/w/q.t", [sitePath ["p.t"], sitePath ["q.t"]]),
      ("/w/p.t", [sitePath ["q.t"]]), ("/w/f.t", [sitePath ["q.t"]])] := by decide +kernel
  have hgoal : (Path.ofString "/w/f.t").key cycleSite.cwd = "/w/f.t" := by decide +kernel
  have hf : (sitePath ["f.t"]).key cycleSite.cwd = "/w/f.t" := by decide +kernel
  have hp : (sitePath ["p.t"]).key cycleSite.cwd = "/w/p.t" := by decide +kernel
  have hq : (sitePath ["q.t"]).key cycleSite.cwd = "/w/q.t" := by decide +kernel
  obtain ⟨_, _, found, log, hfound, hclosure⟩ :=
    (isClosure_findDependents siteIndex cycleSite hname).2 files hfiles
  rw [hgoal] at hclosure
  refine ⟨hname, found, log, hfound, fun p => ⟨fun hmem => ?_, ?_⟩⟩
  · obtain ⟨hmem, hne, _⟩ := hclosure.sound p hmem
    simp only [files, List.mem_cons, List.not_mem_nil, or_false] at hmem
    rcases hmem with rfl | rfl | rfl
    · exact absurd hf hne
    · exact Or.inl rfl
    · exact Or.inr rfl
  · have hqdepends : DependsOn cycleSite files "/w/f.t" (sitePath ["q.t"]) :=
      .of_includers (by rw [hindex]; decide)
    have hpdepends : DependsOn cycleSite files "/w/f.t" (sitePath ["p.t"]) :=
      hqdepends.includer (by rw [hq, hindex]; decide)
    -- the paths of the three files differ in more than case
    have hunique : ∀ p ∈ files, ∀ r ∈ files, r.key cycleSite.cwd = p.key cycleSite.cwd → r = p := by
      simp [files, hf, hp, hq]
    have hall : ∀ p, DependsOn cycleSite files "/w/f.t" p → p.key cycleSite.cwd ≠ "/w/f.t" →
        p ∈ found := by
      intro p hdepends hne
      obtain ⟨r, hr, hkey⟩ := hclosure.complete p hdepends.mem hdepends hne
      exact hunique p hdepends.mem r (hclosure.sound r hr).1 hkey ▸ hr
    rintro (rfl | rfl)
    · exact hall _ hpdepends (by rw [hp]; decide)
    · exact hall _ hqdepends (by rw [hq]; decide)

end LiveTemplates.ReferenceIndex
