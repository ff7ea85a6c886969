import LiveTemplates.Proofs.References.Closure

/-!
# Answers in different orders

An index keeps the includers of a file as a set, and a set may be gone through in any order. What a
question for dependents may be answered is what a search finds that takes each set in some order
(`MayAnswer`).

The order matters where paths differ only in case. A visit adds no file whose key was visited before,
so the first file of a key that is visited may keep others out that depend on the target as well
(`answers_can_differ`). It matters nowhere else (`answers_agree`): two answers have the same keys, so
they name the same files unless several that depend on the target share a key, and both have every
file that includes the target itself.
-/

namespace LiveTemplates.ReferenceIndex

/-- What a question may be answered, when includers are followed in some order. -/
inductive MayAnswer (x : ReferenceIndex) (t : FileTree) (breaksDown : Path → Option String)
    (name : String) : Except Failure (List Path) → Prop
  | blank (hblank : (Text.trim name.toList).isEmpty = true) : MayAnswer x t breaksDown name (.ok [])
  | failed {e : Failure} (hblank : (Text.trim name.toList).isEmpty = false)
      (hbuild : (x.build t breaksDown).1 = .error e) : MayAnswer x t breaksDown name (.error e)
  | found {index : Includers} {s : Search} {found : List Path}
      (hblank : (Text.trim name.toList).isEmpty = false)
      (hbuild : (x.build t breaksDown).1 = .ok index)
      (hs : Search.Reached t.cwd index ((Path.ofString name).key t.cwd) s)
      (hend : s.frontier = [])
      (hfound : ∀ p, p ∈ found ↔ p ∈ s.found ∧ p.key t.cwd ≠ (Path.ofString name).key t.cwd) :
      MayAnswer x t breaksDown name (.ok found)

/-- Two answers for a key differ at most in which files they name of several with one key. -/
structure SameButCase (t : FileTree) (files : List Path) (goal : String)
    (found found' : List Path) : Prop where
  keys : ∀ key, (∃ p ∈ found, p.key t.cwd = key) ↔ ∃ p ∈ found', p.key t.cwd = key
  /-- A file that no other one stands for is in both or in none. -/
  alone : ∀ p, (∀ q, DependsOn t files goal q → q.key t.cwd = p.key t.cwd → q = p) →
    (p ∈ found ↔ p ∈ found')
  /-- A file that refers to the target itself is in both. -/
  direct : ∀ p ∈ files, ∀ q ∈ (resolvedIncludes t p).1, q.key t.cwd = goal →
    p.key t.cwd ≠ goal → p ∈ found ∧ p ∈ found'

variable {x : ReferenceIndex} {t : FileTree} {breaksDown : Path → Option String} {name : String}
  {files found found' : List Path} {goal : String} {index : Includers} {p : Path}

/-- What is found stays found. -/
theorem Search.Reached.includers_subset {cwd : Path} {s : Search}
    (h : Search.Reached cwd index goal s) : includers index goal ⊆ s.found := by
  induction h with
  | start _ => exact List.Subset.refl _
  | step _ h ih =>
    cases h with
    | skip _ => exact ih
    | visit _ _ _ => exact List.Subset.trans ih (List.subset_append_left _ _)

/-! ## Answers agree -/

/-- A file of one closure has a file of its key in any other one. -/
theorem IsClosure.exists_mem (h : IsClosure t files goal found)
    (h' : IsClosure t files goal found') (hp : p ∈ found) :
    ∃ q ∈ found', q.key t.cwd = p.key t.cwd := by
  obtain ⟨hmem, hne, hdepends⟩ := h.sound p hp
  exact h'.complete p hmem hdepends hne

/-- A file that no other one stands for is in every closure if it is in one. -/
theorem IsClosure.mem_of_alone (h : IsClosure t files goal found)
    (h' : IsClosure t files goal found')
    (halone : ∀ q, DependsOn t files goal q → q.key t.cwd = p.key t.cwd → q = p)
    (hp : p ∈ found) : p ∈ found' := by
  obtain ⟨q, hq, hkey⟩ := h.exists_mem h' hp
  obtain ⟨_, _, hdepends⟩ := h'.sound q hq
  rw [← halone q hdepends hkey]
  exact hq

/-- Two closures that have the direct includers differ only in case. -/
theorem IsClosure.sameButCase (h : IsClosure t files goal found)
    (h' : IsClosure t files goal found')
    (hdirect : ∀ p ∈ includers (indexOf t files) goal,
      p.key t.cwd ≠ goal → p ∈ found ∧ p ∈ found') :
    SameButCase t files goal found found' where
  keys key := by
    constructor
    · rintro ⟨p, hp, rfl⟩
      exact h.exists_mem h' hp
    · rintro ⟨p, hp, rfl⟩
      exact h'.exists_mem h hp
  alone p halone := ⟨h.mem_of_alone h' halone, h'.mem_of_alone h halone⟩
  direct p hp q hq hkey := hdirect p (mem_includers_includersOf.mpr ⟨hp, q, hq, hkey⟩)

/-- The answer that is given is one that may be given. -/
theorem mayAnswer_findDependents (x : ReferenceIndex) (t : FileTree)
    (breaksDown : Path → Option String) (name : String) :
    MayAnswer x t breaksDown name (x.findDependents t breaksDown true name).1 := by
  cases hblank : (Text.trim name.toList).isEmpty with
  | true =>
    rw [findDependents, if_pos hblank]
    exact .blank hblank
  | false =>
    rw [findDependents, if_neg (by simp [hblank])]
    cases hbuild : x.build t breaksDown with
    | mk result log =>
      have hfirst : (x.build t breaksDown).1 = result := by rw [hbuild]
      cases result with
      | error e => exact .failed hblank hfirst
      | ok index =>
        dsimp only
        generalize hgoal : (Path.ofString name).key t.cwd = goal
        have hstart : Search.Reached t.cwd index goal
            ⟨[goal], includers index goal, (Path.sort (includers index goal)).reverse⟩ :=
          .start ((List.reverse_perm _).trans (perm_sort _))
        obtain ⟨s, hs, hend, hfound⟩ := hstart.search perm_sort
        have hmem : ∀ p, p ∈ dependentsOf t.cwd Path.sort index true goal ↔
            p ∈ s.found ∧ p.key t.cwd ≠ goal := by
          intro p
          rw [hfound, dependentsOf, if_pos rfl, List.mem_filter, bne_iff_ne]
        subst hgoal
        split
        · next hempty =>
          rw [List.isEmpty_iff.mp hempty] at hmem
          exact .found hblank hfirst hs hend hmem
        · exact .found hblank hfirst hs hend fun p => (perm_sort _).mem_iff.trans (hmem p)

/--
**The order in which includers are followed matters only to files whose paths differ in case.** In
no order does a search go on forever, the answer that is given is one of those that may be given,
and any two of these are the same failure, or they name the same files but for several with one key.
-/
theorem answers_agree (x : ReferenceIndex) (t : FileTree) (breaksDown : Path → Option String)
    (name : String) :
    (∀ index, WellFounded fun s' s => Search.Step t.cwd index s s') ∧
    MayAnswer x t breaksDown name (x.findDependents t breaksDown true name).1 ∧
    ∀ answer answer', MayAnswer x t breaksDown name answer →
      MayAnswer x t breaksDown name answer' →
      answer = answer' ∨ ∃ files found found', x.monitoredFiles t = .ok files ∧
        answer = .ok found ∧ answer' = .ok found' ∧
        SameButCase t files ((Path.ofString name).key t.cwd) found found' := by
  refine ⟨Search.wellFounded_step t.cwd, mayAnswer_findDependents x t breaksDown name, ?_⟩
  intro answer answer' h h'
  cases h with
  | blank hblank =>
    cases h' with
    | blank => exact Or.inl rfl
    | failed hblank' | found hblank' => simp [hblank] at hblank'
  | failed hblank hbuild =>
    cases h' with
    | blank hblank' => simp [hblank] at hblank'
    | failed _ hbuild' =>
      rw [hbuild] at hbuild'
      cases hbuild'
      exact Or.inl rfl
    | found _ hbuild' => simp [hbuild] at hbuild'
  | found hblank hbuild hs hend hfound =>
    cases h' with
    | blank hblank' => simp [hblank] at hblank'
    | failed _ hbuild' => simp [hbuild] at hbuild'
    | found _ hbuild' hs' hend' hfound' =>
      rw [hbuild] at hbuild'
      cases hbuild'
      obtain ⟨files, hfiles, rfl⟩ := exists_monitoredFiles_of_build hbuild
      refine Or.inr ⟨files, _, _, hfiles, rfl, rfl, ?_⟩
      have hclosure := (hs.isClosure hend).of_mem_iff fun p => by
        rw [hfound, List.mem_filter, bne_iff_ne]
      have hclosure' := (hs'.isClosure hend').of_mem_iff fun p => by
        rw [hfound', List.mem_filter, bne_iff_ne]
      refine hclosure.sameButCase hclosure' fun p hp hne => ?_
      exact ⟨(hfound p).mpr ⟨hs.includers_subset hp, hne⟩,
        (hfound' p).mpr ⟨hs'.includers_subset hp, hne⟩⟩

/-! ## Answers can differ -/

/-- A site in which two files whose paths differ only in case are found by different ways. -/
def forkedSite : FileTree :=
  site [("A.t", "<!--@ include q.t -->"), ("a.t", "<!--@ include p.t -->"), ("f.t", "x"),
    ("p.t", "<!--@ include f.t -->"), ("q.t", "<!--@ include f.t -->")] []

/--
Two files include the target, each one is included by another one, and these two have the same key.
Then the one that is met first is found alone.
-/
theorem mayAnswer_of_first {q r r' : Path} (hblank : (Text.trim name.toList).isEmpty = false)
    (hname : (Path.ofString name).key t.cwd = goal)
    (hbuild : (x.build t breaksDown).1 = .ok index)
    (hgoal : (includers index goal).Perm [p, q]) (hp : includers index (p.key t.cwd) = [r])
    (hq : includers index (q.key t.cwd) = [r']) (hr : includers index (r.key t.cwd) = [])
    (hsame : r'.key t.cwd = r.key t.cwd)
    (hkeys : [goal, p.key t.cwd, q.key t.cwd, r.key t.cwd].Nodup)
    (hnew : r ∉ includers index goal) :
    MayAnswer x t breaksDown name (.ok (includers index goal ++ [r])) := by
  simp only [List.nodup_cons, List.mem_cons, List.not_mem_nil, or_false, not_or] at hkeys
  obtain ⟨⟨hgp, hgq, hgr⟩, ⟨hpq, hpr⟩, hqr, _⟩ := hkeys
  have hstart : Search.Reached t.cwd index goal ⟨[goal], includers index goal, [p, q]⟩ :=
    .start hgoal.symm
  have hfirst : Search.Reached t.cwd index goal
      ⟨[p.key t.cwd, goal], includers index goal ++ [r], [r, q]⟩ := by
    have hstep := hstart.step (.visit (by simpa using Ne.symm hgp) (by rw [hp]) rfl)
    simpa [hp, Ne.symm hpr, Ne.symm hgr, hnew] using hstep
  have hsecond : Search.Reached t.cwd index goal
      ⟨[r.key t.cwd, p.key t.cwd, goal], includers index goal ++ [r], [q]⟩ := by
    have hstep := hfirst.step (.visit (by simpa using ⟨Ne.symm hpr, Ne.symm hgr⟩) (by rw [hr]) rfl)
    simpa using hstep
  have hlast : Search.Reached t.cwd index goal
      ⟨[q.key t.cwd, r.key t.cwd, p.key t.cwd, goal], includers index goal ++ [r], []⟩ := by
    have hstep := hsecond.step (.visit
      (by simpa using ⟨hqr, Ne.symm hpq, Ne.symm hgq⟩) (by rw [hq]) rfl)
    simpa [hsame] using hstep
  subst hname
  refine .found hblank hbuild hlast rfl fun f => ⟨fun hf => ⟨hf, ?_⟩, fun hf => hf.1⟩
  rcases List.mem_append.mp hf with hf | hf
  · rcases List.mem_cons.mp (hgoal.mem_iff.mp hf) with rfl | hf
    · exact Ne.symm hgp
    · rw [List.mem_singleton.mp hf]
      exact Ne.symm hgq
  · rw [List.mem_singleton.mp hf]
    exact Ne.symm hgr

/-- **Answers can differ.** Of the two files of that site, each is found alone in some order. -/
theorem answers_can_differ :
    ∃ found found', MayAnswer siteIndex forkedSite (fun _ => none) "/w/f.t" (.ok found) ∧
      MayAnswer siteIndex forkedSite (fun _ => none) "/w/f.t" (.ok found') ∧
      (sitePath ["a.t"] ∈ found ∧ sitePath ["A.t"] ∉ found) ∧
      (sitePath ["A.t"] ∈ found' ∧ sitePath ["a.t"] ∉ found') := by
  have hfiles : siteIndex.monitoredFiles forkedSite = .ok [sitePath ["A.t"], sitePath ["a.t"],
      sitePath ["f.t"], sitePath ["p.t"], sitePath ["q.t"]] :=
    (monitoredFiles_of_sorted rfl rfl (by decide +kernel)).trans
      (congrArg Except.ok (by decide +kernel))
  let index : Includers := [("/w/q.t", [sitePath ["A.t"]]), ("/w/p.t", [sitePath ["a.t"]]),
    ("/w/f.t", [sitePath ["p.t"], sitePath ["q.t"]])]
  have hbuild : (siteIndex.build forkedSite fun _ => none).1 = .ok index := by
    obtain ⟨log, hbuild⟩ := build_eq hfiles
    rw [hbuild]
    exact congrArg Except.ok (by decide +kernel)
  have hA : (sitePath ["A.t"]).key forkedSite.cwd = "/w/a.t" := by decide +kernel
  have ha : (sitePath ["a.t"]).key forkedSite.cwd = "/w/a.t" := by decide +kernel
  have hp : (sitePath ["p.t"]).key forkedSite.cwd = "/w/p.t" := by decide +kernel
  have hq : (sitePath ["q.t"]).key forkedSite.cwd = "/w/q.t" := by decide +kernel
  have hf : (Path.ofString "/w/f.t").key forkedSite.cwd = "/w/f.t" := by decide +kernel
  have hblank : (Text.trim "/w/f.t".toList).isEmpty = false := by decide +kernel
  have hdirect : includers index "/w/f.t" = [sitePath ["p.t"], sitePath ["q.t"]] := by decide
  have hfirst : MayAnswer siteIndex forkedSite (fun _ => none) "/w/f.t"
      (.ok (includers index "/w/f.t" ++ [sitePath ["a.t"]])) :=
    @mayAnswer_of_first _ _ _ _ _ _ (sitePath ["p.t"]) (sitePath ["q.t"]) _ (sitePath ["A.t"])
      hblank hf hbuild (by rw [hdirect]) (by rw [hp]; decide) (by rw [hq]; decide)
      (by rw [ha]; decide) (hA.trans ha.symm) (by rw [hp, hq, ha]; decide) (by rw [hdirect]; decide)
  have hsecond : MayAnswer siteIndex forkedSite (fun _ => none) "/w/f.t"
      (.ok (includers index "/w/f.t" ++ [sitePath ["A.t"]])) :=
    @mayAnswer_of_first _ _ _ _ _ _ (sitePath ["q.t"]) (sitePath ["p.t"]) _ (sitePath ["a.t"])
      hblank hf hbuild (by rw [hdirect]; exact .swap _ _ _) (by rw [hq]; decide)
      (by rw [hp]; decide) (by rw [hA]; decide) (ha.trans hA.symm) (by rw [hp, hq, hA]; decide)
      (by rw [hdirect]; decide)
  refine ⟨_, _, hfirst, hsecond, ?_, ?_⟩
  · rw [hdirect]
    decide
  · rw [hdirect]
    decide

end LiveTemplates.ReferenceIndex
