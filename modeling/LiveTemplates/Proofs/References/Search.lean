import LiveTemplates.References

/-!
# The search for dependents is complete

Every key that is reached by going from included files to including ones is the key of a file that
is found (`exists_mem_dependentsOf`), in whatever order the includers of a file are followed.

A file is passed over if a file of the same key was visited before. So of several files whose paths
differ only in case, only one needs to be found.
-/

namespace LiveTemplates.ReferenceIndex

/-- The keys that are reached from a key by going from included files to including ones. -/
inductive Reaches (cwd : Path) (index : Includers) (target : String) : String → Prop
  | refl : Reaches cwd index target target
  | step {k : String} {p : Path} (hk : Reaches cwd index target k) (hp : p ∈ includers index k) :
      Reaches cwd index target (p.key cwd)

/-- **The invariant of the search.** -/
structure Explores (cwd : Path) (index : Includers) (target : String) (visited : List String)
    (found frontier : List Path) : Prop where
  /-- What is to be visited is found already. -/
  pending : ∀ p ∈ frontier, p ∈ found
  /-- What was visited is found, but for the target. -/
  known : ∀ k ∈ visited, k = target ∨ ∃ p ∈ found, p.key cwd = k
  /-- The includers of what was visited were visited, or they are still to be visited. -/
  followed : ∀ k ∈ visited, ∀ p ∈ includers index k,
    p.key cwd ∈ visited ∨ ∃ q ∈ frontier, q.key cwd = p.key cwd

variable {cwd : Path} {arrange : List Path → List Path} {index : Includers} {target : String}
  {visited : List String} {found frontier : List Path} {p : Path}

/-- The search starts with the direct includers of the target. -/
theorem explores_start (hfrontier : ∀ p, p ∈ frontier ↔ p ∈ includers index target) :
    Explores cwd index target [target] (includers index target) frontier where
  pending p hp := (hfrontier p).mp hp
  known k hk := Or.inl (List.mem_singleton.mp hk)
  followed k hk p hp := by
    obtain rfl := List.mem_singleton.mp hk
    exact Or.inr ⟨p, (hfrontier p).mpr hp, rfl⟩

/-- A file whose key was visited needs no visit. -/
theorem Explores.skip (h : Explores cwd index target visited found (p :: frontier))
    (hkey : p.key cwd ∈ visited) : Explores cwd index target visited found frontier where
  pending q hq := h.pending q (List.mem_cons_of_mem _ hq)
  known := h.known
  followed k hk q hq := by
    rcases h.followed k hk q hq with hq | ⟨r, hr, hkr⟩
    · exact Or.inl hq
    · rcases List.mem_cons.mp hr with rfl | hr
      · exact Or.inl (hkr ▸ hkey)
      · exact Or.inr ⟨r, hr, hkr⟩

/-- A visit finds the includers of a file, and those with new keys are to be visited. -/
theorem Explores.visit (h : Explores cwd index target visited found (p :: frontier))
    {fresh : List Path}
    (hfresh : ∀ q ∈ includers index (p.key cwd),
      q.key cwd ∈ p.key cwd :: visited ∨ q ∈ fresh) :
    Explores cwd index target (p.key cwd :: visited)
      (found ++ fresh.filter fun q => !found.contains q) (fresh.reverse ++ frontier) where
  pending q hq := by
    rcases List.mem_append.mp hq with hq | hq
    · by_cases hmem : q ∈ found
      · exact List.mem_append_left _ hmem
      · refine List.mem_append_right _ (List.mem_filter.mpr ⟨List.mem_reverse.mp hq, ?_⟩)
        simpa using hmem
    · exact List.mem_append_left _ (h.pending q (List.mem_cons_of_mem _ hq))
  known k hk := by
    rcases List.mem_cons.mp hk with rfl | hk
    · exact Or.inr ⟨p, List.mem_append_left _ (h.pending p List.mem_cons_self), rfl⟩
    · rcases h.known k hk with hk | ⟨q, hq, hkq⟩
      · exact Or.inl hk
      · exact Or.inr ⟨q, List.mem_append_left _ hq, hkq⟩
  followed k hk q hq := by
    rcases List.mem_cons.mp hk with rfl | hk
    · rcases hfresh q hq with hq | hq
      · exact Or.inl hq
      · exact Or.inr ⟨q, List.mem_append_left _ (List.mem_reverse.mpr hq), rfl⟩
    · rcases h.followed k hk q hq with hq | ⟨r, hr, hkr⟩
      · exact Or.inl (List.mem_cons_of_mem _ hq)
      · rcases List.mem_cons.mp hr with rfl | hr
        · exact Or.inl (hkr ▸ List.mem_cons_self)
        · exact Or.inr ⟨r, List.mem_append_right _ hr, hkr⟩

/-- At the end of the search the visited keys are closed under includers, and found. -/
theorem Explores.closed (harrange : ∀ ps, ∀ p ∈ ps, p ∈ arrange ps)
    (h : Explores cwd index target visited found frontier) :
    ∃ all : List String, visited ⊆ all ∧
      (∀ k ∈ all, k = target ∨
        ∃ p ∈ search cwd arrange index visited found frontier, p.key cwd = k) ∧
      ∀ k ∈ all, ∀ p ∈ includers index k, p.key cwd ∈ all := by
  fun_induction search cwd arrange index visited found frontier with
  | case1 visited found =>
    refine ⟨visited, fun _ h => h, h.known, fun k hk p hp => ?_⟩
    rcases h.followed k hk p hp with hp | ⟨q, hq, _⟩
    · exact hp
    · cases hq
  | case2 visited found p frontier key hkey ih => exact ih (h.skip (by simpa using hkey))
  | case3 visited found p frontier key hkey hnone ih =>
    -- a visit of a file without includers is one with nothing fresh
    have hvisit := @Explores.visit cwd index target visited found frontier p h [] fun q hq => by
      rw [hnone] at hq
      cases hq
    obtain ⟨all, hall, hclosed⟩ := ih (by simpa using hvisit)
    exact ⟨all, fun k hk => hall (List.mem_cons_of_mem _ hk), hclosed⟩
  | case4 visited found p frontier key hkey hsome fresh ih =>
    have hfresh : ∀ q ∈ includers index key, q.key cwd ∈ key :: visited ∨ q ∈ fresh := by
      intro q hq
      by_cases hmem : q.key cwd ∈ key :: visited
      · exact Or.inl hmem
      · exact Or.inr (List.mem_filter.mpr ⟨harrange _ q hq, by simpa using hmem⟩)
    obtain ⟨all, hall, hclosed⟩ := ih (h.visit hfresh)
    exact ⟨all, fun k hk => hall (List.mem_cons_of_mem _ hk), hclosed⟩

/-- What the search finds was found before or is an includer. -/
theorem mem_of_mem_search (harrange : ∀ ps, ∀ p ∈ arrange ps, p ∈ ps)
    (hp : p ∈ search cwd arrange index visited found frontier) :
    p ∈ found ∨ ∃ k, p ∈ includers index k := by
  fun_induction search cwd arrange index visited found frontier with
  | case1 visited found => exact Or.inl hp
  | case2 visited found q frontier key hkey ih => exact ih hp
  | case3 visited found q frontier key hkey hnone ih => exact ih hp
  | case4 visited found q frontier key hkey hsome fresh ih =>
    rcases ih hp with hp | hp
    · rcases List.mem_append.mp hp with hp | hp
      · exact Or.inl hp
      · have hfresh := (List.mem_filter.mp hp).1
        exact Or.inr ⟨key, harrange _ _ (List.mem_filter.mp hfresh).1⟩
    · exact Or.inr hp

/-! ## Dependents -/

/--
**Every key that is reached from the target is found**, the target itself apart. Nothing is assumed
of the order in which includers are followed.
-/
theorem exists_mem_dependentsOf {k : String} (harrange : ∀ ps, (arrange ps).Perm ps)
    (hk : Reaches cwd index target k) (hne : k ≠ target) :
    ∃ p ∈ dependentsOf cwd arrange index true target, p.key cwd = k := by
  have hstart : Explores cwd index target [target] (includers index target)
      (arrange (includers index target)).reverse :=
    explores_start fun p => by rw [List.mem_reverse, (harrange _).mem_iff]
  obtain ⟨all, hall, hfound, hclosed⟩ :=
    hstart.closed fun ps p hp => (harrange ps).mem_iff.mpr hp
  have hmem : ∀ k, Reaches cwd index target k → k ∈ all := by
    intro k hk
    induction hk with
    | refl => exact hall List.mem_cons_self
    | step hk hp ih => exact hclosed _ ih _ hp
  rcases hfound k (hmem k hk) with hk | ⟨p, hp, hkey⟩
  · exact absurd hk hne
  · refine ⟨p, List.mem_filter.mpr ⟨hp, ?_⟩, hkey⟩
    simpa [hkey] using hne

/-- A file that is not included has no dependents. -/
theorem dependentsOf_eq_nil (harrange : ∀ ps, (arrange ps).Perm ps)
    (h : includers index target = []) : dependentsOf cwd arrange index true target = [] := by
  have hnil : arrange [] = [] := List.perm_nil.mp (harrange [])
  simp [dependentsOf, h, hnil, search]

/-- Every dependent is an includer of some file. -/
theorem exists_includers_of_mem_dependentsOf (harrange : ∀ ps, (arrange ps).Perm ps)
    (hp : p ∈ dependentsOf cwd arrange index true target) : ∃ k, p ∈ includers index k := by
  have hsearch := (List.mem_filter.mp hp).1
  rcases mem_of_mem_search (fun ps q hq => (harrange ps).mem_iff.mp hq) hsearch with hp | hp
  · exact ⟨target, hp⟩
  · exact hp

end LiveTemplates.ReferenceIndex
