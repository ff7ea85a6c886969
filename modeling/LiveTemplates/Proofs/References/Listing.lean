import Mathlib.Data.List.Nodup
import LiveTemplates.Proofs.Path.Order
import LiveTemplates.Proofs.References.Index
import LiveTemplates.Proofs.References.Search

/-!
# How dependents are listed

Whatever is asked for, the dependents of a file are listed in the order of paths, each of them once,
and the file itself is not among them (`listed_findDependents`).
-/

namespace LiveTemplates.ReferenceIndex

variable {cwd : Path} {arrange : List Path → List Path} {index : Includers} {target : String}
  {visited : List String} {found frontier : List Path}

/-! ## Each of them once -/

theorem nodup_includers_nil (k : String) : (includers [] k).Nodup :=
  List.nodup_nil

theorem nodup_addIncluder (h : ∀ k, (includers index k).Nodup) (key : String) (p : Path) (k : String) :
    (includers (addIncluder key p index) k).Nodup := by
  rw [includers_addIncluder]
  by_cases hadd : k = key ∧ p ∉ includers index k
  · rw [if_pos hadd, List.nodup_append]
    refine ⟨h k, List.nodup_singleton p, ?_⟩
    rintro q hq q' hq' rfl
    obtain rfl := List.mem_singleton.mp hq'
    exact hadd.2 hq
  · rw [if_neg hadd]
    exact h k

/-- No file is an includer of a key twice. -/
theorem nodup_includersOf (cwd : Path) (targets : Path → List Path) (files : List Path) (k : String) :
    (includers (includersOf cwd targets files) k).Nodup := by
  have htargets : ∀ p (qs : List Path) (index : Includers), (∀ k, (includers index k).Nodup) →
      ∀ k, (includers (qs.foldl (fun index q => addIncluder (q.key cwd) p index) index) k).Nodup := by
    intro p qs
    induction qs with
    | nil => exact fun _ h => h
    | cons q qs ih => exact fun index h => ih _ (nodup_addIncluder h _ p)
  have hfiles : ∀ (index : Includers), (∀ k, (includers index k).Nodup) →
      ∀ k, (includers (files.foldl (fun index p => (targets p).foldl
        (fun index q => addIncluder (q.key cwd) p index) index) index) k).Nodup := by
    induction files with
    | nil => exact fun _ h => h
    | cons p files ih => exact fun index h => ih _ (htargets p _ _ h)
  exact hfiles [] nodup_includers_nil k

/-- The search finds no file twice. -/
theorem nodup_search (harrange : ∀ ps, (arrange ps).Perm ps) (hindex : ∀ k, (includers index k).Nodup)
    (hfound : found.Nodup) : (search cwd arrange index visited found frontier).Nodup := by
  fun_induction search cwd arrange index visited found frontier with
  | case1 visited found => exact hfound
  | case2 visited found p frontier key hkey ih => exact ih hfound
  | case3 visited found p frontier key hkey hnone ih => exact ih hfound
  | case4 visited found p frontier key hkey hsome fresh ih =>
    have hfresh : fresh.Nodup := ((harrange _).nodup_iff.mpr (hindex key)).filter _
    refine ih (List.nodup_append.mpr ⟨hfound, hfresh.filter _, ?_⟩)
    rintro q hq q' hq' rfl
    simpa [hq] using (List.mem_filter.mp hq').2

theorem nodup_dependentsOf (harrange : ∀ ps, (arrange ps).Perm ps)
    (hindex : ∀ k, (includers index k).Nodup) (transitive : Bool) (target : String) :
    (dependentsOf cwd arrange index transitive target).Nodup := by
  unfold dependentsOf
  refine List.Nodup.filter _ ?_
  by_cases htransitive : transitive = true
  · rw [if_pos htransitive]
    exact nodup_search harrange hindex (hindex target)
  · rw [if_neg htransitive]
    exact hindex target

/-! ## The list -/

/-- **Dependents are listed in order, each once, without the file itself.** -/
theorem listed_findDependents {x : ReferenceIndex} {t : FileTree}
    {breaksDown : Path → Option String} {transitive : Bool} {name : String} {ps : List Path}
    (h : (x.findDependents t breaksDown transitive name).1 = .ok ps) :
    (ps.Pairwise fun p q => Path.le p q = true) ∧ ps.Nodup ∧
      ∀ p ∈ ps, p.key t.cwd ≠ (Path.ofString name).key t.cwd := by
  have hnone : (([] : List Path).Pairwise fun p q => Path.le p q = true) ∧ ([] : List Path).Nodup ∧
      ∀ p ∈ ([] : List Path), p.key t.cwd ≠ (Path.ofString name).key t.cwd :=
    ⟨.nil, .nil, fun _ h => nomatch h⟩
  unfold findDependents at h
  split at h
  · cases h
    exact hnone
  · split at h
    · cases h
    · next index log hbuild =>
      obtain ⟨files, -, rfl⟩ := exists_monitoredFiles_of_build (congrArg Prod.fst hbuild)
      dsimp only at h
      split at h
      · cases h
        exact hnone
      · cases h
        refine ⟨Path.pairwise_sort _, ?_, fun p hp => ?_⟩
        · rw [(perm_sort _).nodup_iff]
          exact nodup_dependentsOf perm_sort (nodup_includersOf _ _ _) _ _
        · have hmem := (List.mem_filter.mp ((perm_sort _).mem_iff.mp hp)).2
          simpa using hmem

end LiveTemplates.ReferenceIndex
