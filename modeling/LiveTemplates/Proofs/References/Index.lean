import LiveTemplates.Proofs.References.Inclusion
import LiveTemplates.References

/-!
# What an index holds

An index knows each monitored file as an includer of the files that its text refers to
(`mem_includers_indexOf`). In a clean text these are the files of all includes that stand in it
(`FileTree.mem_includedPaths_of_seamless`).
-/

namespace LiveTemplates

namespace ReferenceIndex

/-! ## Monitored files -/

section Monitored

variable {x : ReferenceIndex} {t : FileTree} {files : List Path} {p : Path}

/-- Where the monitored files come from. -/
theorem exists_candidates (h : x.monitoredFiles t = .ok files) :
    ∃ ps, x.candidates t = .ok ps ∧ x.monitoredAmong t ps = (files, none) := by
  unfold monitoredFiles at h
  split at h
  · cases h
  · next ps hps =>
    split at h
    · cases h
    · next files' hamong =>
      cases h
      exact ⟨ps, hps, hamong⟩

/-- What there is to choose from stands below the root. -/
theorem exists_below_of_candidates {ps : List Path} (h : x.candidates t = .ok ps) (hp : p ∈ ps) :
    ∃ place, p ∈ t.below x.root place := by
  unfold candidates at h
  split at h
  · cases h
  · cases h
    cases hp
  · split at h
    · cases h
      cases hp
    · next place _ =>
      split at h
      · cases h
      · cases h
        exact ⟨place, List.mem_mergeSort.mp hp⟩

/-- What it takes to be selected. -/
theorem selects_iff : x.selects t p = true ↔ t.isFile p = .ok true ∧
    ((p.below? x.root).getD p).isIgnored x.ignorePatterns = false ∧
    ∃ extension ∈ x.extensions, p.hasExtension extension = true := by
  unfold selects admits
  cases hfile : t.isFile p with
  | error e => simp [Except.toOption]
  | ok found => cases found <;> simp [Except.toOption]

/-- The monitored files are files that stand below the root. -/
theorem mem_monitoredFiles (h : x.monitoredFiles t = .ok files) (hp : p ∈ files) :
    t.isFile p = .ok true ∧ ∃ place, p ∈ t.below x.root place := by
  obtain ⟨ps, hps, hamong⟩ := exists_candidates h
  obtain ⟨rfl, _⟩ := Prod.mk.inj hamong
  obtain ⟨hmem, hselects⟩ := List.mem_filter.mp hp
  exact ⟨(selects_iff.mp hselects).1,
    exists_below_of_candidates hps ((List.takeWhile_sublist _).mem hmem)⟩

/-- In a proper tree the last name of a monitored file is not two dots. -/
theorem getLast?_of_mem_monitoredFiles (ht : t.Proper) (h : x.monitoredFiles t = .ok files)
    (hp : p ∈ files) : ∃ n, p.names.getLast? = some n ∧ n ≠ ".." := by
  obtain ⟨_, place, hbelow⟩ := mem_monitoredFiles h hp
  obtain ⟨⟨q, entry⟩, hmem, hq⟩ := List.mem_filterMap.mp hbelow
  dsimp only at hq
  split at hq
  · next hprefix =>
    cases hq
    obtain ⟨⟨below, rfl⟩, hne⟩ := hprefix
    have hdots : ".." ∉ place ++ below := ht.entries _ hmem
    rcases List.eq_nil_or_concat below with rfl | ⟨names, n, rfl⟩
    · simp at hne
    · refine ⟨n, by simp, ?_⟩
      rintro rfl
      simp at hdots
  · cases hq

/-- What is below the root is listed in the order of paths if no directory is refused. -/
theorem candidates_eq {place : Place} (hdirectory : t.isDirectory x.root = .ok true)
    (hfind : t.find x.root = .ok place)
    (hlisted : (t.directoriesBelow x.root place).findSome? t.refusal? = none) :
    x.candidates t = .ok (Path.sort (t.below x.root place)) := by
  rw [candidates, hdirectory]
  dsimp only
  rw [hfind]
  dsimp only
  rw [hlisted]

/-- What is below the root is monitored in its order if it is in the order of paths. -/
theorem monitoredFiles_of_sorted {place : Place} (hdirectory : t.isDirectory x.root = .ok true)
    (hfind : t.find x.root = .ok place)
    (hsorted : ((t.below x.root place).Pairwise fun p q => Path.le p q = true) ∧
      (t.directoriesBelow x.root place).findSome? t.refusal? = none ∧
      (t.below x.root place).findSome? t.refusal? = none) :
    x.monitoredFiles t = .ok ((t.below x.root place).filter (x.selects t)) := by
  obtain ⟨hsorted, hlisted, hrefused⟩ := hsorted
  have hcandidates := candidates_eq hdirectory hfind hlisted
  rw [Path.sort, List.mergeSort_of_pairwise hsorted] at hcandidates
  have hall : ∀ p ∈ t.below x.root place, (t.refusal? p).isNone = true := fun p hp =>
    Option.isNone_iff_eq_none.mpr (List.findSome?_eq_none_iff.mp hrefused p hp)
  rw [monitoredFiles, hcandidates]
  dsimp only
  rw [monitoredAmong, hrefused, List.takeWhile_eq_self_iff.mpr hall]

end Monitored

/-! ## Includers -/

/-- One more includer for a key is put behind those of the key, unless it is among them. -/
theorem includers_addIncluder (key : String) (p : Path) (index : Includers) (k : String) :
    includers (addIncluder key p index) k
      = if k = key ∧ p ∉ includers index k then includers index k ++ [p]
        else includers index k := by
  unfold includers
  induction index with
  | nil =>
    by_cases hk : k = key
    · simp [addIncluder, hk]
    · have hbeq : (k == key) = false := by simpa using hk
      simp [addIncluder, List.lookup_cons, hk, hbeq]
  | cons entry index ih =>
    obtain ⟨k', ps⟩ := entry
    by_cases hk : k = k'
    · subst hk
      by_cases hkey : k = key
      · by_cases hp : p ∈ ps <;> simp [addIncluder, hkey, hp]
      · simp [addIncluder, hkey]
    · have hbeq : (k == k') = false := by simpa using hk
      by_cases hkey : k' = key
      · have hne : k ≠ key := fun h => hk (h.trans hkey.symm)
        simp [addIncluder, List.lookup_cons, hkey, hne, show (k == key) = false by simpa using hne]
      · simp only [addIncluder, List.lookup_cons, beq_iff_eq, hkey, hbeq, if_false]
        exact ih

/-- An includer of a key was added for it, or it was one before. -/
theorem mem_includers_addIncluder {key k : String} {p q : Path} {index : Includers} :
    q ∈ includers (addIncluder key p index) k ↔ (k = key ∧ q = p) ∨ q ∈ includers index k := by
  rw [includers_addIncluder]
  by_cases hadd : k = key ∧ p ∉ includers index k
  · rw [if_pos hadd, List.mem_append, List.mem_singleton]
    constructor
    · rintro (h | h)
      · exact Or.inr h
      · exact Or.inl ⟨hadd.1, h⟩
    · rintro (⟨_, h⟩ | h)
      · exact Or.inr h
      · exact Or.inl h
  · rw [if_neg hadd]
    constructor
    · exact Or.inr
    · rintro (⟨hk, rfl⟩ | h)
      · exact Decidable.not_not.mp fun hmem => hadd ⟨hk, hmem⟩
      · exact h

/-- An includer of a key was added for a target of the key, or it was one before. -/
theorem mem_includers_foldl_targets {cwd p p' : Path} {qs : List Path} {index : Includers}
    {k : String} :
    p' ∈ includers (qs.foldl (fun index q => addIncluder (q.key cwd) p index) index) k ↔
      (p' = p ∧ ∃ q ∈ qs, q.key cwd = k) ∨ p' ∈ includers index k := by
  induction qs generalizing index with
  | nil => simp
  | cons q qs ih =>
    rw [List.foldl_cons, ih, mem_includers_addIncluder]
    constructor
    · rintro (⟨hp, q', hq', hk⟩ | ⟨rfl, hp⟩ | h)
      · exact Or.inl ⟨hp, q', List.mem_cons_of_mem _ hq', hk⟩
      · exact Or.inl ⟨hp, q, List.mem_cons_self, rfl⟩
      · exact Or.inr h
    · rintro (⟨hp, q', hq', hk⟩ | h)
      · rcases List.mem_cons.mp hq' with rfl | hq'
        · exact Or.inr (Or.inl ⟨hk.symm, hp⟩)
        · exact Or.inl ⟨hp, q', hq', hk⟩
      · exact Or.inr (Or.inr h)

/-- **The includers of a key are the files with a target of the key.** -/
theorem mem_includers_includersOf {cwd : Path} {targets : Path → List Path} {files : List Path}
    {p : Path} {k : String} :
    p ∈ includers (includersOf cwd targets files) k ↔
      p ∈ files ∧ ∃ q ∈ targets p, q.key cwd = k := by
  have hfold : ∀ (index : Includers),
      p ∈ includers (files.foldl (fun index p => (targets p).foldl
        (fun index q => addIncluder (q.key cwd) p index) index) index) k ↔
      (p ∈ files ∧ ∃ q ∈ targets p, q.key cwd = k) ∨ p ∈ includers index k := by
    induction files with
    | nil => simp
    | cons p' files ih =>
      intro index
      rw [List.foldl_cons, ih, mem_includers_foldl_targets, List.mem_cons]
      constructor
      · rintro (⟨hp, h⟩ | ⟨rfl, h⟩ | h)
        · exact Or.inl ⟨Or.inr hp, h⟩
        · exact Or.inl ⟨Or.inl rfl, h⟩
        · exact Or.inr h
      · rintro (⟨rfl | hp, h⟩ | h)
        · exact Or.inr (Or.inl ⟨rfl, h⟩)
        · exact Or.inl ⟨hp, h⟩
        · exact Or.inr (Or.inr h)
  have hnil : p ∉ includers [] k := by simp [includers]
  exact (hfold []).trans (or_iff_left hnil)

/-- The index of a tree. -/
def indexOf (t : FileTree) (files : List Path) : Includers :=
  includersOf t.cwd (fun p => (resolvedIncludes t p).1) files

section Build

variable {x : ReferenceIndex} {t : FileTree} {files : List Path}

/-- Where reading tags breaks down for no file, no file breaks the building of an index. -/
theorem findSome?_of_unbroken (t : FileTree) (files : List Path) :
    files.findSome? (fun p => if (t.readText p).isOk then (none : Option String) else none)
      = none :=
  List.findSome?_eq_none_iff.mpr fun p _ => by simp

/-- An index is built from the monitored files. -/
theorem build_eq (h : x.monitoredFiles t = .ok files) :
    ∃ log, x.build t (fun _ => none) = (.ok (indexOf t files), log) := by
  obtain ⟨ps, hps, hamong⟩ := exists_candidates h
  unfold build
  rw [hps]
  dsimp only
  rw [hamong]
  dsimp only
  rw [findSome?_of_unbroken]
  exact ⟨_, rfl⟩

/-- Where the monitored files cannot be listed, no index is built. -/
theorem build_error {e : FileError} (h : x.monitoredFiles t = .error e) :
    ∃ log, x.build t (fun _ => none) = (.error (.file e), log) := by
  unfold monitoredFiles at h
  unfold build
  split at h
  · cases h
    exact ⟨[], rfl⟩
  · split at h
    · next files e' hamong =>
      cases h
      dsimp only
      rw [findSome?_of_unbroken, hamong]
      exact ⟨_, rfl⟩
    · cases h

/-- An index that is built is that of the monitored files. -/
theorem exists_monitoredFiles_of_build {breaksDown : Path → Option String} {index : Includers}
    (h : (x.build t breaksDown).1 = .ok index) :
    ∃ files, x.monitoredFiles t = .ok files ∧ index = indexOf t files := by
  unfold build at h
  unfold monitoredFiles
  cases hps : x.candidates t with
  | error e => simp [hps] at h
  | ok ps =>
    rw [hps] at h
    cases hamong : x.monitoredAmong t ps with
    | mk files refused =>
      simp only [hamong] at h ⊢
      split at h
      · simp at h
      · simp at h
      · exact ⟨files, rfl, by simpa [indexOf] using h.symm⟩

end Build

theorem perm_sort (ps : List Path) : (Path.sort ps).Perm ps :=
  List.mergeSort_perm ps Path.le

/-- The dependents of a named file, where nothing goes wrong. -/
theorem findDependents_eq {x : ReferenceIndex} {t : FileTree} {files : List Path} {name : String}
    (hfiles : x.monitoredFiles t = .ok files) (hblank : (Text.trim name.toList).isEmpty = false) :
    ∃ log, x.findDependents t (fun _ => none) true name
      = (.ok (Path.sort (dependentsOf t.cwd Path.sort (indexOf t files) true
          ((Path.ofString name).key t.cwd))), log) := by
  obtain ⟨log, hbuild⟩ := build_eq hfiles
  unfold findDependents
  rw [hblank, if_neg (by simp), hbuild]
  dsimp only
  split
  · next hempty =>
    rw [List.isEmpty_iff.mp hempty]
    exact ⟨log, by simp [Path.sort]⟩
  · exact ⟨_, rfl⟩

/-- Where the monitored files cannot be listed, there is no answer for a named file. -/
theorem findDependents_error {x : ReferenceIndex} {t : FileTree} {e : FileError} {name : String}
    (h : x.monitoredFiles t = .error e) (hblank : (Text.trim name.toList).isEmpty = false) :
    ∃ log, x.findDependents t (fun _ => none) true name = (.error (.file e), log) := by
  obtain ⟨log, hbuild⟩ := build_error h
  unfold findDependents
  rw [hblank, if_neg (by simp), hbuild]
  exact ⟨log, rfl⟩

/-- **A monitored file is an includer of what the includes in its clean text refer to.** -/
theorem mem_includers_indexOf {t : FileTree} {files : List Path} {p target : Path}
    {text : List Char} {tag : Tag} (hp : p ∈ files) (hread : t.readText p = .ok text)
    (hclean : Tag.Clean text) (htag : tag ∈ Tag.scan text) (hinclude : tag.isInclude = true)
    (htarget : t.includedFile? p tag.argument = some target) :
    p ∈ includers (indexOf t files) (target.key t.cwd) := by
  refine mem_includers_includersOf.mpr ⟨hp, target, ?_, rfl⟩
  rw [resolvedIncludes, hread]
  exact (FileTree.mem_includedPaths_of_seamless hclean.seamless).mpr
    ⟨tag, htag, hinclude, htarget⟩

end ReferenceIndex

end LiveTemplates
