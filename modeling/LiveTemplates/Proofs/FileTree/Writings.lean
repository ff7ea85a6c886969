import LiveTemplates.Proofs.FileTree.Repetition

/-!
# What writing does to a tree

To write a content to some paths puts a file with it where each of them leads, and changes nothing
else but that directories may come into being on the way to these paths (`Writings`). A path that
could not be written may leave such directories behind. So files are where the paths that were
written lead, and new directories are on the way to the paths that were tried.
-/

namespace LiveTemplates.FileTree

variable {t₀ t t' : FileTree} {p o : Path} {q : Place} {content : ByteArray}
  {written tried : List Path}

/-- Where a path leads in a tree, as its absolute path says. -/
def placeOf (t : FileTree) (p : Path) : Place :=
  (p.absolute t.cwd).names

/-- A place that had no entry is a directory on the way to a path. -/
structure NewDirectory (t₀ t : FileTree) (p : Path) (q : Place) : Prop where
  none : t₀.entry? q = none
  directory : t.entry? q = some .directory
  above : ∃ above : Path, above.IsAbove p ∧ q = t₀.placeOf above

/-- A content was written to some paths, of those that were tried. -/
structure Writings (t₀ t : FileTree) (content : ByteArray) (written tried : List Path) : Prop where
  workingDirectory : t.workingDirectory = t₀.workingDirectory
  holds : ∀ o ∈ written, t.Holds o (t₀.placeOf o) content
  entry : ∀ q, (∀ o ∈ written, q ≠ t₀.placeOf o) →
    t.entry? q = t₀.entry? q ∨ ∃ o ∈ tried, NewDirectory t₀ t o q

namespace Writings

theorem refl (t : FileTree) (content : ByteArray) : Writings t t content [] [] :=
  ⟨rfl, by simp, fun _ _ => Or.inl rfl⟩

/-- More paths may be tried. -/
theorem mono {tried' : List Path} (h : Writings t₀ t content written tried)
    (htried : tried ⊆ tried') : Writings t₀ t content written tried' := by
  refine ⟨h.workingDirectory, h.holds, fun q hq => ?_⟩
  rcases h.entry q hq with heq | ⟨o, ho, hnew⟩
  · exact Or.inl heq
  · exact Or.inr ⟨o, htried ho, hnew⟩

theorem placeOf_eq (h : Writings t₀ t content written tried) (p : Path) :
    t.placeOf p = t₀.placeOf p := by
  rw [placeOf, cwd, h.workingDirectory]
  rfl

/-- What is new where nothing was before was not there at first, unless it was written. -/
theorem entry_eq (h : Writings t₀ t content written tried) (hq : ∀ o ∈ written, q ≠ t₀.placeOf o)
    (hnone : t.entry? q = none) : t₀.entry? q = none := by
  rcases h.entry q hq with heq | ⟨o, _, hnew⟩
  · rw [← heq, hnone]
  · rw [hnew.directory] at hnone
    cases hnone

/-- A directory is made on the way to a path. -/
theorem makeDirectory (hcwd : ".." ∉ t₀.workingDirectory)
    (h : Writings t₀ t content written tried) (ho : o ∈ tried) (hroot : p.root = o.root)
    (hnames : p.names <+: o.parent.names) (hmake : t.makeDirectory p = .ok t') :
    Writings t₀ t' content written tried := by
  have hkeeps := keeps_makeDirectory hmake
  obtain ⟨place, n, hlast, hnone, rfl⟩ := eq_put_of_makeDirectory hmake
  have hplace : place ++ [n] = t₀.placeOf p := by
    rw [← h.placeOf_eq]
    exact place_of_lastStep (h.workingDirectory ▸ hcwd) hlast
  have habove : p.IsAbove o := by
    refine ⟨hroot, hnames.trans (List.dropLast_prefix _), fun heq => ?_⟩
    have hlength := hnames.length_le
    rw [Path.parent, ← heq, List.length_dropLast, (of_lastStep hlast).2.1] at hlength
    simp only [List.length_append, List.length_cons, List.length_nil] at hlength
    omega
  refine ⟨hkeeps.workingDirectory.trans h.workingDirectory, fun o ho => hkeeps.holds (h.holds o ho),
    fun q hq => ?_⟩
  by_cases heq : q = place ++ [n]
  · subst heq
    exact Or.inr ⟨o, ho, h.entry_eq hq hnone, entry_put_self _ (by simp), p, habove, hplace⟩
  · rcases h.entry q hq with hsame | ⟨o', ho', hnew⟩
    · exact Or.inl ((entry_put_of_ne _ heq).trans hsame)
    · exact Or.inr ⟨o', ho', hnew.none, (entry_put_of_ne _ heq).trans hnew.directory, hnew.above⟩

/-- **The directories of a path are made**, or only the first of them. -/
theorem ensureDirectory (hcwd : ".." ∉ t₀.workingDirectory)
    (h : Writings t₀ t content written tried) (ho : o ∈ tried) :
    Writings t₀ (t.ensureDirectory o.parent).1 content written tried := by
  suffices hway : ∀ p : Path, p.root = o.root → p.names <+: o.parent.names →
      Writings t₀ (t.ensureDirectory p).1 content written tried from
    hway o.parent rfl (List.prefix_refl _)
  intro p hroot hnames
  fun_induction FileTree.ensureDirectory t p with
  | case1 p t' hmake => exact h.makeDirectory hcwd ho hroot hnames hmake
  | case2 => exact h
  | case3 p _ _ t' e hparent ih =>
    have hrest := ih hroot ((List.dropLast_prefix _).trans hnames)
    simpa [hparent] using hrest
  | case4 p _ _ t' hparent t'' hmake ih =>
    have hrest := ih hroot ((List.dropLast_prefix _).trans hnames)
    rw [hparent] at hrest
    exact hrest.makeDirectory hcwd ho hroot hnames hmake
  | case5 p _ _ t' hparent k _ _ ih =>
    have hrest := ih hroot ((List.dropLast_prefix _).trans hnames)
    simpa [hparent] using hrest
  | case6 p _ _ t' hparent k _ _ ih =>
    have hrest := ih hroot ((List.dropLast_prefix _).trans hnames)
    simpa [hparent] using hrest
  | case7 => exact h
  | case8 => exact h

end Writings

/-- What was written to a path is found there. -/
theorem holds_of_write (hcwd : ".." ∉ t.workingDirectory) (h : t.write p content = .ok t') :
    t'.Holds p (t.placeOf p) content := by
  obtain ⟨hentry, heq⟩ : t.entry? (t.placeOf p) ≠ some .directory ∧
      t' = t.put (t.placeOf p) (.file content) := write_eq_put hcwd h
  have hfile : t'.entry? (t.placeOf p) = some (.file content) := by
    rw [heq]
    exact entry_put_self _ fun hnil => hentry (by rw [hnil]; rfl)
  have hdirectory : ∀ q, t.entry? q = some .directory → t'.entry? q = some .directory := by
    intro q hq
    have hne : q ≠ t.placeOf p := by
      rintro rfl
      exact hentry hq
    rw [heq, entry_put_of_ne _ hne, hq]
  refine ⟨?_, hfile⟩
  unfold FileTree.write at h
  split at h
  · cases h
  · cases h
  · next place n hlast =>
    -- the walk to the last name but one meets directories only
    obtain ⟨hsize, hnames, hfollow, hplace, hdots, hname⟩ := of_lastStep hlast
    have hstart : t'.startOf p = t.startOf p := by
      rw [startOf, startOf, heq, workingDirectory_put]
    have hfollow' : t'.follow (t.startOf p) p.parent.names = .ok place :=
      follow_of_directories hdirectory (by rw [hdirectory _ hplace, Option.isSome_some]) hfollow
    rw [find, if_neg hsize, hnames, hstart, follow_append_of_ok hfollow', follow,
      if_neg (Decidable.not_not.mpr (hdirectory _ hplace)), if_neg (by simpa using hdots),
      if_neg hname, show place ++ [n] = t.placeOf p from place_of_lastStep hcwd hlast, hfile]
    rfl

namespace Writings

/-- A path is written. -/
theorem write (hcwd : ".." ∉ t₀.workingDirectory) (h : Writings t₀ t content written tried)
    (hwrite : t.write o content = .ok t') :
    Writings t₀ t' content (written ++ [o]) tried := by
  have hcwd' : ".." ∉ t.workingDirectory := h.workingDirectory ▸ hcwd
  have hholds := holds_of_write hcwd' hwrite
  obtain ⟨hdirectory, rfl⟩ : t.entry? (t.placeOf o) ≠ some .directory ∧
      t' = t.put (t.placeOf o) (.file content) := write_eq_put hcwd' hwrite
  rw [h.placeOf_eq] at hdirectory hholds ⊢
  refine ⟨(workingDirectory_put _ _ _).trans h.workingDirectory, fun o' ho' => ?_, fun q hq => ?_⟩
  · rcases List.mem_append.mp ho' with ho' | ho'
    · have hholds' := h.holds o' ho'
      by_cases heq : t₀.placeOf o' = t₀.placeOf o
      · rw [← heq]
        exact hholds'.put_self content
      · exact hholds'.put hdirectory heq
    · rw [List.mem_singleton.mp ho']
      exact hholds
  · have hne := hq o (by simp)
    rcases h.entry q fun o' ho' => hq o' (by simp [ho']) with hsame | ⟨o', ho', hnew⟩
    · exact Or.inl ((entry_put_of_ne _ hne).trans hsame)
    · exact Or.inr ⟨o', ho', hnew.none, (entry_put_of_ne _ hne).trans hnew.directory, hnew.above⟩

end Writings

end LiveTemplates.FileTree
