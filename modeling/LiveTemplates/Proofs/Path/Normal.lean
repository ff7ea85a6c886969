import LiveTemplates.Path

/-!
# Normal paths

What making a path absolute does to it. The result has no name of two dots (`notMem_absolute`), so
it is its own absolute path and has the key of the path (`key_absolute`). The arguments of
directives mean the same in a file whichever of its paths is used (`resolve_absolute`).
-/

namespace LiveTemplates.Path

variable {p cwd : Path}

/-! ## Taking names into account -/

/-- From the root, a name of two dots is never kept. -/
theorem notMem_stepName {above : List String} (h : ".." ∉ above) (n : String) :
    ".." ∉ stepName true above n := by
  unfold stepName
  by_cases hn : n = ".."
  · cases above with
    | nil => simp [hn]
    | cons a rest =>
      have ha : a ≠ ".." := fun ha => h (ha ▸ List.mem_cons_self)
      simpa [hn, ha] using fun hmem => h (List.mem_cons_of_mem _ hmem)
  · simpa [hn] using ⟨Ne.symm hn, h⟩

theorem notMem_foldl_stepName {above : List String} (h : ".." ∉ above) (names : List String) :
    ".." ∉ names.foldl (stepName true) above := by
  induction names generalizing above with
  | nil => exact h
  | cons n names ih => exact ih (notMem_stepName h n)

/-- Names other than two dots are all kept. -/
theorem foldl_stepName_of_notMem {names : List String} (h : ".." ∉ names) (absolute : Bool)
    (above : List String) : names.foldl (stepName absolute) above = names.reverse ++ above := by
  induction names generalizing above with
  | nil => rfl
  | cons n names ih =>
    have hn : n ≠ ".." := fun hn => h (hn ▸ List.mem_cons_self)
    rw [List.foldl_cons, ih fun hmem => h (List.mem_cons_of_mem _ hmem)]
    simp [stepName, hn]

/-! ## Normal paths -/

theorem notMem_normalise (h : p.isAbsolute = true) : ".." ∉ p.normalise.names := by
  rw [normalise, h]
  simpa using notMem_foldl_stepName List.not_mem_nil p.names

/-- A path without names of two dots is normal. -/
theorem normalise_of_notMem (h : ".." ∉ p.names) : p.normalise = p := by
  rw [normalise, foldl_stepName_of_notMem h]
  simp

/-- The directory of a normal path is normal. -/
theorem parent_normalise {n : String} (hlast : p.names.getLast? = some n) (hn : n ≠ "..") :
    p.normalise.parent = p.parent.normalise := by
  obtain ⟨names, hnames⟩ := List.getLast?_eq_some_iff.mp hlast
  simp [normalise, parent, hnames, stepName, hn, isAbsolute]

/-- A path below a directory is normal if it goes on from the normal path of the directory. -/
theorem normalise_join_normalise (h : p.isAbsolute = true) (q : Path) :
    (p.normalise.join q).normalise = (p.join q).normalise := by
  obtain ⟨root, names⟩ := q
  cases root with
  | slash => rfl
  | doubleSlash => rfl
  | workingDirectory =>
    have hnames := foldl_stepName_of_notMem (notMem_normalise h) true []
    simp only [normalise, h, List.reverse_reverse, List.append_nil] at hnames
    have habsolute : ∀ names' : List String, (⟨p.root, names'⟩ : Path).isAbsolute = true :=
      fun _ => h
    simp only [normalise, join, habsolute, List.foldl_append, hnames]

/-! ## Absolute paths -/

theorem join_of_isAbsolute {q : Path} (h : q.isAbsolute = true) (p : Path) : p.join q = q := by
  obtain ⟨root, names⟩ := q
  cases root with
  | workingDirectory => simp [isAbsolute] at h
  | slash => rfl
  | doubleSlash => rfl

theorem isAbsolute_join (h : cwd.isAbsolute = true) (p : Path) :
    (cwd.join p).isAbsolute = true := by
  obtain ⟨root, names⟩ := p
  cases root with
  | workingDirectory => exact h
  | slash => rfl
  | doubleSlash => rfl

theorem isAbsolute_absolute (h : cwd.isAbsolute = true) (p : Path) :
    (p.absolute cwd).isAbsolute = true :=
  isAbsolute_join h p

theorem notMem_absolute (h : cwd.isAbsolute = true) (p : Path) :
    ".." ∉ (p.absolute cwd).names :=
  notMem_normalise (isAbsolute_join h p)

/-- An absolute path without names of two dots is absolute and normal. -/
theorem absolute_absolute (h : cwd.isAbsolute = true) (p : Path) :
    (p.absolute cwd).absolute cwd = p.absolute cwd := by
  rw [absolute, join_of_isAbsolute (isAbsolute_absolute h p),
    normalise_of_notMem (notMem_absolute h p)]

/-- The absolute path has the same key. -/
theorem key_absolute (h : cwd.isAbsolute = true) (p : Path) :
    (p.absolute cwd).key cwd = p.key cwd := by
  rw [key, absolute_absolute h, key]

/-- What is below the directory of a file, as seen from a working directory. -/
theorem join_parent_join (hne : p.names ≠ []) (cwd q : Path) :
    cwd.join (p.parent.join q) = (cwd.join p).parent.join q := by
  obtain ⟨root, names⟩ := q
  obtain ⟨root', names'⟩ := p
  cases root with
  | slash => rfl
  | doubleSlash => rfl
  | workingDirectory =>
    cases root' with
    | slash => rfl
    | doubleSlash => rfl
    | workingDirectory =>
      simp [join, parent, List.dropLast_append_of_ne_nil hne]

theorem getLast?_join {n : String} (h : p.names.getLast? = some n) (cwd : Path) :
    (cwd.join p).names.getLast? = some n := by
  obtain ⟨root, names⟩ := p
  cases root with
  | slash => exact h
  | doubleSlash => exact h
  | workingDirectory => rw [join, List.getLast?_append, h]; rfl

/-- **An argument means the same in a file by whichever of its paths the file is known.** -/
theorem resolve_absolute (h : cwd.isAbsolute = true) {n : String}
    (hlast : p.names.getLast? = some n) (hn : n ≠ "..") (argument : String) :
    (p.absolute cwd).resolve argument cwd = p.resolve argument cwd := by
  have hne : p.names ≠ [] := by
    intro hnil
    simp [hnil] at hlast
  have hjoin : (cwd.join p).isAbsolute = true := isAbsolute_join h p
  have hdiv : ∀ (r : Path) (s : String), r / s = r.join (ofString s) := fun _ _ => rfl
  unfold resolve
  rw [hdiv, hdiv]
  generalize ofString (Text.trimString argument) = q
  have hparent : (cwd.join p).parent.isAbsolute = true := hjoin
  have hnormal : (cwd.join p).normalise.parent.isAbsolute = true := hjoin
  calc (((cwd.join p).normalise).parent.join q).absolute cwd
      = ((cwd.join p).normalise.parent.join q).normalise := by
        rw [absolute, join_of_isAbsolute (isAbsolute_join hnormal q)]
    _ = ((cwd.join p).parent.normalise.join q).normalise := by
        rw [parent_normalise (getLast?_join hlast cwd) hn]
    _ = ((cwd.join p).parent.join q).normalise :=
        normalise_join_normalise hparent q
    _ = (p.parent.join q).absolute cwd := by rw [absolute, join_parent_join hne]

end LiveTemplates.Path
