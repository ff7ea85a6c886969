import LiveTemplates.Proofs.FileTree.Place

/-!
# What a change leaves as it was

Making directories changes no file (`keeps_ensureDirectory`). Writing to a path changes the file at
the place that the absolute path says, and no other file (`Holds.write_of_ne`, `Holds.write_same`).
-/

namespace LiveTemplates.FileTree

variable {t t' : FileTree} {p : Path} {place q : Place} {content bytes : ByteArray}

/-! ## Entries -/

/-- The root is a directory. -/
theorem entry_root (t : FileTree) : t.entry? [] = some .directory := rfl

theorem entry_eq_lookup (t : FileTree) (hq : q ≠ []) : t.entry? q = t.entries.lookup q :=
  if_neg hq

/-- Another entry at a place changes no entry at another place. -/
theorem lookup_map_of_ne {entries : List (Place × Entry)} (e : Entry) (h : place ≠ q) :
    (entries.map fun r => if r.1 = q then (q, e) else r).lookup place = entries.lookup place := by
  induction entries with
  | nil => rfl
  | cons r entries ih =>
    obtain ⟨k, v⟩ := r
    have hq : (place == q) = false := by simpa using h
    by_cases hk : k = q
    · subst hk
      simp only [List.map_cons, if_true, List.lookup_cons, hq]
      exact ih
    · rw [List.map_cons, if_neg hk, List.lookup_cons, List.lookup_cons, ih]

theorem lookup_map_self {entries : List (Place × Entry)} (e : Entry)
    (h : (entries.lookup q).isSome = true) :
    (entries.map fun r => if r.1 = q then (q, e) else r).lookup q = some e := by
  induction entries with
  | nil => simp at h
  | cons r entries ih =>
    obtain ⟨k, v⟩ := r
    by_cases hk : k = q
    · simp [hk]
    · have hq : (q == k) = false := by simpa using Ne.symm hk
      rw [List.lookup_cons, hq] at h
      rw [List.map_cons, if_neg hk, List.lookup_cons, hq]
      exact ih h

theorem entry_put_of_ne (e : Entry) (h : place ≠ q) :
    entry? (t.put q e) place = t.entry? place := by
  by_cases hplace : place = []
  · rw [hplace, entry_root, entry_root]
  · rw [entry_eq_lookup _ hplace, entry_eq_lookup _ hplace]
    unfold put
    split
    · exact lookup_map_of_ne e h
    · have hq : (place == q) = false := by simpa using h
      rw [List.lookup_append, List.lookup_cons, hq]
      simp

theorem entry_put_self (e : Entry) (h : q ≠ []) : entry? (t.put q e) q = some e := by
  rw [entry_eq_lookup _ h]
  unfold put
  split
  · next hsome => exact lookup_map_self e hsome
  · next hnone =>
    rw [Option.not_isSome_iff_eq_none] at hnone
    rw [List.lookup_append, hnone]
    simp

@[simp]
theorem workingDirectory_put (t : FileTree) (q : Place) (e : Entry) :
    (t.put q e).workingDirectory = t.workingDirectory := by
  unfold put
  split <;> rfl

/-! ## Files -/

/-- A path leads to a place, where a file with some content is. -/
structure Holds (t : FileTree) (p : Path) (place : Place) (content : ByteArray) : Prop where
  find : t.find p = .ok place
  entry : t.entry? place = some (.file content)

/-- What can be read is what a file holds. -/
theorem read_eq_ok_iff : t.read p = .ok content ↔ ∃ place, t.Holds p place content := by
  constructor
  · intro h
    unfold read at h
    split at h
    · cases h
    · next place hfind =>
      split at h
      · next hentry =>
        cases h
        exact ⟨place, hfind, hentry⟩
      · cases h
  · rintro ⟨place, hfind, hentry⟩
    unfold read
    rw [hfind]
    dsimp only
    rw [hentry]

/-- A path leads to a file if it is said to. -/
theorem isFile_iff : t.isFile p = .ok true ↔ ∃ q b, t.Holds p q b := by
  constructor
  · intro h
    obtain ⟨q, hfind⟩ := exists_find_of_isFile h
    rw [isFile, hasEntry, hfind] at h
    cases hentry : t.entry? q with
    | none => simp [hentry] at h
    | some entry =>
      cases entry with
      | directory => simp [hentry] at h
      | file b => exact ⟨q, b, hfind, hentry⟩
  · rintro ⟨q, b, hfind, hentry⟩
    rw [isFile, hasEntry, hfind]
    simp [hentry]

/-- Names lead to the same place as long as directories stay and the place has an entry. -/
theorem follow_of_directories {u : FileTree} (hdirectory : ∀ q, t.entry? q = some .directory →
      u.entry? q = some .directory) (hplace : (u.entry? place).isSome = true)
    {start : Place} {names : List String} (h : t.follow start names = .ok place) :
    u.follow start names = .ok place := by
  induction names generalizing start with
  | nil => exact h
  | cons n names ih =>
    rw [follow] at h ⊢
    split at h
    · cases h
    · next hstart =>
      rw [if_neg (Decidable.not_not.mpr (hdirectory _ (Decidable.not_not.mp hstart)))]
      split at h
      · next hdots =>
        rw [if_pos hdots]
        exact ih h
      · next hdots =>
        rw [if_neg hdots]
        split at h
        · cases h
        · next hsize =>
          rw [if_neg hsize]
          split at h
          · cases h
          · have hsome : (u.entry? (start ++ [n])).isSome = true := by
              cases names with
              | nil =>
                obtain rfl : start ++ [n] = place := by simpa [follow] using h
                exact hplace
              | cons m names =>
                -- more names follow, so a directory is there
                rw [follow] at h
                split at h
                · cases h
                · next hnext => rw [hdirectory _ (Decidable.not_not.mp hnext), Option.isSome_some]
            rw [if_neg (by rw [← Option.not_isSome, hsome]; simp)]
            exact ih h

/-- A new entry where no directory is keeps the files at other places. -/
theorem Holds.put (h : t.Holds p place content) {e : Entry} (hq : t.entry? q ≠ some .directory)
    (hne : place ≠ q) : (t.put q e).Holds p place content := by
  have hentry : entry? (t.put q e) place = some (.file content) :=
    (entry_put_of_ne e hne).trans h.entry
  refine ⟨?_, hentry⟩
  have hfind := h.find
  unfold FileTree.find startOf at hfind ⊢
  rw [workingDirectory_put]
  split at hfind
  · cases hfind
  · next hsize =>
    rw [if_neg hsize]
    refine follow_of_directories (fun r hr => ?_) (by rw [hentry, Option.isSome_some]) hfind
    have hrq : r ≠ q := fun hrq => hq (hrq ▸ hr)
    rw [entry_put_of_ne e hrq, hr]

/-- Another file in the place of a file is found there. -/
theorem Holds.put_self (h : t.Holds p place content) (bytes : ByteArray) :
    (t.put place (.file bytes)).Holds p place bytes := by
  have hne : place ≠ [] := by
    rintro rfl
    simpa [entry_root] using h.entry
  have hentry := @entry_put_self t place (.file bytes) hne
  refine ⟨?_, hentry⟩
  have hfind := h.find
  unfold FileTree.find startOf at hfind ⊢
  rw [workingDirectory_put]
  split at hfind
  · cases hfind
  · next hsize =>
    rw [if_neg hsize]
    refine follow_of_directories (fun r hr => ?_) (by rw [hentry, Option.isSome_some]) hfind
    have hrq : r ≠ place := by
      rintro rfl
      rw [h.entry] at hr
      cases hr
    rw [entry_put_of_ne _ hrq, hr]

/-! ## Making directories -/

/-- A change that keeps the working directory and all files. -/
structure Keeps (t t' : FileTree) : Prop where
  workingDirectory : t'.workingDirectory = t.workingDirectory
  holds : ∀ {p place content}, t.Holds p place content → t'.Holds p place content

theorem Keeps.refl (t : FileTree) : Keeps t t := ⟨rfl, id⟩

theorem Keeps.trans {t'' : FileTree} (h : Keeps t t') (h' : Keeps t' t'') : Keeps t t'' :=
  ⟨h'.workingDirectory.trans h.workingDirectory, fun hp => h'.holds (h.holds hp)⟩

theorem keeps_makeDirectory (h : t.makeDirectory p = .ok t') : Keeps t t' := by
  unfold makeDirectory at h
  split at h
  · cases h
  · cases h
  · split at h
    · cases h
    · next hnone =>
      cases h
      rw [Option.not_isSome_iff_eq_none] at hnone
      refine ⟨workingDirectory_put _ _ _, fun hp => hp.put (by simp [hnone]) ?_⟩
      rintro rfl
      simp [hp.entry] at hnone

/-- **Making the directories of a path changes no file**, whether it succeeds or not. -/
theorem keeps_ensureDirectory (t : FileTree) (p : Path) : Keeps t (t.ensureDirectory p).1 := by
  fun_induction ensureDirectory t p with
  | case1 p t' h => exact keeps_makeDirectory h
  | case2 => exact Keeps.refl t
  | case3 p h hne t' e hparent ih => simpa [hparent] using ih
  | case4 p h hne t' hparent t'' hmake ih =>
    rw [hparent] at ih
    exact ih.trans (keeps_makeDirectory hmake)
  | case5 p h hne t' hparent k hmake hdirectory ih => simpa [hparent] using ih
  | case6 p h hne t' hparent k hmake hdirectory ih => simpa [hparent] using ih
  | case7 => exact Keeps.refl t
  | case8 => exact Keeps.refl t

/-! ## Writing -/

/-- A path is written at the place that its absolute path says. -/
theorem place_of_lastStep (hcwd : ".." ∉ t.workingDirectory) {n : String}
    (h : t.lastStep p = .ok (some (place, n))) : place ++ [n] = (p.absolute t.cwd).names := by
  unfold lastStep at h
  split at h
  · cases h
  · split at h
    · cases h
    · next n' hlast =>
      obtain ⟨names, hnames⟩ := List.getLast?_eq_some_iff.mp hlast
      split at h
      · cases h
      · next place' hfollow =>
        split at h
        · cases h
        · split at h
          · cases h
          · next hdots =>
            split at h
            · cases h
            · obtain ⟨rfl, rfl⟩ : place' = place ∧ n' = n := by simpa using h
              have hn : n' ≠ ".." := by simpa using hdots
              rw [hnames, List.dropLast_concat] at hfollow
              rw [names_absolute hcwd, hnames, List.foldl_append,
                place_of_follow (notMem_startOf hcwd p) hfollow]
              simp [Path.stepName, hn]

/-- What writing to a path puts where. -/
theorem write_eq_put (hcwd : ".." ∉ t.workingDirectory) (h : t.write p bytes = .ok t') :
    t.entry? (p.absolute t.cwd).names ≠ some .directory ∧
      t' = t.put (p.absolute t.cwd).names (.file bytes) := by
  unfold write at h
  split at h
  · cases h
  · cases h
  · next place n hlast =>
    rw [← place_of_lastStep hcwd hlast]
    split at h
    · cases h
    · next hentry =>
      cases h
      exact ⟨hentry, rfl⟩

/-- Writing to a path changes no file at another place. -/
theorem Holds.write_of_ne (hcwd : ".." ∉ t.workingDirectory) (h : t.Holds p place content)
    {output : Path} (hwrite : t.write output bytes = .ok t')
    (hne : place ≠ (output.absolute t.cwd).names) : t'.Holds p place content := by
  obtain ⟨hentry, rfl⟩ := write_eq_put hcwd hwrite
  exact h.put hentry hne

/-- Writing to a path changes the file at its place. -/
theorem Holds.write_same (hcwd : ".." ∉ t.workingDirectory) (h : t.Holds p place content)
    {output : Path} (hwrite : t.write output bytes = .ok t')
    (heq : place = (output.absolute t.cwd).names) : t'.Holds p place bytes := by
  obtain ⟨_, rfl⟩ := write_eq_put hcwd hwrite
  rw [← heq]
  exact h.put_self bytes

theorem workingDirectory_write (hcwd : ".." ∉ t.workingDirectory)
    (h : t.write p bytes = .ok t') : t'.workingDirectory = t.workingDirectory := by
  obtain ⟨_, rfl⟩ := write_eq_put hcwd h
  exact workingDirectory_put _ _ _

end LiveTemplates.FileTree
