import LiveTemplates.Proofs.FileTree.Growth

/-!
# What is made again

Once the directories of a path were made, and also once that has failed, to make them again changes
nothing and has the same fate (`ensureDirectory_again`), however the tree has grown in the meantime.
In the same way a file can be written again or not (`write_again`, `write_error_again`).

A failure need not be told of in the same words. What stands in the way may only be reached when the
directories before it are there. The first time, they were made from the root on, and the failure
names the directory that could not be made. The second time, nothing is missing up to there, so the
walk along the whole path comes to what stands in the way, and the failure names the whole path
(`FileError.Again`).
-/

namespace LiveTemplates

/-- A path leads to something below another path. -/
def Path.IsAbove (q p : Path) : Prop :=
  q.root = p.root ∧ q.names <+: p.names ∧ q.names ≠ p.names

theorem Path.isAbove_parent {p : Path} (h : p.names ≠ []) : p.parent.IsAbove p := by
  refine ⟨rfl, List.dropLast_prefix _, fun heq => ?_⟩
  have hlength := congrArg List.length heq
  have hpos := List.length_pos_iff.mpr h
  rw [parent, List.length_dropLast] at hlength
  omega

theorem Path.IsAbove.of_parent {q p : Path} (h : q.IsAbove p.parent) : q.IsAbove p := by
  obtain ⟨hroot, hprefix, hne⟩ := h
  refine ⟨hroot, hprefix.trans (List.dropLast_prefix _), fun heq => ?_⟩
  have hlength := hprefix.length_le
  rw [heq] at hlength
  rw [parent, List.length_dropLast] at hlength
  have hnil : p.names = [] := List.length_eq_zero_iff.mp (by omega)
  exact hne (by rw [heq, parent, hnil]; rfl)

/-- The text of a path's directory is not longer than the path, unless it is a dot. -/
theorem Path.size_parent_le (p : Path) :
    p.parent.toString.utf8ByteSize ≤ max 1 p.toString.utf8ByteSize := by
  obtain ⟨root, names⟩ := p
  rcases List.eq_nil_or_concat' names with rfl | ⟨init, n, rfl⟩
  · exact Nat.le_max_right _ _
  · have hsize : ("/".intercalate init).utf8ByteSize
        ≤ ("/".intercalate (init ++ [n])).utf8ByteSize := by
      induction init with
      | nil => exact Nat.zero_le _
      | cons m init ih =>
        cases init with
        | nil =>
          rw [List.singleton_append, String.intercalate_cons_cons]
          simp
          omega
        | cons m' init =>
          rw [List.cons_append, List.cons_append, String.intercalate_cons_cons,
            String.intercalate_cons_cons]
          simp only [String.utf8ByteSize_append]
          exact Nat.add_le_add_left ih _
    have hnames : ¬ (root = .workingDirectory ∧ init ++ [n] = []) := by simp
    unfold toString parent
    dsimp only
    rw [if_neg hnames, List.dropLast_concat]
    split
    · exact Nat.le_max_left _ _
    · simp only [String.utf8ByteSize_append]
      omega

/-- The kind of the failure that is met behind a directory that could not be made. -/
def FileErrorKind.beyond : FileErrorKind → FileErrorKind
  | .alreadyExists => .notDirectory
  | k => k

theorem FileErrorKind.beyond_beyond (k : FileErrorKind) : k.beyond.beyond = k.beyond := by
  cases k <;> rfl

/--
How the failure to make the directories of a path is told of when they are made again: as before, or
with the whole path in the place of a directory on the way that could not be made.
-/
def FileError.Again (p : Path) (e e' : FileError) : Prop :=
  e' = e ∨ ∃ q : Path, q.IsAbove p ∧ e.path = q.toString ∧ e' = ⟨e.kind.beyond, p.toString⟩

namespace FileTree

variable {t t' u : FileTree} {p : Path} {place : Place} {content : ByteArray}
  {k : FileErrorKind} {e : FileError}

/-! ## Directories that are there -/

/-- A path leads to a directory. -/
structure Opens (t : FileTree) (p : Path) (place : Place) : Prop where
  find : t.find p = .ok place
  entry : t.entry? place = some .directory

theorem Opens.grows (h : t.Opens p place) (ht : t.Rooted) (hgrows : Grows t u) :
    u.Opens p place :=
  ⟨hgrows.find ht h.find, hgrows.directory h.entry⟩

theorem exists_opens_iff : (∃ place, t.Opens p place) ↔ (t.isDirectory p).toOption = some true := by
  unfold isDirectory hasEntry
  constructor
  · rintro ⟨place, hfind, hentry⟩
    rw [hfind]
    dsimp only
    rw [hentry]
    rfl
  · intro h
    cases hfind : t.find p with
    | error k => cases k <;> simp [hfind, Except.toOption] at h
    | ok place =>
      refine ⟨place, hfind, ?_⟩
      cases hentry : t.entry? place with
      | none => simp [hfind, hentry, Except.toOption] at h
      | some entry => simpa [hfind, hentry, Except.toOption] using h

/-- No directory is made where something is found. -/
theorem makeDirectory_of_find (h : t.find p = .ok place) :
    t.makeDirectory p = .error .alreadyExists := by
  unfold find at h
  split at h
  · cases h
  · next hsize =>
    unfold makeDirectory lastStep
    rw [if_neg hsize]
    rcases List.eq_nil_or_concat' p.names with hnames | ⟨init, n, hnames⟩
    · rw [hnames]
      rfl
    · rw [hnames] at h ⊢
      rw [List.getLast?_concat, List.dropLast_concat]
      dsimp only
      cases hfollow : t.follow (t.startOf p) init with
      | error k =>
        rw [follow_append_of_error hfollow] at h
        cases h
      | ok place' =>
        rw [follow_append_of_ok hfollow, follow] at h
        dsimp only
        split at h
        · cases h
        · next hdirectory =>
          rw [if_neg hdirectory]
          split at h
          · next hdots => rw [if_pos hdots]
          · next hdots =>
            rw [if_neg hdots]
            split at h
            · cases h
            · next hname =>
              rw [if_neg hname]
              split at h
              · cases h
              · next hsome =>
                dsimp only
                rw [if_pos (Option.isSome_iff_ne_none.mpr (by simpa using hsome))]

/--
A path is refused as a new directory for the reason for which nothing is found, or it is only its
last name that is missing.
-/
theorem makeDirectory_of_find_error (h : t.find p = .error k) :
    t.makeDirectory p = .error k ∨ k = .notFound ∧ ∃ t', t.makeDirectory p = .ok t' := by
  unfold find at h
  unfold makeDirectory lastStep
  split at h
  · next hsize =>
    cases h
    rw [if_pos hsize]
    exact Or.inl rfl
  · next hsize =>
    rw [if_neg hsize]
    rcases List.eq_nil_or_concat' p.names with hnames | ⟨init, n, hnames⟩
    · rw [hnames] at h
      cases h
    · rw [hnames] at h ⊢
      rw [List.getLast?_concat, List.dropLast_concat]
      dsimp only
      cases hfollow : t.follow (t.startOf p) init with
      | error k' =>
        rw [follow_append_of_error hfollow] at h
        cases h
        exact Or.inl rfl
      | ok place =>
        rw [follow_append_of_ok hfollow, follow] at h
        dsimp only
        split at h
        · next hdirectory =>
          cases h
          rw [if_pos hdirectory]
          exact Or.inl rfl
        · next hdirectory =>
          rw [if_neg hdirectory]
          split at h
          · cases h
          · next hdots =>
            rw [if_neg hdots]
            split at h
            · next hname =>
              cases h
              rw [if_pos hname]
              exact Or.inl rfl
            · next hname =>
              rw [if_neg hname]
              split at h
              · next hnone =>
                cases h
                dsimp only
                rw [if_neg (by simpa using hnone)]
                exact Or.inr ⟨rfl, _, rfl⟩
              · cases h

/-- Where a directory is there, making it changes nothing. -/
theorem Opens.ensureDirectory (h : t.Opens p place) : t.ensureDirectory p = (t, none) := by
  rw [FileTree.ensureDirectory, makeDirectory_of_find h.find]
  dsimp only
  rw [if_pos (exists_opens_iff.mp ⟨place, h⟩)]

/-- A directory that was made is there. -/
theorem exists_opens_of_makeDirectory (h : t.makeDirectory p = .ok t') :
    ∃ place, t'.Opens p place := by
  have hgrows := (makesRoom_makeDirectory h).grows
  obtain ⟨place, n, hlast, _, rfl⟩ := eq_put_of_makeDirectory h
  obtain ⟨hsize, hnames, hfollow, hplace, hdots, hname⟩ := of_lastStep hlast
  have hentry : entry? (t.put (place ++ [n]) .directory) (place ++ [n]) = some .directory :=
    entry_put_self _ (by simp)
  refine ⟨place ++ [n], ?_, hentry⟩
  have hplace' := hgrows.directory hplace
  have hfollow' := follow_of_directories (fun _ hq => hgrows.directory hq)
    (by rw [hplace', Option.isSome_some]) hfollow
  rw [FileTree.find, if_neg hsize, hgrows.startOf, hnames, follow_append_of_ok hfollow', follow,
    if_neg (Decidable.not_not.mpr hplace'), if_neg (by simpa using hdots), if_neg hname, hentry]
  rfl

/-- **Directories that were made are there.** -/
theorem exists_opens_of_ensureDirectory (h : t.ensureDirectory p = (t', none)) :
    ∃ place, t'.Opens p place := by
  fun_induction FileTree.ensureDirectory t p generalizing t' with
  | case1 p t₁ hmake =>
    cases h
    exact exists_opens_of_makeDirectory hmake
  | case2 => cases h
  | case3 p hmake hne t₁ e hparent ih => cases h
  | case4 p hmake hne t₁ hparent t₂ hmake' ih =>
    cases h
    exact exists_opens_of_makeDirectory hmake'
  | case5 p hmake hne t₁ hparent k hmake' hdirectory ih =>
    cases h
    exact exists_opens_iff.mpr hdirectory.2
  | case6 => cases h
  | case7 p k hk hmake hdirectory =>
    cases h
    exact exists_opens_iff.mpr hdirectory
  | case8 => cases h

/-! ## Directories that cannot be made -/

/--
Why the directories of a path cannot be made, whatever is added to the tree: a file stands in the
way, or a name is too long.
-/
def obstacle? (t : FileTree) (p : Path) : Option FileErrorKind :=
  match t.find p with
  | .error .notFound => none
  | .error k => some k
  | .ok place => if t.entry? place = some .directory then none else some .alreadyExists

theorem obstacle_of_find_error (h : t.find p = .error k) (hk : k ≠ .notFound) :
    t.obstacle? p = some k := by
  unfold obstacle?
  rw [h]
  cases k <;> first | rfl | exact absurd rfl hk

theorem obstacle_of_find (h : t.find p = .ok place) (hentry : t.entry? place ≠ some .directory) :
    t.obstacle? p = some .alreadyExists := by
  unfold obstacle?
  rw [h]
  exact if_neg hentry

/-- What stands in the way: something that is refused, or an entry that is no directory. -/
theorem obstacle_cases (h : t.obstacle? p = some k) :
    (t.find p = .error k ∧ k ≠ .notFound) ∨
      k = .alreadyExists ∧ ∃ place, t.find p = .ok place ∧ t.entry? place ≠ some .directory := by
  unfold obstacle? at h
  split at h
  · cases h
  · next k' hk' hfind =>
    cases h
    exact Or.inl ⟨hfind, hk'⟩
  · next place hfind =>
    split at h
    · cases h
    · next hentry =>
      cases h
      exact Or.inr ⟨rfl, place, hfind, hentry⟩

/-- What stands in the way of directories stays there. -/
theorem obstacle_grows (ht : t.Rooted) (hgrows : Grows t u) (h : t.obstacle? p = some k) :
    u.obstacle? p = some k := by
  rcases obstacle_cases h with ⟨hfind, hk⟩ | ⟨rfl, place, hfind, hentry⟩
  · refine obstacle_of_find_error ?_ hk
    unfold find at hfind ⊢
    split at hfind
    · next hsize =>
      rw [if_pos hsize]
      exact hfind
    · next hsize =>
      rw [if_neg hsize, hgrows.startOf]
      exact hgrows.follow_error ht (by rw [ht.startOf, Option.isSome_some]) hk hfind
  · exact obstacle_of_find (hgrows.find ht hfind)
      (hgrows.not_directory (ht.isSome_of_find hfind) hentry)

/-- Where something stands in the way of directories, making them changes nothing and fails. -/
theorem ensureDirectory_of_obstacle (h : t.obstacle? p = some k) :
    t.ensureDirectory p = (t, some ⟨k, p.toString⟩) := by
  have hmake : t.makeDirectory p = .error k := by
    rcases obstacle_cases h with ⟨hfind, hk⟩ | ⟨rfl, place, hfind, _⟩
    · rcases makeDirectory_of_find_error hfind with hmake | ⟨hnone, _⟩
      · exact hmake
      · exact absurd hnone hk
    · exact makeDirectory_of_find hfind
  have hdirectory : ¬ (t.isDirectory p).toOption = some true := by
    rw [← exists_opens_iff]
    rintro ⟨place, hopens⟩
    unfold obstacle? at h
    rw [hopens.find] at h
    dsimp only at h
    rw [if_pos hopens.entry] at h
    cases h
  have hk : k ≠ .notFound := by
    rcases obstacle_cases h with ⟨_, hk⟩ | ⟨rfl, _⟩
    · exact hk
    · exact nofun
  rw [FileTree.ensureDirectory, hmake]
  cases k <;> first | exact absurd rfl hk | exact if_neg hdirectory

/-- A walk never fails because something is there. -/
theorem beyond_of_follow {start : Place} {names : List String}
    (h : t.follow start names = .error k) : k.beyond = k := by
  induction names generalizing start with
  | nil => cases h
  | cons n names ih =>
    rw [follow] at h
    split at h
    · cases h
      rfl
    · split at h
      · exact ih h
      · split at h
        · cases h
          rfl
        · split at h
          · cases h
            rfl
          · exact ih h

/-- What stands in the way of a directory stands in the way of what is below it. -/
theorem obstacle_of_parent (hsize : ¬ maxPathSize < p.toString.utf8ByteSize)
    (hne : p.names ≠ []) (h : t.obstacle? p.parent = some k) :
    t.obstacle? p = some k.beyond := by
  have hsize' : ¬ maxPathSize < p.parent.toString.utf8ByteSize := by
    have := p.size_parent_le
    unfold maxPathSize at hsize ⊢
    omega
  have hnames : p.names = p.parent.names ++ [p.names.getLast hne] :=
    (List.dropLast_append_getLast hne).symm
  have hstart : t.startOf p.parent = t.startOf p := rfl
  have hfind : ∀ r, t.follow (t.startOf p) p.names = r → t.find p = r := by
    intro r hr
    rw [find, if_neg hsize, hr]
  rcases obstacle_cases h with ⟨hparent, hk⟩ | ⟨rfl, place, hparent, hentry⟩
  · rw [find, if_neg hsize', hstart] at hparent
    rw [beyond_of_follow hparent]
    refine obstacle_of_find_error (hfind _ ?_) hk
    rw [hnames, follow_append_of_error hparent]
  · rw [find, if_neg hsize', hstart] at hparent
    refine obstacle_of_find_error (hfind _ ?_) nofun
    rw [hnames, follow_append_of_ok hparent, follow, if_pos hentry]
    rfl

/-- Why a directory cannot be made is what stands in the way, unless something is missing. -/
theorem obstacle_of_makeDirectory (h : t.makeDirectory p = .error k) (hk : k ≠ .notFound)
    (hdirectory : ¬ (t.isDirectory p).toOption = some true) : t.obstacle? p = some k := by
  cases hfind : t.find p with
  | ok place =>
    rw [makeDirectory_of_find hfind] at h
    cases h
    exact obstacle_of_find hfind fun hentry =>
      hdirectory (exists_opens_iff.mp ⟨place, hfind, hentry⟩)
  | error k' =>
    rcases makeDirectory_of_find_error hfind with hmake | ⟨_, t', hmake⟩
    · rw [hmake] at h
      cases h
      exact obstacle_of_find_error hfind hk
    · rw [hmake] at h
      cases h

/-- The names of a path but the last one lead to its directory. -/
theorem Opens.follow_parent (hparent : t.Opens p.parent place) :
    t.follow (t.startOf p) p.names.dropLast = .ok place := by
  have hfind := hparent.find
  unfold FileTree.find at hfind
  split at hfind
  · cases hfind
  · exact hfind

/-- Nothing is missing to make a directory in one that is there. -/
theorem Opens.ne_notFound (hparent : t.Opens p.parent place) (h : t.makeDirectory p = .error k) :
    k ≠ .notFound := by
  rintro rfl
  unfold makeDirectory lastStep at h
  split at h
  · next hlast =>
    cases h
    split at hlast
    · cases hlast
    · split at hlast
      · cases hlast
      · rw [hparent.follow_parent] at hlast
        dsimp only at hlast
        rw [if_neg (Decidable.not_not.mpr hparent.entry)] at hlast
        split at hlast
        · cases hlast
        · split at hlast <;> cases hlast
  · cases h
  · split at h <;> cases h

/-- A path that is too long or has no names is not refused as something that is missing. -/
theorem of_makeDirectory_notFound (h : t.makeDirectory p = .error .notFound) :
    ¬ maxPathSize < p.toString.utf8ByteSize ∧ p.names ≠ [] := by
  unfold makeDirectory lastStep at h
  refine ⟨fun hsize => ?_, fun hnames => ?_⟩
  · rw [if_pos hsize] at h
    cases h
  · rw [hnames] at h
    split at h
    · next hlast =>
      cases h
      split at hlast <;> cases hlast
    · cases h
    · split at h <;> cases h

/-! ## Making directories again -/

/--
A failure to make the directories of a path is due to something that stands in the way, in the end,
and names the path or a directory above it.
-/
theorem exists_obstacle_of_ensureDirectory (h : t.ensureDirectory p = (t', some e)) :
    ∃ k, t'.obstacle? p = some k ∧ e.Again p ⟨k, p.toString⟩ := by
  fun_induction FileTree.ensureDirectory t p generalizing t' with
  | case1 => cases h
  | case2 p hmake hnames => exact absurd hnames (of_makeDirectory_notFound hmake).2
  | case3 p hmake hne t₁ e₁ hparent ih =>
    cases h
    obtain ⟨k, hobstacle, hagain⟩ := ih hparent
    refine ⟨k.beyond, obstacle_of_parent (of_makeDirectory_notFound hmake).1 hne hobstacle, ?_⟩
    rcases hagain with heq | ⟨q, habove, hpath, heq⟩
    · refine Or.inr ⟨p.parent, Path.isAbove_parent hne, ?_, ?_⟩ <;> rw [← heq]
    · refine Or.inr ⟨q, habove.of_parent, hpath, ?_⟩
      obtain rfl : k = e.kind.beyond := congrArg FileError.kind heq
      rw [FileErrorKind.beyond_beyond]
  | case4 => cases h
  | case5 => cases h
  | case6 p hmake hne t₁ hparent k hmake' hdirectory ih =>
    cases h
    obtain ⟨place, hopens⟩ := exists_opens_of_ensureDirectory hparent
    have hk := hopens.ne_notFound hmake'
    exact ⟨k, obstacle_of_makeDirectory hmake' hk fun h => hdirectory ⟨hk, h⟩, Or.inl rfl⟩
  | case7 => cases h
  | case8 p k hk hmake hdirectory =>
    cases h
    exact ⟨k, obstacle_of_makeDirectory hmake hk hdirectory, Or.inl rfl⟩

/--
**To make directories again changes nothing and has the same fate**, in whatever tree has grown from
the one in which they were made.
-/
theorem ensureDirectory_again (ht : t.Rooted) {failure : Option FileError}
    (h : t.ensureDirectory p = (t', failure)) (hgrows : Grows t' u) :
    ∃ failure', u.ensureDirectory p = (u, failure') ∧
      Option.Rel (FileError.Again p) failure failure' := by
  have ht' : t'.Rooted := by
    have := (makesRoom_ensureDirectory t p).rooted ht
    rwa [h] at this
  cases failure with
  | none =>
    obtain ⟨place, hopens⟩ := exists_opens_of_ensureDirectory h
    exact ⟨none, (hopens.grows ht' hgrows).ensureDirectory, .none⟩
  | some e =>
    obtain ⟨k, hobstacle, hagain⟩ := exists_obstacle_of_ensureDirectory h
    exact ⟨some ⟨k, p.toString⟩,
      ensureDirectory_of_obstacle (obstacle_grows ht' hgrows hobstacle), .some hagain⟩

/-! ## Writing again -/

/-- The last name of a path is looked up as before, if its directory was there before. -/
theorem lastStep_again (ht : t.Rooted) (hparent : t.Opens p.parent place) (hgrows : Grows t u) :
    u.lastStep p = t.lastStep p := by
  have hparent' := hparent.grows ht hgrows
  unfold lastStep
  split
  · rfl
  · split
    · rfl
    · rw [hparent.follow_parent, hparent'.follow_parent]
      dsimp only
      rw [hparent.entry, hparent'.entry]

/-- What could not be written cannot be written when the tree has grown. -/
theorem write_error_again (ht : t.Rooted) (hparent : t.Opens p.parent place) (hgrows : Grows t u)
    (h : t.write p content = .error e) : u.write p content = .error e := by
  unfold FileTree.write at h ⊢
  rw [lastStep_again ht hparent hgrows]
  split at h
  · exact h
  · exact h
  · split at h
    · next hdirectory =>
      rw [if_pos (hgrows.directory hdirectory)]
      exact h
    · cases h

/-- **What was written can be written again**, and replaces the file at its place only. -/
theorem write_again (ht : t.Rooted) (hparent : t.Opens p.parent place)
    (h : t.write p content = .ok t') (hgrows : Grows t' u) :
    let q := (p.absolute t.cwd).names
    t' = t.put q (.file content) ∧ q ≠ [] ∧ (∃ b, u.entry? q = some (.file b)) ∧
      u.write p content = .ok (u.put q (.file content)) := by
  intro q
  obtain ⟨_, ht'⟩ := write_eq_put ht.workingDirectory h
  obtain ⟨hgrows', _⟩ := ht.write h
  unfold FileTree.write at h ⊢
  rw [lastStep_again ht hparent (hgrows'.trans hgrows)]
  split at h
  · cases h
  · cases h
  · next place' n hlast =>
    have hq : place' ++ [n] = q := place_of_lastStep ht.workingDirectory hlast
    have hne : q ≠ [] := by
      rw [← hq]
      simp
    have hfile : t'.entry? q = some (.file content) := by
      rw [ht']
      exact entry_put_self _ hne
    obtain ⟨b, hb⟩ := hgrows.file hfile
    refine ⟨ht', hne, ⟨b, hb⟩, ?_⟩
    rw [hq, if_neg (by simp [hb])]

end FileTree

end LiveTemplates
