import Mathlib.Data.List.Nodup
import LiveTemplates.Proofs.FileTree.Change

/-!
# Trees that grow

In a rooted tree every entry has a place of its own in a directory (`Rooted`). Making directories
and writing files keeps trees rooted and lets them grow: directories stay directories, and files
stay files, whatever they hold (`Grows`). To make directories does no more than that
(`makesRoom_ensureDirectory`).

What is found at a path is found at the same place when the tree has grown (`Grows.find`). A walk
that is refused for another reason than that something is missing is refused again
(`Grows.follow_error`).
-/

namespace LiveTemplates.FileTree

variable {t t' u : FileTree} {p : Path} {place q : Place} {content : ByteArray} {n : String}
  {e : Entry}

/-! ## Walks -/

/-- To follow names is to follow the first ones and then the others. -/
theorem follow_append (t : FileTree) (start : Place) (names names' : List String) :
    t.follow start (names ++ names')
      = t.follow start names >>= fun place => t.follow place names' := by
  induction names generalizing start with
  | nil => rfl
  | cons n names ih =>
    rw [List.cons_append, follow, follow]
    split
    · rfl
    · split
      · exact ih _
      · split
        · rfl
        · split
          · rfl
          · exact ih _

theorem follow_append_of_ok {start : Place} {names : List String}
    (h : t.follow start names = .ok place) (names' : List String) :
    t.follow start (names ++ names') = t.follow place names' := by
  rw [follow_append, h]
  rfl

theorem follow_append_of_error {start : Place} {names : List String} {k : FileErrorKind}
    (h : t.follow start names = .error k) (names' : List String) :
    t.follow start (names ++ names') = .error k := by
  rw [follow_append, h]
  rfl

/-! ## Entries -/

/-- What stands first in a list is what stands in it, if the keys differ. -/
theorem lookup_of_mem {entries : List (Place × Entry)} (hdistinct : (entries.map Prod.fst).Nodup)
    (h : (q, e) ∈ entries) : entries.lookup q = some e := by
  induction entries with
  | nil => cases h
  | cons r entries ih =>
    rw [List.map_cons, List.nodup_cons] at hdistinct
    rcases List.mem_cons.mp h with rfl | hmem
    · simp
    · have hne : (q == r.1) = false := by
        rw [beq_eq_false_iff_ne]
        intro hq
        exact hdistinct.1 (List.mem_map.mpr ⟨(q, e), hmem, hq⟩)
      rw [List.lookup_cons, hne]
      exact ih hdistinct.2 hmem

theorem mem_of_lookup {entries : List (Place × Entry)} (h : entries.lookup q = some e) :
    (q, e) ∈ entries := by
  obtain ⟨l, r, hsplit, _⟩ := List.lookup_eq_some_iff.mp h
  rw [hsplit]
  simp

theorem isSome_lookup_iff {entries : List (Place × Entry)} :
    (entries.lookup q).isSome = true ↔ q ∈ entries.map Prod.fst := by
  constructor
  · intro h
    obtain ⟨e, he⟩ := Option.isSome_iff_exists.mp h
    exact List.mem_map_of_mem (f := Prod.fst) (mem_of_lookup he)
  · intro h
    by_contra hnone
    rw [Option.not_isSome_iff_eq_none, List.lookup_eq_none_iff] at hnone
    obtain ⟨r, hr, rfl⟩ := List.mem_map.mp h
    simpa using hnone r hr

/-- The places of the entries of a tree, in their order. -/
def places (t : FileTree) : List Place :=
  t.entries.map Prod.fst

/-- A new entry is the last one. An entry that is replaced stays where it is. -/
theorem places_put (t : FileTree) (q : Place) (e : Entry) :
    (t.put q e).places = if q ∈ t.places then t.places else t.places ++ [q] := by
  unfold put places
  simp only [isSome_lookup_iff]
  split
  · rw [List.map_map]
    refine List.map_congr_left fun r _ => ?_
    show (if r.1 = q then (q, e) else r).1 = r.1
    split
    · next hr => exact hr.symm
    · rfl
  · rw [List.map_append]
    rfl

/-! ## Rooted trees -/

/-- Every entry has a place of its own in a directory, and the working directory is one. -/
structure Rooted (t : FileTree) : Prop extends Proper t where
  cwd : t.entry? t.workingDirectory = some .directory
  directory : ∀ {place n}, (t.entry? (place ++ [n])).isSome = true →
    t.entry? place = some .directory
  named : [] ∉ t.places
  distinct : t.places.Nodup

/-- A tree is rooted if each of its entries is in a directory. -/
theorem rooted_of_entries (hcwd : ".." ∉ t.workingDirectory)
    (hdirectory : t.entry? t.workingDirectory = some .directory)
    (hentries : ∀ q ∈ t.places, q ≠ [] ∧ ".." ∉ q ∧ t.entry? q.dropLast = some .directory)
    (hdistinct : t.places.Nodup) : t.Rooted := by
  refine ⟨⟨hcwd, fun e he => (hentries e.1 (List.mem_map_of_mem he)).2.1⟩, hdirectory,
    fun {place n} h => ?_, fun h => (hentries [] h).1 rfl, hdistinct⟩
  rw [entry_eq_lookup t (by simp), isSome_lookup_iff] at h
  simpa using (hentries (place ++ [n]) h).2.2

theorem Rooted.entry_of_mem (ht : t.Rooted) (h : (q, e) ∈ t.entries) : t.entry? q = some e := by
  have hq : q ≠ [] := by
    rintro rfl
    exact ht.named (List.mem_map_of_mem (f := Prod.fst) h)
  rw [entry_eq_lookup t hq]
  exact lookup_of_mem ht.distinct h

/-- What has an entry, apart from the root, has it in the list. -/
theorem mem_places_iff (hq : q ≠ []) : q ∈ t.places ↔ (t.entry? q).isSome = true := by
  rw [entry_eq_lookup t hq, isSome_lookup_iff]
  rfl

/-- What is above a directory is a directory. -/
theorem Rooted.dropLast (ht : t.Rooted) (h : t.entry? place = some .directory) :
    t.entry? place.dropLast = some .directory := by
  rcases List.eq_nil_or_concat' place with rfl | ⟨above, a, rfl⟩
  · exact h
  · rw [List.dropLast_concat]
    exact ht.directory (by rw [h, Option.isSome_some])

/-- What is on the way to an entry is a directory. -/
theorem Rooted.above (ht : t.Rooted) {names : List String}
    (h : (t.entry? (place ++ n :: names)).isSome = true) : t.entry? place = some .directory := by
  induction names generalizing place n with
  | nil => exact ht.directory h
  | cons m names ih =>
    have hnext : t.entry? (place ++ [n]) = some .directory :=
      ih (n := m) (by rwa [List.append_assoc])
    exact ht.directory (by rw [hnext, Option.isSome_some])

/-- A path starts at a directory. -/
theorem Rooted.startOf (ht : t.Rooted) (p : Path) : t.entry? (t.startOf p) = some .directory := by
  unfold FileTree.startOf
  split
  · rfl
  · exact ht.cwd

/-- Names lead to an entry by themselves, unless one of them is too long. -/
theorem Rooted.follow_eq (ht : t.Rooted) {start : Place} {names : List String}
    (hdots : ".." ∉ names) (h : (t.entry? (start ++ names)).isSome = true) :
    t.follow start names
      = if ∃ n ∈ names, maxNameSize < n.utf8ByteSize then .error .nameTooLong
        else .ok (start ++ names) := by
  induction names generalizing start with
  | nil => simp [follow]
  | cons n names ih =>
    have hn : n ≠ ".." := fun hn => hdots (hn ▸ List.mem_cons_self)
    have happend : start ++ [n] ++ names = start ++ n :: names := by simp
    have hrest := ih (fun hmem => hdots (List.mem_cons_of_mem _ hmem)) (happend ▸ h)
    have hnext : (t.entry? (start ++ [n])).isSome = true := by
      cases names with
      | nil => exact h
      | cons m names => rw [ht.above (happend ▸ h), Option.isSome_some]
    rw [follow, if_neg (Decidable.not_not.mpr (ht.above h)), if_neg (by simpa using hn)]
    by_cases hsize : maxNameSize < n.utf8ByteSize
    · rw [if_pos hsize, if_pos ⟨n, List.mem_cons_self, hsize⟩]
    · rw [if_neg hsize, if_neg (by simpa using Option.isSome_iff_ne_none.mp hnext), hrest, happend]
      simp [hsize]

/-- A tree is known by the places of its entries and what stands there. -/
theorem Rooted.ext (ht : t.Rooted) (hcwd : u.workingDirectory = t.workingDirectory)
    (hplaces : u.places = t.places) (hentry : ∀ q, u.entry? q = t.entry? q) : u = t := by
  have hentries : ∀ {l l' : List (Place × Entry)}, l'.map Prod.fst = l.map Prod.fst →
      (l.map Prod.fst).Nodup → (∀ q ∈ l.map Prod.fst, l'.lookup q = l.lookup q) → l' = l := by
    intro l l' hkeys hdistinct hlookup
    refine List.ext_getElem (by simpa using congrArg List.length hkeys) fun i hi' hi => ?_
    have hkey : l'[i].1 = l[i].1 := by
      have := List.getElem_of_eq hkeys (i := i) (by simpa using hi')
      simpa using this
    have hfound := hlookup l[i].1 (List.mem_map_of_mem (List.getElem_mem hi))
    have hold : l.lookup l[i].1 = some l[i].2 := lookup_of_mem hdistinct (List.getElem_mem hi)
    have hnew : l'.lookup l'[i].1 = some l'[i].2 :=
      lookup_of_mem (hkeys ▸ hdistinct) (List.getElem_mem hi')
    rw [hold, ← hkey, hnew] at hfound
    exact Prod.ext hkey (Option.some.inj hfound)
  obtain ⟨entries, cwd⟩ := t
  obtain ⟨entries', cwd'⟩ := u
  obtain rfl : cwd' = cwd := hcwd
  have heq : entries' = entries := by
    refine hentries hplaces ht.distinct fun q hq => ?_
    have hne : q ≠ [] := by
      rintro rfl
      exact ht.named hq
    have := hentry q
    rwa [entry_eq_lookup _ hne, entry_eq_lookup _ hne] at this
  rw [heq]

/-! ## Growth -/

/-- Directories stay directories and files stay files, and new entries come after the old ones. -/
structure Grows (t u : FileTree) : Prop where
  workingDirectory : u.workingDirectory = t.workingDirectory
  places : t.places <+: u.places
  directory : ∀ {q}, t.entry? q = some .directory → u.entry? q = some .directory
  file : ∀ {q b}, t.entry? q = some (.file b) → ∃ b', u.entry? q = some (.file b')

theorem Grows.refl (t : FileTree) : Grows t t :=
  ⟨rfl, List.prefix_refl _, id, fun h => ⟨_, h⟩⟩

theorem Grows.trans (h : Grows t t') (h' : Grows t' u) : Grows t u where
  workingDirectory := h'.workingDirectory.trans h.workingDirectory
  places := h.places.trans h'.places
  directory hq := h'.directory (h.directory hq)
  file hq := by
    obtain ⟨b, hb⟩ := h.file hq
    exact h'.file hb

theorem Grows.cwd_eq (h : Grows t u) : u.cwd = t.cwd := by
  rw [cwd, h.workingDirectory]
  rfl

theorem Grows.startOf (h : Grows t u) (p : Path) : u.startOf p = t.startOf p := by
  rw [FileTree.startOf, FileTree.startOf, h.workingDirectory]

theorem Grows.isSome (h : Grows t u) (hq : (t.entry? q).isSome = true) :
    (u.entry? q).isSome = true := by
  obtain ⟨entry, hentry⟩ := Option.isSome_iff_exists.mp hq
  cases entry with
  | directory => rw [h.directory hentry, Option.isSome_some]
  | file b =>
    obtain ⟨b', hb'⟩ := h.file hentry
    rw [hb', Option.isSome_some]

/-- What is no directory, but an entry, stays none. -/
theorem Grows.not_directory (h : Grows t u) (hq : (t.entry? q).isSome = true)
    (hdirectory : t.entry? q ≠ some .directory) : u.entry? q ≠ some .directory := by
  obtain ⟨entry, hentry⟩ := Option.isSome_iff_exists.mp hq
  cases entry with
  | directory => exact absurd hentry hdirectory
  | file b =>
    obtain ⟨b', hb'⟩ := h.file hentry
    simp [hb']

/-- What names lead to from an entry has an entry. -/
theorem Rooted.isSome_of_follow (ht : t.Rooted) {start : Place} {names : List String}
    (hstart : (t.entry? start).isSome = true) (h : t.follow start names = .ok place) :
    (t.entry? place).isSome = true := by
  induction names generalizing start with
  | nil =>
    obtain rfl : start = place := by simpa [follow] using h
    exact hstart
  | cons n names ih =>
    rw [follow] at h
    split at h
    · cases h
    · next hdirectory =>
      split at h
      · refine ih ?_ h
        rw [ht.dropLast (Decidable.not_not.mp hdirectory), Option.isSome_some]
      · split at h
        · cases h
        · split at h
          · cases h
          · next hsome => exact ih (Option.isSome_iff_ne_none.mpr (by simpa using hsome)) h

/-- What is found has an entry. -/
theorem Rooted.isSome_of_find (ht : t.Rooted) (h : t.find p = .ok place) :
    (t.entry? place).isSome = true := by
  unfold find at h
  split at h
  · cases h
  · exact ht.isSome_of_follow (by rw [ht.startOf, Option.isSome_some]) h

/-- What is found is found at the same place when the tree has grown. -/
theorem Grows.find (h : Grows t u) (ht : t.Rooted) (hfind : t.find p = .ok place) :
    u.find p = .ok place := by
  have hplace := h.isSome (ht.isSome_of_find hfind)
  unfold FileTree.find at hfind ⊢
  split at hfind
  · cases hfind
  · next hsize =>
    rw [if_neg hsize, h.startOf]
    exact follow_of_directories (fun _ hq => h.directory hq) hplace hfind

/-- A walk that is refused, although nothing is missing, is refused when the tree has grown. -/
theorem Grows.follow_error (h : Grows t u) (ht : t.Rooted) {start : Place} {names : List String}
    {k : FileErrorKind} (hstart : (t.entry? start).isSome = true) (hk : k ≠ .notFound)
    (hfollow : t.follow start names = .error k) : u.follow start names = .error k := by
  induction names generalizing start with
  | nil => cases hfollow
  | cons n names ih =>
    rw [follow] at hfollow ⊢
    split at hfollow
    · next hdirectory =>
      rw [if_pos (h.not_directory hstart hdirectory)]
      exact hfollow
    · next hdirectory =>
      rw [if_neg (Decidable.not_not.mpr (h.directory (Decidable.not_not.mp hdirectory)))]
      split at hfollow
      · next hdots =>
        rw [if_pos hdots]
        refine ih ?_ hfollow
        rw [ht.dropLast (Decidable.not_not.mp hdirectory), Option.isSome_some]
      · next hdots =>
        rw [if_neg hdots]
        split at hfollow
        · next hsize =>
          rw [if_pos hsize]
          exact hfollow
        · next hsize =>
          rw [if_neg hsize]
          split at hfollow
          · cases hfollow
            exact absurd rfl hk
          · next hsome =>
            have hnext : (t.entry? (start ++ [n])).isSome = true :=
              Option.isSome_iff_ne_none.mpr (by simpa using hsome)
            rw [if_neg (by rw [← Option.not_isSome, h.isSome hnext]; simp)]
            exact ih hnext hfollow

/-! ## Files that stay the same -/

/-- The same file is at a place in two trees, or none in both. -/
def SameFile (t u : FileTree) (q : Place) : Prop :=
  ∀ b, t.entry? q = some (.file b) ↔ u.entry? q = some (.file b)

theorem SameFile.symm (h : SameFile t u q) : SameFile u t q :=
  fun b => (h b).symm

theorem SameFile.trans {v : FileTree} (h : SameFile t u q) (h' : SameFile u v q) :
    SameFile t v q :=
  fun b => (h b).trans (h' b)

/-! ## Changes by which trees grow -/

/-- Where the last name of a path is looked up, if it is the name of an entry. -/
theorem of_lastStep (h : t.lastStep p = .ok (some (place, n))) :
    ¬ maxPathSize < p.toString.utf8ByteSize ∧ p.names = p.parent.names ++ [n] ∧
      t.follow (t.startOf p) p.parent.names = .ok place ∧ t.entry? place = some .directory ∧
      n ≠ ".." ∧ ¬ maxNameSize < n.utf8ByteSize := by
  unfold lastStep at h
  split at h
  · cases h
  · next hsize =>
    split at h
    · cases h
    · next n' hlast =>
      obtain ⟨names, hnames⟩ := List.getLast?_eq_some_iff.mp hlast
      split at h
      · cases h
      · next place' hfollow =>
        split at h
        · cases h
        · next hdirectory =>
          split at h
          · cases h
          · next hdots =>
            split at h
            · cases h
            · next hname =>
              obtain ⟨rfl, rfl⟩ : place' = place ∧ n' = n := by simpa using h
              refine ⟨hsize, ?_, hfollow, Decidable.not_not.mp hdirectory, by simpa using hdots,
                hname⟩
              show p.names = p.names.dropLast ++ [n']
              rw [hnames, List.dropLast_concat]

/-- A new entry in a directory, in the place of no directory. -/
theorem grows_put (hq : q ≠ []) (h : t.entry? q ≠ some .directory)
    (he : e = .directory → t.entry? q = none) : Grows t (t.put q e) where
  workingDirectory := workingDirectory_put t q e
  places := by
    rw [places_put]
    split
    · exact List.prefix_refl _
    · exact List.prefix_append _ _
  directory {r} hr := by
    have hne : r ≠ q := fun hrq => h (hrq ▸ hr)
    rw [entry_put_of_ne e hne, hr]
  file {r b} hr := by
    by_cases hrq : r = q
    · subst hrq
      cases e with
      | directory =>
        rw [he rfl] at hr
        cases hr
      | file b' => exact ⟨b', entry_put_self _ hq⟩
    · exact ⟨b, by rw [entry_put_of_ne e hrq, hr]⟩

/-- A tree with a new entry in a directory, in the place of no directory, is rooted. -/
theorem Rooted.put (ht : t.Rooted) (hplace : t.entry? place = some .directory)
    (hproper : ".." ∉ place ++ [n]) (h : t.entry? (place ++ [n]) ≠ some .directory) :
    (t.put (place ++ [n]) e).Rooted := by
  have hne : place ++ [n] ≠ [] := by simp
  have hkept : ∀ {r}, t.entry? r = some .directory →
      entry? (t.put (place ++ [n]) e) r = some .directory := by
    intro r hr
    have hrq : r ≠ place ++ [n] := by
      rintro rfl
      exact h hr
    rw [entry_put_of_ne e hrq, hr]
  have hplaces : ∀ r ∈ (t.put (place ++ [n]) e).places, r ∈ t.places ∨ r = place ++ [n] := by
    intro r hr
    rw [places_put] at hr
    split at hr
    · exact Or.inl hr
    · rcases List.mem_append.mp hr with hr | hr
      · exact Or.inl hr
      · exact Or.inr (List.mem_singleton.mp hr)
  refine ⟨⟨?_, fun r hr => ?_⟩, ?_, fun {above m} hm => ?_, fun hmem => ?_, ?_⟩
  · rw [workingDirectory_put]
    exact ht.workingDirectory
  · rcases hplaces r.1 (List.mem_map_of_mem hr) with hr | hr
    · obtain ⟨r', hr', heq⟩ := List.mem_map.mp hr
      rw [← heq]
      exact ht.entries r' hr'
    · rw [hr]
      exact hproper
  · rw [workingDirectory_put]
    exact hkept ht.cwd
  · by_cases hm' : above ++ [m] = place ++ [n]
    · obtain rfl : above = place := (List.append_inj' hm' rfl).1
      exact hkept hplace
    · rw [entry_put_of_ne e hm'] at hm
      exact hkept (ht.directory hm)
  · rcases hplaces _ hmem with hmem | hmem
    · exact ht.named hmem
    · exact hne hmem.symm
  · rw [places_put]
    split
    · exact ht.distinct
    · next hnew => exact List.nodup_append.mpr ⟨ht.distinct, List.nodup_singleton _, by
        rintro r hr s hs rfl
        exact hnew (List.mem_singleton.mp hs ▸ hr)⟩

/-- The place of a new entry has no name of two dots. -/
theorem Rooted.notMem_of_lastStep (ht : t.Rooted) (h : t.lastStep p = .ok (some (place, n))) :
    ".." ∉ place ++ [n] := by
  rw [place_of_lastStep ht.workingDirectory h]
  exact Path.notMem_absolute t.isAbsolute_cwd p

/-- Nothing has changed but that there are new directories. -/
structure MakesRoom (t t' : FileTree) : Prop where
  grows : Grows t t'
  rooted : t.Rooted → t'.Rooted
  entry : ∀ q, t'.entry? q = t.entry? q ∨ t'.entry? q = some .directory

theorem MakesRoom.refl (t : FileTree) : MakesRoom t t :=
  ⟨Grows.refl t, id, fun _ => Or.inl rfl⟩

theorem MakesRoom.trans (h : MakesRoom t t') (h' : MakesRoom t' u) : MakesRoom t u := by
  refine ⟨h.grows.trans h'.grows, h'.rooted ∘ h.rooted, fun q => ?_⟩
  rcases h'.entry q with heq | hdirectory
  · rw [heq]
    exact h.entry q
  · exact Or.inr hdirectory

/-- What making a directory puts where. -/
theorem eq_put_of_makeDirectory (h : t.makeDirectory p = .ok t') : ∃ place n,
    t.lastStep p = .ok (some (place, n)) ∧ t.entry? (place ++ [n]) = none ∧
      t' = t.put (place ++ [n]) .directory := by
  unfold makeDirectory at h
  split at h
  · cases h
  · cases h
  · next place n hlast =>
    split at h
    · cases h
    · next hnone =>
      cases h
      exact ⟨place, n, hlast, Option.not_isSome_iff_eq_none.mp hnone, rfl⟩

theorem makesRoom_makeDirectory (h : t.makeDirectory p = .ok t') : MakesRoom t t' := by
  obtain ⟨place, n, hlast, hnone, rfl⟩ := eq_put_of_makeDirectory h
  obtain ⟨_, _, _, hplace, _, _⟩ := of_lastStep hlast
  have hdirectory : t.entry? (place ++ [n]) ≠ some .directory := by simp [hnone]
  refine ⟨grows_put (by simp) hdirectory fun _ => hnone,
    fun ht => ht.put hplace (ht.notMem_of_lastStep hlast) hdirectory, fun q => ?_⟩
  by_cases hq : q = place ++ [n]
  · rw [hq]
    exact Or.inr (entry_put_self _ (by simp))
  · exact Or.inl (entry_put_of_ne _ hq)

/-- **To make the directories of a path adds directories**, whether it succeeds or not. -/
theorem makesRoom_ensureDirectory (t : FileTree) (p : Path) :
    MakesRoom t (t.ensureDirectory p).1 := by
  fun_induction ensureDirectory t p with
  | case1 p t' h => exact makesRoom_makeDirectory h
  | case2 => exact MakesRoom.refl t
  | case3 p h hne t' e hparent ih => simpa [hparent] using ih
  | case4 p h hne t' hparent t'' hmake ih =>
    rw [hparent] at ih
    exact ih.trans (makesRoom_makeDirectory hmake)
  | case5 p h hne t' hparent k hmake hdirectory ih => simpa [hparent] using ih
  | case6 p h hne t' hparent k hmake hdirectory ih => simpa [hparent] using ih
  | case7 => exact MakesRoom.refl t
  | case8 => exact MakesRoom.refl t

/-- A tree grows when a file is written, and stays rooted. -/
theorem Rooted.write (ht : t.Rooted) (h : t.write p content = .ok t') :
    Grows t t' ∧ t'.Rooted := by
  unfold FileTree.write at h
  split at h
  · cases h
  · cases h
  · next place n hlast =>
    split at h
    · cases h
    · next hdirectory =>
      cases h
      obtain ⟨_, _, _, hplace, _, _⟩ := of_lastStep hlast
      exact ⟨grows_put (by simp) hdirectory (fun h => by cases h),
        ht.put hplace (ht.notMem_of_lastStep hlast) hdirectory⟩

end LiveTemplates.FileTree
