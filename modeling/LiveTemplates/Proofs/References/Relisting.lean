import LiveTemplates.Proofs.FileTree.Growth
import LiveTemplates.Proofs.Path.Order
import LiveTemplates.Proofs.References.Index

/-!
# Listing a tree that has grown

What was below a directory stays there when the tree grows, and is told to be a file or not as
before (`isFile_of_below`). What is new comes among it in the order of paths. Without what is new,
the list is as it was (`filter_sort_below`).
-/

namespace LiveTemplates

namespace Path

variable {p q : Path}

theorem eq_of_pieces (hroot : p.root = q.root) (h : p.pieces = q.pieces) : p = q := by
  obtain ⟨root, names⟩ := p
  obtain ⟨root', names'⟩ := q
  obtain rfl : root = root' := hroot
  cases root <;> simpa [pieces] using h

/-- A list of paths that is in order is what these paths are sorted to. -/
theorem sort_eq_of_perm {ps qs : List Path} {r : Root} (hroot : ∀ p ∈ qs, p.root = r)
    (hperm : ps.Perm qs) (hsorted : qs.Pairwise fun p q => le p q = true) : sort ps = qs := by
  refine ((List.mergeSort_perm ps le).trans hperm).eq_of_pairwise (fun p q hp hq hpq hqp => ?_)
    (pairwise_sort ps) hsorted
  have hp' : p ∈ qs := hperm.mem_iff.mp (List.mem_mergeSort.mp hp)
  rw [le_iff, List.not_lt] at hpq hqp
  exact eq_of_pieces ((hroot p hp').trans (hroot q hq).symm) (List.le_antisymm hpq hqp)

/-- Without the new ones, the paths of a list are in the order in which the old ones are. -/
theorem filter_sort_append {old new : List Path} {r : Root}
    (hroot : ∀ p ∈ old, p.root = r) (hnew : ∀ p ∈ new, p ∉ old) :
    (sort (old ++ new)).filter (· ∈ old) = sort old := by
  have hold : (old ++ new).filter (· ∈ old) = old := by
    rw [List.filter_append, List.filter_eq_self.mpr (by simp),
      List.filter_eq_nil_iff.mpr (by simpa using hnew), List.append_nil]
  have hperm : ((sort (old ++ new)).filter (· ∈ old)).Perm old := by
    have hsorted := (List.mergeSort_perm (old ++ new) le).filter (· ∈ old)
    rwa [hold] at hsorted
  refine (sort_eq_of_perm (fun p hp => hroot p (hperm.mem_iff.mp hp)) hperm.symm ?_).symm
  exact (pairwise_sort (old ++ new)).filter _

end Path

namespace FileTree

variable {t u : FileTree} {dir p : Path} {place : Place}

/-- What is below a directory goes on from its path and its place by the same names. -/
theorem mem_below_iff : p ∈ t.below dir place ↔
    ∃ rest, rest ≠ [] ∧ place ++ rest ∈ t.places ∧ p = { dir with names := dir.names ++ rest } := by
  unfold below
  rw [List.mem_filterMap]
  constructor
  · rintro ⟨⟨q, entry⟩, hmem, hq⟩
    dsimp only at hq
    split at hq
    · next hprefix =>
      obtain ⟨⟨rest, rfl⟩, hne⟩ := hprefix
      cases hq
      refine ⟨rest, ?_, List.mem_map_of_mem (f := Prod.fst) hmem, by simp⟩
      rintro rfl
      simp at hne
    · cases hq
  · rintro ⟨rest, hrest, hmem, rfl⟩
    obtain ⟨⟨q, entry⟩, hmem, rfl⟩ := List.mem_map.mp hmem
    exact ⟨(place ++ rest, entry), hmem, by simp [hrest]⟩

theorem below_eq (t : FileTree) (dir : Path) (place : Place) :
    t.below dir place = t.places.filterMap fun q =>
      if place <+: q ∧ place ≠ q then some { dir with names := dir.names ++ q.drop place.length }
      else none := by
  unfold below places
  rw [List.filterMap_map]
  rfl

/-- What is below a directory stays below it. -/
theorem Grows.mem_below (h : Grows t u) (hp : p ∈ t.below dir place) : p ∈ u.below dir place := by
  obtain ⟨rest, hrest, hmem, rfl⟩ := mem_below_iff.mp hp
  exact mem_below_iff.mpr ⟨rest, hrest, h.places.subset hmem, rfl⟩

/-- What is new below a directory comes after what was there, and was not there. -/
theorem exists_below_grows (hu : u.Rooted) (hgrows : Grows t u) (dir : Path) (place : Place) :
    ∃ new, u.below dir place = t.below dir place ++ new ∧ ∀ p ∈ new, p ∉ t.below dir place := by
  obtain ⟨more, hmore⟩ := hgrows.places
  have hdistinct := hu.distinct
  rw [← hmore, List.nodup_append] at hdistinct
  refine ⟨_, by rw [below_eq, ← hmore, List.filterMap_append, ← below_eq], fun p hp hold => ?_⟩
  obtain ⟨rest, _, hmem, rfl⟩ := mem_below_iff.mp hold
  obtain ⟨q, hq, heq⟩ := List.mem_filterMap.mp hp
  split at heq
  · next hprefix =>
    obtain ⟨⟨rest', rfl⟩, _⟩ := hprefix
    have hrest : rest' = rest := by simpa using heq
    exact hdistinct.2.2 _ hmem _ hq (by rw [hrest])
  · cases heq

/-- A path that leads to a place does so by its names. -/
theorem follow_of_find (h : t.find dir = .ok place) :
    t.follow (t.startOf dir) dir.names = .ok place := by
  unfold find at h
  split at h
  · cases h
  · exact h

/-- Where the path of an entry below a directory leads: to the entry, unless it is too long. -/
theorem find_below_eq (ht : t.Rooted) (hdir : t.find dir = .ok place) {rest : List String}
    (hrest : rest ≠ []) (hmem : place ++ rest ∈ t.places) :
    t.find { dir with names := dir.names ++ rest }
      = if maxPathSize < ({ dir with names := dir.names ++ rest } : Path).toString.utf8ByteSize then
          .error .nameTooLong
        else if ∃ n ∈ rest, maxNameSize < n.utf8ByteSize then .error .nameTooLong
        else .ok (place ++ rest) := by
  have hne : place ++ rest ≠ [] := by simp [hrest]
  have hdots : ".." ∉ rest := by
    obtain ⟨e, he, heq⟩ := List.mem_map.mp hmem
    intro h
    exact ht.entries e he (heq ▸ List.mem_append_right _ h)
  have hstart : t.startOf { dir with names := dir.names ++ rest } = t.startOf dir := rfl
  rw [find, hstart, follow_append_of_ok (follow_of_find hdir),
    ht.follow_eq hdots ((mem_places_iff hne).mp hmem)]

/-- What was below a directory leads to where it led, in a tree that has grown. -/
theorem find_of_below (ht : t.Rooted) (hu : u.Rooted) (hgrows : Grows t u)
    (hdir : t.find dir = .ok place) (hp : p ∈ t.below dir place) : u.find p = t.find p := by
  obtain ⟨rest, hrest, hmem, rfl⟩ := mem_below_iff.mp hp
  rw [find_below_eq ht hdir hrest hmem,
    find_below_eq hu (hgrows.find ht hdir) hrest (hgrows.places.subset hmem)]

/-- What was below a directory is a file if it was one. -/
theorem isFile_of_below (ht : t.Rooted) (hu : u.Rooted) (hgrows : Grows t u)
    (hdir : t.find dir = .ok place) (hp : p ∈ t.below dir place) : u.isFile p = t.isFile p := by
  rw [isFile, isFile, hasEntry, hasEntry, find_of_below ht hu hgrows hdir hp]
  cases hfind : t.find p with
  | error k => cases k <;> rfl
  | ok q =>
    obtain ⟨entry, hentry⟩ := Option.isSome_iff_exists.mp (ht.isSome_of_find hfind)
    cases entry with
    | directory => simp [hentry, hgrows.directory hentry]
    | file b =>
      obtain ⟨b', hb'⟩ := hgrows.file hentry
      simp [hentry, hb']

/-- The directories below a directory. -/
theorem mem_directoriesBelow_iff (ht : t.Rooted) : p ∈ t.directoriesBelow dir place ↔
    ∃ rest, rest ≠ [] ∧ t.entry? (place ++ rest) = some .directory ∧
      p = { dir with names := dir.names ++ rest } := by
  have hentry : ∀ {rest : List String}, rest ≠ [] →
      (place ++ rest ∈ places { t with entries := t.entries.filter fun e => e.2 = .directory } ↔
        t.entry? (place ++ rest) = some .directory) := by
    intro rest hrest
    constructor
    · intro hmem
      obtain ⟨⟨q, entry⟩, hfiltered, rfl⟩ := List.mem_map.mp hmem
      obtain ⟨he, hdirectory⟩ := List.mem_filter.mp hfiltered
      obtain rfl : entry = .directory := by simpa using hdirectory
      exact ht.entry_of_mem he
    · intro h
      rw [entry_eq_lookup t (by simp [hrest])] at h
      exact List.mem_map.mpr ⟨_, List.mem_filter.mpr ⟨mem_of_lookup h, by simp⟩, rfl⟩
  unfold directoriesBelow
  rw [mem_below_iff]
  constructor
  · rintro ⟨rest, hrest, hmem, rfl⟩
    exact ⟨rest, hrest, (hentry hrest).mp hmem, rfl⟩
  · rintro ⟨rest, hrest, hdirectory, rfl⟩
    exact ⟨rest, hrest, (hentry hrest).mpr hdirectory, rfl⟩

end FileTree

namespace ReferenceIndex

variable {x : ReferenceIndex} {t u : FileTree} {p : Path} {place : Place}

/-- Where candidates are listed, there are none or they are those below the root. -/
theorem candidates_cases {ps : List Path} (h : x.candidates t = .ok ps) :
    ps = [] ∨ ∃ place, t.isDirectory x.root = .ok true ∧ t.find x.root = .ok place ∧
      (t.directoriesBelow x.root place).findSome? t.refusal? = none ∧
      ps = Path.sort (t.below x.root place) := by
  unfold candidates at h
  split at h
  · cases h
  · cases h
    exact Or.inl rfl
  · next hdirectory =>
    split at h
    · cases h
      exact Or.inl rfl
    · next place hfind =>
      split at h
      · cases h
      · next hlisted =>
        cases h
        exact Or.inr ⟨place, hdirectory, hfind, hlisted, rfl⟩

theorem admits_iff : x.admits t p = true ↔
    t.isFile p = .ok true ∧ ((p.below? x.root).getD p).isIgnored x.ignorePatterns = false := by
  unfold admits
  cases hfile : t.isFile p with
  | error e => simp [Except.toOption]
  | ok found => cases found <;> simp [Except.toOption]

/-! ### What is decided by whether a path is a file -/

theorem refusal_of_isFile (h : u.isFile p = t.isFile p) : u.refusal? p = t.refusal? p := by
  rw [FileTree.refusal?, FileTree.refusal?, h]

theorem admits_of_isFile (h : u.isFile p = t.isFile p) : x.admits u p = x.admits t p := by
  rw [admits, admits, h]

theorem selects_of_isFile (h : u.isFile p = t.isFile p) : x.selects u p = x.selects t p := by
  rw [selects, selects, admits_of_isFile h]

/--
**In a tree that has grown, all that is below the root is listed** if it was before, and if nothing
that is new has too long a path.
-/
theorem candidates_grows (ht : t.Rooted) (hu : u.Rooted) (hgrows : FileTree.Grows t u)
    (hdirectory : t.isDirectory x.root = .ok true) (hfind : t.find x.root = .ok place)
    (hlisted : (t.directoriesBelow x.root place).findSome? t.refusal? = none)
    (hnew : ∀ p ∈ u.below x.root place, p ∉ t.below x.root place → u.refusal? p = none) :
    x.candidates u = .ok (Path.sort (u.below x.root place)) := by
  have hroot : t.entry? place = some .directory := by
    rw [FileTree.isDirectory, FileTree.hasEntry, hfind] at hdirectory
    cases hentry : t.entry? place with
    | none => simp [hentry] at hdirectory
    | some entry => simpa [hentry] using hdirectory
  have hfind' := hgrows.find ht hfind
  have hdirectory' : u.isDirectory x.root = .ok true := by
    rw [FileTree.isDirectory, FileTree.hasEntry, hfind']
    simp [hgrows.directory hroot]
  refine candidates_eq hdirectory' hfind' (List.findSome?_eq_none_iff.mpr fun p hp => ?_)
  obtain ⟨rest, hrest, hentry, rfl⟩ := (FileTree.mem_directoriesBelow_iff hu).mp hp
  have hne : place ++ rest ≠ [] := by simp [hrest]
  have hbelow : { x.root with names := x.root.names ++ rest } ∈ u.below x.root place :=
    FileTree.mem_below_iff.mpr ⟨rest, hrest, (FileTree.mem_places_iff hne).mpr (by
      rw [hentry, Option.isSome_some]), rfl⟩
  by_cases hold : { x.root with names := x.root.names ++ rest } ∈ t.below x.root place
  · -- what was there was a directory before
    rw [refusal_of_isFile (FileTree.isFile_of_below ht hu hgrows hfind hold)]
    obtain ⟨rest', _, hmem, heq⟩ := FileTree.mem_below_iff.mp hold
    obtain rfl : rest = rest' := by simpa using heq
    obtain ⟨entry, hentry'⟩ := Option.isSome_iff_exists.mp ((FileTree.mem_places_iff hne).mp hmem)
    refine List.findSome?_eq_none_iff.mp hlisted _
      ((FileTree.mem_directoriesBelow_iff ht).mpr ⟨rest, hrest, ?_, rfl⟩)
    cases entry with
    | directory => exact hentry'
    | file b =>
      obtain ⟨b', hb'⟩ := hgrows.file hentry'
      rw [hb'] at hentry
      cases hentry
  · exact hnew _ hbelow hold

/-- Without what is new, what is below the root is in the order in which it was. -/
theorem filter_sort_below (hu : u.Rooted) (hgrows : FileTree.Grows t u) (place : Place) :
    (Path.sort (u.below x.root place)).filter (· ∈ t.below x.root place)
      = Path.sort (t.below x.root place) := by
  obtain ⟨new, hbelow, hnew⟩ := FileTree.exists_below_grows hu hgrows x.root place
  rw [hbelow]
  refine Path.filter_sort_append (r := x.root.root) (fun p hp => ?_) hnew
  obtain ⟨rest, _, _, rfl⟩ := FileTree.mem_below_iff.mp hp
  rfl

end ReferenceIndex

end LiveTemplates
