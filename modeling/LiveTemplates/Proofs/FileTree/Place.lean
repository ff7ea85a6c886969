import LiveTemplates.FileTree
import LiveTemplates.Proofs.Path.Normal

/-!
# Where paths lead

Following a path name by name and making it absolute are two ways to deal with names of two dots. In
a proper tree they agree: what is found at a path stands at the place that the names of its absolute
path say (`place_of_find`). So a file has one text, by whichever path it is read
(`readText_of_absolute`).
-/

namespace LiveTemplates.FileTree

/-- No name in a tree is two dots. -/
structure Proper (t : FileTree) : Prop where
  workingDirectory : ".." ∉ t.workingDirectory
  entries : ∀ e ∈ t.entries, ".." ∉ e.1

variable {t : FileTree} {p : Path}

/-- The last name of a place is never two dots, so to take it back is what the tree does. -/
theorem stepName_reverse_dots {place : Place} (hplace : ".." ∉ place) :
    Path.stepName true place.reverse ".." = place.dropLast.reverse := by
  rcases List.eq_nil_or_concat place with rfl | ⟨above, a, rfl⟩
  · rfl
  · have ha : a ≠ ".." := by
      rintro rfl
      simp at hplace
    simp [Path.stepName, ha]

/-- Following names takes them into account one by one. -/
theorem place_of_follow {place place' : Place} {names : List String} (hplace : ".." ∉ place)
    (h : t.follow place names = .ok place') :
    place' = (names.foldl (Path.stepName true) place.reverse).reverse := by
  induction names generalizing place with
  | nil => simpa [follow] using h.symm
  | cons n names ih =>
    rw [follow] at h
    split at h
    · cases h
    · split at h
      · next hdots =>
        obtain rfl : n = ".." := by simpa using hdots
        rw [List.foldl_cons, stepName_reverse_dots hplace]
        exact ih (fun hmem => hplace ((List.dropLast_sublist place).mem hmem)) h
      · next hdots =>
        have hn : n ≠ ".." := by simpa using hdots
        split at h
        · cases h
        · split at h
          · cases h
          · have hnew : ".." ∉ place ++ [n] := by simpa using ⟨hplace, Ne.symm hn⟩
            rw [List.foldl_cons, ih hnew h]
            simp [Path.stepName, hn]

theorem isAbsolute_cwd (t : FileTree) : t.cwd.isAbsolute = true := rfl

/-- The absolute path takes the names of a path into account from where the path starts. -/
theorem names_absolute (hcwd : ".." ∉ t.workingDirectory) (p : Path) :
    (p.absolute t.cwd).names
      = (p.names.foldl (Path.stepName true) (t.startOf p).reverse).reverse := by
  obtain ⟨root, names⟩ := p
  cases root with
  | slash => rfl
  | doubleSlash => rfl
  | workingDirectory =>
    have hstart := Path.foldl_stepName_of_notMem hcwd true []
    rw [List.append_nil] at hstart
    show ((t.workingDirectory ++ names).foldl (Path.stepName true) []).reverse = _
    rw [List.foldl_append, hstart]
    rfl

/-- A path starts at a place without names of two dots. -/
theorem notMem_startOf (hcwd : ".." ∉ t.workingDirectory) (p : Path) : ".." ∉ t.startOf p := by
  unfold startOf
  split
  · exact List.not_mem_nil
  · exact hcwd

/-- **What is found at a path stands where its absolute path says.** -/
theorem place_of_find {place : Place} (hcwd : ".." ∉ t.workingDirectory)
    (h : t.find p = .ok place) : place = (p.absolute t.cwd).names := by
  unfold find at h
  split at h
  · cases h
  · rw [names_absolute hcwd]
    exact place_of_follow (notMem_startOf hcwd p) h

/-- A path that leads to a file leads to a place. -/
theorem exists_find_of_isFile (h : t.isFile p = .ok true) : ∃ place, t.find p = .ok place := by
  unfold isFile hasEntry at h
  split at h
  · next place hfind => exact ⟨place, hfind⟩
  · cases h
  · cases h

/-- The text of a file is the same by any path that leads to it. -/
theorem readText_of_absolute {s : List Char} (ht : t.Proper) (hp : t.isFile p = .ok true)
    (h : t.readText (p.absolute t.cwd) = .ok s) : t.readText p = .ok s := by
  obtain ⟨place, hplace⟩ := exists_find_of_isFile hp
  unfold readText read at h ⊢
  cases habsolute : t.find (p.absolute t.cwd) with
  | error k => simp [habsolute] at h
  | ok place' =>
    obtain rfl : place' = place := by
      rw [place_of_find ht.workingDirectory hplace, place_of_find ht.workingDirectory habsolute,
        Path.absolute_absolute t.isAbsolute_cwd]
    rw [habsolute] at h
    rw [hplace]
    dsimp only at h ⊢
    cases hentry : t.entry? place' with
    | none => simp [hentry] at h
    | some entry =>
      cases entry with
      | directory => simp [hentry] at h
      | file content => simpa [hentry] using h

end LiveTemplates.FileTree
