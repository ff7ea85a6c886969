import LiveTemplates.Proofs.FileTree.Growth
import LiveTemplates.Proofs.Path.Reading

/-!
# Where arguments lead

The argument of a directive is a path seen from the directory of its file. To resolve it is to make
that path absolute, and names of two dots are dealt with by the text alone. A walk deals with them
otherwise: it looks each name up in a directory, and two dots lead to the directory above.

Where every directory on the way is there, the two agree: the resolved path leads from the root to
what the walk comes to (`follow_resolve`). What carries this over the names is that each place a walk
comes to is itself found from the root by its names (`follow_root_of_follow`).
-/

namespace LiveTemplates

namespace Path

variable {p q cwd : Path} {n : String} {names above : List String}

/-! ## Names of resolved paths -/

/-- Taking names into account makes no new names. -/
theorem mem_or_mem_of_mem_stepName {absolute : Bool} {m : String}
    (h : n ∈ stepName absolute above m) : n = m ∨ n ∈ above := by
  unfold stepName at h
  by_cases hm : m = ".."
  · rw [if_pos (by simp [hm])] at h
    cases above with
    | nil => exact .inl (by cases absolute <;> simp_all)
    | cons a rest =>
      by_cases ha : a = ".."
      · exact .inr (by simpa [ha] using h)
      · exact .inr (List.mem_cons_of_mem _ (by simpa [ha] using h))
  · rw [if_neg (by simpa using hm)] at h
    exact List.mem_cons.mp h

theorem mem_or_mem_of_mem_foldl_stepName {absolute : Bool}
    (h : n ∈ names.foldl (stepName absolute) above) : n ∈ names ∨ n ∈ above := by
  induction names generalizing above with
  | nil => exact .inr h
  | cons m names ih =>
    rcases ih h with hmem | hmem
    · exact .inl (List.mem_cons_of_mem _ hmem)
    · rcases mem_or_mem_of_mem_stepName hmem with rfl | hmem
      · exact .inl List.mem_cons_self
      · exact .inr hmem

theorem IsSpelled.normalise (h : p.IsSpelled) : p.normalise.IsSpelled := by
  intro n hn
  rcases mem_or_mem_of_mem_foldl_stepName (List.mem_reverse.mp hn) with hmem | hmem
  · exact h n hmem
  · cases hmem

theorem IsSpelled.join (h : p.IsSpelled) (h' : q.IsSpelled) : (p.join q).IsSpelled := by
  obtain ⟨root, names⟩ := q
  cases root with
  | workingDirectory => exact fun n hn => (List.mem_append.mp hn).elim (h n) (h' n)
  | slash => exact h'
  | doubleSlash => exact h'

theorem IsSpelled.parent (h : p.IsSpelled) : p.parent.IsSpelled :=
  fun n hn => h n (List.dropLast_subset _ hn)

/-- The path that an argument spells, seen from the directory of the file that it stands in. -/
def ofArgument (source : Path) (argument : String) : Path :=
  source.parent / Text.trimString argument

theorem IsSpelled.ofArgument (h : p.IsSpelled) (argument : String) :
    (p.ofArgument argument).IsSpelled :=
  h.parent.join (isSpelled_ofString _)

/-- A resolved argument is absolute and spelled, and has no name of two dots. -/
theorem IsSpelled.resolve (h : p.IsSpelled) (hcwd : cwd.IsSpelled) (habsolute : cwd.isAbsolute = true)
    (argument : String) :
    (p.resolve argument cwd).isAbsolute = true ∧
      ∀ n ∈ (p.resolve argument cwd).names, IsName n ∧ n ≠ ".." := by
  refine ⟨isAbsolute_absolute habsolute _, fun n hn => ⟨?_, ?_⟩⟩
  · exact (hcwd.join (h.ofArgument argument)).normalise n hn
  · rintro rfl
    exact notMem_absolute habsolute _ hn

end Path

namespace FileTree

variable {t : FileTree} {start place : Place} {names : List String}

/-! ## Walks -/

/-- Each name on the way is looked up in a directory that is there. -/
def Passes (t : FileTree) (start : Place) (names : List String) : Prop :=
  ∀ before n, before ++ [n] <+: names →
    ∃ place, t.follow start before = .ok place ∧ t.entry? place = some .directory

/-- On the way to what is found there are directories. -/
theorem passes_of_follow (h : t.follow start names = .ok place) : t.Passes start names := by
  rintro before n ⟨after, rfl⟩
  rw [List.append_assoc] at h
  cases hbefore : t.follow start before with
  | error k =>
    rw [follow_append_of_error hbefore] at h
    cases h
  | ok q =>
    refine ⟨q, rfl, ?_⟩
    rw [follow_append_of_ok hbefore, List.singleton_append, follow] at h
    by_contra hdirectory
    rw [if_pos hdirectory] at h
    cases h

/-- What is found by its names is in a directory that is found by its own. -/
theorem follow_root_dropLast (hplace : ".." ∉ place) (h : t.follow [] place = .ok place) :
    t.follow [] place.dropLast = .ok place.dropLast := by
  rcases List.eq_nil_or_concat' place with rfl | ⟨above, a, rfl⟩
  · exact h
  · rw [List.dropLast_concat]
    cases hfollow : t.follow [] above with
    | error k =>
      rw [follow_append_of_error hfollow] at h
      cases h
    | ok q =>
      have habove : ".." ∉ above := fun hmem => hplace (List.mem_append_left _ hmem)
      rw [place_of_follow List.not_mem_nil hfollow, Path.foldl_stepName_of_notMem habove]
      simp

/-- A step from a place that is found from the root by its names comes to such a place. -/
theorem follow_root_of_step {n : String} (hstart : ".." ∉ start)
    (hroot : t.follow [] start = .ok start) (h : t.follow start [n] = .ok place) :
    ".." ∉ place ∧ t.follow [] place = .ok place := by
  have hplace := place_of_follow hstart h
  rw [List.foldl_cons, List.foldl_nil] at hplace
  by_cases hn : n = ".."
  · rw [hn, stepName_reverse_dots hstart, List.reverse_reverse] at hplace
    rw [hplace]
    exact ⟨fun hmem => hstart (List.dropLast_subset _ hmem), follow_root_dropLast hstart hroot⟩
  · obtain rfl : place = start ++ [n] := by simpa [Path.stepName, hn] using hplace
    refine ⟨by simpa using ⟨hstart, Ne.symm hn⟩, ?_⟩
    rw [follow_append_of_ok hroot]
    exact h

/-- **Each place that a walk comes to is found from the root by its names.** -/
theorem follow_root_of_follow (hstart : ".." ∉ start) (hroot : t.follow [] start = .ok start)
    (h : t.follow start names = .ok place) : ".." ∉ place ∧ t.follow [] place = .ok place := by
  induction names generalizing start with
  | nil =>
    obtain rfl : start = place := by simpa [follow] using h
    exact ⟨hstart, hroot⟩
  | cons n names ih =>
    rw [← List.singleton_append] at h
    cases hstep : t.follow start [n] with
    | error k =>
      rw [follow_append_of_error hstep] at h
      cases h
    | ok next =>
      obtain ⟨hnext, hfound⟩ := follow_root_of_step hstart hroot hstep
      rw [follow_append_of_ok hstep] at h
      exact ih hnext hfound h

/--
Names that are taken into account by their text lead from the root to what a walk comes to, whether
or not there is something at its end.
-/
theorem follow_root_foldl (hstart : ".." ∉ start) (hroot : t.follow [] start = .ok start)
    (h : t.Passes start names) :
    t.follow [] (names.foldl (Path.stepName true) start.reverse).reverse
      = t.follow start names := by
  rcases List.eq_nil_or_concat' names with rfl | ⟨before, n, rfl⟩
  · rw [List.foldl_nil, List.reverse_reverse, hroot]
    rfl
  · -- all but the last name is walked, so only one step of the two ways is left to compare
    obtain ⟨place, hfollow, hdirectory⟩ := h before n (List.prefix_refl _)
    obtain ⟨hplace, hfound⟩ := follow_root_of_follow hstart hroot hfollow
    have hbefore : before.foldl (Path.stepName true) start.reverse = place.reverse := by
      rw [place_of_follow hstart hfollow, List.reverse_reverse]
    rw [follow_append_of_ok hfollow, List.foldl_append, hbefore, List.foldl_cons, List.foldl_nil]
    by_cases hn : n = ".."
    · subst hn
      rw [stepName_reverse_dots hplace, List.reverse_reverse, follow_root_dropLast hplace hfound]
      simp [follow, hdirectory]
    · have hstep : (Path.stepName true place.reverse n).reverse = place ++ [n] := by
        simp [Path.stepName, hn]
      rw [hstep, follow_append_of_ok hfound]

/-! ## Arguments -/

/--
**To resolve an argument is to walk, wherever the directories on the way are there.** The resolved
path is absolute, and its names are neither empty nor dots. If the walk along the path that the
argument spells starts at a place that is there and passes only through directories, the names of
the resolved path lead from the root to what the walk comes to, or fail as the last step of the walk
does. As a path it is found there, unless its text is too long for any path.
-/
theorem follow_resolve (hcwd : ∀ n ∈ t.workingDirectory, Path.IsName n ∧ n ≠ "..")
    (source argument : String) :
    let spelled := (Path.ofString source).ofArgument argument
    let target := (Path.ofString source).resolve argument t.cwd
    (target.isAbsolute = true ∧ ∀ n ∈ target.names, Path.IsName n ∧ n ≠ "..") ∧
      (t.follow [] (t.startOf spelled) = .ok (t.startOf spelled) →
        t.Passes (t.startOf spelled) spelled.names →
          t.follow [] target.names = t.follow (t.startOf spelled) spelled.names ∧
            t.find target =
              if maxPathSize < target.toString.utf8ByteSize then .error .nameTooLong
              else t.follow (t.startOf spelled) spelled.names) := by
  intro spelled target
  have hdots : ".." ∉ t.workingDirectory := fun hmem => (hcwd _ hmem).2 rfl
  have hspelled : t.cwd.IsSpelled := fun n hn => (hcwd n hn).1
  have htarget := (Path.isSpelled_ofString source).resolve hspelled t.isAbsolute_cwd argument
  refine ⟨htarget, fun hroot hpasses => ?_⟩
  have hwalk : t.follow [] target.names = t.follow (t.startOf spelled) spelled.names :=
    calc t.follow [] target.names
        = t.follow []
            (spelled.names.foldl (Path.stepName true) (t.startOf spelled).reverse).reverse :=
          congrArg (t.follow []) (names_absolute hdots spelled)
      _ = t.follow (t.startOf spelled) spelled.names :=
          follow_root_foldl (notMem_startOf hdots spelled) hroot hpasses
  refine ⟨hwalk, ?_⟩
  rw [find, ← hwalk, startOf, if_pos htarget.1]

/-- A directory with a file and a directory, in which there is one more. -/
def nestedDirectories : FileTree where
  entries := [(["w"], .directory), (["w", "f"], .file ⟨#[]⟩), (["w", "a"], .directory),
    (["w", "a", "b"], .directory)]
  workingDirectory := ["w"]

/-- An argument that goes up beyond the root and down again. -/
theorem nestedDirectories_resolves :
    (∀ n ∈ nestedDirectories.workingDirectory, Path.IsName n ∧ n ≠ "..") ∧
      nestedDirectories.follow [] ["w"] = .ok ["w"] ∧
      nestedDirectories.Passes ["w"] ["a", "b", "..", "..", "..", "..", "w", "a", "..", "f"] ∧
      nestedDirectories.find
        ((Path.ofString "a/b/page.t").resolve " ../..//../../w/a/./../f\n" nestedDirectories.cwd)
        = .ok ["w", "f"] := by
  have hcwd : ∀ n ∈ nestedDirectories.workingDirectory, Path.IsName n ∧ n ≠ ".." := by
    intro n hn
    obtain rfl : n = "w" := by simpa [nestedDirectories] using hn
    exact ⟨⟨by decide, by decide, by decide⟩, by decide⟩
  have hfollow : nestedDirectories.follow [] ["w"] = .ok ["w"] ∧
      nestedDirectories.follow ["w"] ["a", "b", "..", "..", "..", "..", "w", "a", "..", "f"]
        = .ok ["w", "f"] := by
    decide +kernel
  have hpasses := passes_of_follow hfollow.2
  have hresolve := follow_resolve hcwd "a/b/page.t" " ../..//../../w/a/./../f\n"
  refine ⟨hcwd, hfollow.1, hpasses, ?_⟩
  rw [(hresolve.2 hfollow.1 hpasses).2]
  decide +kernel

end FileTree

end LiveTemplates
