import LiveTemplates.Proofs.Expansion.Iterations
import LiveTemplates.Proofs.Expansion.Spliced
import LiveTemplates.Proofs.FileTree.Growth

/-!
# What an expansion depends on

An expansion reads nothing but the files to which the includes lead that it comes to
(`Expansion.LooksUp`). If the same files are there in another tree, and none where there was none,
the text is expanded as before, or for the same reason not (`expand_congr`).
-/

namespace LiveTemplates

namespace FileTree

variable {t u : FileTree} {q : Place} {p source : Path} {content : ByteArray}

/-- A file that is the same in another tree is found there by its normal path. -/
theorem Holds.of_sameFile (h : t.Holds p q content) (ht : t.Rooted) (hu : u.Rooted)
    (habsolute : p.isAbsolute = true) (hdots : ".." ∉ p.names) (hsame : SameFile t u p.names) :
    u.Holds p p.names content := by
  have hstart : ∀ v : FileTree, v.startOf p = [] := fun v => by
    rw [startOf, if_pos habsolute]
  have hentry : ∀ {v : FileTree}, v.Rooted → (v.entry? p.names).isSome = true →
      v.find p = if maxPathSize < p.toString.utf8ByteSize then .error .nameTooLong
        else if ∃ n ∈ p.names, maxNameSize < n.utf8ByteSize then .error .nameTooLong
        else .ok p.names := by
    intro v hv hsome
    rw [FileTree.find, hstart]
    exact if_congr Iff.rfl rfl (hv.follow_eq hdots hsome)
  have hq : q = p.names := by
    have hnormal : p.absolute t.cwd = p := by
      rw [Path.absolute, Path.join_of_isAbsolute habsolute, Path.normalise_of_notMem hdots]
    rw [place_of_find ht.workingDirectory h.find, hnormal]
  have hfile := h.entry
  rw [hq] at hfile
  have hfile' := (hsame content).mp hfile
  have hfind := h.find
  rw [hentry ht (by rw [hfile, Option.isSome_some]), hq] at hfind
  exact ⟨by rw [hentry hu (by rw [hfile', Option.isSome_some])]; exact hfind, hfile'⟩

/-- An include brings in the text of the file to which its argument leads. -/
theorem includedText_of_holds {argument : List Char} {target : Path}
    (htarget : source.resolve (String.ofList argument) t.cwd = target)
    (h : t.Holds target q content) :
    t.includedText source argument
      = match Text.decodeUtf8 content with
        | .error flaw => .error (.illFormed flaw)
        | .ok s => .ok (some (target, Text.unifyLineEnds s.toList)) := by
  unfold includedText includedFile?
  rw [htarget]
  dsimp only
  rw [isFile_iff.mpr ⟨q, content, h⟩]
  dsimp only
  rw [readText, read_eq_ok_iff.mpr ⟨q, h⟩]
  dsimp only
  cases Text.decodeUtf8 content <;> rfl

/-- An include brings in nothing if its argument leads to no file. -/
theorem includedText_of_not_isFile {argument : List Char} {target : Path}
    (htarget : source.resolve (String.ofList argument) t.cwd = target)
    (h : t.isFile target ≠ .ok true) : t.includedText source argument = .ok none := by
  have hnone : t.includedFile? source argument = none := by
    unfold includedFile?
    rw [htarget]
    dsimp only
    split
    · next htrue => exact absurd htrue h
    · rfl
  unfold includedText
  rw [hnone]

/-- **An include brings in the same from two trees** in which its argument leads to the same. -/
theorem includedText_congr (ht : t.Rooted) (hu : u.Rooted) (hcwd : u.cwd = t.cwd)
    {argument : List Char}
    (hsame : SameFile t u (source.resolve (String.ofList argument) t.cwd).names) :
    u.includedText source argument = t.includedText source argument := by
  have habsolute : (source.resolve (String.ofList argument) t.cwd).isAbsolute = true :=
    Path.isAbsolute_absolute t.isAbsolute_cwd _
  have hdots : ".." ∉ (source.resolve (String.ofList argument) t.cwd).names :=
    Path.notMem_absolute t.isAbsolute_cwd _
  have htarget' : source.resolve (String.ofList argument) u.cwd
      = source.resolve (String.ofList argument) t.cwd := by rw [hcwd]
  generalize htarget : source.resolve (String.ofList argument) t.cwd = target at *
  by_cases h : t.isFile target = .ok true
  · obtain ⟨q, b, h⟩ := isFile_iff.mp h
    rw [includedText_of_holds htarget h]
    exact includedText_of_holds htarget' (h.of_sameFile ht hu habsolute hdots hsame)
  · rw [includedText_of_not_isFile htarget h]
    refine includedText_of_not_isFile htarget' fun h' => h ?_
    obtain ⟨q, b, h'⟩ := isFile_iff.mp h'
    exact isFile_iff.mpr ⟨_, b, h'.of_sameFile hu ht habsolute hdots hsame.symm⟩

end FileTree

namespace Expansion

variable {t u : FileTree} {source : Path} {text : List Char} {b : Bool} {e : Expansion}

/-- The place to which the next tag leads, if it is an include. -/
def sought? (t : FileTree) (source : Path) (e : Expansion) : Option Place :=
  match Tag.first? e.text with
  | none => none
  | some (before, m) =>
    if (m.toTag before.length).isInclude then
      some (source.resolve (String.ofList m.argument) t.cwd).names
    else none

/-- An include that the expansion of a text comes to leads to a place. -/
def LooksUp (t : FileTree) (source : Path) (text : List Char) (q : Place) : Prop :=
  ∃ b e, Met t source true (initial text) b e ∧ sought? t source e = some q

/-- The places that are looked up, if the end comes within the allowed steps. -/
def soughtWithin (t : FileTree) (source : Path) : Nat → Bool → Expansion → Option (List Place)
  | 0, _, _ => none
  | n + 1, b, e =>
    match step? t source b e with
    | .ok (some e') => (soughtWithin t source n false e').map ((sought? t source e).toList ++ ·)
    | _ => some (sought? t source e).toList

/-- The places that are looked up can be listed. -/
theorem mem_of_met_sought {n : Nat} {b' : Bool} {start : Expansion} {places : List Place}
    {q : Place} (h : soughtWithin t source n b start = some places)
    (hmet : Met t source b start b' e) (hq : sought? t source e = some q) : q ∈ places := by
  induction n generalizing b start places with
  | zero => cases h
  | succ n ih =>
    rw [soughtWithin] at h
    split at h
    · next e' hstep =>
      obtain ⟨rest, hrest, rfl⟩ := Option.map_eq_some_iff.mp h
      rcases hmet.head with ⟨_, rfl⟩ | ⟨e₁, hstep', hmet⟩
      · exact List.mem_append_left _ (Option.mem_toList.mpr hq)
      · obtain rfl : e' = e₁ := by simpa [hstep] using hstep'
        exact List.mem_append_right _ (ih hrest hmet)
    · next hstop =>
      obtain rfl : (sought? t source start).toList = places := by simpa using h
      rcases hmet.head with ⟨_, rfl⟩ | ⟨e₁, hstep, _⟩
      · exact Option.mem_toList.mpr hq
      · exact absurd hstep (hstop e₁)

theorem LooksUp.mem {n : Nat} {places : List Place} {q : Place} (hq : LooksUp t source text q)
    (h : soughtWithin t source n true (initial text) = some places) : q ∈ places := by
  obtain ⟨b, e, hmet, hsought⟩ := hq
  exact mem_of_met_sought h hmet hsought

/-- A tag is replaced by the same in two trees, if it is no include or brings in the same. -/
theorem applyTag_congr (hcwd : u.cwd = t.cwd) {tag : Tag}
    (h : tag.isInclude = true → u.includedText source tag.argument
      = t.includedText source tag.argument) :
    applyTag u source b tag e = applyTag t source b tag e := by
  unfold applyTag
  cases hkind : tag.kind with
  | none => rfl
  | some kind =>
    cases kind with
    | partialFile => rfl
    | outputFile =>
      dsimp only
      rw [hcwd]
    | includeFile =>
      dsimp only
      split
      · rfl
      · next hargument =>
        have hempty : tag.argument.isEmpty = false := by
          simpa [TagKind.requiresArgument] using hargument
        rw [h (by simp [Tag.isInclude, hkind, hempty])]

/-- A text is expanded in the same steps if what it comes to brings in the same. -/
theorem runWithin_congr (hcwd : u.cwd = t.cwd) {n : Nat}
    (h : ∀ b' e' before m, Met t source b e b' e' → Tag.first? e'.text = some (before, m) →
      (m.toTag before.length).isInclude = true →
      u.includedText source m.argument = t.includedText source m.argument) :
    runWithin u source b n e = runWithin t source b n e := by
  induction n generalizing b e with
  | zero => rfl
  | succ n ih =>
    have hstep : step? u source b e = step? t source b e := by
      unfold step?
      cases hfirst : Tag.first? e.text with
      | none => rfl
      | some first =>
        obtain ⟨before, m⟩ := first
        have happly : applyTag u source b (m.toTag before.length) e
            = applyTag t source b (m.toTag before.length) e :=
          applyTag_congr hcwd (h b e before m .start hfirst)
        dsimp only
        rw [happly]
    rw [runWithin, runWithin, hstep]
    split
    · rfl
    · rfl
    · next e₁ hnext =>
      exact ih fun b' e' before m hmet => h b' e' before m (hmet.after_step hnext)

/-- **An expansion depends on nothing but the files that it looks up.** -/
theorem expand_congr (ht : t.Rooted) (hu : u.Rooted)
    (hcwd : u.workingDirectory = t.workingDirectory)
    (h : ∀ q, LooksUp t source text q → t.SameFile u q) :
    expand u source text = expand t source text := by
  have hcwd' : u.cwd = t.cwd := by
    rw [FileTree.cwd, hcwd]
    rfl
  obtain ⟨n, r, hn⟩ := exists_runWithin t source true (initial text)
  have hn' : runWithin u source true n (initial text) = some r := by
    rw [runWithin_congr hcwd', hn]
    intro b e before m hmet hfirst hinclude
    refine FileTree.includedText_congr ht hu hcwd' (h _ ⟨b, e, hmet, ?_⟩)
    rw [sought?, hfirst]
    dsimp only
    rw [if_pos hinclude]
  rw [expand, expand, run_eq_of_runWithin hn, run_eq_of_runWithin hn']

end Expansion

end LiveTemplates
