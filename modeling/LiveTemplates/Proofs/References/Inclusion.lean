import Mathlib.Data.List.Nodup
import LiveTemplates.Include
import LiveTemplates.Proofs.FileTree.Change
import LiveTemplates.Proofs.Tag.Clean

/-!
# The files that a text refers to

Removing the first tag of a text again and again brings together what stood before a tag and what
stood behind it. If no gap before a tag ends in the beginning of a tag (`Seamless`), no tag comes
into being there and none is cut off: the tags that are met are those that a scan of the whole text
finds, in the same order (`map_unplaced_peel`). Only their places differ.

So a seamless text refers to the files of the includes that stand in it, and to no other ones
(`FileTree.mem_includedPaths_iff`). What follows the last tag may end in any way. What stands before
the first tag may not (`FileTree.includedPaths_before_first`).
-/

namespace LiveTemplates

namespace Tag

/-! ## Tags without their places -/

/-- A tag regardless of where it stands. -/
def unplaced (tag : Tag) : Tag :=
  { tag with start := 0, stop := 0 }

@[simp]
theorem unplaced_moved (k : Nat) (tag : Tag) : (moved k tag).unplaced = tag.unplaced := rfl

@[simp]
theorem isInclude_unplaced (tag : Tag) : tag.unplaced.isInclude = tag.isInclude := rfl

@[simp]
theorem argument_unplaced (tag : Tag) : tag.unplaced.argument = tag.argument := rfl

/-- The same sighting is the same tag in all places. -/
theorem unplaced_toTag (m : Sighting) (k j : Nat) : (m.toTag k).unplaced = (m.toTag j).unplaced :=
  rfl

/-! ## Removing tags -/

theorem peel_of_none {s : List Char} (h : first? s = none) : peel s = [] := by
  rw [peel]
  split
  · rfl
  · next hsome => simp [h] at hsome

/-- The first tag is met first, and then those of the text without it. -/
theorem peel_of_first? {s before : List Char} {m : Sighting} (h : first? s = some (before, m)) :
    peel s = m.toTag before.length :: peel (before ++ m.rest) := by
  rw [peel]
  split
  · next hnone => simp [h] at hnone
  · next before' m' hsome =>
    obtain ⟨rfl, rfl⟩ : before = before' ∧ m = m' := by simpa [h] using hsome
    rfl

/-- **No gap before a tag ends in characters with which a tag begins.** -/
def Seamless (s : List Char) : Prop :=
  ∀ part ∈ parts s, ∀ v, v <:+ part.1 → v ≠ [] → ∀ w, IsDirective w → ¬ (v <+: w ∧ v ≠ w)

/-- A clean text is seamless. -/
theorem Clean.seamless {s : List Char} (h : Clean s) : Seamless s := by
  intro part hpart
  exact h part.1 (List.mem_append_left _ (List.mem_map_of_mem hpart))

/-- A text is seamless if the character that tags begin with stands in no gap before a tag. -/
theorem seamless_of_notMem {s : List Char} (h : ∀ part ∈ parts s, '<' ∉ part.1) : Seamless s := by
  intro part hpart
  exact not_begins_of_notMem (h part hpart)

/-- Before the first tag of a seamless text stands an inert text, and after it a seamless one. -/
theorem Seamless.of_first? {s before : List Char} {m : Sighting} (hs : Seamless s)
    (h : first? s = some (before, m)) : Inert before ∧ Seamless m.rest := by
  rw [Seamless, parts_of_first? h] at hs
  constructor
  · exact inert_of_gap (fun v hv hne => sighting?_eq_none_of_first? h hv hne)
      (hs (before, m.toTag before.length) List.mem_cons_self)
  · intro part hpart
    exact hs (part.1, moved (before ++ m.raw).length part.2)
      (List.mem_cons_of_mem _ (List.mem_map.mpr ⟨part, hpart, rfl⟩))

/--
**Removing the first tag of a seamless text again and again meets its tags one by one.** The
induction is on the text behind the tags that are gone; what is left of the gaps before it is the
inert text `p`, which grows by one gap with each tag.
-/
theorem map_unplaced_peel {p s : List Char} (hp : Inert p) (hs : Seamless s) :
    (peel (p ++ s)).map unplaced = (scan s).map unplaced := by
  cases h : first? s with
  | none =>
    have hnone : first? (p ++ s) = none := by rw [hp.first?_append, h]; rfl
    rw [peel_of_none hnone, scan, scanFrom_eq, h]
  | some first =>
    obtain ⟨before, m⟩ := first
    obtain ⟨hbefore, hrest⟩ := hs.of_first? h
    have hfirst : first? (p ++ s) = some (p ++ before, m) := by rw [hp.first?_append, h]; rfl
    have ih := map_unplaced_peel (hp.append hbefore) hrest
    rw [peel_of_first? hfirst, scan_of_first? h, List.map_cons, List.map_cons, ih,
      unplaced_toTag m _ before.length, List.map_map]
    rfl
termination_by s.length
decreasing_by exact length_rest_lt_of_first? h

/-- What is met is an include with some argument exactly if one is found by a scan. -/
theorem exists_mem_peel_iff {s : List Char} (hs : Seamless s) {argument : List Char} :
    (∃ tag ∈ peel s, tag.isInclude = true ∧ tag.argument = argument) ↔
      ∃ tag ∈ scan s, tag.isInclude = true ∧ tag.argument = argument := by
  have hmap : (peel s).map unplaced = (scan s).map unplaced := map_unplaced_peel inert_nil hs
  have htransfer : ∀ {xs ys : List Tag}, xs.map unplaced = ys.map unplaced →
      (∃ tag ∈ xs, tag.isInclude = true ∧ tag.argument = argument) →
        ∃ tag ∈ ys, tag.isInclude = true ∧ tag.argument = argument := by
    rintro xs ys heq ⟨tag, htag, hinclude, hargument⟩
    have hmem : tag.unplaced ∈ ys.map unplaced := heq ▸ List.mem_map_of_mem htag
    obtain ⟨tag', htag', hsame⟩ := List.mem_map.mp hmem
    refine ⟨tag', htag', ?_, ?_⟩
    · rw [← isInclude_unplaced, hsame, isInclude_unplaced, hinclude]
    · rw [← argument_unplaced, hsame, argument_unplaced, hargument]
  exact ⟨htransfer hmap, htransfer hmap.symm⟩

/-- What makes a tag an include. -/
theorem isInclude_iff {tag : Tag} :
    tag.isInclude = true ↔ tag.kind = some .includeFile ∧ tag.argument ≠ [] := by
  simp [isInclude]

end Tag

/-! ## Each file once -/

/-- A list without repetitions has the same elements, each one once. -/
theorem nodup_distinct_and_mem {α : Type} [BEq α] [LawfulBEq α] (xs : List α) :
    (distinct xs).Nodup ∧ ∀ x, x ∈ distinct xs ↔ x ∈ xs := by
  have hfold : ∀ seen : List α, seen.Nodup →
      (xs.foldl (fun seen x => if seen.contains x then seen else seen ++ [x]) seen).Nodup ∧
        ∀ x, x ∈ xs.foldl (fun seen x => if seen.contains x then seen else seen ++ [x]) seen ↔
          x ∈ seen ∨ x ∈ xs := by
    induction xs with
    | nil => simp
    | cons y xs ih =>
      intro seen hseen
      rw [List.foldl_cons]
      by_cases hy : y ∈ seen
      · rw [if_pos (by simpa using hy)]
        obtain ⟨hnodup, hmem⟩ := ih seen hseen
        refine ⟨hnodup, fun x => ?_⟩
        rw [hmem, List.mem_cons]
        constructor
        · rintro (h | h)
          · exact Or.inl h
          · exact Or.inr (Or.inr h)
        · rintro (h | rfl | h)
          · exact Or.inl h
          · exact Or.inl hy
          · exact Or.inr h
      · rw [if_neg (by simpa using hy)]
        obtain ⟨hnodup, hmem⟩ := ih (seen ++ [y]) (hseen.append (List.nodup_singleton y)
          (List.disjoint_singleton.mpr hy))
        refine ⟨hnodup, fun x => ?_⟩
        rw [hmem, List.mem_append, List.mem_singleton, List.mem_cons, or_assoc]
  obtain ⟨hnodup, hmem⟩ := hfold [] List.nodup_nil
  exact ⟨hnodup, fun x => (hmem x).trans (or_iff_right List.not_mem_nil)⟩

namespace FileTree

variable {t : FileTree} {source target : Path} {text : List Char}

/-- An include refers to the file at its path, and to none if no file is there. -/
theorem includedFile?_eq_some_iff {argument : List Char} :
    t.includedFile? source argument = some target ↔
      target = source.resolve (String.ofList argument) t.cwd ∧
        ∃ place content, t.Holds target place content := by
  unfold includedFile?
  dsimp only
  constructor
  · intro h
    split at h
    · next hfile =>
      have htarget := Option.some.inj h
      exact ⟨htarget.symm, htarget ▸ isFile_iff.mp hfile⟩
    · cases h
  · rintro ⟨rfl, hholds⟩
    rw [isFile_iff.mpr hholds]

/-- A text refers to the files of the includes that are met when its tags are removed. -/
theorem mem_includedPaths_iff_peel :
    target ∈ t.includedPaths source text ↔
      ∃ tag ∈ Tag.peel text, tag.isInclude = true ∧
        t.includedFile? source tag.argument = some target := by
  unfold includedPaths
  rw [(nodup_distinct_and_mem _).2, List.mem_filterMap]
  refine exists_congr fun tag => and_congr_right fun _ => ?_
  by_cases hinclude : tag.isInclude = true <;> simp [hinclude]

/-- A seamless text refers to the files of the includes that stand in it. -/
theorem mem_includedPaths_of_seamless (hs : Tag.Seamless text) :
    target ∈ t.includedPaths source text ↔
      ∃ tag ∈ Tag.scan text, tag.isInclude = true ∧
        t.includedFile? source tag.argument = some target := by
  rw [mem_includedPaths_iff_peel]
  constructor
  · rintro ⟨tag, htag, hinclude, hfile⟩
    obtain ⟨tag', htag', hinclude', hargument⟩ :=
      (Tag.exists_mem_peel_iff hs).mp ⟨tag, htag, hinclude, rfl⟩
    exact ⟨tag', htag', hinclude', hargument ▸ hfile⟩
  · rintro ⟨tag, htag, hinclude, hfile⟩
    obtain ⟨tag', htag', hinclude', hargument⟩ :=
      (Tag.exists_mem_peel_iff hs).mpr ⟨tag, htag, hinclude, rfl⟩
    exact ⟨tag', htag', hinclude', hargument ▸ hfile⟩

/--
**A seamless text refers to the files of the includes that a scan finds in it, and to nothing
else.** Each of these files is listed once. The tags of other kinds, and the includes of no file,
have no effect on the others: up to their places the tags that are met are those of the scan.
-/
theorem mem_includedPaths_iff (t : FileTree) (source : Path) {text : List Char}
    (hs : Tag.Seamless text) :
    (t.includedPaths source text).Nodup ∧
    (∀ target, target ∈ t.includedPaths source text ↔
      ∃ tag ∈ Tag.scan text, tag.kind = some .includeFile ∧ tag.argument ≠ [] ∧
        target = source.resolve (String.ofList tag.argument) t.cwd ∧
        ∃ place content, t.Holds target place content) ∧
    (Tag.peel text).map Tag.unplaced = (Tag.scan text).map Tag.unplaced := by
  refine ⟨(nodup_distinct_and_mem _).1, fun target => ?_, Tag.map_unplaced_peel Tag.inert_nil hs⟩
  rw [mem_includedPaths_of_seamless hs]
  refine exists_congr fun tag => and_congr_right fun _ => ?_
  rw [Tag.isInclude_iff, includedFile?_eq_some_iff, and_assoc]

/-- A page and the file that one of its includes refers to. -/
def mixedTree : FileTree where
  entries := [(["w"], .directory), (["w", "page.t"], .file ⟨#[]⟩), (["w", "f.t"], .file ⟨#[]⟩)]
  workingDirectory := ["w"]

/-- The page of the tree. -/
def mixedPage : Path := ⟨.slash, ["w", "page.t"]⟩

/-- Tags of all kinds: without a meaning, without an argument, without a file, and with one. -/
def mixedText : List Char :=
  "<!--@ partial -->a<!--@ note f.t -->b<!--@ output f.t -->c".toList ++
    "<!--@ include -->d<!--@ include gone.t -->e<!--@ include f.t -->f<".toList

theorem mixedText_refers : Tag.Seamless mixedText ∧
    ∀ target, target ∈ mixedTree.includedPaths mixedPage mixedText ↔
      target = ⟨.slash, ["w", "f.t"]⟩ := by
  have hs : Tag.Seamless mixedText := Tag.seamless_of_notMem (by decide +kernel)
  have hscan : ∀ tag ∈ Tag.scan mixedText, tag.kind = some .includeFile → tag.argument ≠ [] →
      tag.argument = "gone.t".toList ∨ tag.argument = "f.t".toList := by
    decide +kernel
  have hfound : ∃ tag ∈ Tag.scan mixedText, tag.kind = some .includeFile ∧
      tag.argument = "f.t".toList := by
    decide +kernel
  have hgone : mixedTree.isFile (mixedPage.resolve "gone.t" mixedTree.cwd) = .ok false := by rfl
  have hresolve : mixedPage.resolve "f.t" mixedTree.cwd = ⟨.slash, ["w", "f.t"]⟩ := by rfl
  refine ⟨hs, fun target => ?_⟩
  rw [(mem_includedPaths_iff mixedTree mixedPage hs).2.1]
  constructor
  · rintro ⟨tag, htag, hkind, hargument, rfl, hholds⟩
    rcases hscan tag htag hkind hargument with h | h
    · rw [h] at hholds
      have hfile := isFile_iff.mpr hholds
      rw [show String.ofList "gone.t".toList = "gone.t" by rfl, hgone] at hfile
      simp at hfile
    · rw [h]
      exact hresolve
  · rintro rfl
    obtain ⟨tag, htag, hkind, hargument⟩ := hfound
    refine ⟨tag, htag, hkind, by rw [hargument]; decide, ?_, _, _, ⟨rfl, rfl⟩⟩
    rw [hargument]
    exact hresolve.symm

/-- A text whose only tag stands within what is an include as soon as the tag is gone. -/
def nestedText : List Char :=
  "<!--<!--@ partial -->@ include f.t -->".toList

/--
**It is not enough that no gap between two tags ends in the beginning of a tag.** In a text with one
tag there is no such gap, but what stands before the tag meets what stands behind it.
-/
theorem includedPaths_before_first :
    (∀ part ∈ (Tag.parts nestedText).tail, ∀ v, v <:+ part.1 → v ≠ [] →
      ∀ w, Tag.IsDirective w → ¬ (v <+: w ∧ v ≠ w)) ∧
    (∀ tag ∈ Tag.scan nestedText, tag.kind ≠ some .includeFile) ∧
    ⟨.slash, ["w", "f.t"]⟩ ∈ mixedTree.includedPaths mixedPage nestedText := by
  have htail : (Tag.parts nestedText).tail = [] := by decide +kernel
  refine ⟨?_, by decide +kernel, by decide +kernel⟩
  rw [htail]
  intro part hpart
  exact absurd hpart List.not_mem_nil

end FileTree

end LiveTemplates
