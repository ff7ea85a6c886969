import LiveTemplates.Proofs.Expansion.Iterations
import LiveTemplates.Proofs.Expansion.Spliced
import LiveTemplates.Proofs.References.Index
import LiveTemplates.Proofs.References.Search

/-!
# Pages whose texts depend on a file

An expansion and an index see includes in different ways. The expansion resolves those of a file
that it brings in from the directory of the page, and finds tags also where two texts meet. The
index looks at each file by itself, from the directory of that file.

Where a file that is brought in means the same by itself as in the page (`ReadsAlike`), the index
follows the expansion from each file to the one that brought it in. So the page, or a file whose
path differs from that of the page at most in case, is among the dependents of every file that its
expansion reads (`exists_dependent`).
-/

namespace LiveTemplates

namespace ReferenceIndex

open Expansion

/--
The text of the file `q` has no tags but its own where it meets other text, and its includes mean
the same files from the directory of `source`.
-/
structure ReadsAlike (t : FileTree) (source q : Path) (text : List Char) : Prop where
  clean : Tag.Clean text
  resolve : ∀ tag ∈ Tag.scan text, tag.isInclude = true →
    q.resolve (String.ofList tag.argument) t.cwd
      = source.resolve (String.ofList tag.argument) t.cwd

variable {x : ReferenceIndex} {t : FileTree} {files : List Path} {page target : Path}
  {text content : List Char}

/-- From the file it stands in, an include refers to what it refers to from the page. -/
theorem includedFile?_of_includedText {p : Path} {argument : List Char}
    (hresolve : p.resolve (String.ofList argument) t.cwd
      = page.resolve (String.ofList argument) t.cwd)
    (h : t.includedText page argument = .ok (some (target, content))) :
    t.includedFile? p argument = some target := by
  have hpage : t.includedFile? page argument = some target := by
    unfold FileTree.includedText at h
    split at h
    · cases h
    · next target' htarget =>
      split at h
      · cases h
        exact htarget
      · cases h
  unfold FileTree.includedFile? at hpage ⊢
  rw [hresolve]
  exact hpage

/-- What the index knows of a file that is brought in. -/
structure Known (t : FileTree) (files : List Path) (page q : Path) (text : List Char) : Prop where
  clean : Tag.Clean text
  /-- The file is monitored, and whoever comes from a key to the file comes on to the page. -/
  listed : ∃ p ∈ files, p.key t.cwd = q.key t.cwd ∧ t.readText p = .ok text ∧
    (∀ tag ∈ Tag.scan text, tag.isInclude = true →
      p.resolve (String.ofList tag.argument) t.cwd
        = page.resolve (String.ofList tag.argument) t.cwd) ∧
    ∀ key, Reaches t.cwd (indexOf t files) key (p.key t.cwd) →
      Reaches t.cwd (indexOf t files) key (page.key t.cwd)

/-- The index knows of the files that an expansion brings in, by induction along the includes. -/
theorem known_of_splices (ht : t.Proper) (hfiles : x.monitoredFiles t = .ok files)
    (hpage : page ∈ files) (hread : t.readText page = .ok text) (hclean : Tag.Clean text)
    (hspliced : ∀ q s, Splices t page text q s →
      (∃ p ∈ files, p.absolute t.cwd = q) ∧ ReadsAlike t page q s)
    (h : Splices t page text target content) : Known t files page target content := by
  refine h.induction ⟨hclean, page, hpage, rfl, hread, fun _ _ _ => rfl, fun _ h => h⟩
    (fun _ _ h => h.clean) ?_
  -- the include stands in the monitored file `p`, which the index knows as an includer of `p'`
  rintro q s tag target content ⟨hs, p, hp, _, hps, hresolve, hreaches⟩ htag hinclude hcontent
    hsplices
  obtain ⟨⟨p', hp', rfl⟩, halike⟩ := hspliced target content hsplices
  obtain ⟨n, hlast, hn⟩ := getLast?_of_mem_monitoredFiles ht hfiles hp'
  have hcwd := t.isAbsolute_cwd
  have hkey : (p'.absolute t.cwd).key t.cwd = p'.key t.cwd := Path.key_absolute hcwd p'
  refine ⟨halike.clean, p', hp', hkey.symm, ?_, ?_, ?_⟩
  · exact FileTree.readText_of_absolute ht (mem_monitoredFiles hfiles hp').1
      (exists_readText_of_includedText hcontent)
  · intro tag' htag' hinclude'
    rw [← halike.resolve tag' htag' hinclude', Path.resolve_absolute hcwd hlast hn]
  · intro key hkey'
    have htarget := includedFile?_of_includedText (hresolve tag htag hinclude) hcontent
    have hincluder := mem_includers_indexOf hp hps hs htag hinclude htarget
    rw [hkey] at hincluder
    exact hreaches key (hkey'.step hincluder)

/--
**The dependents of a file are complete.** Let a page and all files that its expansion brings in be
monitored, and let each of these files mean the same by itself as in the page. Then the page, or
another file with its key, is among the transitive dependents of every file that is brought in and
has another key, in whatever order includers are followed. If no other monitored file has the key
of the page, it is the page itself.
-/
theorem exists_dependent (ht : t.Proper) (hfiles : x.monitoredFiles t = .ok files)
    (hpage : page ∈ files) (hread : t.readText page = .ok text) (hclean : Tag.Clean text)
    (hspliced : ∀ q s, Splices t page text q s →
      (∃ p ∈ files, p.absolute t.cwd = q) ∧ ReadsAlike t page q s)
    (h : Splices t page text target content) (hne : page.key t.cwd ≠ target.key t.cwd)
    {name : String} (hname : (Path.ofString name).key t.cwd = target.key t.cwd)
    (hblank : (Text.trim name.toList).isEmpty = false) :
    (∀ arrange : List Path → List Path, (∀ ps, (arrange ps).Perm ps) →
      ∃ p ∈ dependentsOf t.cwd arrange (indexOf t files) true (target.key t.cwd),
        p.key t.cwd = page.key t.cwd) ∧
    ∃ found log, x.findDependents t (fun _ => none) true name = (.ok found, log) ∧
      (∃ p ∈ found, p.key t.cwd = page.key t.cwd) ∧
      ((∀ p ∈ files, p.key t.cwd = page.key t.cwd → p = page) → page ∈ found) := by
  have hdependent : ∀ arrange : List Path → List Path, (∀ ps, (arrange ps).Perm ps) →
      ∃ p ∈ dependentsOf t.cwd arrange (indexOf t files) true (target.key t.cwd),
        p.key t.cwd = page.key t.cwd := by
    obtain ⟨_, p, _, hkey, _, _, hreaches⟩ :=
      known_of_splices ht hfiles hpage hread hclean hspliced h
    intro arrange harrange
    exact exists_mem_dependentsOf harrange (hreaches _ (hkey ▸ .refl)) hne
  refine ⟨hdependent, ?_⟩
  obtain ⟨p, hp, hkey⟩ := hdependent Path.sort perm_sort
  obtain ⟨log, hfound⟩ := findDependents_eq hfiles hblank
  rw [hname] at hfound
  refine ⟨_, log, hfound, ⟨p, List.mem_mergeSort.mpr hp, hkey⟩, fun hunique => ?_⟩
  obtain ⟨k, hk⟩ := exists_includers_of_mem_dependentsOf perm_sort hp
  rw [hunique p (mem_includers_includersOf.mp hk).1 hkey] at hp
  exact List.mem_mergeSort.mpr hp

/-! ## Sites -/

/-- A tree with some files in a directory and in another one below it. -/
def site (pages parts : List (String × String)) : FileTree where
  entries := (["w"], .directory) :: pages.map (fun f => (["w", f.1], .file f.2.toUTF8))
    ++ (["w", "sub"], .directory) :: parts.map fun f => (["w", "sub", f.1], .file f.2.toUTF8)
  workingDirectory := ["w"]

/-- A path in a site. -/
def sitePath (names : List String) : Path := ⟨.slash, "w" :: names⟩

/-- The index of a site. -/
def siteIndex : ReferenceIndex := ⟨sitePath [], [".t"], []⟩

/-! ## A page that is found -/

/-- A site with an include in another directory, whose argument does not depend on the directory. -/
def absoluteSite : FileTree :=
  site [("f.t", "x"), ("p.t", "<!--@ include sub/q.t -->")] [("q.t", "<!--@ include /w/f.t -->")]

/-- The page of that site is among the dependents of the file that is included there. -/
theorem absoluteSite_page_found :
    ∃ found log, siteIndex.findDependents absoluteSite (fun _ => none) true "f.t"
        = (.ok found, log) ∧ sitePath ["p.t"] ∈ found := by
  have hfiles : siteIndex.monitoredFiles absoluteSite
      = .ok [sitePath ["f.t"], sitePath ["p.t"], sitePath ["sub", "q.t"]] :=
    (monitoredFiles_of_sorted rfl rfl (by decide +kernel)).trans
      (congrArg Except.ok (by decide +kernel))
  have hspliced : splicedWithin absoluteSite (sitePath ["p.t"]) 3 true
      (initial "<!--@ include sub/q.t -->".toList)
      = some [(sitePath ["sub", "q.t"], "<!--@ include /w/f.t -->".toList),
        (sitePath ["f.t"], "x".toList)] := by
    rfl
  have halike : ∀ file ∈ [(sitePath ["sub", "q.t"], "<!--@ include /w/f.t -->".toList),
        (sitePath ["f.t"], "x".toList)],
      (∃ p ∈ [sitePath ["f.t"], sitePath ["p.t"], sitePath ["sub", "q.t"]],
        p.absolute absoluteSite.cwd = file.1) ∧
      (∀ gap ∈ Tag.gaps file.2, '<' ∉ gap) ∧
      ∀ tag ∈ Tag.scan file.2, tag.isInclude = true →
        file.1.resolve (String.ofList tag.argument) absoluteSite.cwd
          = (sitePath ["p.t"]).resolve (String.ofList tag.argument) absoluteSite.cwd := by
    decide +kernel
  obtain ⟨_, found, log, hfound, _, hpage⟩ :=
    @exists_dependent siteIndex absoluteSite _ (sitePath ["p.t"]) (sitePath ["f.t"])
      "<!--@ include sub/q.t -->".toList "x".toList ⟨by decide, by decide⟩ hfiles (by simp) (by rfl)
      (Tag.clean_of_notMem (by decide +kernel))
      (fun q s h =>
        have ⟨hlisted, hgaps, hresolve⟩ := halike (q, s) ((splices_iff hspliced).mp h)
        ⟨hlisted, Tag.clean_of_notMem hgaps, hresolve⟩)
      ((splices_iff hspliced).mpr (by simp)) (by decide +kernel) "f.t" (by decide +kernel)
      (by decide +kernel)
  exact ⟨found, log, hfound, hpage (by decide +kernel)⟩

/-! ## Pages that are missed -/

/--
A page is monitored with all that its expansion brings in, and its text depends on a file, but the
page is not among the dependents of the file.
-/
def Missed (x : ReferenceIndex) (t : FileTree) (page target : Path) (name : String) : Prop :=
  t.Proper ∧ (Path.ofString name).key t.cwd = target.key t.cwd ∧
    page.key t.cwd ≠ target.key t.cwd ∧
    ∃ files text e content found log, x.monitoredFiles t = .ok files ∧ page ∈ files ∧
      t.readText page = .ok text ∧
      (∀ q s, Splices t page text q s → ∃ p ∈ files, p.absolute t.cwd = q) ∧
      expand t page text = .ok e ∧ Splices t page text target content ∧
      x.findDependents t (fun _ => none) true name = (.ok found, log) ∧ page ∉ found

/-- That a page is missed can be computed. -/
theorem missed_of_lists {name : String} {n : Nat} {brought : List (Path × List Char)}
    {index : Includers} {e : Expansion} (ht : t.Proper)
    (hname : (Path.ofString name).key t.cwd = target.key t.cwd)
    (hblank : (Text.trim name.toList).isEmpty = false)
    (hne : page.key t.cwd ≠ target.key t.cwd) (hfiles : x.monitoredFiles t = .ok files)
    (hpage : page ∈ files) (hread : t.readText page = .ok text)
    (hbrought : splicedWithin t page n true (initial text) = some brought)
    (hlisted : ∀ file ∈ brought, ∃ p ∈ files, p.absolute t.cwd = file.1)
    (hrun : runWithin t page true n (initial text) = some (.ok e))
    (htarget : (target, content) ∈ brought) (hindex : indexOf t files = index)
    (hmissed : page ∉ dependentsOf t.cwd Path.sort index true (target.key t.cwd)) :
    Missed x t page target name := by
  obtain ⟨log, hfound⟩ := findDependents_eq hfiles hblank
  rw [hname, hindex] at hfound
  refine ⟨ht, hname, hne, files, text, e, content, _, log, hfiles, hpage, hread, ?_,
    run_eq_of_runWithin hrun, (splices_iff hbrought).mpr htarget, hfound, ?_⟩
  · exact fun q s h => hlisted (q, s) ((splices_iff hbrought).mp h)
  · exact fun hmem => hmissed (List.mem_mergeSort.mp hmem)

/-- The include in the other directory is resolved by the expansion only. -/
def belowSite : FileTree :=
  site [("f.t", "x"), ("p.t", "<!--@ include sub/q.t -->")] [("q.t", "<!--@ include f.t -->")]

theorem belowSite_missed :
    Missed siteIndex belowSite (sitePath ["p.t"]) (sitePath ["f.t"]) "f.t" := by
  have hfiles : siteIndex.monitoredFiles belowSite
      = .ok [sitePath ["f.t"], sitePath ["p.t"], sitePath ["sub", "q.t"]] :=
    (monitoredFiles_of_sorted rfl rfl (by decide +kernel)).trans
      (congrArg Except.ok (by decide +kernel))
  have hnone : includers [("/w/sub/q.t", [sitePath ["p.t"]])] "/w/f.t" = [] := by decide
  have hkey : (sitePath ["f.t"]).key belowSite.cwd = "/w/f.t" := by decide +kernel
  exact @missed_of_lists siteIndex belowSite _ _ _ "<!--@ include sub/q.t -->".toList ['x'] "f.t" 3
    [(sitePath ["sub", "q.t"], "<!--@ include f.t -->".toList), (sitePath ["f.t"], ['x'])]
    [("/w/sub/q.t", [sitePath ["p.t"]])] ⟨['x'], [], false, ["f.t".toList, "sub/q.t".toList]⟩
    ⟨by decide, by decide⟩ (by decide +kernel) (by decide +kernel) (by decide +kernel) hfiles
    (by simp) (by rfl) (by decide +kernel) (by decide +kernel) (by rfl) (by simp)
    (by decide +kernel)
    (by rw [hkey, dependentsOf_eq_nil perm_sort hnone]; exact List.not_mem_nil)

/-- The include of the file comes into being where two texts meet. -/
def seamSite : FileTree :=
  site [("f.t", "x"), ("p.t", "<!--@ include q.t --> f.t -->"), ("q.t", "<!--@ include")] []

theorem seamSite_missed :
    Missed siteIndex seamSite (sitePath ["p.t"]) (sitePath ["f.t"]) "f.t" := by
  have hfiles : siteIndex.monitoredFiles seamSite
      = .ok [sitePath ["f.t"], sitePath ["p.t"], sitePath ["q.t"]] :=
    (monitoredFiles_of_sorted rfl rfl (by decide +kernel)).trans
      (congrArg Except.ok (by decide +kernel))
  have hnone : includers [("/w/q.t", [sitePath ["p.t"]])] "/w/f.t" = [] := by decide
  have hkey : (sitePath ["f.t"]).key seamSite.cwd = "/w/f.t" := by decide +kernel
  exact @missed_of_lists siteIndex seamSite _ _ _ "<!--@ include q.t --> f.t -->".toList ['x']
    "f.t" 3 [(sitePath ["q.t"], "<!--@ include".toList), (sitePath ["f.t"], ['x'])]
    [("/w/q.t", [sitePath ["p.t"]])] ⟨['x'], [], false, ["f.t".toList, "q.t".toList]⟩
    ⟨by decide, by decide⟩ (by decide +kernel) (by decide +kernel) (by decide +kernel) hfiles
    (by simp) (by rfl) (by decide +kernel) (by decide +kernel) (by rfl) (by simp)
    (by decide +kernel)
    (by rw [hkey, dependentsOf_eq_nil perm_sort hnone]; exact List.not_mem_nil)

/-- The paths of the page and of a file on the way to it differ only in case. -/
def caseSite : FileTree :=
  site [("A.t", "<!--@ include q.t -->"), ("a.t", "<!--@ include f.t -->"), ("f.t", "x"),
    ("q.t", "<!--@ include a.t -->")] []

theorem caseSite_missed :
    Missed siteIndex caseSite (sitePath ["A.t"]) (sitePath ["f.t"]) "f.t" := by
  have hfiles : siteIndex.monitoredFiles caseSite
      = .ok [sitePath ["A.t"], sitePath ["a.t"], sitePath ["f.t"], sitePath ["q.t"]] :=
    (monitoredFiles_of_sorted rfl rfl (by decide +kernel)).trans
      (congrArg Except.ok (by decide +kernel))
  have hA : (sitePath ["A.t"]).key caseSite.cwd = "/w/a.t" := by decide +kernel
  have ha : (sitePath ["a.t"]).key caseSite.cwd = "/w/a.t" := by decide +kernel
  have hq : (sitePath ["q.t"]).key caseSite.cwd = "/w/q.t" := by decide +kernel
  have hf : (sitePath ["f.t"]).key caseSite.cwd = "/w/f.t" := by decide +kernel
  have hfound : dependentsOf caseSite.cwd Path.sort [("/w/q.t", [sitePath ["A.t"]]),
      ("/w/f.t", [sitePath ["a.t"]]), ("/w/a.t", [sitePath ["q.t"]])] true "/w/f.t"
      = [sitePath ["a.t"], sitePath ["q.t"]] := by
    have hne : sitePath ["q.t"] ≠ sitePath ["a.t"] := by decide
    simp [dependentsOf, search, includers, List.lookup_cons, Path.sort, ha, hA, hq, hne]
  exact @missed_of_lists siteIndex caseSite _ _ _ "<!--@ include q.t -->".toList ['x'] "f.t" 4
    [(sitePath ["q.t"], "<!--@ include a.t -->".toList),
      (sitePath ["a.t"], "<!--@ include f.t -->".toList), (sitePath ["f.t"], ['x'])]
    [("/w/q.t", [sitePath ["A.t"]]), ("/w/f.t", [sitePath ["a.t"]]),
      ("/w/a.t", [sitePath ["q.t"]])]
    ⟨['x'], [], false, ["f.t".toList, "a.t".toList, "q.t".toList]⟩
    ⟨by decide, by decide⟩ (by decide +kernel) (by decide +kernel) (by decide +kernel) hfiles
    (by simp) (by rfl) (by decide +kernel) (by decide +kernel) (by rfl) (by simp)
    (by decide +kernel)
    (by rw [hf, hfound]; decide)

/-- **Each of the conditions is needed**: without it there is a site with a page that is missed. -/
theorem pages_missed :
    Missed siteIndex belowSite (sitePath ["p.t"]) (sitePath ["f.t"]) "f.t" ∧
      Missed siteIndex seamSite (sitePath ["p.t"]) (sitePath ["f.t"]) "f.t" ∧
      Missed siteIndex caseSite (sitePath ["A.t"]) (sitePath ["f.t"]) "f.t" :=
  ⟨belowSite_missed, seamSite_missed, caseSite_missed⟩

end ReferenceIndex

end LiveTemplates
