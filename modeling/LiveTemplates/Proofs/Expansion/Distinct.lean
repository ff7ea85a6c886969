import LiveTemplates.Proofs.Expansion.Iterations
import LiveTemplates.Proofs.Expansion.Spliced
import LiveTemplates.Text.CaseFold

/-!
# No include comes twice

An expansion notes the includes that it has replaced, each in the form by which a repetition is
noticed. If it is followed with the arguments as they stand in the tags (`Splicing`), the chain has
the keys of just these (`Splicing.chain_eq`). So the arguments of all includes that are replaced,
wherever the includes came from, have different keys, and an include with the key of an earlier one
is refused (`repetitions_refused`).

The key of an argument is its lower-case form, and not its case-folded one, by which paths are
compared. The two are the same for texts in which each character is folded to its lower-case form
(`Text.caseFold_eq_lowercase`), such as those of ASCII characters. A sharp s is none of them, and
two includes that are the same without regard to case can both be replaced (`sharpText_expands`).
-/

namespace LiveTemplates

/-! ## Folding and lower case -/

namespace Text

/-- Whether each character is folded to its lower-case form, which stands by itself. -/
def foldsToLowercase (s : List Char) : Bool :=
  s.all fun c => c != 'Σ' && caseFoldMap.apply c == lowercaseMap.apply c

/-- Such a text is folded to its lower-case form. -/
theorem caseFold_eq_lowercase {s : List Char} (h : foldsToLowercase s = true) :
    caseFold s = lowercase s := by
  have hafter : ∀ before, caseFold s = lowercaseAfter before s := by
    induction s with
    | nil => intro _; rfl
    | cons c s ih =>
      intro before
      rw [foldsToLowercase, List.all_cons, Bool.and_eq_true, Bool.and_eq_true] at h
      obtain ⟨⟨hsigma, hsame⟩, hrest⟩ := h
      rw [lowercaseAfter, if_neg (by simpa using hsigma), ← eq_of_beq hsame,
        ← ih hrest (c :: before)]
      rfl
  exact hafter []

/-- ASCII characters are folded to their lower-case forms. -/
theorem foldsToLowercase_of_ascii {s : List Char} (h : ∀ c ∈ s, c.toNat < 128) :
    foldsToLowercase s = true := by
  have hall : ∀ n < 128, Char.ofNat n ≠ 'Σ' ∧
      caseFoldMap.apply (Char.ofNat n) = lowercaseMap.apply (Char.ofNat n) := by
    decide +kernel
  refine List.all_eq_true.mpr fun c hc => ?_
  have hc' := hall c.toNat (h c hc)
  rw [Char.ofNat_toNat] at hc'
  simp [hc'.1, hc'.2]

end Text

namespace Expansion

variable {t : FileTree} {source : Path} {text : List Char} {b : Bool} {e e' : Expansion}

/-! ## What a step does to the chain -/

/-- The argument of the include that stands first. -/
def nextInclude? (e : Expansion) : Option (List Char) :=
  match Tag.first? e.text with
  | none => none
  | some (before, m) =>
    if (m.toTag before.length).kind = some .includeFile then some m.argument else none

/-- An include with an argument is refused if its key was used, and otherwise looked up. -/
theorem applyTag_of_include {tag : Tag} (hkind : tag.kind = some .includeFile)
    (hargument : tag.argument ≠ []) :
    applyTag t source b tag e
      = if chainKey tag.argument ∈ e.chain then .error (.tag ⟨.circularInclude, tag⟩)
        else match t.includedText source tag.argument with
          | .error err => .error (.unreadable err)
          | .ok none => .error (.tag ⟨.includeNotFound, tag⟩)
          | .ok (some (_, text)) =>
            .ok (text, { e with chain := chainKey tag.argument :: e.chain }) := by
  have hempty : tag.argument.isEmpty = false := by simpa using hargument
  by_cases hused : chainKey tag.argument ∈ e.chain
  · simp [applyTag, hkind, hempty, hused]
  · rw [if_neg hused]
    cases hincluded : t.includedText source tag.argument with
    | error err => simp [applyTag, hkind, hempty, hused, hincluded]
    | ok found => cases found <;> simp [applyTag, hkind, hempty, hused, hincluded]

/-- What is replaced and is no include leaves no key. -/
theorem chain_of_applyTag {tag : Tag} {replacement : List Char}
    (hkind : tag.kind ≠ some .includeFile)
    (h : applyTag t source b tag e = .ok (replacement, e')) : e'.chain = e.chain := by
  unfold applyTag at h
  split at h
  · cases h
  · next kind hkind' =>
    split at h
    · cases h
    · cases kind with
      | partialFile => cases h; rfl
      | outputFile => cases h; rfl
      | includeFile => exact absurd hkind' hkind

/-- An include that is replaced has an argument. -/
theorem ne_nil_of_applyTag {tag : Tag} {r : List Char × Expansion}
    (hkind : tag.kind = some .includeFile) (h : applyTag t source b tag e = .ok r) :
    tag.argument ≠ [] := by
  intro hnil
  unfold applyTag at h
  rw [hkind, hnil] at h
  cases h

/-- **A step puts the key of the include that it replaces on the chain**, and it is a new one. -/
theorem chain_of_step? (h : step? t source b e = .ok (some e')) :
    e'.chain = (e.nextInclude?.toList.map chainKey) ++ e.chain ∧
      ∀ argument ∈ e.nextInclude?, chainKey argument ∉ e.chain := by
  unfold step? at h
  unfold nextInclude?
  cases hfirst : Tag.first? e.text with
  | none => simp [hfirst] at h
  | some r =>
    obtain ⟨before, m⟩ := r
    rw [hfirst] at h
    dsimp only at h ⊢
    split at h
    · cases h
    · next replacement e'' happly =>
      cases h
      by_cases hkind : (m.toTag before.length).kind = some .includeFile
      · rw [if_pos hkind]
        rw [applyTag_of_include hkind (ne_nil_of_applyTag hkind happly)] at happly
        split at happly
        · cases happly
        · next hnew =>
          split at happly
          · cases happly
          · cases happly
          · cases happly
            exact ⟨rfl, by rintro _ ⟨⟩; exact hnew⟩
      · rw [if_neg hkind]
        have hchain : e''.chain = e.chain := chain_of_applyTag hkind happly
        exact ⟨hchain, by rintro _ ⟨⟩⟩

/-! ## The includes that were replaced -/

/--
An expansion comes to a state when it has replaced includes with certain arguments, the last one
first, wherever the includes stood. The mark says whether the first step is still to come.
-/
inductive Splicing (t : FileTree) (source : Path) (text : List Char) :
    List (List Char) → Bool → Expansion → Prop
  | start : Splicing t source text [] true (initial text)
  | next {arguments : List (List Char)} {b : Bool} {e e' : Expansion}
      (h : Splicing t source text arguments b e) (hstep : step? t source b e = .ok (some e')) :
      Splicing t source text (e.nextInclude?.toList ++ arguments) false e'

variable {arguments : List (List Char)}

/-- **The chain has the keys of the includes that were replaced, all of them different.** -/
theorem Splicing.chain_eq (h : Splicing t source text arguments b e) :
    e.chain = arguments.map chainKey ∧ (arguments.map chainKey).Nodup := by
  induction h with
  | start => exact ⟨rfl, List.nodup_nil⟩
  | @next arguments b e e' _ hstep ih =>
    obtain ⟨hchain, hnodup⟩ := ih
    obtain ⟨hchain', hnew⟩ := chain_of_step? hstep
    refine ⟨by rw [hchain', hchain, List.map_append], ?_⟩
    cases hnext : e.nextInclude? with
    | none => simpa using hnodup
    | some argument =>
      have hnotin : chainKey argument ∉ arguments.map chainKey := hchain ▸ hnew argument hnext
      simpa using ⟨by simpa using hnotin, hnodup⟩

/-- An expansion goes on as it does from a state that it comes to. -/
theorem Splicing.expand_eq (h : Splicing t source text arguments b e) :
    expand t source text = run t source b e := by
  induction h with
  | start => rfl
  | next _ hstep ih =>
    rw [ih, run]
    split <;> simp_all

/-- What an expansion yields it comes to, with no tag left. -/
theorem exists_splicing_of_expand (h : expand t source text = .ok e) :
    ∃ arguments b, Splicing t source text arguments b e ∧ Tag.first? e.text = none := by
  -- by induction along the steps, from any state that the expansion comes to
  have hrun : ∀ e₀ arguments b, Splicing t source text arguments b e₀ →
      run t source b e₀ = .ok e →
        ∃ arguments b, Splicing t source text arguments b e ∧ Tag.first? e.text = none := by
    intro e₀
    induction e₀ using (follows_wellFounded t source).induction with
    | _ e₀ ih =>
      intro arguments b hsplicing hok
      rw [run] at hok
      split at hok
      · cases hok
      · next hnone =>
        cases hok
        refine ⟨arguments, b, hsplicing, ?_⟩
        unfold step? at hnone
        split at hnone
        · next hfirst => exact hfirst
        · split at hnone <;> cases hnone
      · next e' hstep => exact ih e' ⟨b, hstep⟩ _ false (hsplicing.next hstep) hok
  exact hrun _ [] true .start h

/-! ## Repetitions -/

section Next

variable {before : List Char} {m : Tag.Sighting}

/-- An include is refused as a repetition exactly if its key was used. -/
theorem step?_eq_circular_iff (hfirst : Tag.first? e.text = some (before, m))
    (hkind : (m.toTag before.length).kind = some .includeFile) (hargument : m.argument ≠ []) :
    step? t source b e = .error (.tag ⟨.circularInclude, m.toTag before.length⟩) ↔
      chainKey m.argument ∈ e.chain := by
  unfold step?
  rw [hfirst]
  dsimp only
  rw [applyTag_of_include hkind hargument]
  show _ ↔ chainKey (m.toTag before.length).argument ∈ e.chain
  by_cases hused : chainKey (m.toTag before.length).argument ∈ e.chain
  · simp [hused]
  · rw [if_neg hused]
    refine iff_of_false (fun h => ?_) hused
    cases hincluded : t.includedText source (m.toTag before.length).argument with
    | error err => simp [hincluded] at h
    | ok found => cases found <;> simp [hincluded] at h

/-- If a step is refused, the expansion is. -/
theorem run_eq_error {err : ExpansionError} (h : step? t source b e = .error err) :
    run t source b e = .error err := by
  rw [run]
  split <;> simp_all

end Next

/--
**No include comes twice.** What an expansion yields it comes to by replacing includes. Wherever it
has come to, the arguments of the includes that were replaced have different keys, and so different
case-folded forms if their characters are folded to lower case. If the next tag is an include, it is
refused as a repetition exactly if it has the key of one of them; then the text is refused, and that
is so in particular if their case-folded forms are the same and their lower-case forms.
-/
theorem repetitions_refused (t : FileTree) (source : Path) (text : List Char) :
    (∀ e, expand t source text = .ok e →
      ∃ arguments b, Splicing t source text arguments b e ∧ Tag.first? e.text = none) ∧
    ∀ arguments b e, Splicing t source text arguments b e →
      arguments.Pairwise (fun a a' => chainKey a ≠ chainKey a' ∧
        (Text.foldsToLowercase (Text.trim a) = true → Text.foldsToLowercase (Text.trim a') = true →
          Text.caseFold (Text.trim a) ≠ Text.caseFold (Text.trim a'))) ∧
      ∀ before m, Tag.first? e.text = some (before, m) →
        (m.toTag before.length).kind = some .includeFile → m.argument ≠ [] →
        (step? t source b e = .error (.tag ⟨.circularInclude, m.toTag before.length⟩) ↔
          ∃ a ∈ arguments, chainKey a = chainKey m.argument) ∧
        ∀ a ∈ arguments, (chainKey a = chainKey m.argument ∨
            Text.foldsToLowercase (Text.trim a) = true ∧
            Text.foldsToLowercase (Text.trim m.argument) = true ∧
            Text.caseFold (Text.trim a) = Text.caseFold (Text.trim m.argument)) →
          expand t source text = .error (.tag ⟨.circularInclude, m.toTag before.length⟩) := by
  refine ⟨fun e => exists_splicing_of_expand, fun arguments b e h => ?_⟩
  obtain ⟨hchain, hnodup⟩ := h.chain_eq
  have hkey : ∀ {a a' : List Char}, Text.foldsToLowercase (Text.trim a) = true →
      Text.foldsToLowercase (Text.trim a') = true →
      Text.caseFold (Text.trim a) = Text.caseFold (Text.trim a') → chainKey a = chainKey a' := by
    intro a a' ha ha' hfold
    rwa [Text.caseFold_eq_lowercase ha, Text.caseFold_eq_lowercase ha'] at hfold
  refine ⟨?_, fun before m hfirst hkind hargument => ?_⟩
  · refine (List.pairwise_map.mp hnodup).imp fun hne => ⟨hne, fun ha ha' hfold => ?_⟩
    exact hne (hkey ha ha' hfold)
  · have hused : chainKey m.argument ∈ e.chain ↔
        ∃ a ∈ arguments, chainKey a = chainKey m.argument := by
      rw [hchain, List.mem_map]
    have hcircular : step? t source b e
          = .error (.tag ⟨.circularInclude, m.toTag before.length⟩) ↔
        ∃ a ∈ arguments, chainKey a = chainKey m.argument :=
      (step?_eq_circular_iff hfirst hkind hargument).trans hused
    refine ⟨hcircular, fun a ha hsame => ?_⟩
    have hrepeated : chainKey a = chainKey m.argument := by
      rcases hsame with hsame | ⟨ha, hm, hfold⟩
      · exact hsame
      · exact hkey ha hm hfold
    rw [h.expand_eq]
    exact run_eq_error (hcircular.mpr ⟨a, ha, hrepeated⟩)

/-- A page and two files, whose names are the same without regard to case. -/
def sharpTree : FileTree where
  entries := [(["w"], .directory), (["w", "page.t"], .file ⟨#[]⟩), (["w", "ss"], .file ⟨#[]⟩),
    (["w", "ß"], .file ⟨#[]⟩)]
  workingDirectory := ["w"]

/-- A text that includes both. -/
def sharpText : List Char :=
  "<!--@ include ss --><!--@ include ß -->".toList

/-- **Two includes with the same case-folded form can both be replaced.** -/
theorem sharpText_expands : ∃ e,
    expand sharpTree ⟨.slash, ["w", "page.t"]⟩ sharpText = .ok e ∧
    Splicing sharpTree ⟨.slash, ["w", "page.t"]⟩ sharpText ["ß".toList, "ss".toList] false e ∧
    Text.caseFold (Text.trim "ß".toList) = Text.caseFold (Text.trim "ss".toList) := by
  refine ⟨⟨[], [], false, ["ß".toList, "ss".toList]⟩, ?_, ?_, by decide +kernel⟩
  · exact @run_eq_of_runWithin _ _ _ _ 3 _ (by decide +kernel)
  · have hfirst : step? sharpTree ⟨.slash, ["w", "page.t"]⟩ true (initial sharpText)
        = .ok (some ⟨"<!--@ include ß -->".toList, [], false, ["ss".toList]⟩) := by
      decide +kernel
    have hsecond : step? sharpTree ⟨.slash, ["w", "page.t"]⟩ false
        ⟨"<!--@ include ß -->".toList, [], false, ["ss".toList]⟩
        = .ok (some ⟨[], [], false, ["ß".toList, "ss".toList]⟩) := by
      decide +kernel
    exact (Splicing.start.next hfirst).next hsecond

end Expansion

end LiveTemplates
