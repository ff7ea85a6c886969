import LiveTemplates.Proofs.Expansion.Iterations
import LiveTemplates.Proofs.Expansion.Structural

/-!
# Replacing and searching again is the structural reading

Where all texts that an expansion can meet are clean, it yields what the structural reading yields:
the same text, outputs, mark and chain, or the same error (`expand_eq_structural`).

The proof keeps the text of an expansion in two halves. The first half is what was read so far, and
it is inert, so no search finds anything in it. The second half starts with what is left of a clean
text, and the next tag is the one that the reading comes to (`run_eq_of_readTag`). What follows that
text is not looked at before it is read to its end (`run_reading`).
-/

namespace LiveTemplates

namespace Expansion

variable {t : FileTree} {k : IncludeKeys t} {source : Path} {e : Expansion}

/-! ## Equations of the reading -/

/-- Keys of what follows the first tag are keys of the text. -/
theorem keysOf_rest_subset {s before : List Char} {m : Tag.Sighting}
    (h : Tag.first? s = some (before, m)) : keysOf m.rest ⊆ keysOf s := by
  intro key hkey
  obtain ⟨tag, htag, rfl⟩ := List.mem_map.mp hkey
  refine List.mem_map.mpr ⟨Tag.moved (before ++ m.raw).length tag, ?_, rfl⟩
  rw [Tag.scan_of_first? h]
  exact List.mem_cons_of_mem _ (List.mem_map_of_mem htag)

/-- The key of the first tag is a key of the text. -/
theorem chainKey_mem_keysOf {s before : List Char} {m : Tag.Sighting}
    (h : Tag.first? s = some (before, m)) :
    chainKey (m.toTag before.length).argument ∈ keysOf s := by
  rw [keysOf, Tag.scan_of_first? h]
  exact List.mem_cons_self

/-- A text without tags is copied. -/
theorem reading_of_none {s : List Char} (h : Tag.first? s = none) (hkeys : keysOf s ⊆ k.keys) :
    reading k source s e hkeys = .ok { e with text := e.text ++ s } := by
  unfold reading
  simp only [Tag.parts_of_none h, Tag.lastGap_of_none h]
  rw [walk]
  rfl

section FirstTag

variable {s before : List Char} {m : Tag.Sighting} {e' : Expansion}

theorem reading_of_refused {err : ExpansionError} (h : Tag.first? s = some (before, m))
    (hread : readTag t source { e with text := e.text ++ before } (m.toTag before.length)
      = .error err)
    (hkeys : keysOf s ⊆ k.keys) : reading k source s e hkeys = .error err := by
  unfold reading
  simp only [Tag.parts_of_first? h]
  rw [walk_cons_refused hread]
  rfl

theorem reading_of_onward (h : Tag.first? s = some (before, m))
    (hread : readTag t source { e with text := e.text ++ before } (m.toTag before.length)
      = .ok (.onward e')) (hkeys : keysOf s ⊆ k.keys) :
    reading k source s e hkeys
      = reading k source m.rest e' (fun _ hkey => hkeys (keysOf_rest_subset h hkey)) := by
  unfold reading
  simp only [Tag.parts_of_first? h, Tag.lastGap_of_first? h]
  rw [walk_cons_onward hread, walk_moved]

theorem reading_of_into {content : List Char} (h : Tag.first? s = some (before, m))
    (hread : readTag t source { e with text := e.text ++ before } (m.toTag before.length)
      = .ok (.into e' content)) (hkeys : keysOf s ⊆ k.keys) (hcontent : keysOf content ⊆ k.keys) :
    reading k source s e hkeys
      = (reading k source content e' hcontent).bind fun r =>
          reading k source m.rest r (fun _ hkey => hkeys (keysOf_rest_subset h hkey)) := by
  unfold reading
  simp only [Tag.parts_of_first? h, Tag.lastGap_of_first? h]
  rw [walk_cons_into hread fun part hp => hcontent (mem_keysOf_of_mem_parts part hp)]
  cases walk k source (Tag.lastGap content) e' (Tag.parts content) _ with
  | error err => rfl
  | ok r => exact walk_moved _ _ _ _ _

/-- A reading gives no key back. -/
theorem suffix_of_reading {hkeys : keysOf s ⊆ k.keys} (h : reading k source s e hkeys = .ok e') :
    e.chain <:+ e'.chain := by
  unfold reading at h
  cases hw : walk k source (Tag.lastGap s) e (Tag.parts s) _ with
  | error err => rw [hw] at h; cases h
  | ok r => rw [hw] at h; cases h; exact r.2

end FirstTag

/-! ## A step is the reading of a tag -/

/-- A tag that is read leaves what was read before as it is. -/
theorem text_of_readTag {tag : Tag} {r : Reading} (h : readTag t source e tag = .ok r) :
    (∃ e', r = .onward e' ∧ e'.text = e.text) ∨
      ∃ e' content, r = .into e' content ∧ e'.text = e.text := by
  unfold readTag at h
  split at h
  · simp at h
  · cases h; exact Or.inl ⟨_, rfl, rfl⟩
  · split at h
    · simp at h
    · cases h; exact Or.inl ⟨_, rfl, rfl⟩
  · dsimp only at h
    split at h
    · simp at h
    · split at h
      · simp at h
      · split at h
        · simp at h
        · simp at h
        · cases h; exact Or.inr ⟨_, _, rfl, rfl⟩

theorem text_of_readTag_onward {tag : Tag} {e' : Expansion}
    (h : readTag t source e tag = .ok (.onward e')) : e'.text = e.text := by
  rcases text_of_readTag h with ⟨_, heq, htext⟩ | ⟨_, _, heq, _⟩ <;> cases heq
  exact htext

theorem text_of_readTag_into {tag : Tag} {e' : Expansion} {content : List Char}
    (h : readTag t source e tag = .ok (.into e' content)) : e'.text = e.text := by
  rcases text_of_readTag h with ⟨_, heq, _⟩ | ⟨_, _, heq, htext⟩ <;> cases heq
  exact htext

/-- What replaces a tag is what the reading of the tag asks for. -/
theorem applyTag_eq_readTag (s : List Char) {tag : Tag} (hplaced : tag.placed e.text.length = tag) :
    applyTag t source false tag { e with text := s } = match readTag t source e tag with
      | .error err => .error err
      | .ok (.onward e') => .ok ([], { e' with text := s })
      | .ok (.into e' content) => .ok (content, { e' with text := s }) := by
  unfold applyTag readTag
  rw [hplaced]
  cases tag.kind with
  | none => rfl
  | some kind =>
    cases kind with
    | partialFile => simp [TagKind.requiresArgument]
    | outputFile =>
      by_cases harg : tag.argument = [] <;> simp [TagKind.requiresArgument, harg]
    | includeFile =>
      by_cases harg : tag.argument = []
      · simp [TagKind.requiresArgument, harg]
      · have hempty : tag.argument.isEmpty = false := by simpa using harg
        by_cases hkey : chainKey tag.argument ∈ e.chain
        · simp [TagKind.requiresArgument, harg, hkey]
        · simp only [harg, hkey, hempty, List.contains_eq_mem, decide_false, Bool.and_false,
            Bool.false_eq_true, if_false]
          cases t.includedText source tag.argument with
          | error err => rfl
          | ok found => cases found <;> rfl

/-- **A step reads the tag that stands behind what was read before.** -/
theorem run_eq_of_readTag {m : Tag.Sighting} {u : List Char}
    (h : Tag.first? (e.text ++ u) = some (e.text, m)) :
    run t source false { e with text := e.text ++ u }
      = match readTag t source e (m.toTag e.text.length) with
        | .error err => .error err
        | .ok (.onward e') => run t source false { e' with text := e'.text ++ m.rest }
        | .ok (.into e' content) =>
          run t source false { e' with text := e'.text ++ (content ++ m.rest) } := by
  have hstep : step? t source false { e with text := e.text ++ u }
      = match readTag t source e (m.toTag e.text.length) with
        | .error err => .error err
        | .ok (.onward e') => .ok (some { e' with text := e'.text ++ m.rest })
        | .ok (.into e' content) =>
          .ok (some { e' with text := e'.text ++ (content ++ m.rest) }) := by
    unfold step?
    dsimp only
    rw [h]
    dsimp only
    rw [applyTag_eq_readTag (e.text ++ u) (show (m.toTag _).placed _ = m.toTag _ from rfl)]
    cases hread : readTag t source e (m.toTag e.text.length) with
    | error err => rfl
    | ok r =>
      rcases text_of_readTag hread with ⟨e', rfl, htext⟩ | ⟨e', content, rfl, htext⟩
      · simp [htext]
      · simp [htext]
  rw [run]
  split
  · next err herr =>
    rw [hstep] at herr
    split at herr <;> simp_all
  · next hnone =>
    rw [hstep] at hnone
    split at hnone <;> simp_all
  · next e'' hsome =>
    rw [hstep] at hsome
    split at hsome <;> simp_all

/-- Without a tag there is no step. -/
theorem run_eq_of_none {isFirst : Bool} (h : Tag.first? e.text = none) :
    run t source isFirst e = .ok e := by
  have hstep : step? t source isFirst e = .ok none := by
    unfold step?
    rw [h]
  rw [run]
  split <;> simp_all

/-! ## Texts that an expansion can meet -/

/-- The texts that includes can bring in, one from another, when the text `text` is expanded. -/
inductive Reached (t : FileTree) (source : Path) (text : List Char) : List Char → Prop
  /-- The text itself. -/
  | start : Reached t source text text
  /-- The text of a file that a tag of such a text includes. -/
  | included {s content : List Char} {tag : Tag} {target : Path} (hs : Reached t source text s)
      (htag : tag ∈ Tag.scan s) (hinclude : tag.isInclude = true)
      (hcontent : t.includedText source tag.argument = .ok (some (target, content))) :
      Reached t source text content

/-- What can be met from a text that can be met can be met. -/
theorem Reached.trans {text s s' : List Char} (h : Reached t source text s)
    (h' : Reached t source s s') : Reached t source text s' := by
  induction h' with
  | start => exact h
  | included _ htag hinclude hcontent ih => exact ih.included htag hinclude hcontent

/-- All texts that an expansion can meet are clean. -/
def AllClean (t : FileTree) (source : Path) (text : List Char) : Prop :=
  ∀ s, Reached t source text s → Tag.Clean s

/-- A tree in which all files are clean, and a clean text, are enough. -/
theorem AllClean.of_texts {text : List Char} (h : ∀ s ∈ text :: t.texts, Tag.Clean s) :
    AllClean t source text := by
  intro s hs
  cases hs with
  | start => exact h text List.mem_cons_self
  | included _ _ _ hcontent =>
    exact h s (List.mem_cons_of_mem _
      (FileTree.mem_texts (exists_readText_of_includedText hcontent)))

/-- What follows the first tag meets nothing new. -/
theorem AllClean.rest {s before : List Char} {m : Tag.Sighting} (hs : AllClean t source s)
    (h : Tag.first? s = some (before, m)) : AllClean t source m.rest := by
  have hclean : Tag.Clean s := hs s .start
  intro s' hs'
  -- only `m.rest` itself is not met from `s`, but its tags stand in `s`
  have key : s' = m.rest ∨ Reached t source s s' := by
    induction hs' with
    | start => exact Or.inl rfl
    | @included s₁ content tag target _ htag hinclude hcontent ih =>
      refine Or.inr ?_
      rcases ih with rfl | ih
      · have hmoved : Tag.moved (before ++ m.raw).length tag ∈ Tag.scan s := by
          rw [Tag.scan_of_first? h]
          exact List.mem_cons_of_mem _ (List.mem_map_of_mem htag)
        exact .included .start hmoved hinclude hcontent
      · exact ih.included htag hinclude hcontent
  rcases key with rfl | key
  · exact (hclean.of_first? h).2
  · exact hs s' key

/-- A tag that is read as an include is one. -/
theorem isInclude_of_readTag_into {tag : Tag} {e' : Expansion} {content : List Char}
    (h : readTag t source e tag = .ok (.into e' content)) : tag.isInclude = true := by
  unfold readTag at h
  split at h
  · simp at h
  · simp at h
  · split at h <;> simp at h
  · next hkind =>
    dsimp only at h
    split at h
    · simp at h
    · next hargument => simpa [Tag.isInclude, hkind] using hargument

/-- What the first tag includes meets nothing new. -/
theorem AllClean.content {s before content : List Char} {m : Tag.Sighting} {e' : Expansion}
    (hs : AllClean t source s) (h : Tag.first? s = some (before, m))
    (hread : readTag t source e (m.toTag before.length) = .ok (.into e' content)) :
    AllClean t source content := by
  obtain ⟨_, _, target, hcontent⟩ := chain_of_readTag_into hread
  have htag : m.toTag before.length ∈ Tag.scan s := by
    rw [Tag.scan_of_first? h]
    exact List.mem_cons_self
  have hreached : Reached t source s content :=
    .included .start htag (isInclude_of_readTag_into hread) hcontent
  intro s' hs'
  exact hs s' (hreached.trans hs')

/-! ## The simulation -/

/-- A step reads the first tag of a clean text that stands behind what was read before. -/
theorem run_eq_of_first? {s before u : List Char} {m : Tag.Sighting} (he : Tag.Inert e.text)
    (hs : Tag.Clean s) (h : Tag.first? s = some (before, m)) :
    run t source false { e with text := e.text ++ (s ++ u) }
      = match readTag t source { e with text := e.text ++ before } (m.toTag before.length) with
        | .error err => .error err
        | .ok (.onward e') => run t source false { e' with text := e'.text ++ (m.rest ++ u) }
        | .ok (.into e' content) =>
          run t source false { e' with text := e'.text ++ (content ++ (m.rest ++ u)) } := by
  have hfirst : Tag.first? ((e.text ++ before) ++ (m.raw ++ (m.rest ++ u)))
      = some (e.text ++ before, { m with rest := m.rest ++ u }) := by
    rw [← he.first?_between hs h, Tag.eq_of_first? h]
    simp only [List.append_assoc]
  have htag : ({ m with rest := m.rest ++ u } : Tag.Sighting).toTag (e.text ++ before).length
      = Tag.moved e.text.length (m.toTag before.length) := by
    simp [Tag.moved, Tag.Sighting.toTag, Tag.Sighting.raw, Tag.Sighting.argument, Nat.add_assoc]
  have hrun := @run_eq_of_readTag t source { e with text := e.text ++ before } _ _ hfirst
  rw [htag, readTag_moved] at hrun
  rw [← hrun, Tag.eq_of_first? h]
  simp only [List.append_assoc]

/--
**Replacing and searching again reads the text that stands behind what was read before**, and goes
on with what follows that text. What was read stays inert.
-/
theorem run_reading (s u : List Char) (e : Expansion) (he : Tag.Inert e.text)
    (hs : AllClean t source s) (hkeys : keysOf s ⊆ k.keys) :
    run t source false { e with text := e.text ++ (s ++ u) }
        = ((reading k source s e hkeys).bind fun e' =>
            run t source false { e' with text := e'.text ++ u }) ∧
      ∀ e', reading k source s e hkeys = .ok e' → Tag.Inert e'.text := by
  have hclean : Tag.Clean s := hs s .start
  cases h : Tag.first? s with
  | none =>
    rw [reading_of_none h]
    refine ⟨?_, ?_⟩
    · simp [Except.bind]
    · rintro e' ⟨⟩
      exact he.append (hclean.inert h)
  | some first =>
    obtain ⟨before, m⟩ := first
    have hbefore : Tag.Inert (e.text ++ before) := he.append (hclean.of_first? h).1
    have hkeys' : keysOf m.rest ⊆ k.keys := fun _ hkey => hkeys (keysOf_rest_subset h hkey)
    -- both sides have come to the first tag, and do with it what `readTag` says
    rw [run_eq_of_first? he hclean h]
    cases hread : readTag t source { e with text := e.text ++ before } (m.toTag before.length) with
    | error err =>
      rw [reading_of_refused h hread]
      exact ⟨rfl, nofun⟩
    | ok r =>
      cases r with
      | onward e₁ =>
        have he₁ : Tag.Inert e₁.text := by rw [text_of_readTag_onward hread]; exact hbefore
        rw [reading_of_onward h hread]
        exact run_reading m.rest u e₁ he₁ (hs.rest h) hkeys'
      | into e₁ content =>
        have he₁ : Tag.Inert e₁.text := by rw [text_of_readTag_into hread]; exact hbefore
        obtain ⟨_, _, _, hincluded⟩ := chain_of_readTag_into hread
        have hcontent : keysOf content ⊆ k.keys :=
          k.complete _ content (exists_readText_of_includedText hincluded)
        -- the rest of the text is what follows the file's text until that is read
        obtain ⟨hrun, hinert⟩ :=
          run_reading content (m.rest ++ u) e₁ he₁ (hs.content h hread) hcontent
        rw [reading_of_into h hread hkeys hcontent]
        dsimp only
        rw [hrun]
        cases hr : reading k source content e₁ hcontent with
        | error err => exact ⟨rfl, nofun⟩
        | ok r => exact run_reading m.rest u r (hinert r hr) (hs.rest h) hkeys'
termination_by (unused k.keys e.chain, s.length)
decreasing_by
  · rw [chain_of_readTag_onward hread]
    exact Prod.Lex.right _ (Tag.length_rest_lt_of_first? h)
  · have hlt := unused_lt_of_readTag_into hread (hkeys (chainKey_mem_keysOf h))
    exact Prod.Lex.left _ _ hlt
  · have hlt := unused_lt_of_readTag_into hread (hkeys (chainKey_mem_keysOf h))
    exact Prod.Lex.left _ _
      (Nat.lt_of_le_of_lt (unused_le_of_suffix (suffix_of_reading hr)) hlt)

/-! ## The mark of the file -/

/-- That a tag is the first one makes a difference only if it is a partial mark. -/
theorem applyTag_first (tag : Tag) (e : Expansion) :
    applyTag t source true tag e = applyTag t source false tag
      { e with isPartial := e.isPartial || decide (tag.kind = some .partialFile) } := by
  unfold applyTag
  cases tag.kind with
  | none => rfl
  | some kind => cases kind <;> simp

/-- The mark of a file can be noted before its text is expanded. -/
theorem run_first (t : FileTree) (source : Path) (text : List Char) :
    run t source true (initial text)
      = run t source false { initial text with isPartial := startsPartial text } := by
  cases h : Tag.first? text with
  | none =>
    have hmark : startsPartial text = false := by
      rw [startsPartial, Tag.scan, Tag.scanFrom_eq, h]
      rfl
    rw [run_eq_of_none h, hmark, run_eq_of_none h]
    rfl
  | some first =>
    obtain ⟨before, m⟩ := first
    have hmark : startsPartial text
        = decide ((m.toTag before.length).kind = some .partialFile) := by
      rw [startsPartial, Tag.scan_of_first? h]
      rfl
    have hstep : step? t source true (initial text)
        = step? t source false { initial text with isPartial := startsPartial text } := by
      unfold step?
      rw [show (initial text).text = text from rfl, h]
      dsimp only
      rw [applyTag_first, hmark]
      rfl
    have hsome : step? t source true (initial text) ≠ .ok none := by
      unfold step?
      rw [show (initial text).text = text from rfl, h]
      dsimp only
      split <;> simp
    rw [run, run]
    split <;> split <;> simp_all

/-! ## The two readings agree -/

/--
**Replacing and searching again is the structural reading**, where all texts that the expansion can
meet are clean: both yield the same text, outputs, mark and chain, or the same error.
-/
theorem expand_eq_structural {text : List Char} (h : AllClean t source text) :
    expand t source text = structural t source text := by
  have hkeys : keysOf text ⊆ (IncludeKeys.ofText t text).keys := fun _ hkey =>
    List.mem_flatMap.mpr ⟨text, List.mem_cons_self, hkey⟩
  obtain ⟨hrun, hinert⟩ := @run_reading t (.ofText t text) source text []
    { initial [] with isPartial := startsPartial text } Tag.inert_nil h hkeys
  have hstart : expand t source text = (structural t source text).bind fun e' =>
      run t source false { e' with text := e'.text ++ [] } := by
    rw [expand, run_first, structural, ← hrun]
    simp [initial]
  rw [hstart]
  cases hr : structural t source text with
  | error err => rfl
  | ok e' =>
    simp only [Except.bind, List.append_nil]
    exact run_eq_of_none (hinert e' hr).first?_eq_none

/-- A tree with an include in an included file. -/
def nestedTree : FileTree where
  entries := [(["w"], .directory), (["w", "a.t"], .file "1<!--@ include b.t -->2".toUTF8),
    (["w", "b.t"], .file "(<!--@ output o.t -->)".toUTF8)]
  workingDirectory := ["w"]

/-- A text with a mark and an include. -/
def nestedText : List Char := "<!--@ partial --><!--@ include a.t -->;".toList

/-- Both readings of the nested text, which are the same because its tree is clean. -/
theorem expand_nestedText :
    AllClean nestedTree ⟨.slash, ["w", "page.t"]⟩ nestedText ∧
      expand nestedTree ⟨.slash, ["w", "page.t"]⟩ nestedText
        = .ok ⟨"1()2;".toList, [⟨.slash, ["w", "o.t"]⟩], true, ["b.t".toList, "a.t".toList]⟩ ∧
      structural nestedTree ⟨.slash, ["w", "page.t"]⟩ nestedText
        = .ok ⟨"1()2;".toList, [⟨.slash, ["w", "o.t"]⟩], true, ["b.t".toList, "a.t".toList]⟩ := by
  have hclean : AllClean nestedTree ⟨.slash, ["w", "page.t"]⟩ nestedText := by
    refine AllClean.of_texts fun s hs => Tag.clean_of_notMem ?_
    revert s
    decide +kernel
  have hexpand : expand nestedTree ⟨.slash, ["w", "page.t"]⟩ nestedText
      = .ok ⟨"1()2;".toList, [⟨.slash, ["w", "o.t"]⟩], true, ["b.t".toList, "a.t".toList]⟩ :=
    @run_eq_of_runWithin _ _ _ _ 5 _ (by rfl)
  exact ⟨hclean, hexpand, expand_eq_structural hclean ▸ hexpand⟩

end Expansion

end LiveTemplates
