import LiveTemplates.Expansion.Basic
import LiveTemplates.Proofs.Tag.Clean

/-!
# Files that an expansion brings in

The files whose texts an expansion puts into its own (`Splices`), and how to prove something of all
of them: what holds of the first text and is passed on by the includes that stand in a text holds of
each file (`Splices.induction`), if the texts are clean. Every include that is met then stands in
one of the texts.

At each step the text consists of what was passed, in which nothing is found any more, and of what
is left of clean texts (`Stacked`).
-/

namespace LiveTemplates

namespace Tag

/-! ## Stacks of texts -/

/-- An inert text with some pieces behind it. -/
def Stacked (IsPiece : List Char → Prop) (s : List Char) : Prop :=
  ∃ (before : List Char) (pieces : List (List Char)),
    Inert before ∧ (∀ piece ∈ pieces, IsPiece piece) ∧ s = before ++ pieces.flatten

/-- **The first tag of a stack is the first tag of one of its pieces**, with others behind it. -/
theorem Stacked.exists_piece {IsPiece : List Char → Prop} {s before : List Char} {m : Sighting}
    (hs : Stacked IsPiece s) (hclean : ∀ piece, IsPiece piece → Clean piece)
    (h : first? s = some (before, m)) :
    Inert before ∧ ∃ (piece b : List Char) (m' : Sighting) (pieces : List (List Char)),
      IsPiece piece ∧ first? piece = some (b, m') ∧ (∀ piece ∈ pieces, IsPiece piece) ∧
        m = { m' with rest := m'.rest ++ pieces.flatten } := by
  obtain ⟨passed, pieces, hpassed, hpieces, rfl⟩ := hs
  induction pieces generalizing passed with
  | nil => simp [hpassed.first?_eq_none] at h
  | cons piece pieces ih =>
    -- a piece without tags is passed as a whole, and is inert like what was passed before
    have hpiece := hclean piece (hpieces piece List.mem_cons_self)
    have hothers : ∀ piece ∈ pieces, IsPiece piece := fun q hq =>
      hpieces q (List.mem_cons_of_mem _ hq)
    rw [List.flatten_cons] at h
    cases hfirst : first? piece with
    | none =>
      rw [← List.append_assoc] at h
      exact ih (passed ++ piece) (hpassed.append (hpiece.inert hfirst)) hothers h
    | some first =>
      obtain ⟨b, m'⟩ := first
      rw [hpassed.first?_between hpiece hfirst] at h
      obtain ⟨rfl, rfl⟩ : passed ++ b = before ∧ _ = m := by simpa using h
      exact ⟨hpassed.append (hpiece.of_first? hfirst).1, piece, b, m', pieces,
        hpieces piece List.mem_cons_self, hfirst, hothers, rfl⟩

/-- Whether a tag is an include depends neither on where it stands nor on what follows it. -/
theorem isInclude_toTag (m : Sighting) (rest : List Char) (j k : Nat) :
    (({ m with rest := rest } : Sighting).toTag j).isInclude = (m.toTag k).isInclude := rfl

theorem moved_moved (j k : Nat) (tag : Tag) : moved j (moved k tag) = moved (j + k) tag := by
  simp [moved, Nat.add_assoc]

theorem isInclude_moved (k : Nat) (tag : Tag) : (moved k tag).isInclude = tag.isInclude := rfl

end Tag

namespace Expansion

variable {t : FileTree} {source : Path} {text : List Char}

/-! ## The files -/

/-- The states that an expansion comes through from a state on. -/
inductive Met (t : FileTree) (source : Path) (isFirst : Bool) (start : Expansion) :
    Bool → Expansion → Prop
  | start : Met t source isFirst start isFirst start
  | next {b : Bool} {e e' : Expansion} (he : Met t source isFirst start b e)
      (h : step? t source b e = .ok (some e')) : Met t source isFirst start false e'

/-- The file that the next step brings in, with its text. -/
def brought? (t : FileTree) (source : Path) (e : Expansion) : Option (Path × List Char) :=
  match Tag.first? e.text with
  | none => none
  | some (before, m) =>
    if (m.toTag before.length).isInclude ∧ chainKey m.argument ∉ e.chain then
      match t.includedText source m.argument with
      | .ok found => found
      | .error _ => none
    else none

/-- The expansion of a text brings in the text `content` of the file `target`. -/
def Splices (t : FileTree) (source : Path) (text : List Char) (target : Path)
    (content : List Char) : Prop :=
  ∃ b e, Met t source true (initial text) b e ∧ brought? t source e = some (target, content)

/-- The files that are brought in, if the end comes within the allowed steps. -/
def splicedWithin (t : FileTree) (source : Path) :
    Nat → Bool → Expansion → Option (List (Path × List Char))
  | 0, _, _ => none
  | n + 1, b, e =>
    match step? t source b e with
    | .ok (some e') =>
      (splicedWithin t source n false e').map ((brought? t source e).toList ++ ·)
    | _ => some (brought? t source e).toList

section Met

variable {b b' : Bool} {e e' start : Expansion}

/-- What is met from a state on is the state, or it is met from the next one on. -/
theorem Met.head (h : Met t source b start b' e) :
    (b' = b ∧ e = start) ∨
      ∃ e₁, step? t source b start = .ok (some e₁) ∧ Met t source false e₁ b' e := by
  induction h with
  | start => exact Or.inl ⟨rfl, rfl⟩
  | next he h ih =>
    rcases ih with ⟨rfl, rfl⟩ | ⟨e₁, hstep, hmet⟩
    · exact Or.inr ⟨_, h, .start⟩
    · exact Or.inr ⟨e₁, hstep, hmet.next h⟩

/-- What is met from the next state on is met. -/
theorem Met.after_step (h : Met t source false e' b' e)
    (hstep : step? t source b start = .ok (some e')) : Met t source b start b' e := by
  induction h with
  | start => exact .next .start hstep
  | next he h ih => exact ih.next h

/-- **The files that are brought in can be listed.** -/
theorem met_brought_iff {n : Nat} {files : List (Path × List Char)} {file : Path × List Char}
    (h : splicedWithin t source n b start = some files) :
    (∃ b' e, Met t source b start b' e ∧ brought? t source e = some file) ↔ file ∈ files := by
  induction n generalizing b start files with
  | zero => simp [splicedWithin] at h
  | succ n ih =>
    rw [splicedWithin] at h
    split at h
    · next e' hstep =>
      obtain ⟨files', hfiles', rfl⟩ := Option.map_eq_some_iff.mp h
      rw [List.mem_append, Option.mem_toList, ← ih hfiles']
      constructor
      · rintro ⟨b', e, hmet, hfile⟩
        rcases hmet.head with ⟨_, rfl⟩ | ⟨e₁, hstep', hmet⟩
        · exact Or.inl hfile
        · obtain rfl : e' = e₁ := by simpa [hstep] using hstep'
          exact Or.inr ⟨b', e, hmet, hfile⟩
      · rintro (hfile | ⟨b', e, hmet, hfile⟩)
        · exact ⟨b, start, .start, hfile⟩
        · exact ⟨b', e, hmet.after_step hstep, hfile⟩
    · next hstop =>
      obtain rfl : (brought? t source start).toList = files := by simpa using h
      rw [Option.mem_toList]
      constructor
      · rintro ⟨b', e, hmet, hfile⟩
        rcases hmet.head with ⟨_, rfl⟩ | ⟨e₁, hstep, _⟩
        · exact hfile
        · exact absurd hstep (hstop e₁)
      · exact fun hfile => ⟨b, start, .start, hfile⟩

theorem splices_iff {n : Nat} {files : List (Path × List Char)} {target : Path}
    {content : List Char} (h : splicedWithin t source n true (initial text) = some files) :
    Splices t source text target content ↔ (target, content) ∈ files :=
  met_brought_iff h

end Met

/-- A tag is replaced by nothing, or it is an include and replaced by the text of a file. -/
theorem replacement_of_applyTag {isFirst : Bool} {tag : Tag} {e e' : Expansion}
    {replacement : List Char} (h : applyTag t source isFirst tag e = .ok (replacement, e')) :
    replacement = [] ∨ tag.isInclude = true ∧ chainKey tag.argument ∉ e.chain ∧
      ∃ target, t.includedText source tag.argument = .ok (some (target, replacement)) := by
  unfold applyTag at h
  split at h
  · simp at h
  · next kind hkind =>
    split at h
    · simp at h
    · next hargument =>
      split at h
      · cases h; exact Or.inl rfl
      · cases h; exact Or.inl rfl
      · have hinclude : tag.isInclude = true := by
          simpa [Tag.isInclude, hkind, TagKind.requiresArgument] using hargument
        dsimp only at h
        split at h
        · simp at h
        · next hnew =>
          split at h
          · simp at h
          · simp at h
          · next target text hincluded =>
            cases h
            exact Or.inr ⟨hinclude, by simpa using hnew, target, hincluded⟩

/-- A step takes the first tag out, and may bring in the text of a file. -/
theorem text_of_step? {isFirst : Bool} {e e' : Expansion}
    (h : step? t source isFirst e = .ok (some e')) :
    ∃ before m replacement, Tag.first? e.text = some (before, m) ∧
      e'.text = before ++ (replacement ++ m.rest) ∧
        (replacement = [] ∨ ∃ target, brought? t source e = some (target, replacement)) := by
  unfold step? at h
  split at h
  · simp at h
  · next before m hfirst =>
    split at h
    · simp at h
    · next replacement e'' happly =>
      cases h
      refine ⟨before, m, replacement, hfirst, rfl, ?_⟩
      rcases replacement_of_applyTag happly with rfl | ⟨hinclude, hnew, target, hcontent⟩
      · exact Or.inl rfl
      · refine Or.inr ⟨target, ?_⟩
        unfold brought?
        rw [hfirst]
        dsimp only
        rw [if_pos ⟨hinclude, hnew⟩, show t.includedText source m.argument = _ from hcontent]

/-- What is brought in is the file of an include that stands first. -/
theorem include_of_brought? {e : Expansion} {target : Path} {content : List Char}
    (h : brought? t source e = some (target, content)) :
    ∃ before m, Tag.first? e.text = some (before, m) ∧
      (m.toTag before.length).isInclude = true ∧
      t.includedText source m.argument = .ok (some (target, content)) := by
  unfold brought? at h
  split at h
  · cases h
  · next before m hfirst =>
    split at h
    · next hinclude =>
      split at h
      · next found hfound => exact ⟨before, m, hfirst, hinclude.1, h ▸ hfound⟩
      · cases h
    · cases h

/-! ## An induction along includes -/

section Induction

variable {motive : Path → List Char → Prop}

/-- What is left of a clean text for which `motive` holds. -/
def IsRest (motive : Path → List Char → Prop) (s : List Char) : Prop :=
  Tag.Clean s ∧ ∃ q text, motive q text ∧ ∀ tag ∈ Tag.scan s, ∃ k, Tag.moved k tag ∈ Tag.scan text

/-- What follows the first tag is left of the same text. -/
theorem IsRest.rest {s before : List Char} {m : Tag.Sighting} (hs : IsRest motive s)
    (h : Tag.first? s = some (before, m)) : IsRest motive m.rest := by
  obtain ⟨hclean, q, text, hmotive, htags⟩ := hs
  refine ⟨(hclean.of_first? h).2, q, text, hmotive, fun tag htag => ?_⟩
  have hmem : Tag.moved (before ++ m.raw).length tag ∈ Tag.scan s := by
    rw [Tag.scan_of_first? h]
    exact List.mem_cons_of_mem _ (List.mem_map_of_mem htag)
  obtain ⟨k, hk⟩ := htags _ hmem
  exact ⟨k + (before ++ m.raw).length, Tag.moved_moved .. ▸ hk⟩

/-- A whole text is left of itself. -/
theorem IsRest.whole {q : Path} {s : List Char} (hclean : Tag.Clean s) (hs : motive q s) :
    IsRest motive s :=
  ⟨hclean, q, s, hs, fun tag htag => ⟨0, by simpa [Tag.moved] using htag⟩⟩

/--
**What holds of the first text and is passed on by includes holds of each file that is brought in.**
-/
theorem Splices.induction {target : Path} {content : List Char}
    (start : motive source text) (clean : ∀ q s, motive q s → Tag.Clean s)
    (included : ∀ q s tag target content, motive q s → tag ∈ Tag.scan s → tag.isInclude = true →
      t.includedText source tag.argument = .ok (some (target, content)) →
      Splices t source text target content → motive target content)
    (h : Splices t source text target content) : motive target content := by
  -- the first tag of a state is the first one of a piece, and so an include of a whole text
  have hmotive : ∀ {b : Bool} {e : Expansion} {target : Path} {content : List Char},
      Met t source true (initial text) b e → Tag.Stacked (IsRest motive) e.text →
      brought? t source e = some (target, content) → motive target content := by
    intro b e target content he hstack hbrought
    have hsplices : Splices t source text target content := ⟨b, e, he, hbrought⟩
    obtain ⟨before, m, hfirst, hinclude, hcontent⟩ := include_of_brought? hbrought
    obtain ⟨_, piece, b, m', _, ⟨_, q, s, hs, htags⟩, hpiece, _, rfl⟩ :=
      hstack.exists_piece (fun _ hp => hp.1) hfirst
    have hmem : m'.toTag b.length ∈ Tag.scan piece := by
      rw [Tag.scan_of_first? hpiece]
      exact List.mem_cons_self
    obtain ⟨k, hk⟩ := htags _ hmem
    have hsame : (Tag.moved k (m'.toTag b.length)).isInclude = true :=
      (Tag.isInclude_moved _ _).trans ((Tag.isInclude_toTag m' _ _ _).symm.trans hinclude)
    exact included q s _ target content hs hk hsame hcontent hsplices
  have hstacked : ∀ {b : Bool} {e : Expansion}, Met t source true (initial text) b e →
      Tag.Stacked (IsRest motive) e.text := by
    intro b e he
    induction he with
    | start =>
      have hwhole : IsRest motive text := .whole (clean _ _ start) start
      exact ⟨[], [text], Tag.inert_nil, by simpa using hwhole, by simp [initial]⟩
    | next he h ih =>
      obtain ⟨before, m, replacement, hfirst, htext, hreplacement⟩ := text_of_step? h
      obtain ⟨hinert, piece, b, m', pieces, hrest, hpiece, hpieces, rfl⟩ :=
        ih.exists_piece (fun _ hp => hp.1) hfirst
      have hothers : ∀ piece ∈ m'.rest :: pieces, IsRest motive piece := by
        intro q hq
        rcases List.mem_cons.mp hq with rfl | hq
        · exact hrest.rest hpiece
        · exact hpieces q hq
      rcases hreplacement with rfl | ⟨target, hbrought⟩
      · exact ⟨before, m'.rest :: pieces, hinert, hothers, by simp [htext]⟩
      · have hnew : motive target replacement := hmotive he ih hbrought
        have hwhole : IsRest motive replacement := .whole (clean _ _ hnew) hnew
        refine ⟨before, replacement :: m'.rest :: pieces, hinert, ?_, by simp [htext]⟩
        intro q hq
        rcases List.mem_cons.mp hq with rfl | hq
        · exact hwhole
        · exact hothers q hq
  obtain ⟨b, e, he, hbrought⟩ := h
  exact hmotive he (hstacked he) hbrought

end Induction

end Expansion

end LiveTemplates
