import Mathlib.Data.List.TakeWhile
import LiveTemplates.Tag.Scan

/-!
# The grammar of tags

Which texts are tags, said without a search (`IsDirective`), and what `sighting?` finds in terms of
the parts of a tag (`sighting?_eq_some_iff`).

A sighting is decided by the characters of its tag alone: what starts a text as a tag starts every
text that goes on after the tag in another way (`sighting?_raw_append`). The end of the tag is the
reason. It is the first closing mark of its line, so nothing behind it is looked at.
-/

namespace LiveTemplates.Tag

/--
The texts that are a tag from end to end: `<!--`, padding, `@`, padding, a name, a body without the
end of a line, and `-->`.
-/
def IsDirective (w : List Char) : Prop :=
  ∃ outer inner name body : List Char,
    (∀ c ∈ outer, isPadding c = true) ∧ (∀ c ∈ inner, isPadding c = true) ∧
      name ≠ [] ∧ (∀ c ∈ name, Text.isWord c = true) ∧ (∀ c ∈ body, c ≠ '\n' ∧ c ≠ '\r') ∧
      w = ['<', '!', '-', '-'] ++ outer ++ '@' :: inner ++ name ++ body ++ ['-', '-', '>']

/-! ## The closing mark -/

/-- What is found behind a character is found without it, after one character less. -/
theorem exists_of_map_cons {α : Type} {found : Option (List Char × α)} {c : Char} {s : List Char}
    {a : α} (h : (found.map fun r => (c :: r.1, r.2)) = some (s, a)) :
    ∃ t, s = c :: t ∧ found = some (t, a) := by
  obtain ⟨⟨t, b⟩, hfound, heq⟩ := Option.map_eq_some_iff.mp h
  obtain ⟨rfl, rfl⟩ : c :: t = s ∧ b = a := by simpa using heq
  exact ⟨t, rfl, hfound⟩

/-- What follows the closing mark has no part in finding it. -/
theorem closing?_append {s body rest : List Char} (h : closing? s = some (body, rest))
    (u : List Char) : closing? (s ++ u) = some (body, rest ++ u) := by
  fun_induction closing? s generalizing body rest with
  | case1 rest' =>
    simp only [Option.some.injEq, Prod.mk.injEq] at h
    obtain ⟨rfl, rfl⟩ := h
    rw [List.cons_append, List.cons_append, List.cons_append, closing?]
  | case2 => simp at h
  | case3 c s hmark hline ih =>
    obtain ⟨b, rfl, hr⟩ := exists_of_map_cons h
    rw [List.cons_append, closing?, if_neg hline, ih hr]
    · rfl
    · -- a mark across the end of `s` would leave no room for the one that is in `s`
      rintro x rfl hx
      have hlen := congrArg List.length (eq_of_closing? hr)
      simp only [List.length_append, List.length_cons, List.length_nil] at hlen
      match s, hx, hlen with
      | a :: a' :: s', hx, _ =>
        simp only [List.cons_append, List.cons.injEq] at hx
        exact hmark s' rfl (by rw [hx.1, hx.2.1])
  | case4 => simp at h

/-- A body and its closing mark are found as such. -/
theorem closing?_body {s body rest : List Char} (h : closing? s = some (body, rest)) :
    closing? (body ++ ['-', '-', '>']) = some (body, []) := by
  fun_induction closing? s generalizing body rest with
  | case1 rest' =>
    simp only [Option.some.injEq, Prod.mk.injEq] at h
    obtain ⟨rfl, rfl⟩ := h
    rfl
  | case2 => simp at h
  | case3 c s hmark hline ih =>
    obtain ⟨b, rfl, hr⟩ := exists_of_map_cons h
    rw [List.cons_append, closing?, if_neg hline, ih hr]
    · rfl
    · rintro x rfl hx
      exact hmark (x ++ rest) rfl (by rw [eq_of_closing? hr, hx]; rfl)
  | case4 => simp at h

/-- No line ends within a body. -/
theorem ne_line_end_of_closing? {s body rest : List Char} (h : closing? s = some (body, rest)) :
    ∀ c ∈ body, c ≠ '\n' ∧ c ≠ '\r' := by
  fun_induction closing? s generalizing body rest with
  | case1 rest' => simp_all
  | case2 => simp at h
  | case3 c s hmark hline ih =>
    obtain ⟨b, rfl, hr⟩ := exists_of_map_cons h
    intro d hd
    rcases List.mem_cons.mp hd with rfl | hd
    · simpa using hline
    · exact ih hr d hd
  | case4 => simp at h

/-! ## The parts of a sighting -/

/-- Where a text no longer goes on with characters of a kind, another one stands. -/
theorem head?_dropWhile {p : Char → Bool} {s : List Char} :
    ∀ c ∈ (s.dropWhile p).head?, p c = false := by
  intro c hc
  have := List.head?_dropWhile_not p s
  rw [Option.mem_def.mp hc] at this
  simpa using this

/-- What a text starts with, as far as characters of one kind go. -/
theorem takeWhile_append_eq {p : Char → Bool} {s u : List Char} (hs : ∀ c ∈ s, p c = true)
    (hu : ∀ c ∈ u.head?, p c = false) : (s ++ u).takeWhile p = s := by
  rw [List.takeWhile_append_of_pos hs]
  cases u with
  | nil => simp
  | cons c u => rw [List.takeWhile_cons, hu c rfl]; simp

/-- What follows the characters of one kind that a text starts with. -/
theorem dropWhile_append_eq {p : Char → Bool} {s u : List Char} (hs : ∀ c ∈ s, p c = true)
    (hu : ∀ c ∈ u.head?, p c = false) : (s ++ u).dropWhile p = u := by
  rw [List.dropWhile_append_of_pos hs]
  cases u with
  | nil => simp
  | cons c u => rw [List.dropWhile_cons, hu c rfl]; simp

/-- Padding is no part of a name. -/
theorem isPadding_of_isWord {c : Char} (h : Text.isWord c = true) : isPadding c = false := by
  rw [Bool.eq_false_iff]
  intro hp
  have hc : c = ' ' ∨ c = '\t' := by simpa [isPadding] using hp
  rcases hc with rfl | rfl <;> simp [Text.isWord] at h

/-- The parts of a sighting are what the grammar says, each as long as it can be. -/
structure Sighting.Fits (m : Sighting) : Prop where
  outer : ∀ c ∈ m.outerPadding, isPadding c = true
  inner : ∀ c ∈ m.innerPadding, isPadding c = true
  name_ne : m.name ≠ []
  name_word : ∀ c ∈ m.name, Text.isWord c = true
  body_start : ∀ c ∈ m.body.head?, Text.isWord c = false
  closes : closing? (m.body ++ ['-', '-', '>']) = some (m.body, [])

/-- A sighting has such parts. -/
theorem fits_of_sighting? {s : List Char} {m : Sighting} (h : sighting? s = some m) : m.Fits := by
  unfold sighting? at h
  split at h
  · next s =>
    split at h
    · next t ht =>
      dsimp only at h
      split at h
      · simp at h
      · next hname =>
        obtain ⟨⟨body, rest⟩, hr, heq⟩ := Option.map_eq_some_iff.mp h
        subst heq
        refine ⟨fun c hc => ?_, fun c hc => ?_, ?_, fun c hc => ?_, fun c hc => ?_,
          closing?_body hr⟩
        · exact List.mem_takeWhile_imp hc
        · exact List.mem_takeWhile_imp hc
        · simpa using hname
        · exact List.mem_takeWhile_imp hc
        · refine head?_dropWhile (s := t.dropWhile isPadding) c ?_
          obtain ⟨body', rfl⟩ : ∃ body', body = c :: body' := by
            cases body with
            | nil => simp at hc
            | cons d body' => exact ⟨body', by rw [show d = c by simpa using hc]⟩
          rw [eq_of_closing? hr]
          rfl
    · simp at h
  · simp at h

/-- Such parts are found, whatever follows them. -/
theorem Sighting.Fits.sighting?_eq {m : Sighting} (h : m.Fits) (u : List Char) :
    sighting? (m.raw ++ u) = some { m with rest := u } := by
  obtain ⟨outer, inner, name, body, rest⟩ := m
  obtain ⟨houter, hinner, hname, hword, hstart, hcloses⟩ := h
  dsimp only at *
  obtain ⟨c, name', rfl⟩ := List.exists_cons_of_ne_nil hname
  have hpad : isPadding c = false := isPadding_of_isWord (hword c (by simp))
  have hclose : closing? (body ++ (['-', '-', '>'] ++ u)) = some (body, u) := by
    rw [← List.append_assoc]
    simpa using closing?_append hcloses u
  have hbody : ∀ d ∈ (body ++ (['-', '-', '>'] ++ u)).head?, Text.isWord d = false := by
    intro d hd
    cases body with
    | nil => rw [show d = '-' by simpa using hd.symm]; decide
    | cons e body => exact hstart d (by simpa using hd)
  have hraw : (⟨outer, inner, c :: name', body, rest⟩ : Sighting).raw ++ u
      = '<' :: '!' :: '-' :: '-' :: (outer ++ '@' :: (inner ++ ((c :: name')
          ++ (body ++ (['-', '-', '>'] ++ u))))) := by
    simp [Sighting.raw]
  have hat : ∀ d ∈ ('@' :: (inner ++ ((c :: name') ++ (body ++ (['-', '-', '>'] ++ u))))).head?,
      isPadding d = false := by
    intro d hd
    rw [show d = '@' by simpa using hd.symm]
    decide
  have hcs : ∀ d ∈ ((c :: name') ++ (body ++ (['-', '-', '>'] ++ u))).head?,
      isPadding d = false := by
    intro d hd
    rw [show d = c by simpa using hd.symm]
    exact hpad
  rw [hraw, sighting?]
  simp only [dropWhile_append_eq houter hat, takeWhile_append_eq houter hat,
    dropWhile_append_eq hinner hcs, takeWhile_append_eq hinner hcs,
    dropWhile_append_eq hword hbody, takeWhile_append_eq hword hbody, hclose]
  simp

/-- **A tag starts a text exactly if the text is such a tag and something that follows it.** -/
theorem sighting?_eq_some_iff {s : List Char} {m : Sighting} :
    sighting? s = some m ↔ m.Fits ∧ s = m.raw ++ m.rest := by
  constructor
  · intro h
    exact ⟨fits_of_sighting? h, eq_of_sighting? h⟩
  · rintro ⟨hfits, rfl⟩
    exact hfits.sighting?_eq m.rest

/-- What starts a text as a tag starts every text that goes on in another way after the tag. -/
theorem sighting?_raw_append {s : List Char} {m : Sighting} (h : sighting? s = some m)
    (u : List Char) : sighting? (m.raw ++ u) = some { m with rest := u } :=
  (fits_of_sighting? h).sighting?_eq u

/-- What is found is a tag of the grammar. -/
theorem isDirective_of_sighting? {s : List Char} {m : Sighting} (h : sighting? s = some m) :
    IsDirective m.raw := by
  have hfits := fits_of_sighting? h
  exact ⟨m.outerPadding, m.innerPadding, m.name, m.body, hfits.outer, hfits.inner, hfits.name_ne,
    hfits.name_word, ne_line_end_of_closing? hfits.closes, rfl⟩

end LiveTemplates.Tag
