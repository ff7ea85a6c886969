import LiveTemplates.Tag.Basic
import LiveTemplates.Text.Word

/-!
# Finding tags

A tag starts with `<!--`, padding and `@`; after more padding come the name, which is all the word
characters that stand there, and the body, which runs to the first `-->`. Padding is spaces and
tabs. Neither the body nor anything else of a tag crosses the end of a line.

Tags are found from left to right. Where no tag starts, the search goes on with the next character;
where one does, it goes on after it.

## Termination

`scanFrom` goes on with what follows a tag, which is shorter than the text that starts with it
(`Sighting.length_rest_lt`).
-/

namespace LiveTemplates.Tag

/-- Spaces and tabs. -/
def isPadding (c : Char) : Bool :=
  c == ' ' || c == '\t'

/-- A tag at the start of a text, in its parts, and what follows it. -/
structure Sighting where
  /-- The padding before the sign `@`. -/
  outerPadding : List Char
  /-- The padding before the name. -/
  innerPadding : List Char
  name : List Char
  /-- Everything between the name and the closing mark. -/
  body : List Char
  rest : List Char
deriving DecidableEq, Repr

namespace Sighting

/-- The whole tag. -/
def raw (m : Sighting) : List Char :=
  ['<', '!', '-', '-'] ++ m.outerPadding ++ '@' :: m.innerPadding ++ m.name ++ m.body
    ++ ['-', '-', '>']

/-- The body without blanks at its ends. -/
def argument (m : Sighting) : List Char :=
  Text.trim m.body

/-- The tag, given how many characters stand before it. -/
def toTag (m : Sighting) (start : Nat) : Tag where
  name := m.name
  argument := m.argument
  start := start
  stop := start + m.raw.length
  raw := m.raw

end Sighting

/-- The text up to the first closing mark of the line, and what follows the mark. -/
def closing? : List Char → Option (List Char × List Char)
  | '-' :: '-' :: '>' :: rest => some ([], rest)
  | c :: rest =>
    if c == '\n' || c == '\r' then none
    else (closing? rest).map fun r => (c :: r.1, r.2)
  | [] => none

/-- The tag that starts a text. -/
def sighting? : List Char → Option Sighting
  | '<' :: '!' :: '-' :: '-' :: s =>
    match s.dropWhile isPadding with
    | '@' :: t =>
      let u := t.dropWhile isPadding
      let name := u.takeWhile Text.isWord
      if name.isEmpty then none
      else
        (closing? (u.dropWhile Text.isWord)).map fun r =>
          ⟨s.takeWhile isPadding, t.takeWhile isPadding, name, r.1, r.2⟩
    | _ => none
  | _ => none

/-! ## A sighting accounts for the whole text -/

/-- The text is what stands before the closing mark, the mark, and what follows. -/
theorem eq_of_closing? {s body rest : List Char} (h : closing? s = some (body, rest)) :
    s = body ++ ['-', '-', '>'] ++ rest := by
  fun_induction closing? s generalizing body rest with
  | case1 rest' => simp_all
  | case2 => simp at h
  | case3 c s _ _ ih =>
    obtain ⟨⟨b, r⟩, hr, heq⟩ := Option.map_eq_some_iff.1 h
    simp only [Prod.mk.injEq] at heq
    rw [ih hr, ← heq.1, ← heq.2]
    simp
  | case4 => simp at h

/-- The text is the tag and what follows it. -/
theorem eq_of_sighting? {s : List Char} {m : Sighting} (h : sighting? s = some m) :
    s = m.raw ++ m.rest := by
  unfold sighting? at h
  split at h
  · next s =>
    split at h
    · next t ht =>
      dsimp only at h
      split at h
      · simp at h
      · obtain ⟨⟨body, rest⟩, hr, heq⟩ := Option.map_eq_some_iff.1 h
        subst heq
        have hs := List.takeWhile_append_dropWhile (p := isPadding) (l := s)
        have hu := List.takeWhile_append_dropWhile (p := isPadding) (l := t)
        have hw := List.takeWhile_append_dropWhile (p := Text.isWord)
          (l := t.dropWhile isPadding)
        rw [eq_of_closing? hr] at hw
        rw [← hw] at hu
        rw [ht, ← hu] at hs
        simpa [Sighting.raw] using hs.symm
    · simp at h
  · simp at h

/-- A tag has characters. -/
theorem Sighting.raw_ne_nil (m : Sighting) : m.raw ≠ [] := by
  simp [Sighting.raw]

/-- The argument of a tag is no longer than the tag. -/
theorem Sighting.length_argument_le (m : Sighting) : m.argument.length ≤ m.raw.length := by
  have := Text.length_trim_le m.body
  simp only [Sighting.argument, Sighting.raw, List.length_append, List.length_cons]
  omega

/-- What follows a tag is shorter than the text that the tag starts. -/
theorem length_rest_lt {s : List Char} {m : Sighting} (h : sighting? s = some m) :
    m.rest.length < s.length := by
  have := List.length_pos_iff.2 m.raw_ne_nil
  rw [eq_of_sighting? h, List.length_append]
  omega

/-! ## All tags and the first tag -/

/-- The tags of a text that starts `start` characters into the whole. -/
def scanFrom (start : Nat) (s : List Char) : List Tag :=
  match _h : sighting? s with
  | some m => m.toTag start :: scanFrom (start + m.raw.length) m.rest
  | none =>
    match s with
    | [] => []
    | _ :: s' => scanFrom (start + 1) s'
termination_by s.length
decreasing_by
  · exact length_rest_lt _h
  · simp

/-- The tags of a text. -/
def scan (s : List Char) : List Tag :=
  scanFrom 0 s

/-- The first tag of a text and what stands before it, where `passed` is in reverse order. -/
def firstFrom (passed : List Char) (s : List Char) : Option (List Char × Sighting) :=
  match sighting? s with
  | some m => some (passed.reverse, m)
  | none =>
    match s with
    | [] => none
    | c :: s' => firstFrom (c :: passed) s'
termination_by structural s

/-- The first tag of a text, with what stands before it. -/
def first? (s : List Char) : Option (List Char × Sighting) :=
  firstFrom [] s

/-- The text is what was passed before the first tag, the tag, and what follows. -/
theorem eq_of_firstFrom {passed s before : List Char} {m : Sighting}
    (h : firstFrom passed s = some (before, m)) :
    passed.reverse ++ s = before ++ (m.raw ++ m.rest) := by
  induction s generalizing passed with
  | nil => simp [firstFrom, sighting?] at h
  | cons c s ih =>
    rw [firstFrom] at h
    split at h
    · next m' hm =>
      simp only [Option.some.injEq, Prod.mk.injEq] at h
      obtain ⟨rfl, rfl⟩ := h
      rw [eq_of_sighting? hm]
    · rw [← ih h]
      simp

/-- The text is what stands before the first tag, the tag, and what follows. -/
theorem eq_of_first? {s before : List Char} {m : Sighting} (h : first? s = some (before, m)) :
    s = before ++ (m.raw ++ m.rest) := by
  simpa using eq_of_firstFrom h

/-- The text with its first tag replaced, and the tag. -/
def replaceFirst? (s replacement : List Char) : Option (Tag × List Char) :=
  (first? s).map fun (before, m) => (m.toTag before.length, before ++ replacement ++ m.rest)

end LiveTemplates.Tag
