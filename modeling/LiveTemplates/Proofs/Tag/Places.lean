import Mathlib.Order.Bounds.Basic
import LiveTemplates.Proofs.Tag.Clean

/-!
# Where tags stand

What a scan finds, said by the grammar alone. Behind each place the next tag starts at the first
place where a directive starts, and it stops at the first place where such a directive ends
(`IsNext`). The tags of a text are what is read in this way from its start until no directive is
left (`Reads`), and there is only one such list (`reads_iff`).

A search meets directives as `sighting?` sees them, with the longest name and the shortest body. The
grammar knows of neither: the same characters may be a name and a body in several ways. That does not
matter for the places, since the shortest body ends first of all (`exists_sighting?`).
-/

namespace LiveTemplates.Tag

variable {s u v w : List Char} {i j place : Nat} {m : Sighting} {tag tag' : Tag}
  {tags tags' : List Tag}

/-- The characters of a text from one place to another. -/
def slice (s : List Char) (i j : Nat) : List Char :=
  (s.take j).drop i

/-- A directive stands in a text from one place to another. -/
def Stands (s : List Char) (i j : Nat) : Prop :=
  j ≤ s.length ∧ IsDirective (slice s i j)

/-- What the parts of a tag are, given its characters. -/
structure Consists (raw name argument : List Char) : Prop where
  /-- The name is all the word characters at its place, and the argument is what follows them. -/
  parts : ∃ outer inner content : List Char,
    (∀ c ∈ outer, isPadding c = true) ∧ (∀ c ∈ inner, isPadding c = true) ∧
      raw = ['<', '!', '-', '-'] ++ (outer ++ '@' :: (inner ++ (content ++ ['-', '-', '>']))) ∧
      name = content.takeWhile Text.isWord ∧ argument = Text.trim (content.dropWhile Text.isWord)
  name_ne : name ≠ []
  /-- The closing mark stands at the end only. -/
  closes : ∀ u v, raw = u ++ ['-', '-', '>'] ++ v → v = []

/-- A tag is the next one of a text behind a place. -/
structure IsNext (s : List Char) (place : Nat) (tag : Tag) : Prop where
  start : IsLeast {i | place ≤ i ∧ ∃ j, Stands s i j} tag.start
  stop : IsLeast {j | Stands s tag.start j} tag.stop
  raw : tag.raw = slice s tag.start tag.stop
  consists : Consists tag.raw tag.name tag.argument

/-- Some tags are those of a text behind a place. -/
inductive Reads (s : List Char) : Nat → List Tag → Prop
  | done {place : Nat} (h : ∀ i j, place ≤ i → ¬ Stands s i j) : Reads s place []
  | next {place : Nat} {tag : Tag} {tags : List Tag} (h : IsNext s place tag)
      (hrest : Reads s tag.stop tags) : Reads s place (tag :: tags)

/-! ## Directives are sighted -/

theorem IsDirective.ne_nil (h : IsDirective w) : w ≠ [] := by
  obtain ⟨outer, inner, name, body, _, _, _, _, _, rfl⟩ := h
  simp

/-- The first closing mark of a line comes no later than any other one. -/
theorem exists_closing? {body : List Char} (h : ∀ c ∈ body, c ≠ '\n' ∧ c ≠ '\r')
    (rest : List Char) : ∃ b r, closing? (body ++ ['-', '-', '>'] ++ rest) = some (b, r) ∧
      b.length ≤ body.length := by
  induction body with
  | nil => exact ⟨[], rest, rfl, Nat.le_refl _⟩
  | cons c body ih =>
    obtain ⟨b, r, hclosing, hlength⟩ := ih fun d hd => h d (List.mem_cons_of_mem _ hd)
    have hline : (c == '\n' || c == '\r') = false := by
      simpa using h c List.mem_cons_self
    rw [List.cons_append, List.cons_append]
    by_cases hmark : ∃ t, c = '-' ∧ body ++ ['-', '-', '>'] ++ rest = '-' :: '>' :: t
    · obtain ⟨t, rfl, ht⟩ := hmark
      rw [ht]
      exact ⟨[], t, rfl, Nat.zero_le _⟩
    · refine ⟨c :: b, r, ?_, by simpa using hlength⟩
      rw [closing?, if_neg (by simp [hline]), hclosing]
      · rfl
      · rintro t rfl ht
        exact hmark ⟨t, rfl, ht⟩

/-- **Where a directive starts a text, a tag is sighted that ends no later.** -/
theorem exists_sighting? (h : IsDirective w) (rest : List Char) :
    ∃ m, sighting? (w ++ rest) = some m ∧ m.raw.length ≤ w.length := by
  obtain ⟨outer, inner, name, body, houter, hinner, hname, hword, hbody, rfl⟩ := h
  -- The name goes on into the body as far as word characters do.
  have hcontent := List.takeWhile_append_dropWhile (p := Text.isWord) (l := name ++ body)
  have hprefix : name <+: (name ++ body).takeWhile Text.isWord := by
    rw [List.takeWhile_append_of_pos hword]
    exact List.prefix_append _ _
  generalize hname' : (name ++ body).takeWhile Text.isWord = name' at hcontent hprefix
  generalize hbody' : (name ++ body).dropWhile Text.isWord = body' at hcontent
  have hsuffix : body' <:+ body := by
    rw [← hbody', List.dropWhile_append_of_pos hword]
    exact List.dropWhile_suffix _
  obtain ⟨b, r, hclosing, hlength⟩ :=
    exists_closing? (fun c hc => hbody c (hsuffix.subset hc)) rest
  have hrest := eq_of_closing? hclosing
  have htext : ['<', '!', '-', '-'] ++ outer ++ '@' :: inner ++ name ++ body ++ ['-', '-', '>']
      ++ rest = (⟨outer, inner, name', b, r⟩ : Sighting).raw ++ r := by
    calc _ = ['<', '!', '-', '-'] ++ outer ++ '@' :: inner ++ (name ++ body)
          ++ ['-', '-', '>'] ++ rest := by simp
      _ = ['<', '!', '-', '-'] ++ outer ++ '@' :: inner ++ name'
          ++ (body' ++ ['-', '-', '>'] ++ rest) := by rw [← hcontent]; simp
      _ = _ := by rw [hrest]; simp [Sighting.raw]
  refine ⟨⟨outer, inner, name', b, r⟩, sighting?_eq_some_iff.mpr ⟨?_, htext⟩, ?_⟩
  · refine ⟨houter, hinner, ?_, ?_, ?_, closing?_body hclosing⟩
    · intro hnil
      rw [show name' = [] from hnil, List.prefix_nil] at hprefix
      exact hname hprefix
    · intro c hc
      rw [show name' = _ from hname'.symm] at hc
      exact List.mem_takeWhile_imp hc
    · -- A body that is not empty starts where the word characters end.
      intro c hc
      obtain ⟨b', rfl⟩ : ∃ b', b = c :: b' := by
        cases b with
        | nil => simp at hc
        | cons d b' => exact ⟨b', by rw [show d = c by simpa using hc]⟩
      obtain ⟨d, body'', hcons⟩ := List.exists_cons_of_length_pos (Nat.lt_of_lt_of_le
        (Nat.succ_pos _) hlength)
      rw [hcons] at hrest
      obtain rfl : d = c := by simpa using congrArg List.head? hrest
      exact head?_dropWhile (s := name ++ body) d (by rw [hbody', hcons]; rfl)
  · have hlengths := congrArg List.length hcontent
    simp only [Sighting.raw, List.length_append, List.length_cons, List.length_nil] at hlengths ⊢
    omega

/-! ## Places -/

theorem slice_append (w u : List Char) (i j : Nat) :
    slice (w ++ u) (w.length + i) (w.length + j) = slice u i j := by
  rw [slice, List.take_length_add_append, List.drop_length_add_append, slice]

theorem slice_append_drop (hij : i ≤ j) (s : List Char) : slice s i j ++ s.drop j = s.drop i := by
  obtain ⟨k, rfl⟩ := Nat.exists_eq_add_of_le hij
  rw [slice, List.drop_take, Nat.add_sub_cancel_left, ← List.drop_drop, List.take_append_drop]

/-- A directive has characters. -/
theorem Stands.lt (h : Stands s i j) : i < j := by
  have hlength := List.length_pos_iff.mpr h.2.ne_nil
  simp only [slice, List.length_drop, List.length_take] at hlength
  omega

/-- Where a directive stands, a tag is sighted that ends no later. -/
theorem Stands.exists_sighting? (h : Stands s i j) :
    ∃ m, sighting? (s.drop i) = some m ∧ i + m.raw.length ≤ j := by
  obtain ⟨m, hm, hlength⟩ := Tag.exists_sighting? h.2 (s.drop j)
  rw [slice_append_drop (Nat.le_of_lt h.lt)] at hm
  refine ⟨m, hm, ?_⟩
  have hlt := h.lt
  simp only [slice, List.length_drop, List.length_take] at hlength
  omega

/-- Where a tag is sighted, it stands. -/
theorem stands_of_sighting? (h : sighting? u = some m) :
    slice (w ++ u) w.length (w.length + m.raw.length) = m.raw ∧
      Stands (w ++ u) w.length (w.length + m.raw.length) := by
  have hu := eq_of_sighting? h
  have hslice : slice (w ++ u) w.length (w.length + m.raw.length) = m.raw := by
    have := slice_append w u 0 m.raw.length
    rw [Nat.add_zero] at this
    rw [this, hu]
    simp [slice]
  refine ⟨hslice, ?_, ?_⟩
  · rw [hu]
    simp
  · rw [hslice]
    exact isDirective_of_sighting? h

/-- No directive starts before the first tag. -/
theorem not_stands_before {before : List Char} (h : first? u = some (before, m))
    (hplace : w.length ≤ i) (hi : i < w.length + before.length) : ¬ Stands (w ++ u) i j := by
  intro hstands
  obtain ⟨k, rfl⟩ := Nat.exists_eq_add_of_le hplace
  obtain ⟨m', hm', _⟩ := hstands.exists_sighting?
  have hdrop : (w ++ u).drop (w.length + k) = before.drop k ++ (m.raw ++ m.rest) := by
    rw [List.drop_length_add_append, eq_of_first? h, List.drop_append_of_le_length (by omega)]
  rw [hdrop, sighting?_eq_none_of_first? h (List.drop_suffix _ _)
    (by rw [ne_eq, List.drop_eq_nil_iff]; omega)] at hm'
  cases hm'

/-- No directive starts in a text without a first tag. -/
theorem not_stands_of_none (h : first? u = none) (hplace : w.length ≤ i) :
    ¬ Stands (w ++ u) i j := by
  intro hstands
  obtain ⟨k, rfl⟩ := Nat.exists_eq_add_of_le hplace
  obtain ⟨m, hm, _⟩ := hstands.exists_sighting?
  rw [List.drop_length_add_append, sighting?_eq_none_of_none h (List.drop_suffix _ _)] at hm
  cases hm

/-! ## The parts of a sighted tag -/

/-- A mark that a body ends before is the only one. -/
theorem eq_nil_of_closing? {body rest : List Char} (h : closing? s = some (body, rest))
    (hmark : body ++ ['-', '-', '>'] = u ++ ['-', '-', '>'] ++ v) : v = [] := by
  fun_induction closing? s generalizing body rest u with
  | case1 rest' =>
    obtain ⟨rfl, rfl⟩ : [] = body ∧ rest' = rest := by simpa using h
    have hlength := congrArg List.length hmark
    simp only [List.length_append, List.length_cons, List.length_nil] at hlength
    exact List.length_eq_zero_iff.mp (by omega)
  | case2 => simp at h
  | case3 c s hnot hline ih =>
    obtain ⟨b, rfl, hr⟩ := exists_of_map_cons h
    cases u with
    | nil =>
      obtain ⟨rfl, hb⟩ : c = '-' ∧ b ++ ['-', '-', '>'] = '-' :: '>' :: v := by simpa using hmark
      exact absurd (by rw [eq_of_closing? hr, hb]; rfl) (hnot (v ++ rest) rfl)
    | cons d u =>
      obtain ⟨rfl, hb⟩ : c = d ∧ b ++ ['-', '-', '>'] = u ++ ['-', '-', '>'] ++ v := by
        simpa using hmark
      exact ih hr hb
  | case4 => simp at h

/-- A mark does not begin before a character that is none of its own. -/
theorem eq_nil_of_mark {front tail : List Char} {c : Char} (hfront : '>' ∉ front) (hc : c ≠ '-')
    (hc' : c ≠ '>') (htail : ∀ u, tail = u ++ ['-', '-', '>'] ++ v → v = [])
    (h : front ++ c :: tail = u ++ ['-', '-', '>'] ++ v) : v = [] := by
  induction front generalizing u with
  | nil =>
    cases u with
    | nil =>
      have : c = '-' := by simpa using congrArg List.head? h
      exact absurd this hc
    | cons d u =>
      obtain ⟨rfl, hrest⟩ : c = d ∧ tail = u ++ ['-', '-', '>'] ++ v := by simpa using h
      exact htail u hrest
  | cons d front ih =>
    cases u with
    | nil =>
      obtain ⟨rfl, hrest⟩ : d = '-' ∧ front ++ c :: tail = '-' :: '>' :: v := by simpa using h
      match front, hrest, hfront with
      | [], hrest, _ =>
        have : c = '-' := by simpa using congrArg List.head? hrest
        exact absurd this hc
      | [_], hrest, _ =>
        have : c = '>' := by simpa using congrArg (fun s => s.tail.head?) hrest
        exact absurd this hc'
      | _ :: f :: _, hrest, hfront =>
        have : f = '>' := by simpa using congrArg (fun s => s.tail.head?) hrest
        exact absurd (by simp [this]) hfront
    | cons e u =>
      obtain ⟨rfl, hrest⟩ : d = e ∧ front ++ c :: tail = u ++ ['-', '-', '>'] ++ v := by
        simpa using h
      exact ih (fun hmem => hfront (List.mem_cons_of_mem _ hmem)) hrest

/-- The parts of a sighted tag are as they should be. -/
theorem Sighting.Fits.consists (h : m.Fits) : Consists m.raw m.name m.argument := by
  have hraw : m.raw = ['<', '!', '-', '-'] ++ (m.outerPadding ++ '@' :: (m.innerPadding
      ++ ((m.name ++ m.body) ++ ['-', '-', '>']))) := by
    simp [Sighting.raw]
  refine ⟨⟨m.outerPadding, m.innerPadding, m.name ++ m.body, h.outer, h.inner, hraw, ?_, ?_⟩,
    h.name_ne, fun u v hmark => ?_⟩
  · exact (takeWhile_append_eq h.name_word h.body_start).symm
  · rw [dropWhile_append_eq h.name_word h.body_start]
    rfl
  · obtain ⟨front, c, hname⟩ := (List.eq_nil_or_concat m.name).resolve_left h.name_ne
    have hword : ∀ d, Text.isWord d = true → d ≠ '-' ∧ d ≠ '>' := by
      rintro d hd
      constructor
      · rintro rfl
        revert hd
        decide
      · rintro rfl
        revert hd
        decide
    have hpadding : ∀ d, isPadding d = true → d ≠ '>' := by
      rintro d hd rfl
      revert hd
      decide
    have hfront : '>' ∉ ['<', '!', '-', '-'] ++ (m.outerPadding ++ '@' :: (m.innerPadding
        ++ front)) := by
      simp only [List.mem_append, List.mem_cons, not_or]
      refine ⟨by decide, fun hmem => hpadding _ (h.outer _ hmem) rfl, by decide,
        fun hmem => hpadding _ (h.inner _ hmem) rfl, fun hmem => ?_⟩
      exact (hword _ (h.name_word _ (by simp [hname, hmem]))).2 rfl
    have hc := hword c (h.name_word c (by simp [hname]))
    refine eq_nil_of_mark hfront hc.1 hc.2 (fun u => eq_nil_of_closing? h.closes)
      (?_ : _ = u ++ ['-', '-', '>'] ++ v)
    rw [← hmark, hraw, hname]
    simp

/-! ## What is read from a place on -/

/-- The first tag of what follows a place is the next one behind that place. -/
theorem isNext_of_first? {before : List Char} (h : first? u = some (before, m)) :
    IsNext (w ++ u) w.length (m.toTag (w.length + before.length)) := by
  have hsighting := sighting?_of_first? h
  have htext : w ++ u = (w ++ before) ++ (m.raw ++ m.rest) := by
    rw [eq_of_first? h, List.append_assoc]
  obtain ⟨hraw, hstands⟩ := stands_of_sighting? (w := w ++ before) hsighting
  rw [← htext, List.length_append] at hraw hstands
  refine ⟨⟨⟨Nat.le_add_right _ _, _, hstands⟩, ?_⟩, ⟨hstands, ?_⟩, hraw.symm,
    (fits_of_sighting? hsighting).consists⟩
  · rintro i ⟨hplace, j, hj⟩
    by_contra hlt
    exact not_stands_before h hplace (Nat.lt_of_not_le hlt) hj
  · intro j hj
    obtain ⟨m', hm', hle⟩ := Stands.exists_sighting? hj
    rw [show (m.toTag (w.length + before.length)).start = (w ++ before).length by
      simp [Sighting.toTag], htext, List.drop_left, hsighting] at hm'
    obtain rfl : m = m' := by simpa using hm'
    exact hle

/-- **A scan reads a text from its place on.** -/
theorem reads_scanFrom (w u : List Char) : Reads (w ++ u) w.length (scanFrom w.length u) := by
  rw [scanFrom_eq]
  cases h : first? u with
  | none => exact .done fun i j => not_stands_of_none h
  | some r =>
    obtain ⟨before, m⟩ := r
    have htext : w ++ before ++ m.raw ++ m.rest = w ++ u := by
      rw [eq_of_first? h]
      simp only [List.append_assoc]
    have hrest := reads_scanFrom (w ++ before ++ m.raw) m.rest
    rw [htext, List.length_append, List.length_append] at hrest
    exact .next (isNext_of_first? h) hrest
termination_by u.length
decreasing_by exact length_rest_lt_of_first? h

/-- The characters of a tag determine its parts. -/
theorem Consists.unique {raw name argument name' argument' : List Char}
    (h : Consists raw name argument) (h' : Consists raw name' argument') :
    name = name' ∧ argument = argument' := by
  have hcontent : ∀ {outer inner content : List Char}, (∀ c ∈ outer, isPadding c = true) →
      (∀ c ∈ inner, isPadding c = true) → content.takeWhile Text.isWord ≠ [] →
      raw = ['<', '!', '-', '-'] ++ (outer ++ '@' :: (inner ++ (content ++ ['-', '-', '>']))) →
      content ++ ['-', '-', '>'] = (((raw.drop 4).dropWhile isPadding).drop 1).dropWhile isPadding
      := by
    intro outer inner content houter hinner hne hraw
    -- The content starts with a word character, so padding ends there.
    obtain ⟨c, content, rfl⟩ : ∃ c content', content = c :: content' := by
      cases content with
      | nil => simp at hne
      | cons c content => exact ⟨c, content, rfl⟩
    have hc : isPadding c = false := by
      refine isPadding_of_isWord ?_
      by_contra hword
      rw [List.takeWhile_cons, if_neg hword] at hne
      exact hne rfl
    rw [hraw, List.drop_left' (by rfl), dropWhile_append_eq houter, List.drop_one, List.tail_cons,
      dropWhile_append_eq hinner]
    · simpa using hc
    · simp
      decide
  obtain ⟨⟨outer, inner, content, houter, hinner, hraw, rfl, rfl⟩, hne, _⟩ := h
  obtain ⟨⟨outer', inner', content', houter', hinner', hraw', rfl, rfl⟩, hne', _⟩ := h'
  have heq := (hcontent houter hinner hne hraw).trans (hcontent houter' hinner' hne' hraw').symm
  rw [List.append_cancel_right heq]
  exact ⟨rfl, rfl⟩

theorem IsNext.unique (h : IsNext s place tag) (h' : IsNext s place tag') : tag = tag' := by
  have hstart := h.start.unique h'.start
  have hstop : tag.stop = tag'.stop := by
    have := h'.stop
    rw [← hstart] at this
    exact h.stop.unique this
  have hraw : tag.raw = tag'.raw := by rw [h.raw, h'.raw, hstart, hstop]
  have hparts := h'.consists
  rw [← hraw] at hparts
  obtain ⟨hname, hargument⟩ := h.consists.unique hparts
  obtain ⟨_, _, _, _, _⟩ := tag
  obtain ⟨_, _, _, _, _⟩ := tag'
  simp_all

/-- Only one list of tags is read behind a place. -/
theorem Reads.unique (h : Reads s place tags) (h' : Reads s place tags') : tags = tags' := by
  induction h generalizing tags' with
  | done hnone =>
    cases h' with
    | done => rfl
    | next hnext =>
      obtain ⟨hplace, j, hj⟩ := hnext.start.1
      exact absurd hj (hnone _ j hplace)
  | next hnext hrest ih =>
    cases h' with
    | done hnone =>
      obtain ⟨hplace, j, hj⟩ := hnext.start.1
      exact absurd hj (hnone _ j hplace)
    | next hnext' hrest' =>
      obtain rfl := hnext.unique hnext'
      rw [ih hrest']

/-- **The tags of a text are those that are read from its start.** -/
theorem reads_iff : Reads s 0 tags ↔ tags = scan s := by
  have hscan : Reads s 0 (scan s) := reads_scanFrom [] s
  constructor
  · intro h
    exact h.unique hscan
  · rintro rfl
    exact hscan

/-! ## Tags and gaps of what is read -/

theorem IsNext.bounds (h : IsNext s place tag) :
    place ≤ tag.start ∧ tag.start < tag.stop ∧ tag.stop ≤ s.length := by
  have hstands : Stands s tag.start tag.stop := h.stop.1
  exact ⟨h.start.1.1, hstands.lt, hstands.1⟩

/-- What stands within a part of a text stands in the text. -/
theorem exists_slice_of_infix (h : w <:+: slice s i j) (hne : w ≠ []) :
    ∃ i' j', i ≤ i' ∧ i' < j ∧ j' ≤ s.length ∧ slice s i' j' = w := by
  obtain ⟨front, back, h⟩ := h
  have hlength := congrArg List.length h
  have hpos := List.length_pos_iff.mpr hne
  simp only [slice, List.length_append, List.length_drop, List.length_take] at hlength
  have hdrop : s.drop (i + front.length) = w ++ (back ++ s.drop j) := by
    rw [← List.drop_drop, ← slice_append_drop (by omega : i ≤ j), ← h, List.append_assoc,
      List.append_assoc, List.drop_left]
  refine ⟨i + front.length, i + front.length + w.length, by omega, by omega, by omega, ?_⟩
  rw [slice, List.drop_take, Nat.add_sub_cancel_left, hdrop, List.take_left]

/-- No directive is within what is passed before the next tag. -/
theorem IsNext.not_isDirective (h : IsNext s place tag) (hw : w <:+: slice s place tag.start) :
    ¬ IsDirective w := by
  intro hdirective
  obtain ⟨i, j, hplace, hi, hj, rfl⟩ := exists_slice_of_infix hw hdirective.ne_nil
  have := h.start.2 ⟨hplace, j, hj, hdirective⟩
  omega

/-- Tags that are read stand one behind the other. -/
theorem Reads.pairwise (h : Reads s place tags) :
    (∀ tag ∈ tags, place ≤ tag.start ∧ tag.start < tag.stop ∧ tag.stop ≤ s.length ∧
      tag.raw = slice s tag.start tag.stop) ∧
    tags.Pairwise fun a b => a.stop ≤ b.start := by
  induction h with
  | done => simp
  | next hnext _ ih =>
    obtain ⟨hbounds, hpairwise⟩ := ih
    obtain ⟨hplace, hlt, hstop⟩ := hnext.bounds
    refine ⟨fun tag htag => ?_, List.pairwise_cons.mpr ⟨fun tag htag => (hbounds tag htag).1,
      hpairwise⟩⟩
    rcases List.mem_cons.mp htag with rfl | htag
    · exact ⟨hplace, hlt, hstop, hnext.raw⟩
    · obtain ⟨hplace', hrest⟩ := hbounds tag htag
      exact ⟨by omega, hrest⟩

theorem map_snd_partsFrom (place : Nat) (s : List Char) (tags : List Tag) :
    (partsFrom place s tags).map Prod.snd = tags := by
  induction tags generalizing place with
  | nil => rfl
  | cons tag tags ih => rw [partsFrom, List.map_cons, ih]

/-- What follows the last tag of some, the first of which is another one. -/
theorem getD_getLast?_cons (tag : Tag) (tags : List Tag) (place : Nat) :
    ((tag :: tags).getLast?.map Tag.stop).getD place
      = (tags.getLast?.map Tag.stop).getD tag.stop := by
  rw [List.getLast?_cons]
  cases tags.getLast? with
  | none => rfl
  | some last => rfl

/-- **The gaps and the tags that are read make up the text from the place on.** -/
theorem Reads.rebuild (h : Reads s place tags) :
    (partsFrom place s tags).flatMap (fun (gap, tag) => gap ++ tag.raw)
      ++ s.drop ((tags.getLast?.map Tag.stop).getD place) = s.drop place := by
  induction h with
  | done => simp [partsFrom]
  | @next place tag tags hnext _ ih =>
    obtain ⟨hplace, hlt, _⟩ := hnext.bounds
    calc _ = slice s place tag.start ++ (tag.raw ++ ((partsFrom tag.stop s tags).flatMap
          (fun (gap, tag) => gap ++ tag.raw) ++ s.drop ((tags.getLast?.map Tag.stop).getD
            tag.stop))) := by
          rw [partsFrom, List.flatMap_cons, getD_getLast?_cons, slice]
          simp only [List.append_assoc]
      _ = slice s place tag.start ++ (slice s tag.start tag.stop ++ s.drop tag.stop) := by
          rw [ih, hnext.raw]
      _ = s.drop place := by
          rw [slice_append_drop (Nat.le_of_lt hlt), slice_append_drop hplace]

/-- **No directive is within a gap.** -/
theorem Reads.not_isDirective (h : Reads s place tags) :
    ∀ gap ∈ (partsFrom place s tags).map Prod.fst
        ++ [s.drop ((tags.getLast?.map Tag.stop).getD place)],
      ∀ w, w <:+: gap → ¬ IsDirective w := by
  induction h with
  | done hnone =>
    intro gap hgap w hw hdirective
    obtain rfl : gap = s.drop _ := by simpa [partsFrom] using hgap
    rw [show ∀ i, s.drop i = slice s i s.length by simp [slice]] at hw
    obtain ⟨i, j, hplace, _, hj, rfl⟩ := exists_slice_of_infix hw hdirective.ne_nil
    exact hnone i j hplace ⟨hj, hdirective⟩
  | @next place tag tags hnext _ ih =>
    intro gap hgap w hw
    rw [partsFrom, List.map_cons, getD_getLast?_cons, List.cons_append] at hgap
    rcases List.mem_cons.mp hgap with rfl | hgap
    · exact hnext.not_isDirective hw
    · exact ih gap hgap w hw

/-! ## The first tag alone -/

/-- The tag that a search for the first one finds is the first of a scan. -/
theorem map_first?_eq_head? (s : List Char) :
    (first? s).map (fun (before, m) => m.toTag before.length) = (scan s).head? := by
  cases h : first? s with
  | none =>
    rw [scan, scanFrom_eq, h]
    rfl
  | some r => rw [scan_of_first? h]; rfl

/-- A text has no first tag exactly if no part of it is a directive. -/
theorem first?_eq_none_iff : first? s = none ↔ ∀ w, w <:+: s → ¬ IsDirective w := by
  constructor
  · intro h
    have hgaps := (reads_iff.mpr rfl : Reads s 0 (scan s)).not_isDirective
    have hscan : scan s = [] := by rw [scan, scanFrom_eq, h]
    rw [hscan] at hgaps
    exact hgaps s (by simp [partsFrom])
  · intro h
    cases hfirst : first? s with
    | none => rfl
    | some r =>
      obtain ⟨before, m⟩ := r
      refine absurd (isDirective_of_sighting? (sighting?_of_first? hfirst)) (h m.raw ?_)
      exact ⟨before, m.rest, by rw [eq_of_first? hfirst, List.append_assoc]⟩

/--
**A scan finds the directives of a text and loses nothing.** Its tags are the only ones that are
read by the grammar from the start of the text: each starts at the first place behind the one before
where a directive starts, and stops where such a directive first ends. They stand one behind the
other, the gaps between them make up the text with them, and no gap has a directive in it. A search
for the first tag finds the first of them, or none exactly if no part of the text is a directive.
-/
theorem scan_finds_directives (s : List Char) :
    (∀ tags, Reads s 0 tags ↔ tags = scan s) ∧
    (∀ tag ∈ scan s, tag.start < tag.stop ∧ tag.stop ≤ s.length ∧
      tag.raw = (s.take tag.stop).drop tag.start) ∧
    ((scan s).Pairwise fun a b => a.stop ≤ b.start) ∧
    (parts s).map Prod.snd = scan s ∧
    (parts s).flatMap (fun (gap, tag) => gap ++ tag.raw) ++ lastGap s = s ∧
    (∀ gap ∈ gaps s, ∀ w, w <:+: gap → ¬ IsDirective w) ∧
    (first? s).map (fun (before, m) => m.toTag before.length) = (scan s).head? ∧
    (first? s = none ↔ ∀ w, w <:+: s → ¬ IsDirective w) := by
  have h : Reads s 0 (scan s) := reads_iff.mpr rfl
  exact ⟨fun tags => reads_iff, fun tag htag => (h.pairwise.1 tag htag).2, h.pairwise.2,
    map_snd_partsFrom 0 s (scan s), h.rebuild, h.not_isDirective, map_first?_eq_head? s,
    first?_eq_none_iff⟩

end LiveTemplates.Tag
