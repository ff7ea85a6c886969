import LiveTemplates.Proofs.Tag.Grammar

/-!
# Clean texts

The tags of a text divide it into gaps. A text is clean if none of its gaps ends in the beginning of
a tag, so that no tag can come into being where the gap meets other text.

Cleanness is used through `Inert`: no tag starts in a text, whatever follows the text. Inert texts
may be put together (`Inert.append`), and the first tag behind an inert text is the first tag of
what follows it (`Inert.first?_append`). The gaps of a clean text are inert (`Clean.of_first?`).
-/

namespace LiveTemplates.Tag

/-! ## The first tag, character by character -/

/-- What was passed before stands in front of what is passed from here on. -/
theorem firstFrom_eq_map (passed s : List Char) :
    firstFrom passed s = (first? s).map fun (before, m) => (passed.reverse ++ before, m) := by
  induction s generalizing passed with
  | nil => simp [first?, firstFrom, sighting?]
  | cons c s ih =>
    unfold first?
    rw [firstFrom, firstFrom]
    cases sighting? (c :: s) with
    | some m => simp
    | none =>
      dsimp only
      rw [ih (c :: passed), ih [c], Option.map_map]
      congr 1
      funext r
      obtain ⟨before, m⟩ := r
      simp

/-- A tag that starts a text is its first tag. -/
theorem first?_of_sighting? {s : List Char} {m : Sighting} (h : sighting? s = some m) :
    first? s = some ([], m) := by
  unfold first?
  cases s with
  | nil => rw [firstFrom, h]; rfl
  | cons c s => rw [firstFrom, h]; rfl

/-- Where no tag starts, the first tag is that of the text without its first character. -/
theorem first?_cons {c : Char} {s : List Char} (h : sighting? (c :: s) = none) :
    first? (c :: s) = (first? s).map fun (before, m) => (c :: before, m) := by
  unfold first?
  rw [firstFrom, h]
  dsimp only
  rw [firstFrom_eq_map]
  rfl

theorem first?_nil : first? [] = none := by
  simp [first?, firstFrom, sighting?]

/-- The first tag is at the end of what stands before it. -/
theorem sighting?_of_first? {s before : List Char} {m : Sighting}
    (h : first? s = some (before, m)) : sighting? (m.raw ++ m.rest) = some m := by
  induction s generalizing before with
  | nil => simp [first?_nil] at h
  | cons c s ih =>
    cases hs : sighting? (c :: s) with
    | some m' =>
      rw [first?_of_sighting? hs] at h
      obtain ⟨rfl, rfl⟩ : [] = before ∧ m' = m := by simpa using h
      exact sighting?_raw_append hs m'.rest
    | none =>
      rw [first?_cons hs] at h
      obtain ⟨b, rfl, hb⟩ := exists_of_map_cons h
      exact ih hb

/-! ## Texts in which no tag starts -/

/-- No tag starts in the text, whatever follows the text. -/
def Inert (s : List Char) : Prop :=
  ∀ v, v <:+ s → v ≠ [] → ∀ u, sighting? (v ++ u) = none

theorem inert_nil : Inert [] := by
  intro v hv hne
  exact absurd (List.suffix_nil.mp hv) hne

theorem Inert.of_cons {c : Char} {s : List Char} (h : Inert (c :: s)) : Inert s := by
  intro v hv
  exact h v (hv.trans (List.suffix_cons c s))

/-- Inert texts may be put together: a tag that starts in the first one would start in it alone. -/
theorem Inert.append {s u : List Char} (hs : Inert s) (hu : Inert u) : Inert (s ++ u) := by
  rintro v ⟨t, ht⟩ hne w
  rcases List.append_eq_append_iff.mp ht with ⟨v', rfl, rfl⟩ | ⟨t', rfl, rfl⟩
  · rw [List.append_assoc]
    by_cases hnil : v' = []
    · subst hnil
      exact hu u List.suffix_rfl (by simpa using hne) w
    · exact hs v' (List.suffix_append t v') hnil (u ++ w)
  · exact hu v (List.suffix_append t' v) hne w

/-- **The first tag behind an inert text is the first tag of what follows it.** -/
theorem Inert.first?_append {s : List Char} (hs : Inert s) (u : List Char) :
    first? (s ++ u) = (first? u).map fun (before, m) => (s ++ before, m) := by
  induction s with
  | nil => simp
  | cons c s ih =>
    have hnone : sighting? (c :: (s ++ u)) = none := hs (c :: s) List.suffix_rfl (by simp) u
    rw [List.cons_append, first?_cons hnone, ih hs.of_cons, Option.map_map]
    rfl

/-- An inert text has no tag. -/
theorem Inert.first?_eq_none {s : List Char} (hs : Inert s) : first? s = none := by
  simpa [first?_nil] using hs.first?_append []

/-! ## Tags and gaps -/

/-- A tag as it is seen from further to the left. -/
def moved (k : Nat) (tag : Tag) : Tag :=
  { tag with start := k + tag.start, stop := k + tag.stop }

/-- The tags of a text are its first tag and those of what follows it. -/
theorem scanFrom_eq (start : Nat) (s : List Char) :
    scanFrom start s = match first? s with
      | none => []
      | some (before, m) =>
        m.toTag (start + before.length)
          :: scanFrom (start + before.length + m.raw.length) m.rest := by
  induction s generalizing start with
  | nil => rw [scanFrom, first?_nil]; simp [sighting?]
  | cons c s ih =>
    rw [scanFrom]
    split
    · next m hm => rw [first?_of_sighting? hm]; rfl
    · next hm =>
      dsimp only
      rw [ih (start + 1), first?_cons hm]
      cases first? s with
      | none => rfl
      | some r => simp only [Option.map_some, List.length_cons]; ac_rfl

/-- What follows the first tag is shorter than the text. -/
theorem length_rest_lt_of_first? {s before : List Char} {m : Sighting}
    (h : first? s = some (before, m)) : m.rest.length < s.length := by
  have := List.length_pos_iff.mpr m.raw_ne_nil
  rw [eq_of_first? h]
  simp only [List.length_append]
  omega

/-- The tags of a text further to the right. -/
theorem scanFrom_add (k start : Nat) (s : List Char) :
    scanFrom (k + start) s = (scanFrom start s).map (moved k) := by
  rw [scanFrom_eq, scanFrom_eq start]
  cases h : first? s with
  | none => rfl
  | some r =>
    obtain ⟨before, m⟩ := r
    have hplace : k + start + before.length + m.raw.length
        = k + (start + before.length + m.raw.length) := by omega
    dsimp only
    rw [List.map_cons, hplace, scanFrom_add k _ m.rest]
    simp [moved, Sighting.toTag, Nat.add_assoc]
termination_by s.length
decreasing_by exact length_rest_lt_of_first? h

/-- Tags with what stands between each and the one before; `place` is where the last one stopped. -/
def partsFrom (place : Nat) (s : List Char) : List Tag → List (List Char × Tag)
  | [] => []
  | tag :: tags => ((s.take tag.start).drop place, tag) :: partsFrom tag.stop s tags

/-- The tags of a text with the gaps before them. -/
def parts (s : List Char) : List (List Char × Tag) :=
  partsFrom 0 s (scan s)

/-- What follows the last tag of a text. -/
def lastGap (s : List Char) : List Char :=
  s.drop (((scan s).getLast?.map Tag.stop).getD 0)

/-- The gaps before, between and after the tags of a text. -/
def gaps (s : List Char) : List (List Char) :=
  (parts s).map Prod.fst ++ [lastGap s]

/-- **No gap ends in characters with which a tag begins.** -/
def Clean (s : List Char) : Prop :=
  ∀ gap ∈ gaps s, ∀ v, v <:+ gap → v ≠ [] → ∀ w, IsDirective w → ¬ (v <+: w ∧ v ≠ w)

/-- The gaps of a text further to the right are the same. -/
theorem partsFrom_moved (u : List Char) (place : Nat) (s : List Char) (tags : List Tag) :
    partsFrom (u.length + place) (u ++ s) (tags.map (moved u.length))
      = (partsFrom place s tags).map fun (gap, tag) => (gap, moved u.length tag) := by
  induction tags generalizing place with
  | nil => rfl
  | cons tag tags ih =>
    rw [List.map_cons, partsFrom, partsFrom, List.map_cons]
    congr 1
    · simp [moved, List.take_append, List.drop_append]
    · exact ih tag.stop

theorem parts_of_none {s : List Char} (h : first? s = none) : parts s = [] := by
  rw [parts, scan, scanFrom_eq, h]
  rfl

theorem lastGap_of_none {s : List Char} (h : first? s = none) : lastGap s = s := by
  rw [lastGap, scan, scanFrom_eq, h]
  rfl

/-- The tags behind the first one, seen from the start of the text. -/
theorem scan_of_first? {s before : List Char} {m : Sighting} (h : first? s = some (before, m)) :
    scan s = m.toTag before.length :: (scan m.rest).map (moved (before ++ m.raw).length) := by
  rw [scan, scanFrom_eq, h, scan, ← scanFrom_add]
  simp

/-- **The first tag with the gap before it, and the tags and gaps of what follows.** -/
theorem parts_of_first? {s before : List Char} {m : Sighting} (h : first? s = some (before, m)) :
    parts s = (before, m.toTag before.length)
      :: (parts m.rest).map fun (gap, tag) => (gap, moved (before ++ m.raw).length tag) := by
  have hs : s = (before ++ m.raw) ++ m.rest := by rw [eq_of_first? h, List.append_assoc]
  rw [parts, scan_of_first? h, partsFrom]
  congr 1
  · rw [hs]; simp [Sighting.toTag]
  · calc partsFrom (m.toTag before.length).stop s _
        = partsFrom ((before ++ m.raw).length + 0) ((before ++ m.raw) ++ m.rest)
            ((scan m.rest).map (moved (before ++ m.raw).length)) := by
          rw [← hs]; simp [Sighting.toTag]
      _ = _ := partsFrom_moved _ _ _ _

/-- What follows the last tag is that of what follows the first one. -/
theorem lastGap_of_first? {s before : List Char} {m : Sighting}
    (h : first? s = some (before, m)) : lastGap s = lastGap m.rest := by
  have hs : s = (before ++ m.raw) ++ m.rest := by rw [eq_of_first? h, List.append_assoc]
  have hdrop : ∀ n, s.drop ((before ++ m.raw).length + n) = m.rest.drop n := by
    intro n
    rw [hs, List.drop_length_add_append]
  rw [lastGap, scan_of_first? h, lastGap, List.getLast?_cons, List.getLast?_map]
  cases (scan m.rest).getLast? with
  | none => simpa [Sighting.toTag] using hdrop 0
  | some tag => simpa [moved] using hdrop tag.stop

theorem gaps_of_none {s : List Char} (h : first? s = none) : gaps s = [s] := by
  rw [gaps, parts_of_none h, lastGap_of_none h]
  rfl

theorem gaps_of_first? {s before : List Char} {m : Sighting} (h : first? s = some (before, m)) :
    gaps s = before :: gaps m.rest := by
  rw [gaps, parts_of_first? h, lastGap_of_first? h, gaps]
  simp [Function.comp_def]

/-! ## The gaps of a clean text are inert -/

/-- No tag starts before the first one. -/
theorem sighting?_eq_none_of_first? {s v before : List Char} {m : Sighting}
    (h : first? s = some (before, m)) (hv : v <:+ before) (hne : v ≠ []) :
    sighting? (v ++ (m.raw ++ m.rest)) = none := by
  induction s generalizing before with
  | nil => simp [first?_nil] at h
  | cons c s ih =>
    cases hs : sighting? (c :: s) with
    | some m' =>
      rw [first?_of_sighting? hs] at h
      obtain ⟨rfl, rfl⟩ : [] = before ∧ m' = m := by simpa using h
      exact absurd (List.suffix_nil.mp hv) hne
    | none =>
      rw [first?_cons hs] at h
      obtain ⟨b, rfl, hb⟩ := exists_of_map_cons h
      rcases List.suffix_cons_iff.mp hv with rfl | hv
      · rw [List.cons_append, ← eq_of_first? hb]
        exact hs
      · exact ih hb hv

/-- No tag starts in a text without a first one. -/
theorem sighting?_eq_none_of_none {s v : List Char} (h : first? s = none) (hv : v <:+ s) :
    sighting? v = none := by
  induction s with
  | nil => rw [List.suffix_nil.mp hv]; simp [sighting?]
  | cons c s ih =>
    cases hs : sighting? (c :: s) with
    | some m => simp [first?_of_sighting? hs] at h
    | none =>
      rcases List.suffix_cons_iff.mp hv with rfl | hv
      · exact hs
      · exact ih (by simpa [first?_cons hs] using h) hv

/--
A gap is inert if no tag starts in it as it stands and it does not end in the beginning of a tag.
A tag that started in it would either end in it, and then it would stand there already, or be the
rest of such a beginning.
-/
theorem inert_of_gap {gap next : List Char}
    (hnone : ∀ v, v <:+ gap → v ≠ [] → sighting? (v ++ next) = none)
    (hclean : ∀ v, v <:+ gap → v ≠ [] → ∀ w, IsDirective w → ¬ (v <+: w ∧ v ≠ w)) :
    Inert gap := by
  intro v hv hne u
  cases hs : sighting? (v ++ u) with
  | none => rfl
  | some m =>
    exfalso
    rcases List.append_eq_append_iff.mp (eq_of_sighting? hs) with ⟨x, hraw, _⟩ | ⟨x, rfl, _⟩
    · by_cases hx : x = []
      · rw [hx, List.append_nil] at hraw
        have := hnone v hv hne
        rw [← hraw, sighting?_raw_append hs next] at this
        simp at this
      · refine hclean v hv hne m.raw (isDirective_of_sighting? hs) ⟨⟨x, hraw.symm⟩, fun h => hx ?_⟩
        simpa [h] using hraw
    · have := hnone _ hv hne
      rw [List.append_assoc, sighting?_raw_append hs] at this
      simp at this

/-- A gap without the character that tags begin with does not end in the beginning of a tag. -/
theorem not_begins_of_notMem {gap : List Char} (h : '<' ∉ gap) :
    ∀ v, v <:+ gap → v ≠ [] → ∀ w, IsDirective w → ¬ (v <+: w ∧ v ≠ w) := by
  rintro v hv hne w ⟨_, _, _, _, _, _, _, _, _, rfl⟩ ⟨⟨x, hx⟩, _⟩
  cases v with
  | nil => exact hne rfl
  | cons c v =>
    obtain rfl : c = '<' := by simpa using congrArg List.head? hx
    exact h (hv.subset List.mem_cons_self)

/-- A text is clean if the character that tags begin with stands in none of its gaps. -/
theorem clean_of_notMem {s : List Char} (h : ∀ gap ∈ gaps s, '<' ∉ gap) : Clean s := by
  intro gap hgap
  exact not_begins_of_notMem (h gap hgap)

/-- Before the first tag of a clean text stands an inert text, and after it a clean one. -/
theorem Clean.of_first? {s before : List Char} {m : Sighting} (hs : Clean s)
    (h : first? s = some (before, m)) : Inert before ∧ Clean m.rest := by
  rw [Clean, gaps_of_first? h] at hs
  refine ⟨inert_of_gap (fun v hv hne => sighting?_eq_none_of_first? h hv hne)
    (hs before List.mem_cons_self), fun gap hgap => hs gap (List.mem_cons_of_mem _ hgap)⟩

/-- A clean text without a tag is inert. -/
theorem Clean.inert {s : List Char} (hs : Clean s) (h : first? s = none) : Inert s := by
  rw [Clean, gaps_of_none h] at hs
  refine @inert_of_gap s [] (fun v hv _ => ?_) (hs s (by simp))
  rw [List.append_nil]
  exact sighting?_eq_none_of_none h hv

/-- The first tag of a clean text, when an inert text stands before it and any text behind it. -/
theorem Inert.first?_between {p s before u : List Char} {m : Sighting} (hp : Inert p)
    (hs : Clean s) (h : first? s = some (before, m)) :
    first? (p ++ (s ++ u)) = some (p ++ before, { m with rest := m.rest ++ u }) := by
  have hsighting := sighting?_raw_append (sighting?_of_first? h) (m.rest ++ u)
  calc first? (p ++ (s ++ u))
      = first? ((p ++ before) ++ (m.raw ++ (m.rest ++ u))) := by
        rw [eq_of_first? h]; simp only [List.append_assoc]
    _ = some (p ++ before, { m with rest := m.rest ++ u }) := by
        rw [(hp.append (hs.of_first? h).1).first?_append, first?_of_sighting? hsighting]
        simp

end LiveTemplates.Tag
