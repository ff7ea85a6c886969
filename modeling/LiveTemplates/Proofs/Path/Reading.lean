import LiveTemplates.Path

/-!
# Reading what was written

The text of a path that was read from a text is read as the same path (`ofString_toString`). The
names of such a path are neither empty nor single dots, and they have no slashes (`IsName`).
-/

namespace LiveTemplates.Path

/-- A name that stands between slashes. -/
structure IsName (n : String) : Prop where
  nonempty : n.toList ≠ []
  notDot : n.toList ≠ ['.']
  notSlash : '/' ∉ n.toList

/-- The names of a path are such as are read from a text. -/
def IsSpelled (p : Path) : Prop :=
  ∀ n ∈ p.names, IsName n

variable {p : Path} {n : String} {names : List String} {before cs rest : List Char}

/-! ## Names that are read -/

theorem isName_of_mem_nameOfReverse (hcs : '/' ∉ cs) (h : n ∈ nameOfReverse cs) : IsName n := by
  unfold nameOfReverse at h
  split at h
  · cases h
  · cases h
  · next hnil hdot =>
    obtain rfl : n = String.ofList cs.reverse := by simpa using h
    constructor
    · simpa using hnil
    · rw [String.toList_ofList]
      intro heq
      exact hdot (by simpa using congrArg List.reverse heq)
    · simpa using hcs

/-- A name of a path that was read is neither empty nor a single dot, and has no slash. -/
theorem isName_of_mem_namesFrom (hbefore : '/' ∉ before) (h : n ∈ namesFrom before cs) :
    IsName n := by
  induction cs generalizing before with
  | nil => exact isName_of_mem_nameOfReverse hbefore h
  | cons c rest ih =>
    rw [namesFrom] at h
    by_cases hc : c = '/'
    · rw [if_pos (by simp [hc])] at h
      rcases List.mem_append.mp h with h | h
      · exact isName_of_mem_nameOfReverse hbefore h
      · exact ih List.not_mem_nil h
    · rw [if_neg (by simp [hc])] at h
      refine ih ?_ h
      simpa using ⟨Ne.symm hc, hbefore⟩

theorem isSpelled_ofString (s : String) : (ofString s).IsSpelled :=
  fun _ hn => isName_of_mem_namesFrom List.not_mem_nil hn

/-! ## Names that are written -/

theorem nameOfReverse_reverse (h : IsName n) : nameOfReverse n.toList.reverse = [n] := by
  unfold nameOfReverse
  split
  · next heq => exact absurd (List.reverse_eq_nil_iff.mp heq) h.nonempty
  · next heq => exact absurd (by simpa using congrArg List.reverse heq) h.notDot
  · simp

/-- Up to a slash all characters belong to one name. -/
theorem namesFrom_append (hcs : '/' ∉ cs) (before rest : List Char) :
    namesFrom before (cs ++ rest) = namesFrom (cs.reverse ++ before) rest := by
  induction cs generalizing before with
  | nil => rfl
  | cons c cs ih =>
    have hc : c ≠ '/' := fun hc => hcs (hc ▸ List.mem_cons_self)
    rw [List.cons_append, namesFrom, if_neg (by simp [hc]),
      ih fun hmem => hcs (List.mem_cons_of_mem _ hmem)]
    simp

/-- Names between slashes are read as they are. -/
theorem namesFrom_intercalate (h : ∀ n ∈ names, IsName n) :
    namesFrom [] ("/".intercalate names).toList = names := by
  induction names with
  | nil => rfl
  | cons n names ih =>
    have hn := h n List.mem_cons_self
    have hname : namesFrom n.toList.reverse [] = [n] := nameOfReverse_reverse hn
    cases names with
    | nil =>
      have hread := namesFrom_append hn.notSlash [] []
      rw [List.append_nil, List.append_nil, hname] at hread
      simpa [String.toList_intercalate] using hread
    | cons m names =>
      have hrest := ih fun n hn => h n (List.mem_cons_of_mem _ hn)
      rw [String.intercalate_cons_cons, String.toList_append, String.toList_append,
        List.append_assoc, namesFrom_append hn.notSlash, List.append_nil]
      show namesFrom n.toList.reverse ('/' :: ("/".intercalate (m :: names)).toList) = _
      rw [namesFrom, if_pos (by simp), nameOfReverse_reverse hn, hrest]
      rfl

/-- What is written for the names does not begin with a slash. -/
theorem head_ne_of_intercalate (h : ∀ n ∈ names, IsName n) {c : Char}
    (hcs : ("/".intercalate names).toList = c :: cs) : c ≠ '/' := by
  cases names with
  | nil => simp at hcs
  | cons n names =>
    have hn := h n List.mem_cons_self
    obtain ⟨c', cs', hn'⟩ := List.exists_cons_of_ne_nil hn.nonempty
    have hc : c = c' := by
      cases names with
      | nil => simp_all
      | cons m names =>
        rw [String.intercalate_cons_cons, String.toList_append, String.toList_append, hn'] at hcs
        simpa using (List.cons.inj hcs).1.symm
    rintro rfl
    exact hn.notSlash (by rw [hn', ← hc]; exact List.mem_cons_self)

theorem rootOf_cons {c : Char} (h : c ≠ '/') (cs : List Char) :
    rootOf (c :: cs) = .workingDirectory := by
  unfold rootOf
  split <;> simp_all

/-- Leading slashes are read as they are. -/
theorem rootOf_text_append {r : Root} (hcs : ∀ c rest, cs = c :: rest → c ≠ '/')
    (hne : r = .workingDirectory → cs ≠ []) : rootOf (r.text.toList ++ cs) = r := by
  cases cs with
  | nil =>
    cases r with
    | workingDirectory => exact absurd rfl (hne rfl)
    | slash => rfl
    | doubleSlash => rfl
  | cons c rest =>
    have hc := hcs c rest rfl
    cases r with
    | workingDirectory => exact rootOf_cons hc rest
    | slash =>
      show rootOf ('/' :: c :: rest) = .slash
      simp [rootOf, hc]
    | doubleSlash =>
      show rootOf ('/' :: '/' :: c :: rest) = .doubleSlash
      simp [rootOf, hc]

/-- **The text of a path is read as the path.** -/
theorem ofString_toString (h : p.IsSpelled) : ofString p.toString = p := by
  obtain ⟨root, names⟩ := p
  change ∀ n ∈ names, IsName n at h
  unfold toString
  by_cases hempty : root = .workingDirectory ∧ names = []
  · obtain ⟨rfl, rfl⟩ := hempty
    decide
  · rw [if_neg hempty]
    have hroot : rootOf (root.text.toList ++ ("/".intercalate names).toList) = root := by
      refine rootOf_text_append (fun c rest hcs => head_ne_of_intercalate h hcs) ?_
      intro hroot hnil
      refine hempty ⟨hroot, ?_⟩
      rw [← namesFrom_intercalate h, hnil]
      rfl
    have hnames : namesFrom [] (root.text.toList ++ ("/".intercalate names).toList) = names := by
      have hread := namesFrom_intercalate h
      cases root with
      | workingDirectory => exact hread
      | slash => exact hread
      | doubleSlash => exact hread
    rw [ofString, String.toList_append, hroot, hnames]

end LiveTemplates.Path
