import LiveTemplates.Settings

/-!
# What settings are taken from

Settings are taken from arguments and, besides them, from what is found in other sources
(`SourceOptions.survey`, `gather_eq`). Where these are looked for is said by arguments too, under
names that are no names of fields (`SourceOptions.names`).

If given settings are overridden by changes, a change is found under its name and what was given
under the others (`lookup_override`). The names of fields are in lower case, so each field is given
under its own name (`lookup_givenFields_override`).
-/

namespace LiveTemplates.Text

/-- Small letters and the low line, of which the names of fields are made. -/
def isNameChar (c : Char) : Bool :=
  c.isLower || c == '_'

theorem toNat_lt_of_isNameChar {c : Char} (h : isNameChar c = true) : c.toNat < 128 := by
  rcases Bool.or_eq_true_iff.mp h with h | h
  · have hle : c.val ≤ 'z'.val := by
      simpa using (Bool.and_eq_true_iff.mp h).2
    exact Nat.lt_of_le_of_lt (UInt32.le_iff_toNat_le.mp hle) (by decide)
  · rw [beq_iff_eq.mp h]
    decide

/-- Names of fields are in lower case. -/
theorem lowercaseString_eq_self {s : String} (h : s.toList.all isNameChar = true) :
    lowercaseString s = s := by
  have hstays : ∀ n < 128, isNameChar (Char.ofNat n) = true →
      Char.ofNat n ≠ 'Σ' ∧ lowercaseMap.apply (Char.ofNat n) = [Char.ofNat n] := by
    decide +kernel
  have hafter : ∀ cs : List Char, cs.all isNameChar = true →
      ∀ before, lowercaseAfter before cs = cs := by
    intro cs
    induction cs with
    | nil => exact fun _ _ => rfl
    | cons c cs ih =>
      intro hall before
      obtain ⟨hc, hcs⟩ := Bool.and_eq_true_iff.mp hall
      obtain ⟨hsigma, hsame⟩ : c ≠ 'Σ' ∧ lowercaseMap.apply c = [c] := by
        simpa only [Char.ofNat_toNat, hc, forall_const] using
          hstays c.toNat (toNat_lt_of_isNameChar hc)
      rw [lowercaseAfter, if_neg (by simpa using hsigma), hsame, ih hcs]
      rfl
  rw [lowercaseString, lowercase, hafter _ h, String.ofList_toList]

end LiveTemplates.Text

namespace LiveTemplates.Settings

variable {given changes : List (String × Value)} {name : String}

/-! ## Changes in the place of what is given -/

theorem mem_names_iff {α : Type} {entries : List (String × α)} :
    name ∈ entries.map (·.1) ↔ (entries.lookup name).isSome := by
  rw [List.lookup_isSome_iff, List.mem_map]
  exact exists_congr fun e => and_congr_right fun _ => by rw [beq_iff_eq, eq_comm]

theorem any_eq_false_iff {α : Type} {entries : List (String × α)} :
    (!entries.any (·.1 == name)) = true ↔ name ∉ entries.map (·.1) := by
  rw [Bool.not_eq_true', List.any_eq_false, List.mem_map, not_exists]
  exact forall_congr' fun e => by rw [not_and, beq_iff_eq]

/-- Entries of other names do not matter to a lookup. -/
theorem lookup_filter {α : Type} (keep : String → Bool) (h : keep name = true)
    (entries : List (String × α)) :
    (entries.filter fun e => keep e.1).lookup name = entries.lookup name := by
  induction entries with
  | nil => rfl
  | cons e entries ih =>
    obtain ⟨n, a⟩ := e
    by_cases hkeep : keep n = true
    · simp only [List.filter_cons, hkeep, if_true, List.lookup_cons, ih]
    · have hne : (name == n) = false := by
        simpa using fun heq : name = n => hkeep (heq ▸ h)
      simp only [List.filter_cons, hkeep, List.lookup_cons, hne, ih, Bool.false_eq_true, if_false]

theorem lookup_replaced (given changes : List (String × Value)) (name : String) :
    (given.map fun g => (g.1, (changes.lookup g.1).getD g.2)).lookup name
      = (given.lookup name).map (changes.lookup name).getD := by
  induction given with
  | nil => rfl
  | cons g given ih =>
    obtain ⟨n, v⟩ := g
    by_cases h : name = n
    · subst h
      simp
    · have hne : (name == n) = false := by simpa using h
      simp only [List.map_cons, List.lookup_cons, hne, ih]

/-- A change is found under its name, and else what was given. -/
theorem lookup_override (given changes : List (String × Value)) (name : String) :
    (override given changes).lookup name = (changes.lookup name).or (given.lookup name) := by
  rw [override, List.lookup_append, lookup_replaced]
  cases hgiven : given.lookup name with
  | none =>
    have hnew : name ∉ given.map (·.1) := by simp [mem_names_iff, hgiven]
    rw [Option.map_none, Option.none_or, Option.or_none]
    exact lookup_filter (fun n => !given.any (·.1 == n)) (any_eq_false_iff.mpr hnew) changes
  | some v => cases changes.lookup name <;> rfl

/-- The names that result are those of the changes and those that were given. -/
theorem mem_map_override : name ∈ (override given changes).map (·.1) ↔
    name ∈ given.map (·.1) ∨ name ∈ changes.map (·.1) := by
  rw [mem_names_iff, mem_names_iff, mem_names_iff, lookup_override, Option.isSome_or,
    Bool.or_eq_true, or_comm]

/-- What is said of all names of two changes holds of both together. -/
theorem forall_mem_override {P : String → Prop} (h : ∀ e ∈ given ++ changes, P e.1) :
    ∀ e ∈ override given changes, P e.1 := by
  intro e he
  rcases mem_map_override.mp (List.mem_map_of_mem he) with hname | hname
  · obtain ⟨g, hg, heq⟩ := List.mem_map.mp hname
    exact heq ▸ h g (List.mem_append_left changes hg)
  · obtain ⟨c, hc, heq⟩ := List.mem_map.mp hname
    exact heq ▸ h c (List.mem_append_right given hc)

/-! ## Given names -/

theorem givenFor?_append (given others : List (String × Value)) (field : String) :
    givenFor? (given ++ others) field = (givenFor? given field).or (givenFor? others field) := by
  rw [givenFor?, List.find?_append, Option.map_or]
  rfl

/-- Names that are in lower case stand for the fields of these names. -/
theorem givenFor?_eq_lookup (h : ∀ g ∈ given, Text.lowercaseString g.1 = g.1) (field : String) :
    givenFor? given field = given.lookup field := by
  induction given with
  | nil => rfl
  | cons g given ih =>
    have ih := ih fun g' hg' => h g' (List.mem_cons_of_mem _ hg')
    unfold givenFor? at ih ⊢
    rw [List.find?_cons, List.lookup_cons, h g List.mem_cons_self, BEq.comm]
    cases field == g.1 with
    | true => rfl
    | false => exact ih

theorem lookup_givenFields (fields : List Field) (given : List (String × Value)) (name : String) :
    (givenFields fields given).lookup name
      = if fields.any (·.name == name) then givenFor? given name else none := by
  induction fields with
  | nil => rfl
  | cons f fields ih =>
    unfold givenFields at ih ⊢
    by_cases h : f.name = name
    · subst h
      cases hgiven : givenFor? given f.name <;> simp [hgiven, ih]
    · have hne : (name == f.name) = false := by simpa using Ne.symm h
      cases hgiven : givenFor? given f.name <;> simp [List.lookup_cons, hgiven, ih, hne, h]

/-! ## What the other sources give -/

/-- What comes to an end does so step by step. -/
theorem bind_eq_ok {ε α β : Type} {x : Except ε α} {f : α → Except ε β} {b : β}
    (h : (x >>= f) = .ok b) : ∃ a, x = .ok a ∧ f a = .ok b := by
  cases x with
  | error e => cases h
  | ok a => exact ⟨a, rfl, h⟩

/-- What is found in the sources besides the arguments. -/
structure Survey where
  /-- What is found for a field. -/
  value : String → Option Json
  /-- The names that are found and stand for no field. -/
  strays : List String

/-- Looks through the sources besides the arguments. -/
def SourceOptions.survey (o : SourceOptions) (environment : Variables) (t : FileTree)
    (fields : List Field) : Except Failure Survey := do
  let inFiles ← o.offerOfFiles environment t
  let inEnvironment := o.offer (environment.map fun v => (v.1, some v.2))
  let fromEnvironment ← o.fromOffer environmentSource inEnvironment fields
  let fromFiles ← o.fromOffer variableFileSource inFiles fields
  let directories ← directoriesAmong t (← (← pathTexts o.directories).mapM pathOf)
  let fromDirectories ← o.fromDirectories t directories fields
  return {
    value := combined [fromEnvironment, fromFiles, fromDirectories]
    strays := o.strays fields inFiles }

/-- The arguments that are no options. -/
def settingArguments (arguments : List (String × Value)) : List (String × Value) :=
  arguments.filter fun a => !SourceOptions.names.contains a.1

/-- All that is given, from arguments and what is found besides them. -/
def Survey.gathered (found : Survey) (fields : List Field) (arguments : List (String × Value)) :
    Gathered where
  value := givenOver (givenFields fields (settingArguments arguments)) found.value
  unknown := found.strays
    ++ (unknownNames fields (settingArguments arguments)).filter fun n => !found.strays.contains n

theorem gather_eq (default : SourceOptions) (environment : Variables) (t : FileTree)
    (fields : List Field) (arguments : List (String × Value)) :
    gather default environment t fields arguments
      = (·.gathered fields arguments) <$>
        (default.withArguments (jsonArguments arguments)).survey environment t fields := by
  simp only [gather, SourceOptions.survey, map_bind, map_pure, Survey.gathered, settingArguments]

/-- Options depend on what is given under their names. -/
theorem SourceOptions.withArguments_congr {xs ys : List (String × Json)}
    (h : ∀ n ∈ names, xs.lookup n = ys.lookup n) (o : SourceOptions) :
    o.withArguments xs = o.withArguments ys := by
  simp only [withArguments, h "_env_prefix" (by decide), h "_env_prefix_target" (by decide),
    h "_case_sensitive" (by decide), h "_env_ignore_empty" (by decide),
    h "_env_parse_none_str" (by decide), h "_env_nested_delimiter" (by decide),
    h "_env_nested_max_split" (by decide), h "_env_file" (by decide),
    h "_env_file_encoding" (by decide), h "_secrets_dir" (by decide)]

/-- What is JSON among arguments of some names. -/
theorem jsonArguments_filter (keep : String → Bool) (arguments : List (String × Value)) :
    jsonArguments (arguments.filter fun a => keep a.1)
      = (jsonArguments arguments).filter fun a => keep a.1 := by
  induction arguments with
  | nil => rfl
  | cons a arguments ih =>
    obtain ⟨n, v⟩ := a
    unfold jsonArguments at ih ⊢
    cases v <;> cases hkeep : keep n <;> simp [hkeep, ih]

theorem lookup_jsonArguments_eq_none {arguments : List (String × Value)}
    (h : name ∉ arguments.map (·.1)) : (jsonArguments arguments).lookup name = none := by
  rw [List.lookup_eq_none_iff]
  intro a ha
  obtain ⟨⟨n, v⟩, hmem, hjson⟩ := List.mem_filterMap.mp ha
  have hname : n = a.1 := by
    cases v with
    | json j => exact (congrArg Prod.fst (Option.some.inj hjson) :)
    | path p => cases hjson
  simpa using fun heq : name = a.1 => h (heq.trans hname.symm ▸ List.mem_map_of_mem hmem)

/-- Changes of other names say the same in the place of what is given. -/
theorem lookup_jsonArguments_override (h : name ∉ given.map (·.1)) :
    (jsonArguments (override given changes)).lookup name = (jsonArguments changes).lookup name := by
  have hreplaced : (jsonArguments
      (given.map fun g => (g.1, (changes.lookup g.1).getD g.2))).lookup name = none :=
    lookup_jsonArguments_eq_none (by rwa [List.map_map])
  have happend : ∀ xs ys : List (String × Value),
      jsonArguments (xs ++ ys) = jsonArguments xs ++ jsonArguments ys := fun _ _ =>
    List.filterMap_append
  rw [override, happend, List.lookup_append, hreplaced, Option.none_or,
    jsonArguments_filter fun n => !given.any (·.1 == n),
    lookup_filter (fun n => !given.any (·.1 == n)) (any_eq_false_iff.mpr h)]

/-- A field that is given in lower case, and what takes the place of it. -/
theorem lookup_givenFields_override {fields : List Field}
    (hgiven : given.map (·.1) = fields.map (·.name))
    (hfields : ∀ f ∈ fields, f.name ∉ SourceOptions.names ∧ Text.lowercaseString f.name = f.name)
    (hname : name ∈ given.map (·.1)) :
    (givenFields fields (settingArguments (override given changes))).lookup name
      = (override given changes).lookup name := by
  have hfields' : ∀ n ∈ given.map (·.1), n ∉ SourceOptions.names ∧ Text.lowercaseString n = n := by
    rw [hgiven]
    exact List.forall_mem_map.mpr hfields
  have hany : fields.any (·.name == name) = true := by
    rw [hgiven] at hname
    obtain ⟨f, hf, rfl⟩ := List.mem_map.mp hname
    exact List.any_eq_true.mpr ⟨f, hf, by simp⟩
  obtain ⟨v, hv⟩ := Option.isSome_iff_exists.mp (mem_names_iff.mp hname)
  rw [lookup_givenFields, hany, if_pos rfl, settingArguments, override, List.filter_append,
    List.filter_eq_self.mpr, givenFor?_append, givenFor?_eq_lookup, lookup_replaced,
    List.lookup_append, lookup_replaced, hv, Option.map_some, Option.some_or, Option.some_or]
  · intro g hg
    obtain ⟨g', hg', rfl⟩ := List.mem_map.mp hg
    exact (hfields' _ (List.mem_map_of_mem hg')).2
  · intro g hg
    obtain ⟨g', hg', rfl⟩ := List.mem_map.mp hg
    simpa using (hfields' _ (List.mem_map_of_mem hg')).1

end LiveTemplates.Settings
