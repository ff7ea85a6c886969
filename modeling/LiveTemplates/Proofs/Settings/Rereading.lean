import LiveTemplates.Settings
import Mathlib.Tactic.MkIffOfInductiveProp

/-!
# Reading settings again

A setting that was read can be written as a value and read again. For each field the writer gives a
value that the reader takes for the same setting (`stable_of_mem_readings`), so to read and to write
is to bring a value into a normal form.

If there is a value for each field, settings are read field by field: what is read is what writes
every field as the normal form of its value (`read_eq_ok_iff_of_given`).
-/

namespace LiveTemplates.Settings

variable {α ε : Type} {v w : Value}

/-! ## Values that are written -/

/-- Whether a value is an object. Only objects are merged with what other sources give. -/
def Value.isObject : Value → Bool
  | .json (.object _) => true
  | _ => false

/-- A value other than an object takes the place of any other value. -/
theorem Value.over_eq (h : v.isObject = false) (j : Json) : v.over j = v := by
  cases v with
  | path p => rfl
  | json i =>
    cases i with
    | object fields => simp [isObject] at h
    | _ => simp [Value.over, Json.merge]

/-- A path that may be missing, as a value. -/
def writePath? (p : Option Path) : Value :=
  (p.map Value.path).getD (.json .null)

/-- Texts as a value. -/
def writeTexts (items : List String) : Value :=
  .json (.array (items.map .string))

/-! ## Normal forms -/

/-- A value as it is written after it was read, if it can be read. -/
def reread (read : Value → Except ε α) (write : α → Value) (v : Value) : Option Value :=
  (read v).toOption.map write

theorem reread_eq_some_iff {read : Value → Except ε α} {write : α → Value} :
    reread read write v = some w ↔ ∃ a, read v = .ok a ∧ write a = w := by
  unfold reread
  cases read v with
  | error e => simp [Except.toOption]
  | ok a => simp [Except.toOption]

/-- What results is left as it is when the function is applied again, and is no object. -/
def Stable (f : Value → Option Value) : Prop :=
  ∀ v w, f v = some w → f w = some w ∧ w.isObject = false

theorem stable_reread {read : Value → Except ε α} {write : α → Value}
    (hread : ∀ v a, read v = .ok a → read (write a) = .ok a)
    (hwrite : ∀ a, (write a).isObject = false) : Stable (reread read write) := by
  intro v w h
  obtain ⟨a, ha, rfl⟩ := reread_eq_some_iff.mp h
  exact ⟨reread_eq_some_iff.mpr ⟨a, hread v a ha, rfl⟩, hwrite a⟩

/-! ## The kinds of settings -/

theorem readString_again {a : String} : readString (.json (.string a)) = .ok a := rfl

theorem readPath_again {p : Path} : readPath (.path p) = .ok p := rfl

theorem readOptionalPath_again {p : Option Path} :
    readOptionalPath (writePath? p) = .ok p := by
  cases p <;> rfl

theorem readBoolean_again {b : Bool} : readBoolean (.json (.bool b)) = .ok b := rfl

/-- An integer that was read is between the bounds, and is read again. -/
theorem readIntegerIn_again {low high n : Int} (h : readIntegerIn low high v = .ok n) :
    readIntegerIn low high (.json (.int n)) = .ok n := by
  unfold readIntegerIn at h ⊢
  split at h
  · cases h
  · split at h
    · cases h
    · next hhigh =>
      split at h
      · cases h
      · next hlow =>
        cases h
        show (if high < n then _ else if n < low then _ else _) = _
        rw [if_neg hhigh, if_neg hlow]

/-- Texts that are trimmed and not empty stay as they are. -/
theorem cleanItems_of_clean {items : List String}
    (h : ∀ s ∈ items, Text.trimString s = s ∧ s ≠ "") : cleanItems items = items := by
  have hmap : items.map Text.trimString = items :=
    (List.map_congr_left fun s hs => (h s hs).1).trans (List.map_id _)
  rw [cleanItems, hmap, List.filter_eq_self]
  exact fun s hs => by simpa using (h s hs).2

theorem cleanItems_cleanItems (items : List String) :
    cleanItems (cleanItems items) = cleanItems items := by
  refine cleanItems_of_clean fun s hs => ?_
  obtain ⟨hmem, hne⟩ := List.mem_filter.mp hs
  obtain ⟨s', _, rfl⟩ := List.mem_map.mp hmem
  exact ⟨Text.trimString_trimString s', by simpa using hne⟩

theorem textsOf_strings (items : List String) : textsOf (items.map .string) = .ok items := by
  induction items with
  | nil => rfl
  | cons s items ih =>
    rw [List.map_cons, textsOf, ih]
    rfl

/-- Extensions that were read are trimmed, and none is blank. -/
theorem cleanItems_of_readExtensions {items : List String} (h : readExtensions v = .ok items) :
    cleanItems items = items := by
  unfold readExtensions at h
  split at h
  · cases h
    exact cleanItems_cleanItems _
  · next values =>
    cases htexts : textsOf values with
    | error e =>
      rw [htexts] at h
      cases h
    | ok texts =>
      rw [htexts] at h
      cases h
      exact cleanItems_cleanItems _
  · cases h
    exact cleanItems_cleanItems _
  · cases h

theorem readExtensions_again {items : List String} (h : readExtensions v = .ok items) :
    readExtensions (writeTexts items) = .ok items := by
  show (textsOf (items.map .string)).map cleanItems = .ok items
  rw [textsOf_strings]
  exact congrArg Except.ok (cleanItems_of_readExtensions h)

/-! ## Fields -/

variable {given : String → Option Value} {name : String} {read : Value → Except ProblemKind α}
  {write : α → Value} {a default : α}

/-- A field that is given is what its value is read as. -/
theorem readField_eq_ok_iff (hgiven : given name = some v) :
    readField given name read default = .ok a ↔ read v = .ok a := by
  rw [readField, hgiven]
  show (read v).mapError _ = .ok a ↔ _
  cases read v with
  | error k => exact ⟨nofun, nofun⟩
  | ok b =>
    show Except.ok b = .ok a ↔ Except.ok b = .ok a
    rw [Except.ok.injEq, Except.ok.injEq]

/-- What was read is written as the normal form of the value that was given. -/
theorem bind_reread_eq_some_iff (hwrite : Function.Injective write) (hgiven : given name = some v) :
    (given name).bind (reread read write) = some (write a) ↔
      readField given name read default = .ok a := by
  rw [readField_eq_ok_iff hgiven, hgiven, Option.bind_some, reread_eq_some_iff]
  exact ⟨fun ⟨b, hb, heq⟩ => hwrite heq ▸ hb, fun h => ⟨a, h, rfl⟩⟩

end LiveTemplates.Settings

namespace LiveTemplates.EngineSettings

open Settings

variable {s : EngineSettings} {cwd : Path} {given : String → Option Value} {unknown : List Problem}

/-- For each field, how a value is brought into its normal form. -/
def readings : List (String × (Value → Option Value)) :=
  [("monitor_path", reread readOptionalPath writePath?),
    ("base_dir", reread readPath .path),
    ("extensions", reread readExtensions writeTexts),
    ("output_extension", reread readString fun a => .json (.string a)),
    ("process_delay_ms", reread (readIntegerIn 0 maxDelayMs) fun n => .json (.int n)),
    ("config_file_name", reread readString fun a => .json (.string a)),
    ("write_outputs", reread readBoolean fun b => .json (.bool b)),
    ("cascade_dependents", reread readBoolean fun b => .json (.bool b)),
    ("transitive_dependents", reread readBoolean fun b => .json (.bool b))]

/-- **A normal form is its own normal form.** -/
theorem stable_of_mem_readings {f : String × (Value → Option Value)} (h : f ∈ readings) :
    Stable f.2 := by
  have hpath : Stable (reread readPath .path) :=
    stable_reread (fun _ _ _ => readPath_again) fun _ => rfl
  have hstring : Stable (reread readString fun a => .json (.string a)) :=
    stable_reread (fun _ _ _ => readString_again) fun _ => rfl
  have hboolean : Stable (reread readBoolean fun b => .json (.bool b)) :=
    stable_reread (fun _ _ _ => readBoolean_again) fun _ => rfl
  simp only [readings, List.mem_cons, List.not_mem_nil, or_false] at h
  rcases h with rfl | rfl | rfl | rfl | rfl | rfl | rfl | rfl | rfl
  · exact stable_reread (fun _ _ _ => readOptionalPath_again) fun p => by cases p <;> rfl
  · exact hpath
  · exact stable_reread (fun _ _ => readExtensions_again) fun _ => rfl
  · exact hstring
  · exact stable_reread (fun _ _ => readIntegerIn_again) fun _ => rfl
  · exact hstring
  · exact hboolean
  · exact hboolean
  · exact hboolean

/-- What the extensions are read from; without a value there is a default. -/
def extensionsOf (given : String → Option Value) : Except Failure (List String) :=
  match given "extensions" with
  | none => .ok [".dnaweb"]
  | some v => readExtensions v

/-- Each field of the settings is what is read for it. -/
@[mk_iff]
structure Reads (cwd : Path) (given : String → Option Value) (s : EngineSettings) : Prop where
  monitorPath : readField given "monitor_path" readOptionalPath none = .ok s.monitorPath
  baseDir : readField given "base_dir" readPath cwd = .ok s.baseDir
  extensions : extensionsOf given = .ok s.extensions
  outputExtension : readField given "output_extension" readString ".dna" = .ok s.outputExtension
  processDelayMs : readField given "process_delay_ms" (readIntegerIn 0 maxDelayMs) 100
    = .ok s.processDelayMs
  configFileName : readField given "config_file_name" readString "dna.config"
    = .ok s.configFileName
  writeOutputs : readField given "write_outputs" readBoolean true = .ok s.writeOutputs
  cascadeDependents : readField given "cascade_dependents" readBoolean true
    = .ok s.cascadeDependents
  transitiveDependents : readField given "transitive_dependents" readBoolean false
    = .ok s.transitiveDependents

/-- The fields are read once the extensions are, and all names that are given are theirs. -/
theorem read_eq_ok_iff : read cwd given unknown = .ok s ↔ unknown = [] ∧ Reads cwd given s := by
  constructor
  · intro h
    cases hvalue : given "extensions" with
    | none =>
      simp only [read, hvalue, bind, Except.bind] at h
      split at h
      · next hproblems ha hb hd he hf hg hh hi =>
        cases h
        have hc : extensionsOf given = .ok [".dnaweb"] := by simp only [extensionsOf, hvalue]
        exact ⟨(List.append_eq_nil_iff.mp hproblems).2, ha, hb, hc, hd, he, hf, hg, hh, hi⟩
      · cases h
    | some v =>
      simp only [read, hvalue, bind, Except.bind] at h
      split at h
      · cases h
      · next items hitems =>
        split at h
        · next hproblems ha hb hd he hf hg hh hi =>
          cases h
          have hc : extensionsOf given = .ok items := by simp only [extensionsOf, hvalue, hitems]
          exact ⟨(List.append_eq_nil_iff.mp hproblems).2, ha, hb, hc, hd, he, hf, hg, hh, hi⟩
        · cases h
  · rintro ⟨rfl, ha, hb, hc, hd, he, hf, hg, hh, hi⟩
    cases hvalue : given "extensions" with
    | none =>
      simp only [extensionsOf, hvalue] at hc
      simp only [read, hvalue, bind, Except.bind, Except.ok.inj hc, ha, hb, hd, he, hf, hg, hh, hi,
        problemOf, List.append_nil]
    | some v =>
      simp only [extensionsOf, hvalue] at hc
      simp only [read, hvalue, bind, Except.bind, hc, ha, hb, hd, he, hf, hg, hh, hi, problemOf,
        List.append_nil]

/-! ## Settings in their normal form -/

/-- Whether settings, written as values, are the normal forms of what is given for each field. -/
def Normalises (given : String → Option Value) (s : EngineSettings) : Prop :=
  ∀ f ∈ readings, (given f.1).bind f.2 = s.toArguments.lookup f.1

theorem writePath?_injective : Function.Injective writePath? := by
  intro p q h
  cases p <;> cases q <;> simp_all [writePath?]

theorem writeTexts_injective : Function.Injective writeTexts := by
  intro xs ys h
  have hstrings : xs.map Json.string = ys.map Json.string := by simpa [writeTexts] using h
  exact (List.map_inj_right fun _ _ => Json.string.inj).mp hstrings

/-- Settings are in a normal form if each field is. -/
theorem normalises_iff : Normalises given s ↔
    (given "monitor_path").bind (reread readOptionalPath writePath?)
        = some (writePath? s.monitorPath) ∧
      (given "base_dir").bind (reread readPath .path) = some (.path s.baseDir) ∧
      (given "extensions").bind (reread readExtensions writeTexts)
        = some (writeTexts s.extensions) ∧
      (given "output_extension").bind (reread readString fun a => .json (.string a))
        = some (.json (.string s.outputExtension)) ∧
      (given "process_delay_ms").bind
          (reread (readIntegerIn 0 maxDelayMs) fun n => .json (.int n))
        = some (.json (.int s.processDelayMs)) ∧
      (given "config_file_name").bind (reread readString fun a => .json (.string a))
        = some (.json (.string s.configFileName)) ∧
      (given "write_outputs").bind (reread readBoolean fun b => .json (.bool b))
        = some (.json (.bool s.writeOutputs)) ∧
      (given "cascade_dependents").bind (reread readBoolean fun b => .json (.bool b))
        = some (.json (.bool s.cascadeDependents)) ∧
      (given "transitive_dependents").bind (reread readBoolean fun b => .json (.bool b))
        = some (.json (.bool s.transitiveDependents)) := by
  simp only [Normalises, readings, List.forall_mem_cons, List.not_mem_nil, false_imp_iff,
    implies_true, and_true]
  exact Iff.rfl

/-- What is read when each field is given writes the fields as the normal forms of their values. -/
theorem read_eq_ok_iff_of_given (hgiven : ∀ f ∈ readings, (given f.1).isSome) :
    read cwd given unknown = .ok s ↔ unknown = [] ∧ Normalises given s := by
  simp only [readings, List.forall_mem_cons, Option.isSome_iff_exists] at hgiven
  obtain ⟨⟨a, ha⟩, ⟨b, hb⟩, ⟨c, hc⟩, ⟨d, hd⟩, ⟨e, he⟩, ⟨f, hf⟩, ⟨g, hg⟩, ⟨h, hh⟩, ⟨i, hi⟩, -⟩ :=
    hgiven
  have hextensions : extensionsOf given = .ok s.extensions ↔
      (given "extensions").bind (reread readExtensions writeTexts)
        = some (writeTexts s.extensions) := by
    rw [extensionsOf, hc, Option.bind_some, reread_eq_some_iff]
    exact ⟨fun h => ⟨_, h, rfl⟩, fun ⟨_, hitems, heq⟩ => writeTexts_injective heq ▸ hitems⟩
  have hstring : Function.Injective fun a => Value.json (.string a) := fun _ _ h =>
    Json.string.inj (Value.json.inj h)
  have hboolean : Function.Injective fun b => Value.json (.bool b) := fun _ _ h =>
    Json.bool.inj (Value.json.inj h)
  rw [read_eq_ok_iff, reads_iff, normalises_iff]
  exact and_congr_right fun _ =>
    and_congr (bind_reread_eq_some_iff writePath?_injective ha).symm <|
    and_congr (bind_reread_eq_some_iff (fun _ _ => Value.path.inj) hb).symm <|
    and_congr hextensions <|
    and_congr (bind_reread_eq_some_iff hstring hd).symm <|
    and_congr (bind_reread_eq_some_iff (fun _ _ h => Json.int.inj (Value.json.inj h)) he).symm <|
    and_congr (bind_reread_eq_some_iff hstring hf).symm <|
    and_congr (bind_reread_eq_some_iff hboolean hg).symm <|
    and_congr (bind_reread_eq_some_iff hboolean hh).symm
      (bind_reread_eq_some_iff hboolean hi).symm

end LiveTemplates.EngineSettings
