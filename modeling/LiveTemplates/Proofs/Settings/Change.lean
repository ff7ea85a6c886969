import LiveTemplates.Proofs.Settings.Rereading
import LiveTemplates.Proofs.Settings.Sources
import Mathlib.Tactic.ByContra

/-!
# Changing settings

Settings are changed by reading them again, with the changes in the place of what they say. What the
sources besides the arguments give then matters in two ways only: names that stand for no field are
refused, and an object that is given for a field is merged with an object found there
(`change_eq_ok_iff`).

Changes compose if they are looked for in the same way (`change_override`). Changes may themselves
say how to look for settings; then the two of them together give the same settings as one after the
other, except for extensions that are given as an object (`change_override_of_found`).
-/

namespace LiveTemplates.Settings

variable {v : Value}

/-! ## Values before others -/

theorem Value.isObject_iff : v.isObject = true ↔ ∃ fields, v = .json (.object fields) := by
  constructor
  · intro h
    unfold isObject at h
    split at h
    · exact ⟨_, rfl⟩
    · cases h
  · rintro ⟨fields, rfl⟩
    rfl

/-- A value before another one, if there is one. -/
def Value.overAny (v : Value) (found : Option Json) : Value :=
  found.elim v v.over

theorem Value.overAny_eq (h : v.isObject = false) (found : Option Json) : v.overAny found = v := by
  cases found with
  | none => rfl
  | some j => exact Value.over_eq h j

/-- Only an object can be another value before one thing than before another. -/
theorem Value.exists_object_of_ne {found found' : Option Json}
    (h : v.overAny found ≠ v.overAny found') : ∃ fields, v = .json (.object fields) := by
  rw [← isObject_iff]
  by_contra hv
  rw [Bool.not_eq_true] at hv
  exact h ((overAny_eq hv found).trans (overAny_eq hv found').symm)

/-- An object stays one before any other value. -/
theorem Value.isObject_overAny (h : v.isObject = true) (found : Option Json) :
    (v.overAny found).isObject = true := by
  cases found with
  | none => exact h
  | some j =>
    cases v with
    | path p => cases h
    | json i =>
      cases i with
      | object fields => cases j <;> rfl
      | _ => cases h

/-! ## Normal forms of values before others -/

/-- What results from two changes of a value, one after the other, results from both together. -/
theorem Stable.bind_bind {normal : Value → Option Value} (hstable : Stable normal)
    {change? value? : Option Value} {x₁ x₂ : Value} {found₁ found₂ found : Option Json}
    (h₁ : (value?.map (·.overAny found₁)).bind normal = some x₁)
    (h₂ : ((change?.or (some x₁)).map (·.overAny found₂)).bind normal = some x₂)
    (hchange : ∀ v, change? = some v → v.overAny found = v.overAny found₂)
    (hvalue : ∀ v, change? = none → value? = some v → v.overAny found = v.overAny found₁) :
    ((change?.or value?).map (·.overAny found)).bind normal = some x₂ := by
  cases change? with
  | some v => simpa [hchange v rfl] using h₂
  | none =>
    cases value? with
    | none => cases h₁
    | some v =>
      -- the value after the first change is a normal form, which stays as it is
      have hnormal := hstable _ _ h₁
      have heq : x₁ = x₂ := by
        simpa [Value.overAny_eq hnormal.2, hnormal.1] using h₂
      simpa [hvalue v rfl rfl, ← heq] using h₁

end LiveTemplates.Settings

namespace LiveTemplates.EngineSettings

open Settings

variable {s s' s₁ s₂ : EngineSettings} {environment : Variables} {t : FileTree}
  {changes a b : List (String × Value)} {found : Survey} {f : String × (Value → Option Value)}

/-! ## Changes of the settings of an engine -/

/-- What the sources give beside changes, which may say how to look for it. -/
def sources (environment : Variables) (t : FileTree) (changes : List (String × Value)) :
    Except Failure Survey :=
  ((SourceOptions.initial "ENGINE_" .null).withArguments (jsonArguments changes)).survey
    environment t fields

theorem names_of_fields :
    ∀ f ∈ fields, f.name ∉ SourceOptions.names ∧ Text.lowercaseString f.name = f.name := by
  have hchars : ∀ f ∈ fields,
      f.name ∉ SourceOptions.names ∧ f.name.toList.all Text.isNameChar = true := by
    decide +kernel
  exact fun f hf => ⟨(hchars f hf).1, Text.lowercaseString_eq_self (hchars f hf).2⟩

/-- Settings give a value to each field and to nothing else. -/
theorem names_toArguments (s : EngineSettings) :
    s.toArguments.map (·.1) = fields.map (·.name) := rfl

theorem names_readings (s : EngineSettings) :
    readings.map (·.1) = s.toArguments.map (·.1) := rfl

theorem exists_lookup_toArguments (hf : f ∈ readings) (s : EngineSettings) :
    ∃ v, s.toArguments.lookup f.1 = some v :=
  Option.isSome_iff_exists.mp
    (mem_names_iff.mp (names_readings s ▸ List.mem_map_of_mem hf))

theorem notMem_toArguments {name : String} (h : name ∈ SourceOptions.names) :
    name ∉ s.toArguments.map (·.1) := by
  rw [names_toArguments]
  intro hmem
  obtain ⟨f, hf, rfl⟩ := List.mem_map.mp hmem
  exact (names_of_fields f hf).1 h

/-- The settings to be changed do not say how to look for others. -/
theorem sources_override : sources environment t (override s.toArguments changes)
    = sources environment t changes := by
  rw [sources, sources, SourceOptions.withArguments_congr fun n hn =>
    lookup_jsonArguments_override (notMem_toArguments hn)]

/-- Changes that are no options are looked for in the same way as no changes at all. -/
theorem sources_of_no_options (h : ∀ c ∈ changes, c.1 ∉ SourceOptions.names) :
    sources environment t changes = sources environment t [] := by
  have hsame : ∀ n ∈ SourceOptions.names,
      (jsonArguments changes).lookup n = (jsonArguments []).lookup n := fun n hn =>
    lookup_jsonArguments_eq_none fun hmem => by
      obtain ⟨c, hc, rfl⟩ := List.mem_map.mp hmem
      exact h c hc hn
  rw [sources, sources, SourceOptions.withArguments_congr hsame]

/-- Changes to fields, in any case, and options. -/
def Known (changes : List (String × Value)) : Prop :=
  ∀ name ∈ changes.map (·.1), name ∈ SourceOptions.names ∨
    fields.any (·.name == Text.lowercaseString name)

/-- The names of fields and options are known as they are. -/
theorem known_of_names (h : ∀ c ∈ changes,
    c.1 ∈ SourceOptions.names ∨ c.1 ∈ fields.map (·.name)) : Known changes :=
  List.forall_mem_map.mpr fun c hc => (h c hc).imp_right fun hname => by
    obtain ⟨f, hf, heq⟩ := List.mem_map.mp hname
    exact List.any_eq_true.mpr ⟨f, hf, by simp [← heq, (names_of_fields f hf).2]⟩

theorem known_override_iff : Known (override s.toArguments changes) ↔ Known changes := by
  have hgiven : Known s.toArguments := known_of_names fun c hc =>
    .inr (names_toArguments s ▸ List.mem_map_of_mem hc)
  constructor
  · exact fun h name hname => h name (mem_map_override.mpr (.inr hname))
  · intro h name hname
    exact (mem_map_override.mp hname).elim (hgiven name) (h name)

theorem unknownNames_eq_nil_iff :
    unknownNames fields (settingArguments changes) = [] ↔ Known changes := by
  rw [unknownNames, settingArguments, List.filter_eq_nil_iff, Known, List.forall_mem_map,
    List.forall_mem_map]
  refine forall_congr' fun c => ?_
  rw [List.mem_filter, and_imp, Bool.not_eq_true', Bool.not_eq_true', Bool.not_eq_false,
    List.contains_eq_mem, decide_eq_false_iff_not, Classical.or_iff_not_imp_left]

/-- What is given for a field. -/
def wanted (s : EngineSettings) (changes : List (String × Value)) (found : Survey) (name : String) :
    Option Value :=
  ((changes.lookup name).or (s.toArguments.lookup name)).map (·.overAny (found.value name))

/-- What is given for a field is what is wanted for it. -/
theorem gathered_value {name : String} (h : name ∈ s.toArguments.map (·.1)) :
    (found.gathered fields (override s.toArguments changes)).value name
      = s.wanted changes found name := by
  obtain ⟨v, hv⟩ := Option.isSome_iff_exists.mp
    (mem_names_iff.mp (mem_map_override.mpr (.inl h : _ ∨ name ∈ changes.map (·.1))))
  have hgiven : (givenFields fields (settingArguments (override s.toArguments changes))).lookup name
      = (override s.toArguments changes).lookup name :=
    lookup_givenFields_override (names_toArguments s) names_of_fields h
  rw [wanted, ← lookup_override, hv]
  simp only [Survey.gathered, givenOver, hgiven, hv]
  cases found.value name <;> rfl

/-- Nothing is wrong with the names if all are known and there are no others. -/
theorem gathered_problems : (found.gathered fields (override s.toArguments changes)).problems = [] ↔
    found.strays = [] ∧ Known changes := by
  rw [Gathered.problems, List.map_eq_nil_iff, ← known_override_iff (s := s),
    ← unknownNames_eq_nil_iff]
  show _ ++ _ = [] ↔ _
  rw [List.append_eq_nil_iff]
  refine and_congr_right fun hstrays => ?_
  have hkeep : ∀ n : String, (!found.strays.contains n) = true := by simp [hstrays]
  rw [List.filter_eq_self.mpr fun n _ => hkeep n]

theorem load_override : load environment t (override s.toArguments changes)
    = sources environment t changes >>= fun found =>
      let given := found.gathered fields (override s.toArguments changes)
      read t.cwd given.value given.problems := by
  rw [load, gather_eq, bind_map_left, ← sources_override (s := s)]
  rfl

theorem change_eq_ok_iff_load : change environment t s changes = .ok s' ↔
    load environment t (override s.toArguments changes) = .ok s' := by
  rw [change]
  cases load environment t (override s.toArguments changes) with
  | error e => exact ⟨nofun, nofun⟩
  | ok s'' => exact Iff.rfl

theorem isSome_wanted (hf : f ∈ readings) : (s.wanted changes found f.1).isSome := by
  obtain ⟨v, hv⟩ := exists_lookup_toArguments hf s
  rw [wanted, hv]
  cases changes.lookup f.1 <;> rfl

/--
Settings are changed to those whose fields are the normal forms of what is wanted, if nothing is in
the way.
-/
theorem change_eq_ok_iff : change environment t s changes = .ok s' ↔
    ∃ found, sources environment t changes = .ok found ∧ found.strays = [] ∧ Known changes ∧
      Normalises (s.wanted changes found) s' := by
  rw [change_eq_ok_iff_load, load_override]
  cases sources environment t changes with
  | error e => exact ⟨nofun, fun ⟨_, h, _⟩ => nomatch h⟩
  | ok found =>
    let given := found.gathered fields (override s.toArguments changes)
    have hwanted : ∀ f ∈ readings, given.value f.1 = s.wanted changes found f.1 := fun f hf =>
      gathered_value (names_readings s ▸ List.mem_map_of_mem hf)
    have hnormal : Normalises given.value s' ↔ Normalises (s.wanted changes found) s' :=
      forall₂_congr fun f hf => by rw [hwanted f hf]
    have hread (f : Survey → Except Failure EngineSettings) : (.ok found >>= f) = f found := rfl
    rw [hread, read_eq_ok_iff_of_given fun f hf => hwanted f hf ▸ isSome_wanted hf,
      gathered_problems, hnormal, and_assoc]
    exact ⟨fun h => ⟨found, rfl, h⟩, fun ⟨_, heq, h⟩ => Except.ok.inj heq ▸ h⟩

/-- Settings after changes of known names, if nothing is wrong with what is found beside them. -/
def changed? (environment : Variables) (t : FileTree) (changes : List (String × Value))
    (s : EngineSettings) : Option EngineSettings :=
  (sources environment t changes).toOption.bind fun found =>
    if found.strays = [] then (read t.cwd (s.wanted changes found) []).toOption else none

variable {found₁ found₂ : Survey}

theorem Known.override (ha : Known a) (hb : Known b) : Known (override a b) := fun name hname =>
  (mem_map_override.mp hname).elim (ha name) (hb name)

/-- No field but the extensions takes an object. -/
theorem isObject_eq_false (hf : f ∈ readings) (hne : f.1 ≠ "extensions") {v w : Value}
    (h : f.2 v = some w) : v.isObject = false := by
  rw [Bool.eq_false_iff]
  intro hobject
  obtain ⟨fields, rfl⟩ := Value.isObject_iff.mp hobject
  simp only [readings, List.mem_cons, List.not_mem_nil, or_false] at hf
  rcases hf with rfl | rfl | rfl | rfl | rfl | rfl | rfl | rfl | rfl <;>
    first | exact hne rfl | cases h

theorem isObject_eq_false_of_normalises (hf : f ∈ readings) (hne : f.1 ≠ "extensions")
    (h : Normalises (s.wanted changes found) s') {v : Value}
    (hv : (changes.lookup f.1).or (s.toArguments.lookup f.1) = some v) : v.isObject = false := by
  obtain ⟨x, hx⟩ := exists_lookup_toArguments hf s'
  have h := h f hf
  rw [wanted, hv, hx] at h
  rw [Bool.eq_false_iff]
  exact fun hobject => absurd (isObject_eq_false hf hne h)
    (by rw [Value.isObject_overAny hobject]; decide)

theorem eq_of_mem_readings (hf : f ∈ readings) (h : f.1 = "extensions") :
    f = ("extensions", reread readExtensions writeTexts) := by
  simp only [readings, List.mem_cons, List.not_mem_nil, or_false] at hf
  rcases hf with rfl | rfl | rfl | rfl | rfl | rfl | rfl | rfl | rfl <;>
    first | rfl | exact absurd h (by decide)

theorem lookup_toArguments_of_ne {name : String} {extensions : List String}
    (h : name ≠ "extensions") :
    { s with extensions }.toArguments.lookup name = s.toArguments.lookup name := by
  simp only [toArguments, List.lookup_cons, beq_eq_false_iff_ne.mpr h]

/-- A field is the same after two changes as after both together, if what is found for it is. -/
theorem bind_wanted_override (hf : f ∈ readings) (h₁ : Normalises (s.wanted a found₁) s₁)
    (h₂ : Normalises (s₁.wanted b found₂) s₂)
    (hb : ∀ v, b.lookup f.1 = some v →
      v.overAny (found.value f.1) = v.overAny (found₂.value f.1))
    (ha : ∀ v, b.lookup f.1 = none → (a.lookup f.1).or (s.toArguments.lookup f.1) = some v →
      v.overAny (found.value f.1) = v.overAny (found₁.value f.1)) :
    (s.wanted (override a b) found f.1).bind f.2 = s₂.toArguments.lookup f.1 := by
  obtain ⟨x₁, hx₁⟩ := exists_lookup_toArguments hf s₁
  obtain ⟨x₂, hx₂⟩ := exists_lookup_toArguments hf s₂
  have h₁ := h₁ f hf
  have h₂ := h₂ f hf
  rw [wanted, hx₁] at h₁
  rw [wanted, hx₁, hx₂] at h₂
  rw [wanted, lookup_override, Option.or_assoc, hx₂]
  exact (stable_of_mem_readings hf).bind_bind h₁ h₂ hb ha

/--
If extensions are not the same after two changes as after both together, one of the changes gives
them as an object, beside which something else was found.
-/
theorem exists_object_of_ne (hfound₁ : sources environment t a = .ok found₁)
    (h₁ : Normalises (s.wanted a found₁) s₁) (hfound₂ : sources environment t b = .ok found₂)
    (h₂ : Normalises (s₁.wanted b found₂) s₂)
    (hne : (s.wanted (override a b) found "extensions").bind (reread readExtensions writeTexts)
      ≠ s₂.toArguments.lookup "extensions") :
    ∃ c ∈ [a, b], sources environment t c ≠ .ok found ∧
      ∃ fields, c.lookup "extensions" = some (.json (.object fields)) ∧
        (override a b).lookup "extensions" = some (.json (.object fields)) := by
  have hmem : ("extensions", reread readExtensions writeTexts) ∈ readings := by
    simp [readings]
  by_contra hnone
  refine hne (bind_wanted_override hmem h₁ h₂ (fun v hv => ?_) fun v hb hv => ?_)
  · by_contra hdiff
    obtain ⟨fields, rfl⟩ := Value.exists_object_of_ne hdiff
    refine hnone ⟨b, by simp, fun hsame => ?_, fields, hv, ?_⟩
    · exact hdiff (by rw [Except.ok.inj (hfound₂.symm.trans hsame)])
    · rw [lookup_override, hv, Option.some_or]
  · by_contra hdiff
    obtain ⟨fields, rfl⟩ := Value.exists_object_of_ne hdiff
    -- the settings themselves have a list of extensions
    have hv : a.lookup "extensions" = some (.json (.object fields)) := by
      cases ha : a.lookup "extensions" with
      | some v => simpa [ha] using hv
      | none =>
        rw [ha] at hv
        cases hv
    refine hnone ⟨a, by simp, fun hsame => ?_, fields, hv, ?_⟩
    · exact hdiff (by rw [Except.ok.inj (hfound₁.symm.trans hsame)])
    · rw [lookup_override, hb, hv, Option.none_or]

/-- Extensions that are given as an object are read, whatever they are merged with. -/
theorem exists_extensions (fields : List (String × Json)) (found : Option Json) :
    ∃ extensions, reread readExtensions writeTexts (Value.overAny (.json (.object fields)) found)
      = some (writeTexts extensions) := by
  obtain ⟨fields', heq⟩ := Value.isObject_iff.mp
    (Value.isObject_overAny (v := .json (.object fields)) rfl found)
  rw [heq]
  exact ⟨_, rfl⟩

/--
**Two changes together** give what they give one after the other, if the sources can be used. Only
extensions can be others: those that are given as an object, where something else is found.
-/
theorem change_override_of_found (h₁ : change environment t s a = .ok s₁)
    (h₂ : change environment t s₁ b = .ok s₂)
    (hfound : sources environment t (override a b) = .ok found) (hstrays : found.strays = []) :
    ∃ extensions, change environment t s (override a b) = .ok { s₂ with extensions } ∧
      (extensions ≠ s₂.extensions → ∃ c ∈ [a, b], sources environment t c ≠ .ok found ∧
        ∃ fields, c.lookup "extensions" = some (.json (.object fields))) := by
  obtain ⟨found₁, hfound₁, -, hknown₁, hnormal₁⟩ := change_eq_ok_iff.mp h₁
  obtain ⟨found₂, hfound₂, -, hknown₂, hnormal₂⟩ := change_eq_ok_iff.mp h₂
  have hothers : ∀ f ∈ readings, f.1 ≠ "extensions" →
      (s.wanted (override a b) found f.1).bind f.2 = s₂.toArguments.lookup f.1 := by
    intro f hf hne
    refine bind_wanted_override hf hnormal₁ hnormal₂ (fun v hv => ?_) fun v _ hv => ?_
    · have hvalue := isObject_eq_false_of_normalises hf hne hnormal₂
        (v := v) (by rw [hv, Option.some_or])
      rw [Value.overAny_eq hvalue, Value.overAny_eq hvalue]
    · have hvalue := isObject_eq_false_of_normalises hf hne hnormal₁ hv
      rw [Value.overAny_eq hvalue, Value.overAny_eq hvalue]
  have hchange : ∀ extensions,
      (s.wanted (override a b) found "extensions").bind (reread readExtensions writeTexts)
        = some (writeTexts extensions) →
      change environment t s (override a b) = .ok { s₂ with extensions } := by
    intro extensions hextensions
    refine change_eq_ok_iff.mpr
      ⟨found, hfound, hstrays, hknown₁.override hknown₂, fun f hf => ?_⟩
    by_cases hf' : f.1 = "extensions"
    · rw [eq_of_mem_readings hf hf']
      exact hextensions
    · exact (hothers f hf hf').trans (lookup_toArguments_of_ne hf').symm
  by_cases hsame : (s.wanted (override a b) found "extensions").bind
      (reread readExtensions writeTexts) = s₂.toArguments.lookup "extensions"
  · exact ⟨s₂.extensions, hchange _ hsame, fun h => absurd rfl h⟩
  · obtain ⟨c, hc, hsources, fields, hgiven, hlast⟩ :=
      exists_object_of_ne hfound₁ hnormal₁ hfound₂ hnormal₂ hsame
    obtain ⟨extensions, hread⟩ := exists_extensions fields (found.value "extensions")
    refine ⟨extensions, hchange extensions ?_, fun _ => ⟨c, hc, hsources, fields, hgiven⟩⟩
    rw [wanted, hlast]
    exact hread

/-- **Changes compose** if the sources say the same beside each of them and beside both. -/
theorem change_override (h₁ : change environment t s a = .ok s₁)
    (h₂ : change environment t s₁ b = .ok s₂)
    (ha : sources environment t a = sources environment t (override a b))
    (hb : sources environment t b = sources environment t (override a b)) :
    change environment t s (override a b) = .ok s₂ := by
  obtain ⟨found, hfound, hstrays, -⟩ := change_eq_ok_iff.mp h₂
  obtain ⟨extensions, hchange, hextensions⟩ :=
    change_override_of_found h₁ h₂ (hb.symm.trans hfound) hstrays
  have heq : extensions = s₂.extensions := by
    by_contra hne
    obtain ⟨c, hc, hsources, -⟩ := hextensions hne
    simp only [List.mem_cons, List.not_mem_nil, or_false] at hc
    rcases hc with rfl | rfl
    · exact hsources (ha.trans (hb.symm.trans hfound))
    · exact hsources hfound
  rw [hchange, heq]

/-- Changes to fields alone compose. -/
theorem change_override_of_no_options (h₁ : change environment t s a = .ok s₁)
    (h₂ : change environment t s₁ b = .ok s₂) (h : ∀ c ∈ a ++ b, c.1 ∉ SourceOptions.names) :
    change environment t s (override a b) = .ok s₂ := by
  have hnone : ∀ c ∈ override a b, c.1 ∉ SourceOptions.names :=
    forall_mem_override (P := (· ∉ SourceOptions.names)) h
  refine change_override h₁ h₂ ?_ ?_
  · rw [sources_of_no_options hnone,
      sources_of_no_options fun c hc => h c (List.mem_append_left b hc)]
  · rw [sources_of_no_options hnone,
      sources_of_no_options fun c hc => h c (List.mem_append_right a hc)]

/-! ## No change -/

/-- Settings that come from some sources. -/
def Loaded (s : EngineSettings) : Prop :=
  ∃ environment t arguments, load environment t arguments = .ok s

/-- Changed settings come from the same sources as others. -/
theorem loaded_change (h : change environment t s changes = .ok s') : s'.Loaded :=
  ⟨_, _, _, change_eq_ok_iff_load.mp h⟩

end LiveTemplates.EngineSettings

namespace LiveTemplates.AppSettings

open Settings

/-- A group is read from sources of its own, with arguments if it is given. -/
theorem exists_load_of_readGroup {α : Type} {name kind : String}
    {load : List (String × Value) → Except Failure α} {given : Option Value} {a : α}
    (h : readGroup name kind load given = .ok (.ok a)) : ∃ arguments, load arguments = .ok a := by
  unfold readGroup at h
  split at h
  · cases hload : load [] with
    | error e =>
      rw [hload] at h
      cases h
    | ok a' =>
      rw [hload] at h
      cases h
      exact ⟨[], hload⟩
  · split at h
    · next a' hload =>
      cases h
      exact ⟨_, hload⟩
    · cases h
    · split at h <;> cases h
  · cases h

theorem loaded_engine {environment : Variables} {t : FileTree} {program : AppSettings}
    {arguments : List (String × Value)} (h : load environment t arguments = .ok program) :
    program.engine.Loaded := by
  unfold load at h
  obtain ⟨given, -, h⟩ := bind_eq_ok h
  obtain ⟨engine, hengine, h⟩ := bind_eq_ok h
  obtain ⟨watcher, -, h⟩ := bind_eq_ok h
  obtain ⟨logging, -, h⟩ := bind_eq_ok h
  dsimp only at h
  split at h
  · cases h
    obtain ⟨arguments, hload⟩ := exists_load_of_readGroup hengine
    exact ⟨_, _, _, hload⟩
  · cases h

end LiveTemplates.AppSettings
