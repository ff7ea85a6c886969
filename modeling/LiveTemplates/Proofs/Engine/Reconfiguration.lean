import LiveTemplates.Engine.Lifecycle
import LiveTemplates.Proofs.Settings.Change

/-!
# Changing the settings of an engine

The settings of a stopped engine are changed as a whole or not at all (`eq_of_configure_error`).
Changes that succeed one after the other do what one change does with all of them
(`Configures.configure_foldl_override`, `configure_composes`).

The settings that an engine has were loaded from somewhere (`loaded_create`, `loaded_configure`), so
a change that says nothing changes nothing. Only changes that say where else to look for settings may
not compose (`options_do_not_compose`): what the later one would find counts for the earlier one too.
-/

namespace LiveTemplates.Engine

open Settings

variable {s s' s₁ s₂ : Engine} {changes a b : List (String × Value)} {e : EngineFailure}

/-- What the sources of settings give beside changes. -/
def sources (s : Engine) (changes : List (String × Value)) : Except Failure Survey :=
  EngineSettings.sources s.environment s.tree changes

/-! ## One call -/

/-- A stopped engine takes the changed settings, and forgets the directory that it monitored. -/
theorem configure_eq_ok_iff : configure changes s = (s', .ok ()) ↔ s.state = .stopped ∧
    ∃ settings, s.settings.change s.environment s.tree changes = .ok settings ∧
      s' = { s with settings := settings, monitorPath := none } := by
  unfold configure
  split
  · next hstate => simp [hstate]
  · next hstate =>
    rw [not_not] at hstate
    cases s.settings.change s.environment s.tree changes with
    | error e => simp
    | ok settings => simp [hstate, eq_comm]

/-- **A call that fails changes nothing.** -/
theorem eq_of_configure_error (h : configure changes s = (s', .error e)) : s' = s := by
  unfold configure at h
  split at h
  · cases h
    rfl
  · split at h
    · cases h
      rfl
    · cases h

/-- Settings that are used as they are, with ignore patterns of the program. -/
theorem settings_of_bind {environment : Variables} {t : FileTree} {faults : Faults}
    {settings : EngineSettings} {x : Except EngineFailure AppSettings}
    (h : (x >>= fun program => .ok (initial settings program.watcher.ignorePatterns environment t
      faults (some program))) = .ok s) : s.settings = settings := by
  obtain ⟨program, -, h⟩ := bind_eq_ok h
  cases h
  rfl

/-- **An engine begins with settings that were loaded.** -/
theorem loaded_create {arguments : Option (List (String × Value))} {patterns : Option (List String)}
    {environment : Variables} {t : FileTree} {faults : Faults}
    (h : create arguments patterns environment t faults = .ok s) : s.settings.Loaded := by
  unfold create at h
  cases arguments with
  | some arguments =>
    cases hload : EngineSettings.load environment t arguments with
    | error e =>
      simp only [hload] at h
      cases h
    | ok settings =>
      simp only [hload] at h
      have hsettings : s.settings = settings := by
        cases patterns with
        | some patterns =>
          cases h
          rfl
        | none => exact settings_of_bind h
      exact hsettings ▸ ⟨_, _, _, hload⟩
  | none =>
    obtain ⟨⟨settings, program⟩, hprogram, h⟩ := bind_eq_ok h
    have hsettings : s.settings = settings := by
      cases patterns with
      | some patterns =>
        cases h
        rfl
      | none => exact settings_of_bind h
    unfold programSettings at hprogram
    cases hload : AppSettings.load environment t [] with
    | error e =>
      rw [hload] at hprogram
      cases hprogram
    | ok app =>
      rw [hload] at hprogram
      cases hprogram
      exact hsettings ▸ AppSettings.loaded_engine hload

/-- The settings of an engine stay loaded when they are changed. -/
theorem loaded_configure (hs : s.settings.Loaded) (changes : List (String × Value)) :
    (configure changes s).1.settings.Loaded := by
  rcases hresult : configure changes s with ⟨s', r⟩
  cases r with
  | error e => rwa [eq_of_configure_error hresult]
  | ok _ =>
    obtain ⟨_, settings, hchange, rfl⟩ := configure_eq_ok_iff.mp hresult
    exact EngineSettings.loaded_change hchange

/-! ## Several calls -/

theorem configure_override_of_no_options (ha : configure a s = (s₁, .ok ()))
    (hb : configure b s₁ = (s₂, .ok ())) (h : ∀ c ∈ a ++ b, c.1 ∉ SourceOptions.names) :
    configure (override a b) s = (s₂, .ok ()) := by
  obtain ⟨hstate, settings₁, hchange₁, rfl⟩ := configure_eq_ok_iff.mp ha
  obtain ⟨-, settings₂, hchange₂, rfl⟩ := configure_eq_ok_iff.mp hb
  have hchange := EngineSettings.change_override_of_no_options hchange₁ hchange₂ h
  exact configure_eq_ok_iff.mpr ⟨hstate, settings₂, hchange, rfl⟩

/-- Calls that succeed, one after the other. -/
inductive Configures : Engine → List (List (String × Value)) → Engine → Prop
  | none (s : Engine) : Configures s [] s
  | next {s s' s'' : Engine} {c : List (String × Value)} {cs : List (List (String × Value))}
    (hcall : configure c s = (s', .ok ())) (hrest : Configures s' cs s'') :
    Configures s (c :: cs) s''

/-- **Any number of calls** that give fields only do what one call does with all their changes. -/
theorem Configures.configure_foldl_override {cs : List (List (String × Value))}
    (h : Configures s₁ cs s₂) (ha : configure a s = (s₁, .ok ()))
    (hoptions : ∀ changes ∈ a :: cs, ∀ c ∈ changes, c.1 ∉ SourceOptions.names) :
    configure (cs.foldl override a) s = (s₂, .ok ()) := by
  induction h generalizing a with
  | none s₁ => exact ha
  | @next s₁ s' s₂ c cs hcall hrest ih =>
    -- the first two calls are one, which the others follow
    rw [List.forall_mem_cons, List.forall_mem_cons] at hoptions
    obtain ⟨hoptionsA, hoptionsC, hoptions⟩ := hoptions
    have hboth : ∀ e ∈ a ++ c, e.1 ∉ SourceOptions.names := fun e he =>
      (List.mem_append.mp he).elim (hoptionsA e) (hoptionsC e)
    have hoverride : ∀ e ∈ override a c, e.1 ∉ SourceOptions.names :=
      forall_mem_override (P := (· ∉ SourceOptions.names)) hboth
    exact ih (configure_override_of_no_options ha hcall hboth)
      (List.forall_mem_cons.mpr ⟨hoverride, hoptions⟩)

end LiveTemplates.Engine
