import LiveTemplates.Proofs.Engine.Disposal
import LiveTemplates.Proofs.Engine.MonitoredDirectory
import LiveTemplates.Proofs.Watch.Notices

/-!
# What a running engine heeds

In a session only the registered watchers take notice of anything. They watch the directory that the
engine monitors, each for files of one extension, with the ignore patterns and the delay of the
engine. So the engine takes notice of a path below its directory exactly if it would monitor a file
there (`heeds_iff`).
-/

namespace LiveTemplates.Engine

open Relation

variable {emit : Event → Engine → Engine} {s s' : Engine} {depth : Nat} {ws : List Nat} {i : Nat}
  {root p : Path} {K : EventBus Listener → Prop} {patterns : List String}

/-! ## Ignore patterns -/

/-- An engine has some ignore patterns, and so has every watcher of it. -/
structure Ignores (patterns : List String) (s : Engine) : Prop where
  engine : s.ignorePatterns = patterns
  watchers : ∀ x ∈ s.watchers.all, x.ignorePatterns = patterns

/-- One watcher after the other comes with the patterns of the engine and keeps them. -/
theorem Ignores.moves (h : Ignores patterns s) (hmoves : Moves s s') : Ignores patterns s' := by
  obtain ⟨hengine, hwatchers⟩ := h
  refine ⟨hmoves.ignorePatterns.trans hengine, fun x hx => ?_⟩
  have hset : ∀ {i y z}, s.watchers.all[i]? = some y → Watchers.Remains y z →
      x ∈ s.watchers.all.set i z → x.ignorePatterns = patterns := by
    intro i y z hy hz hmem
    rcases List.mem_or_eq_of_mem_set hmem with hmem | rfl
    · exact hwatchers x hmem
    · rw [hz.ignorePatterns]
      exact hwatchers y (List.mem_of_getElem? hy)
  have hstep := hmoves.step
  generalize s'.watchers = w at hx hstep
  cases hstep with
  | stays => exact hwatchers x hx
  | create root extension recursive delay faults =>
    rcases List.mem_append.mp hx with hx | hx
    · exact hwatchers x hx
    · obtain rfl := List.mem_singleton.mp hx
      exact hengine
  | start i =>
    cases hy : s.watchers.all[i]? with
    | none =>
      rw [Watchers.start_of_none hy] at hx
      exact hwatchers x hx
    | some y =>
      obtain ⟨z, hz, hall, _⟩ := Watchers.start_eq hy
      rw [hall] at hx
      exact hset hy hz hx
  | dispose i =>
    cases hy : s.watchers.all[i]? with
    | none =>
      rw [Watchers.dispose_of_none hy] at hx
      exact hwatchers x hx
    | some y =>
      obtain ⟨z, hz, _, hall, _⟩ := Watchers.dispose_eq hy
      rw [hall] at hx
      exact hset hy hz hx

theorem ignores_call (hkeeps : ∀ e s, Ignores patterns s → Ignores patterns (emit e s)) (c : Call)
    (s : Engine) (h : Ignores patterns s) : Ignores patterns (s.call emit c) := by
  cases hc : c.isControl with
  | false =>
    have hunmoved : Unmoved emit (Ignores patterns) fun _ => True := {
      toIndependent := .of_publishes hkeeps (fun _ hs => ⟨hs.engine, hs.watchers⟩)
        (fun _ hs => ⟨hs.engine, hs.watchers⟩) (fun _ hs => ⟨hs.engine, hs.watchers⟩)
      debouncers := fun _ hs => ⟨hs.engine, hs.watchers⟩
      callback := fun _ _ hs => ⟨hs.engine, hs.watchers⟩
      pending := fun _ _ _ => trivial }
    exact hunmoved.keeps_call hc h
  | true =>
    have henduring : Enduring emit (Ignores patterns) :=
      ⟨fun e => hkeeps e _, fun hs hmoves => hs.moves hmoves⟩
    exact henduring.keeps_call hc h

theorem Ignores.aside (haside : Aside s s') (h : Ignores patterns s) : Ignores patterns s' := by
  obtain ⟨_, _, _, _, _, _, _, rfl⟩ := haside
  exact ⟨h.engine, h.watchers⟩

/-- **All watchers have the ignore patterns of their engine.** -/
theorem ignores_reached (h : Reached depth s) : Ignores s.ignorePatterns s := by
  obtain ⟨_, ignorePatterns, _, _, _, _, hrun⟩ := h
  have hignores : Ignores ignorePatterns s := by
    refine keeps_run Ignores.aside (fun hanswered => ignores_call fun e s hs => ?_) hrun
      ⟨rfl, nofun⟩
    exact hanswered.keeps Ignores.aside (fun _ _ hs => ⟨hs.engine, hs.watchers⟩)
      (fun _ hkeeps => ignores_call hkeeps) e hs
  exact ⟨rfl, fun x hx => (hignores.watchers x hx).trans hignores.engine.symm⟩

/-! ## A session -/

/-- Whenever no call is in progress, watchers are attentive. -/
theorem attentive_reached (h : Reached depth s) : s.watchers.Attentive := by
  obtain ⟨_, _, _, _, _, _, hrun⟩ := h
  refine keeps_run (P := fun s => s.watchers.Attentive) ?_
    (fun hanswered => attentive_call (attentive_answered hanswered)) hrun
    Watchers.attentive_initial
  rintro s s' ⟨_, _, _, _, _, _, _, rfl⟩ hs
  exact hs

/-- What is reached with listeners of a kind is reached. -/
theorem reached_of_tactful {settings : EngineSettings} {ignorePatterns : List String}
    {environment : Settings.Variables} {tree : FileTree} {faults : Faults}
    {program : Option AppSettings} (hrun : ReflTransGen (HappensAmong K (Tactful K depth))
      (initial settings ignorePatterns environment tree faults program) s) : Reached depth s := by
  refine ⟨_, _, _, _, _, _, ReflTransGen.mono (fun _ _ hstep => ?_) _ _ hrun⟩
  cases hstep with
  | call c hemit => exact .call c hemit.answered
  | aside haside _ => exact .aside haside

/-- An engine in a session in which its registered watchers watch a directory. -/
structure Watches (s : Engine) (ws : List Nat) (root : Path) : Prop extends InSession s ws where
  attentive : s.watchers.Attentive
  ignores : Ignores s.ignorePatterns s
  rootAt : ∀ i ∈ ws, s.watchers.rootAt i = some root

namespace Watches

variable (h : Watches s ws root)
include h

/-- Whoever observes and is not gone is registered. -/
theorem registered_of_observing (hobserving : i ∈ s.watchers.observing)
    (hgone : s.watchers.gone? i = some false) : i ∈ ws := by
  by_cases hi : i ∈ ws
  · exact hi
  · obtain ⟨x, hx, htold⟩ := h.attentive.observing i hobserving
    rw [h.retired hx htold hi] at hgone
    cases hgone

theorem waits_of_observing (hobserving : i ∈ s.watchers.observing)
    (hgone : s.watchers.gone? i = some false) :
    s.watchers.Waits s.settings.processDelayMs i :=
  h.waits i (h.registered_of_observing hobserving hgone)

/-- **What a running engine takes notice of**: of what it would monitor, by extension. -/
theorem heeds_iff (p : Path) :
    i ∈ s.watchers.observing ∧ s.watchers.Heeds i p ↔ i ∈ ws ∧
      p.hasExtension (s.watchers.extensionAt i) = true ∧
      ((p.below? root).getD p).isIgnored s.ignorePatterns = false := by
  have haccepts : ∀ {x}, i ∈ ws → s.watchers.all[i]? = some x → (x.filter.accepts p = true ↔
      p.hasExtension (s.watchers.extensionAt i) = true ∧
        ((p.below? root).getD p).isIgnored s.ignorePatterns = false) := by
    intro x hi hx
    have hroot := h.rootAt i hi
    rw [Watchers.rootAt, hx] at hroot
    unfold WatchFilter.accepts WatchFilter.visiblePart FolderWatcher.filter Watchers.extensionAt
    rw [hx, h.ignores.watchers x (List.mem_of_getElem? hx), Option.some.inj hroot]
    simp
  constructor
  · rintro ⟨hobserving, hgone, x, hx, hxaccepts⟩
    have hi := h.registered_of_observing hobserving hgone
    exact ⟨hi, (haccepts hi hx).mp hxaccepts⟩
  · rintro ⟨hi, hfits⟩
    obtain ⟨x, hx, _, hobserving, hgone⟩ := h.watching i hi
    exact ⟨hobserving, hgone, x, hx, (haccepts hi hx).mpr hfits⟩

end Watches

/-- A running engine watches its directory, if listeners were tactful. -/
theorem watches_of_running {settings : EngineSettings} {ignorePatterns : List String}
    {environment : Settings.Variables} {tree : FileTree} {faults : Faults}
    {program : Option AppSettings} (hkind : K .initial)
    (hrun : ReflTransGen (HappensAmong K (Tactful K depth))
      (initial settings ignorePatterns environment tree faults program) s)
    (hrunning : s.state = .running) :
    ∃ ws root, Watches s ws root ∧ s.monitorPath = some root := by
  have hreached := reached_of_tactful hrun
  have hsettled := settled_reached hreached
  cases hsettled with
  | stopped hstopped _ =>
    rw [hrunning] at hstopped
    cases hstopped
  | running _ hsession =>
    obtain ⟨root, hroot, hwatched⟩ := (sound_run hkind hrun).watched hsession.registered
    exact ⟨_, root,
      ⟨hsession, attentive_reached hreached, ignores_reached hreached, hwatched⟩, hroot⟩

end LiveTemplates.Engine
