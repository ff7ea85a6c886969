import LiveTemplates.Proofs.Debounce.Timers
import LiveTemplates.Proofs.Number.Rounding

/-!
# What watchers take notice of

An event that announces new content for a path reaches all watchers whose observers run. Those that
are not gone and whose filter accepts the path take notice of it (`Heeds`), once, whatever else they
have taken notice of. After some events the changes that are pending with a watcher are therefore
those that it heeds (`Noticed`).
-/

namespace LiveTemplates

/-- Whether an event says that a path has new content. -/
def FileEvent.Announces (e : FileEvent) (p : Path) : Prop :=
  ∃ change raw text, e.changed? = some (change, raw) ∧ raw.decode = .ok text ∧
    Path.ofString text = p

/-- A filter lets an event through if it accepts the path. -/
theorem WatchFilter.forward_of_announces {e : FileEvent} {p : Path} (h : e.Announces p)
    (f : WatchFilter) :
    (f.accepts p = true → ∃ entry, f.forward e = .ok (some (p, entry))) ∧
      (f.accepts p = false → f.forward e = .ok none) := by
  obtain ⟨change, raw, text, hchanged, hdecode, rfl⟩ := h
  unfold forward
  rw [hchanged]
  dsimp only
  rw [hdecode]
  dsimp only
  constructor
  · intro haccepts
    rw [if_pos haccepts]
    exact ⟨_, rfl⟩
  · intro hrefuses
    rw [if_neg (by simp [hrefuses])]

namespace Watchers

variable {w w' : Watchers} {i : Nat} {p q : Path} {ps : List Path} {e : FileEvent} {ms : Int}

/-- Whether the watcher at a place takes notice of a path when it is told of it. -/
def Heeds (w : Watchers) (i : Nat) (p : Path) : Prop :=
  w.gone? i = some false ∧ ∃ x, w.all[i]? = some x ∧ x.filter.accepts p = true

theorem Continues.heeds_iff (h : w.Continues w') : w'.Heeds i p ↔ w.Heeds i p := by
  unfold Heeds
  rw [h.gone_eq, h.all]

/-- Some watchers took notice of a path. -/
structure Hears (ms : Int) (p : Path) (l : List Nat) (w w' : Watchers) : Prop where
  continues : w.Continues w'
  now : w'.debouncers.clock.now = w.debouncers.clock.now
  armed : w'.debouncers.Armed (w.debouncers.clock.now + 1000 * ms)
  pending : ∀ i q, q ∈ w'.debouncers.pendingPaths i ↔
    q ∈ w.debouncers.pendingPaths i ∨ i ∈ l ∧ w.Heeds i p ∧ q = p

/-- A watcher that waits long enough takes notice of a path. -/
theorem hears_notify (htidy : w.Tidy) {x : FolderWatcher} (hx : w.all[i]? = some x)
    (haccepts : x.filter.accepts p = true) (hlow : 0 ≤ ms) (hhigh : ms ≤ 2 ^ 32)
    (hwaits : w.gone? i = some false → w.Waits ms i)
    (harmed : w.debouncers.Armed (w.debouncers.clock.now + 1000 * ms)) :
    Hears ms p [i] w { w with debouncers := w.debouncers.notify x.debouncer p } := by
  rw [htidy.owner hx]
  have hlt : i < w.debouncers.all.length := htidy.length ▸ (List.getElem?_eq_some_iff.mp hx).1
  obtain ⟨d, hd⟩ : ∃ d, w.debouncers.all[i]? = some d := ⟨_, List.getElem?_eq_getElem hlt⟩
  have hgone : w.gone? i = some d.disposed := by
    rw [gone?, List.getElem?_map, hd]
    rfl
  refine ⟨continues_with (Debouncers.continues_notify _ _ _), Debouncers.now_notify _ _ _, ?_, ?_⟩
  · refine harmed.notify hd (fun hdisposed => ?_) p
    obtain ⟨delay, hdelay, hdelayAt⟩ := hwaits (by rw [hgone, hdisposed])
    rw [Delay.ofMilliseconds_eq hlow hhigh] at hdelay
    rw [delayAt, List.getElem?_map, hd] at hdelayAt
    obtain rfl := Except.ok.inj hdelay
    rw [Option.some.inj hdelayAt]
  · intro j q
    show q ∈ (w.debouncers.notify i p).pendingPaths j ↔ _
    rw [Debouncers.mem_pendingPaths_notify]
    constructor
    · rintro (h | ⟨rfl, rfl, y, hy, hdisposed⟩)
      · exact .inl h
      · obtain rfl := Option.some.inj (hd.symm.trans hy)
        exact .inr ⟨List.mem_singleton_self _, ⟨by rw [hgone, hdisposed], x, hx, haccepts⟩, rfl⟩
    · rintro (h | ⟨hmem, ⟨hgone', _⟩, rfl⟩)
      · exact .inl h
      · obtain rfl := List.mem_singleton.mp hmem
        exact .inr ⟨rfl, rfl, d, hd, Option.some.inj (hgone.symm.trans hgone')⟩

theorem hears_refl {l : List Nat} (harmed : w.debouncers.Armed (w.debouncers.clock.now + 1000 * ms))
    (hnone : ∀ i ∈ l, ¬ w.Heeds i p) : Hears ms p l w w := by
  refine ⟨.refl w, rfl, harmed, fun i q => ?_⟩
  constructor
  · exact .inl
  · rintro (h | ⟨hi, hheeds, _⟩)
    · exact h
    · exact absurd hheeds (hnone i hi)

theorem Hears.trans {w'' : Watchers} {l l' : List Nat} (h : Hears ms p l w w')
    (h' : Hears ms p l' w' w'') : Hears ms p (l ++ l') w w'' := by
  refine ⟨h.continues.trans h'.continues, h'.now.trans h.now, h.now ▸ h'.armed, fun i q => ?_⟩
  rw [h'.pending, h.pending, h.continues.heeds_iff, List.mem_append]
  constructor
  · rintro ((h | ⟨hi, hrest⟩) | ⟨hi, hrest⟩)
    · exact .inl h
    · exact .inr ⟨.inl hi, hrest⟩
    · exact .inr ⟨.inr hi, hrest⟩
  · rintro (h | ⟨hi | hi, hrest⟩)
    · exact .inl (.inl h)
    · exact .inl (.inr ⟨hi, hrest⟩)
    · exact .inr ⟨hi, hrest⟩

/-- **An event reaches all watchers that heed its path.** -/
theorem hears_dispatchTo (he : e.Announces p) (hlow : 0 ≤ ms) (hhigh : ms ≤ 2 ^ 32) (l : List Nat)
    (htidy : w.Tidy) (hwaits : ∀ i ∈ l, w.gone? i = some false → w.Waits ms i)
    (harmed : w.debouncers.Armed (w.debouncers.clock.now + 1000 * ms)) :
    Hears ms p l w (w.dispatchTo e l).1 := by
  induction l generalizing w with
  | nil => exact hears_refl harmed fun _ hj => absurd hj List.not_mem_nil
  | cons i rest ih =>
    have hrest := fun j hj => hwaits j (List.mem_cons_of_mem _ hj)
    -- A watcher that takes no notice is passed over.
    have hpassed : ¬ w.Heeds i p → Hears ms p (i :: rest) w (w.dispatchTo e rest).1 := by
      intro hheeds
      have hfirst : Hears ms p [i] w w := hears_refl harmed fun j hj => by
        rwa [List.mem_singleton.mp hj]
      exact hfirst.trans (ih htidy hrest harmed)
    rw [dispatchTo]
    split
    · next hx =>
      refine hpassed ?_
      rintro ⟨_, x, hx', _⟩
      rw [hx] at hx'
      cases hx'
    · next x hx =>
      obtain ⟨haccepted, hrefused⟩ := x.filter.forward_of_announces he
      cases haccepts : x.filter.accepts p with
      | false =>
        rw [hrefused haccepts]
        refine hpassed ?_
        rintro ⟨_, y, hy, hyaccepts⟩
        obtain rfl := Option.some.inj (hx.symm.trans hy)
        rw [haccepts] at hyaccepts
        cases hyaccepts
      | true =>
        obtain ⟨entry, hforward⟩ := haccepted haccepts
        rw [hforward]
        have hfirst := hears_notify htidy hx haccepts hlow hhigh
          (hwaits i List.mem_cons_self) harmed
        refine hfirst.trans (ih (hfirst.continues.tidy htidy) (fun j hj hgone => ?_) ?_)
        · exact hfirst.continues.waits (hrest j hj (hfirst.continues.gone_eq j ▸ hgone))
        · rw [hfirst.now]
          exact hfirst.armed

/-- Since nothing was pending, events announced some paths. -/
structure Noticed (ms : Int) (w : Watchers) (ps : List Path) (w' : Watchers) : Prop where
  continues : w.Continues w'
  now : w'.debouncers.clock.now = w.debouncers.clock.now
  armed : w'.debouncers.Armed (w.debouncers.clock.now + 1000 * ms)
  pending : ∀ i q, q ∈ w'.debouncers.pendingPaths i ↔ i ∈ w.observing ∧ w.Heeds i q ∧ q ∈ ps

theorem noticed_nil (ms : Int) (hidle : ∀ d ∈ w.debouncers.all, d.pending = []) :
    Noticed ms w [] w := by
  refine ⟨.refl w, rfl, Debouncers.armed_of_pending_eq_nil _ hidle, fun i q => ?_⟩
  constructor
  · intro hq
    unfold Debouncers.pendingPaths at hq
    cases hd : w.debouncers.all[i]? with
    | none => simp [hd] at hq
    | some d => simp [hd, Debouncer.pendingPaths, hidle d (List.mem_of_getElem? hd)] at hq
  · rintro ⟨_, _, hq⟩
    cases hq

/-- One more path is announced. -/
theorem Noticed.dispatch (h : Noticed ms w ps w') (he : e.Announces p) (hlow : 0 ≤ ms)
    (hhigh : ms ≤ 2 ^ 32) (htidy : w.Tidy)
    (hwaits : ∀ i ∈ w.observing, w.gone? i = some false → w.Waits ms i) :
    Noticed ms w (ps ++ [p]) (w'.dispatch e).1 := by
  have hheard : Hears ms p w'.observing w' (w'.dispatch e).1 := by
    refine hears_dispatchTo he hlow hhigh _ (h.continues.tidy htidy) (fun i hi hgone => ?_) ?_
    · rw [h.continues.observing] at hi
      exact h.continues.waits (hwaits i hi (h.continues.gone_eq i ▸ hgone))
    · rw [h.now]
      exact h.armed
  refine ⟨h.continues.trans hheard.continues, hheard.now.trans h.now, h.now ▸ hheard.armed, ?_⟩
  intro i q
  rw [hheard.pending, h.pending, h.continues.observing, h.continues.heeds_iff, List.mem_append,
    List.mem_singleton]
  constructor
  · rintro (⟨hi, hheeds, hq⟩ | ⟨hi, hheeds, rfl⟩)
    · exact ⟨hi, hheeds, .inl hq⟩
    · exact ⟨hi, hheeds, .inr rfl⟩
  · rintro ⟨hi, hheeds, hq | rfl⟩
    · exact .inl ⟨hi, hheeds, hq⟩
    · exact .inr ⟨hi, hheeds, rfl⟩

end Watchers

end LiveTemplates
