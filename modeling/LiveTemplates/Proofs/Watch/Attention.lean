import LiveTemplates.Proofs.Watch.Tidy

/-!
# Who pays attention

The events of the tree reach the watchers whose observers run, and an observer runs only after its
watcher was told to start. So changes are pending only with watchers that were told to
(`Attentive`). With the end of a session, which disposes of all of these, nobody pays attention any
more (`Hushed`).
-/

namespace LiveTemplates

namespace Debouncers

variable {d d' : Debouncers} {i j : Nat}

/-- In what is pending with each debouncer there is nothing new. -/
def Shrinks (d d' : Debouncers) : Prop :=
  ∀ ⦃j : Nat⦄ ⦃y : Debouncer⦄, d'.all[j]? = some y →
    ∃ x, d.all[j]? = some x ∧ y.pending ⊆ x.pending

theorem shrinks_of_all (h : d'.all = d.all) : d.Shrinks d' :=
  fun _ y hy => ⟨y, h ▸ hy, List.Subset.refl _⟩

theorem shrinks_set {x y : Debouncer} (hx : d.all[i]? = some x) (hall : d'.all = d.all.set i y)
    (hy : y.pending ⊆ x.pending) : d.Shrinks d' := by
  intro j z hz
  rw [hall, List.getElem?_set] at hz
  by_cases hij : i = j
  · subst hij
    rw [if_pos rfl, if_pos (List.getElem?_eq_some_iff.mp hx).1] at hz
    cases hz
    exact ⟨x, hx, hy⟩
  · rw [if_neg hij] at hz
    exact ⟨z, hz, List.Subset.refl _⟩

theorem shrinks_expire (d : Debouncers) (e : Expiry) : d.Shrinks (d.expire e).1 := by
  cases hx : d.all[e.owner]? with
  | none => rw [expire_of_none hx]; exact shrinks_of_all rfl
  | some x =>
    refine shrinks_set hx (all_expire hx) ?_
    unfold Debouncer.expire
    split
    · exact List.filter_sublist.subset
    · exact List.Subset.refl _

theorem shrinks_flush (d : Debouncers) (i : Nat) : d.Shrinks (d.flush i).1 := by
  cases hx : d.all[i]? with
  | none => rw [flush_of_none hx]; exact shrinks_of_all rfl
  | some x => exact shrinks_set hx (all_flush hx) (List.nil_subset _)

theorem shrinks_dispose (d : Debouncers) (i : Nat) : d.Shrinks (d.dispose i).1 := by
  cases hx : d.all[i]? with
  | none => rw [dispose_of_none hx]; exact shrinks_of_all rfl
  | some x => exact shrinks_set hx (all_dispose hx) (List.nil_subset _)

/-- A notice is nothing to the other debouncers. -/
theorem getElem?_notify_of_ne (d : Debouncers) (p : Path) (hij : i ≠ j) :
    (d.notify i p).all[j]? = d.all[j]? := by
  cases hx : d.all[i]? with
  | none => rw [notify_of_none hx]
  | some x => rw [all_notify hx, List.getElem?_set_ne hij]

/-- A debouncer that was disposed of takes no notice. -/
theorem all_notify_of_disposed {x : Debouncer} (hx : d.all[i]? = some x)
    (hdisposed : x.disposed = true) (p : Path) : (d.notify i p).all = d.all := by
  rw [all_notify hx, Debouncer.notify, if_pos hdisposed, set_self hx]

end Debouncers

namespace Watchers

variable {w w' : Watchers} {i : Nat}

/-- Whether the watcher at a place was told to start. -/
def Told (w : Watchers) (i : Nat) : Prop :=
  ∃ x, w.all[i]? = some x ∧ x.told = true

/-- Only watchers that were told to start pay attention to changes. -/
structure Attentive (w : Watchers) : Prop where
  tidy : w.Tidy
  observing : ∀ i ∈ w.observing, w.Told i
  pending : ∀ {i d}, w.debouncers.all[i]? = some d → d.pending ≠ [] → w.Told i

theorem attentive_initial : Watchers.initial.Attentive :=
  ⟨tidy_initial, nofun, fun h => by simp [Watchers.initial, Debouncers.initial] at h⟩

/-- Debouncers may forget changes. -/
theorem Attentive.shrinks {d : Debouncers} (h : w.Attentive) (hd : w.debouncers.Continues d)
    (hshrinks : w.debouncers.Shrinks d) : ({ w with debouncers := d } : Watchers).Attentive where
  tidy := (continues_with hd).tidy h.tidy
  observing := h.observing
  pending {i y} hy hne := by
    obtain ⟨x, hx, hsubset⟩ := hshrinks hy
    refine h.pending hx fun hnil => hne ?_
    rw [hnil] at hsubset
    exact List.subset_nil.mp hsubset

/-- Watchers whose observers run may take notice of changes. -/
theorem Attentive.notify (h : w.Attentive) (hi : i ∈ w.observing) {x : FolderWatcher}
    (hx : w.all[i]? = some x) (p : Path) :
    ({ w with debouncers := w.debouncers.notify x.debouncer p } : Watchers).Attentive where
  tidy := (continues_with (Debouncers.continues_notify _ _ _)).tidy h.tidy
  observing := h.observing
  pending {j y} hy hne := by
    rw [h.tidy.owner hx] at hy
    by_cases hij : i = j
    · exact hij ▸ h.observing i hi
    · rw [Debouncers.getElem?_notify_of_ne _ _ hij] at hy
      exact h.pending hy hne

theorem Told.create (h : w.Told i) (root : Path) (extension : String) (recursive : Bool)
    (ignorePatterns : List String) (delay : Delay) (faults : List WatchFault) :
    (w.create root extension recursive ignorePatterns delay faults).Told i := by
  obtain ⟨x, hx, htold⟩ := h
  refine ⟨x, ?_, htold⟩
  show (w.all ++ [_])[i]? = some x
  rw [List.getElem?_append_left (List.getElem?_eq_some_iff.mp hx).1, hx]

theorem Told.start (h : w.Told i) (j : Nat) : (w.start j).1.Told i := by
  obtain ⟨x, hx, htold⟩ := h
  by_cases hij : j = i
  · subst hij
    unfold Watchers.start
    rw [hx]
    dsimp only
    split
    · exact ⟨x, hx, htold⟩
    · have hlt := (List.getElem?_eq_some_iff.mp hx).1
      split
      · exact ⟨_, List.getElem?_set_self hlt, rfl⟩
      · exact ⟨_, List.getElem?_set_self hlt, rfl⟩
  · exact ⟨x, (w.getElem?_start_of_ne hij).trans hx, htold⟩

theorem Told.dispose (h : w.Told i) (j : Nat) : (w.dispose j).1.Told i := by
  obtain ⟨x, hx, htold⟩ := h
  cases hz : w.all[j]? with
  | none => rw [dispose_of_none hz]; exact ⟨x, hx, htold⟩
  | some z =>
    obtain ⟨y, _, hy, hall, _⟩ := dispose_eq hz
    unfold Told
    rw [hall]
    by_cases hij : j = i
    · subst hij
      obtain rfl : z = x := Option.some.inj (hz.symm.trans hx)
      exact ⟨y, List.getElem?_set_self (List.getElem?_eq_some_iff.mp hz).1, hy.trans htold⟩
    · exact ⟨x, (List.getElem?_set_ne hij).trans hx, htold⟩

/-- A watcher that is observing after a start was so before, or is the one that was started. -/
theorem mem_observing_start {j : Nat} (h : i ∈ (w.start j).1.observing) :
    i ∈ w.observing ∨ (w.start j).1.Told i := by
  cases hx : w.all[j]? with
  | none => rw [start_of_none hx] at h; exact .inl h
  | some x =>
    unfold start at h ⊢
    rw [hx] at h ⊢
    dsimp only at h ⊢
    split at h
    · exact .inl h
    · split at h
      · exact .inl h
      · next hrunning hfault =>
        rcases List.mem_append.mp h with h | h
        · exact .inl h
        · obtain rfl := List.mem_singleton.mp h
          rw [if_neg hrunning, if_neg hfault]
          exact .inr ⟨_, List.getElem?_set_self (List.getElem?_eq_some_iff.mp hx).1, rfl⟩

theorem observing_dispose (w : Watchers) (j : Nat) : (w.dispose j).1.observing ⊆ w.observing := by
  unfold dispose
  split
  · exact List.Subset.refl _
  · dsimp only
    split
    · exact List.Subset.refl _
    · exact List.filter_sublist.subset

/-- What is done to one watcher after another keeps watchers attentive. -/
theorem Moves.attentive (hmoves : w.Moves w') (h : w.Attentive) : w'.Attentive := by
  have htidy := hmoves.tidy h.tidy
  cases hmoves with
  | stays => exact h
  | create root extension recursive ignorePatterns delay faults =>
    refine ⟨htidy, fun i hi => (h.observing i hi).create .., fun {i d} hd hne => ?_⟩
    rw [debouncers_create] at hd
    rcases getElem?_concat hd with hd | ⟨_, rfl⟩
    · exact (h.pending hd hne).create ..
    · exact absurd rfl hne
  | start j =>
    refine ⟨htidy, fun i hi => ?_, fun {i d} hd hne => ?_⟩
    · rcases mem_observing_start hi with hi | htold
      · exact (h.observing i hi).start j
      · exact htold
    · rw [debouncers_start] at hd
      exact (h.pending hd hne).start j
  | dispose j =>
    refine ⟨htidy, fun i hi => (h.observing i (observing_dispose w j hi)).dispose j, ?_⟩
    intro i y hy hne
    have hshrinks : w.debouncers.Shrinks (w.dispose j).1.debouncers := by
      cases hx : w.all[j]? with
      | none => rw [dispose_of_none hx]; exact Debouncers.shrinks_of_all rfl
      | some x =>
        obtain ⟨_, _, _, _, hdebouncers⟩ := dispose_eq hx
        rw [hdebouncers]
        exact Debouncers.shrinks_dispose _ _
    obtain ⟨x, hx, hsubset⟩ := hshrinks hy
    refine (h.pending hx fun hnil => hne ?_).dispose j
    rw [hnil] at hsubset
    exact List.subset_nil.mp hsubset

/-- Nobody pays attention: nothing is pending, and whoever observes was disposed of. -/
structure Hushed (w : Watchers) : Prop where
  tidy : w.Tidy
  observing : ∀ i ∈ w.observing, w.gone? i = some true
  pending : ∀ d ∈ w.debouncers.all, d.pending = []

/-- **When all that were told to start are gone, nobody pays attention.** -/
theorem Attentive.hushed (h : w.Attentive) (hretired : w.RetiredBut []) : w.Hushed where
  tidy := h.tidy
  observing i hi := by
    obtain ⟨x, hx, htold⟩ := h.observing i hi
    exact hretired hx htold List.not_mem_nil
  pending d hd := by
    obtain ⟨i, hi⟩ := List.mem_iff_getElem?.mp hd
    by_cases hne : d.pending = []
    · exact hne
    · obtain ⟨x, hx, htold⟩ := h.pending hi hne
      obtain ⟨d', hd', hdisposed⟩ := exists_of_gone (hretired hx htold List.not_mem_nil)
      obtain rfl : d = d' := Option.some.inj (hi.symm.trans hd')
      exact h.tidy.calm d hd hdisposed

theorem Hushed.shrinks {d : Debouncers} (h : w.Hushed) (hd : w.debouncers.Continues d)
    (hshrinks : w.debouncers.Shrinks d) : ({ w with debouncers := d } : Watchers).Hushed where
  tidy := (continues_with hd).tidy h.tidy
  observing i hi := ((continues_with hd).gone_eq i).trans (h.observing i hi)
  pending y hy := by
    obtain ⟨j, hj⟩ := List.mem_iff_getElem?.mp hy
    obtain ⟨x, hx, hsubset⟩ := hshrinks hj
    rw [h.pending x (List.mem_of_getElem? hx)] at hsubset
    exact List.subset_nil.mp hsubset

/-- A notice goes unheeded. -/
theorem Hushed.all_notify (h : w.Hushed) (hi : i ∈ w.observing) {x : FolderWatcher}
    (hx : w.all[i]? = some x) (p : Path) :
    (w.debouncers.notify x.debouncer p).all = w.debouncers.all := by
  obtain ⟨d, hd, hdisposed⟩ := exists_of_gone (h.observing i hi)
  rw [h.tidy.owner hx]
  exact Debouncers.all_notify_of_disposed hd hdisposed p

end Watchers

end LiveTemplates
