import LiveTemplates.Proofs.Engine.Calls

/-!
# Listeners that leave an engine alone

A listener may take notes, fail, or end a subscription without using the engine. If all listeners
are like that, the publication of an event changes nothing but the record of what was published and
what listeners did (`passive_publish`).
-/

namespace LiveTemplates

/-- Whether an action does nothing to an engine but to end a subscription. -/
def ListenerAction.isQuiet : ListenerAction → Bool
  | .record | .fail | .unsubscribe _ => true
  | _ => false

namespace Engine

variable {emit : Event → Engine → Engine} {s s' : Engine}

/-- No listener of a bus uses the engine. -/
def Quiet (b : EventBus Listener) : Prop :=
  ∀ subscription ∈ b.subscriptions, subscription.listener.action.isQuiet = true

/-- Nothing has changed but the record of what listeners did, and there are no new listeners. -/
def Overhears (s s' : Engine) : Prop :=
  ∃ bus spent observations log, s' = { s with
    bus := bus, spent := spent, observations := observations, log := log } ∧
    bus.subscriptions ⊆ s.bus.subscriptions

theorem overhears_refl (s : Engine) : Overhears s s :=
  ⟨_, _, _, _, rfl, List.Subset.refl _⟩

theorem Overhears.trans {s'' : Engine} (h : Overhears s s') (h' : Overhears s' s'') :
    Overhears s s'' := by
  obtain ⟨_, _, _, _, rfl, hsubset⟩ := h
  obtain ⟨_, _, _, _, rfl, hsubset'⟩ := h'
  exact ⟨_, _, _, _, rfl, fun _ hmem => hsubset (hsubset' hmem)⟩

theorem Quiet.overhears (h : Quiet s.bus) (hoverhears : Overhears s s') : Quiet s'.bus := by
  obtain ⟨_, _, _, _, rfl, hsubset⟩ := hoverhears
  exact fun subscription hmem => h subscription (hsubset hmem)

theorem overhears_unsubscribe (name : String) (s : Engine) :
    Overhears s { s with bus := s.bus.unsubscribe name } := by
  refine ⟨_, _, _, _, rfl, ?_⟩
  unfold EventBus.unsubscribe
  split
  · exact List.Subset.refl _
  · exact List.filter_sublist.subset

/-- A quiet listener hears of an event. -/
theorem overhears_hear {subscription : Subscription Listener}
    (hquiet : subscription.listener.action.isQuiet = true) (e : Event) (s : Engine) :
    Overhears s (hear emit subscription e s).1 := by
  refine keeps_hear (fun _ _ h => h.trans ⟨_, _, _, _, rfl, List.Subset.refl _⟩)
    (fun _ _ h => h.trans ⟨_, _, _, _, rfl, List.Subset.refl _⟩) (fun s' h => ?_) (overhears_refl s)
  cases haction : subscription.listener.action with
  | record => exact h
  | fail => exact h
  | unsubscribe name => exact h.trans (overhears_unsubscribe name s')
  | start => rw [haction] at hquiet; cases hquiet
  | stop => rw [haction] at hquiet; cases hquiet
  | configure changes => rw [haction] at hquiet; cases hquiet
  | process p => rw [haction] at hquiet; cases hquiet

/-- A way to publish events that changes nothing if no listener uses the engine. -/
def Passive (emit : Event → Engine → Engine) : Prop :=
  ∀ e s, Quiet s.bus → Overhears (s.note e) (emit e s)

/-- **Listeners that do not use the engine leave it alone.** -/
theorem passive_publish (depth : Nat) : Passive (publish depth) := by
  intro e s hquiet
  cases depth with
  | zero => exact overhears_refl _
  | succ depth =>
    refine BusHost.publish_induction (fun _ _ h => h.trans ⟨_, _, _, _, rfl, List.Subset.refl _⟩)
      (fun subscription hmem s' h => ?_) (overhears_refl (s.note e))
    have hmem : subscription ∈ s.bus.subscriptions := (List.mem_filter.mp hmem).1
    exact h.trans (overhears_hear (hquiet subscription hmem) e s')

/-! ## Messages -/

/--
Nothing has happened but that messages were published and listeners took notes. The directory may
have been determined.
-/
def Remarks (s s' : Engine) : Prop :=
  ∃ bus spent observations log published monitorPath, s' = { s with
    bus := bus, spent := spent, observations := observations, log := log, published := published,
    monitorPath := monitorPath } ∧
    bus.subscriptions ⊆ s.bus.subscriptions

theorem remarks_refl (s : Engine) : Remarks s s :=
  ⟨_, _, _, _, _, _, rfl, List.Subset.refl _⟩

theorem Remarks.trans {s'' : Engine} (h : Remarks s s') (h' : Remarks s' s'') : Remarks s s'' := by
  obtain ⟨_, _, _, _, _, _, rfl, hsubset⟩ := h
  obtain ⟨_, _, _, _, _, _, rfl, hsubset'⟩ := h'
  exact ⟨_, _, _, _, _, _, rfl, fun _ hmem => hsubset (hsubset' hmem)⟩

theorem Quiet.remarks (h : Quiet s.bus) (hremarks : Remarks s s') : Quiet s'.bus := by
  obtain ⟨_, _, _, _, _, _, rfl, hsubset⟩ := hremarks
  exact fun subscription hmem => h subscription (hsubset hmem)

theorem Passive.remarks (hemit : Passive emit) (hquiet : Quiet s.bus) (e : Event) :
    Remarks s (emit e s) := by
  obtain ⟨_, _, _, _, heq, hsubset⟩ := hemit e s hquiet
  exact ⟨_, _, _, _, _, _, heq, hsubset⟩

/-- Messages are remarks. -/
theorem steady_remarks (hemit : Passive emit) (hquiet : Quiet s.bus) :
    Steady emit (Remarks s) where
  logMessage _ _ _ h := h.trans (hemit.remarks (hquiet.remarks h) _)
  log _ h := h.trans ⟨_, _, _, _, _, _, rfl, List.Subset.refl _⟩

/-- To determine the directory is told of in messages only. -/
theorem remarks_currentMonitorPath (hemit : Passive emit) (hquiet : Quiet s.bus) :
    Remarks s (currentMonitorPath emit s).1 :=
  (steady_remarks hemit hquiet).currentMonitorPath
    (fun _ h => h.trans ⟨_, _, _, _, _, _, rfl, List.Subset.refl _⟩) (remarks_refl s)

end Engine

end LiveTemplates
