import Mathlib.Logic.Relation
import LiveTemplates.EventBus.Session

/-!
# The order in which events are heard

A publication that a listener causes is over before the publication that the listener hears of goes
on: publications are underway in a stack (`Proceedings`), and only the latest one is heard of.
Therefore a listener hears of two events in the order in which they were published exactly if
it had heard of the first when the second was published, as all listeners have if the first
publication was over by then (`Proceedings.order`).

That is how the publications on a bus proceed, whatever its host is (`proceeds_of_deliver`), so also
those of a session with scripted listeners (`BusSession.proceeds_publish`).
-/

namespace LiveTemplates

open Relation

/-! ## Publications that are underway -/

/-- A listener heard of an event. -/
structure Hearing where
  /-- The place of the publication. -/
  publication : Nat
  /-- The number of the listener's subscription. -/
  subscription : Nat

/-- A publication that is underway. -/
structure Underway (L : Type) where
  publication : Nat
  event : Event
  /-- Those who are still to hear of the event. -/
  remaining : List (Subscription L)

/-- What has happened on a bus so far. -/
structure Minutes (L : Type) where
  bus : EventBus L
  publications : List Event
  hearings : List Hearing

/-- A bus at any time. -/
structure Proceedings (L : Type) where
  minutes : Minutes L
  /-- The publications that are underway, the latest first. -/
  underway : List (Underway L)

variable {L : Type}

/-- An event was published. -/
def Minutes.announce (m : Minutes L) (e : Event) : Minutes L :=
  { m with publications := m.publications ++ [e] }

/-- A listener heard of an event. -/
def Minutes.hear (m : Minutes L) (publication subscription : Nat) : Minutes L :=
  { m with hearings := m.hearings ++ [⟨publication, subscription⟩] }

namespace Proceedings

/-- Nothing was published yet. -/
def initial : Proceedings L := ⟨⟨.initial, [], []⟩, []⟩

/-- A publication begins. -/
def publish (p : Proceedings L) (e : Event) : Proceedings L :=
  ⟨p.minutes.announce e,
    ⟨p.minutes.publications.length, e, p.minutes.bus.recipients e⟩ :: p.underway⟩

/--
What happens at a time, whatever the listeners do. Publications are nested up to a bound; nobody
hears of one beyond it.
-/
inductive Step (bound : Nat) : Proceedings L → Proceedings L → Prop
  /-- Someone subscribes or unsubscribes. -/
  | change {m u} (bus : EventBus L) : Step bound ⟨m, u⟩ ⟨{ m with bus := bus }, u⟩
  | publish {p} (e : Event) (h : p.underway.length < bound) : Step bound p (p.publish e)
  | unheard {m u} (e : Event) (h : bound ≤ u.length) : Step bound ⟨m, u⟩ ⟨m.announce e, u⟩
  | deliver {m n e subscription rest outer} : Step bound ⟨m, ⟨n, e, subscription :: rest⟩ :: outer⟩
      ⟨m.hear n subscription.id, ⟨n, e, rest⟩ :: outer⟩
  | finish {m n e outer} : Step bound ⟨m, ⟨n, e, []⟩ :: outer⟩ ⟨m, outer⟩

/-! ## What is underway -/

variable {bound : Nat} {p p' q : Proceedings L} {m : Minutes L}

/-- The publications that are underway are in a stack, and what was heard was published. -/
structure Stacked (p : Proceedings L) : Prop where
  nested : p.underway.Pairwise fun inner outer => outer.publication < inner.publication
  announced : ∀ u ∈ p.underway, u.publication < p.minutes.publications.length
  published : ∀ d ∈ p.minutes.hearings, d.publication < p.minutes.publications.length

theorem stacked_initial : Stacked (initial : Proceedings L) :=
  ⟨.nil, (by intro _ h; cases h), (by intro _ h; cases h)⟩

theorem length_announce (m : Minutes L) (e : Event) :
    (m.announce e).publications.length = m.publications.length + 1 := by
  simp [Minutes.announce]

theorem lt_length_announce {n : Nat} (h : n < m.publications.length) (e : Event) :
    n < (m.announce e).publications.length :=
  Nat.lt_of_lt_of_eq (Nat.lt_succ_of_lt h) (length_announce m e).symm

/-- Each step keeps the stack in order. -/
theorem Stacked.step (h : Stacked p) (hstep : Step bound p p') : Stacked p' := by
  cases hstep with
  | change bus => exact ⟨h.nested, h.announced, h.published⟩
  | publish e =>
    refine ⟨List.pairwise_cons.mpr ⟨h.announced, h.nested⟩, fun u hu => ?_,
      fun d hd => lt_length_announce (h.published d hd) e⟩
    rcases List.mem_cons.mp hu with rfl | hu
    · exact Nat.lt_of_lt_of_eq (Nat.lt_succ_self _) (length_announce _ e).symm
    · exact lt_length_announce (h.announced u hu) e
  | unheard e => exact ⟨h.nested, fun u hu => lt_length_announce (h.announced u hu) e,
      fun d hd => lt_length_announce (h.published d hd) e⟩
  | @deliver m n e subscription rest outer =>
    obtain ⟨hlater, hnested⟩ := List.pairwise_cons.mp h.nested
    have htop : n < m.publications.length := h.announced _ List.mem_cons_self
    refine ⟨List.pairwise_cons.mpr ⟨hlater, hnested⟩, fun u hu => ?_, fun d hd => ?_⟩
    · rcases List.mem_cons.mp hu with rfl | hu
      · exact htop
      · exact h.announced u (List.mem_cons_of_mem _ hu)
    · rcases List.mem_append.mp hd with hd | hd
      · exact h.published d hd
      · obtain rfl := List.mem_singleton.mp hd
        exact htop
  | finish => exact ⟨(List.pairwise_cons.mp h.nested).2,
      fun u hu => h.announced u (List.mem_cons_of_mem _ hu), h.published⟩

theorem stacked_run (h : ReflTransGen (Step bound) initial p) : Stacked p := by
  induction h with
  | refl => exact stacked_initial
  | tail _ hstep ih => exact ih.step hstep

/-! ## What was heard since a publication began -/

variable {n k : Nat} {waiting : List Nat}

/--
What has happened since the publication numbered `n` began, when `k` times an event had been heard
of and `waiting` were underway.
-/
structure Since (n k : Nat) (waiting : List Nat) (p : Proceedings L) : Prop extends Stacked p where
  begun : n < p.minutes.publications.length
  heard : k ≤ p.minutes.hearings.length
  /-- Of the earlier publications, only those that wait go on. -/
  resumed : ∀ u ∈ p.underway, u.publication < n → u.publication ∈ waiting
  late : ∀ {b : Nat} {d : Hearing}, p.minutes.hearings[b]? = some d → d.publication = n → k ≤ b
  early : ∀ {a : Nat} {d : Hearing}, p.minutes.hearings[a]? = some d → d.publication < n →
    d.publication ∉ waiting → a < k
  /-- While the publication is underway, nobody hears of an earlier one. -/
  held : ∀ u ∈ p.underway, u.publication = n → ∀ {a : Nat} {d : Hearing},
    p.minutes.hearings[a]? = some d → d.publication < n → a < k
  /-- Who hears of an earlier one afterwards does so after all who hear of this one. -/
  ordered : ∀ {a b : Nat} {d d' : Hearing}, p.minutes.hearings[a]? = some d →
    p.minutes.hearings[b]? = some d' → d.publication < n → d'.publication = n → k ≤ a → b < a

/-- When a publication begins, nobody has heard of it. -/
theorem Stacked.since (h : Stacked q) (e : Event) :
    Since q.minutes.publications.length q.minutes.hearings.length
      (q.underway.map Underway.publication) (q.publish e) := by
  have hnobody : ∀ {b : Nat} {d : Hearing}, q.minutes.hearings[b]? = some d →
      d.publication ≠ q.minutes.publications.length :=
    fun hd => Nat.ne_of_lt (h.published _ (List.mem_of_getElem? hd))
  have hheard : ∀ {a : Nat} {d : Hearing}, q.minutes.hearings[a]? = some d →
      a < q.minutes.hearings.length := fun hd => (List.getElem?_eq_some_iff.mp hd).1
  have hbound : q.underway.length < q.underway.length + 1 := Nat.lt_succ_self _
  refine ⟨h.step (.publish e hbound), ?_, Nat.le_refl _, fun u hu hearlier => ?_,
    fun hd heq => absurd heq (hnobody hd), fun hd _ _ => hheard hd,
    fun _ _ _ {_ _} hd _ => hheard hd, fun _ hd' _ heq => absurd heq (hnobody hd')⟩
  · exact Nat.lt_of_lt_of_eq (Nat.lt_succ_self _) (length_announce _ e).symm
  · rcases List.mem_cons.mp hu with rfl | hu
    · exact absurd hearlier (Nat.lt_irrefl _)
    · exact List.mem_map_of_mem hu

/-- Somebody heard of an event before, or is the last one who did. -/
theorem getElem?_hear {publication subscription a : Nat} {d : Hearing}
    (h : (m.hear publication subscription).hearings[a]? = some d) :
    m.hearings[a]? = some d ∨ a = m.hearings.length ∧ d.publication = publication := by
  rcases Nat.lt_or_ge a m.hearings.length with ha | ha
  · rw [Minutes.hear, List.getElem?_append_left ha] at h
    exact .inl h
  · rw [Minutes.hear, List.getElem?_append_right ha, List.getElem?_singleton] at h
    split at h
    · next hzero =>
      cases h
      exact .inr ⟨Nat.le_antisymm (Nat.sub_eq_zero_iff_le.mp hzero) ha, rfl⟩
    · cases h

/-- Somebody hears of the latest publication. -/
theorem Since.deliver {e : Event} {subscription : Subscription L} {latest : Nat}
    {rest : List (Subscription L)} {outer : List (Underway L)}
    (h : Since n k waiting ⟨m, ⟨latest, e, subscription :: rest⟩ :: outer⟩) :
    Since n k waiting ⟨m.hear latest subscription.id, ⟨latest, e, rest⟩ :: outer⟩ := by
  have htop : (⟨latest, e, subscription :: rest⟩ : Underway L) ∈
      (⟨latest, e, subscription :: rest⟩ : Underway L) :: outer := List.mem_cons_self
  have hinner := (List.pairwise_cons.mp h.nested).1
  -- Only the last hearing is new, and it is of the latest publication, `latest`.
  have hstacked : Stacked ⟨m.hear latest subscription.id, ⟨latest, e, rest⟩ :: outer⟩ :=
    h.toStacked.step (.deliver : Step 0 _ _)
  refine ⟨hstacked, h.begun, ?_, fun u hu hearlier => ?_, fun {b d} hd heq => ?_,
    fun {a d} hd hearlier hwaiting => ?_, fun u hu hthis {a d} hd hearlier => ?_,
    fun {a b d d'} hd hd' hearlier heq ha => ?_⟩
  · exact Nat.le_trans h.heard (by simp [Minutes.hear])
  · rcases List.mem_cons.mp hu with rfl | hu
    · exact h.resumed ⟨latest, e, subscription :: rest⟩ htop hearlier
    · exact h.resumed u (List.mem_cons_of_mem _ hu) hearlier
  · rcases getElem?_hear hd with hold | ⟨rfl, _⟩
    · exact h.late hold heq
    · exact h.heard
  · rcases getElem?_hear hd with hold | ⟨_, rfl⟩
    · exact h.early hold hearlier hwaiting
    · exact absurd (h.resumed _ htop hearlier) hwaiting
  · rcases getElem?_hear hd with hold | ⟨_, rfl⟩
    · rcases List.mem_cons.mp hu with rfl | hu
      · exact h.held ⟨latest, e, subscription :: rest⟩ htop hthis hold hearlier
      · exact h.held u (List.mem_cons_of_mem _ hu) hthis hold hearlier
    · -- The latest publication is none of those before the one that is underway.
      rcases List.mem_cons.mp hu with rfl | hu
      · exact absurd hthis (Nat.ne_of_lt hearlier)
      · exact absurd (hthis ▸ hinner u hu) (Nat.lt_asymm hearlier)
  · -- The earlier publication may still be heard of; the one numbered `n` is over by then.
    rcases getElem?_hear hd with hold | ⟨rfl, hlatest⟩
    · rcases getElem?_hear hd' with hold' | ⟨_, hlatest'⟩
      · exact h.ordered hold hold' hearlier heq ha
      · exact absurd (h.held _ htop (hlatest'.symm.trans heq) hold hearlier) (Nat.not_lt.mpr ha)
    · rcases getElem?_hear hd' with hold' | ⟨_, hlatest'⟩
      · exact (List.getElem?_eq_some_iff.mp hold').1
      · exact absurd (hlatest.trans (hlatest'.symm.trans heq)) (Nat.ne_of_lt hearlier)

/-- **Each step keeps what is heard later in its place.** -/
theorem Since.step (h : Since n k waiting p) (hstep : Step bound p p') : Since n k waiting p' := by
  have hstacked := h.toStacked.step hstep
  cases hstep with
  | change bus => exact ⟨hstacked, h.begun, h.heard, h.resumed, h.late, h.early, h.held, h.ordered⟩
  | publish e =>
    have hlater : ∀ u ∈ (p.publish e).underway, u.publication ≤ n → u ∈ p.underway := by
      intro u hu hle
      rcases List.mem_cons.mp hu with rfl | hu
      · exact absurd h.begun (Nat.not_lt.mpr hle)
      · exact hu
    exact ⟨hstacked, lt_length_announce h.begun e, h.heard,
      fun u hu hearlier => h.resumed u (hlater u hu (Nat.le_of_lt hearlier)) hearlier,
      h.late, h.early, fun u hu hthis => h.held u (hlater u hu (Nat.le_of_eq hthis)) hthis,
      h.ordered⟩
  | unheard e =>
    exact ⟨hstacked, lt_length_announce h.begun e, h.heard, h.resumed, h.late, h.early, h.held,
      h.ordered⟩
  | deliver => exact h.deliver
  | finish =>
    exact ⟨hstacked, h.begun, h.heard, fun u hu => h.resumed u (List.mem_cons_of_mem _ hu), h.late,
      h.early, fun u hu => h.held u (List.mem_cons_of_mem _ hu), h.ordered⟩

theorem Since.run (h : Since n k waiting p) (hrun : ReflTransGen (Step bound) p p') :
    Since n k waiting p' := by
  induction hrun with
  | refl => exact h
  | tail _ hstep ih => exact ih.step hstep

/--
**The order in which events are heard.** Of an event that was published earlier than another one,
somebody hears first exactly if that had been heard when the other one was published; and that is so
if the earlier publication was not underway any more.
-/
theorem order {e : Event} {a b : Nat} {d d' : Hearing} (hq : ReflTransGen (Step bound) initial q)
    (hp : ReflTransGen (Step bound) (q.publish e) p) (hd : p.minutes.hearings[a]? = some d)
    (hd' : p.minutes.hearings[b]? = some d')
    (hearlier : d.publication < q.minutes.publications.length)
    (hthis : d'.publication = q.minutes.publications.length) :
    (a < b ↔ a < q.minutes.hearings.length) ∧
      ((∀ u ∈ q.underway, u.publication ≠ d.publication) → a < b) := by
  have hsince := ((stacked_run hq).since e).run hp
  have hlate := hsince.late hd' hthis
  refine ⟨⟨fun hab => ?_, fun ha => Nat.lt_of_lt_of_le ha hlate⟩, fun hover => ?_⟩
  · rcases Nat.lt_or_ge a q.minutes.hearings.length with ha | ha
    · exact ha
    · exact absurd (hsince.ordered hd hd' hearlier hthis ha) (Nat.lt_asymm hab)
  · refine Nat.lt_of_lt_of_le (hsince.early hd hearlier fun hwaiting => ?_) hlate
    obtain ⟨u, hu, heq⟩ := List.mem_map.mp hwaiting
    exact hover u hu heq

end Proceedings

open Proceedings (Step)

/-! ## Hosts proceed so -/

section Hosts

variable {σ : Type} {view : σ → Minutes L → Prop} {depth : Nat} {s s' s'' : σ}

/--
From one state to another a host proceeds in such steps, with the same publications underway at the
end. What is in the minutes about a state is given.
-/
def Proceeds (view : σ → Minutes L → Prop) (depth : Nat) (s s' : σ) : Prop :=
  ∀ m u, view s m → ∃ m', ReflTransGen (Step (u.length + depth)) ⟨m, u⟩ ⟨m', u⟩ ∧ view s' m'

theorem Proceeds.refl (s : σ) : Proceeds view depth s s :=
  fun m _ hm => ⟨m, .refl, hm⟩

theorem Proceeds.trans (h : Proceeds view depth s s') (h' : Proceeds view depth s' s'') :
    Proceeds view depth s s'' := by
  intro m u hm
  obtain ⟨m', hrun, hm'⟩ := h m u hm
  obtain ⟨m'', hrun', hm''⟩ := h' m' u hm'
  exact ⟨m'', hrun.trans hrun', hm''⟩

/-- What the minutes do not tell of may change. -/
theorem proceeds_of_view (h : ∀ m, view s m → view s' m) : Proceeds view depth s s' :=
  fun m _ hm => ⟨m, .refl, h m hm⟩

/-- Someone subscribes or unsubscribes. -/
theorem proceeds_of_bus (bus : EventBus L) (h : ∀ m, view s m → view s' { m with bus := bus }) :
    Proceeds view depth s s' :=
  fun m _ hm => ⟨_, .single (.change bus), h m hm⟩

/--
**A host proceeds in such steps if it does so each time a listener has heard of an event.** The
publication has its place in the minutes, and after it was announced the host is in state `s'`.
-/
theorem proceeds_of_deliver {h : BusHost σ L} {e : Event} {n : Nat}
    (hannounced : ∀ m, view s m → view s' (m.announce e) ∧ m.bus = h.bus s' ∧
      m.publications.length = n)
    (hdeliver : ∀ subscription s m u, view s m → ∃ m',
      ReflTransGen (Step (u.length + depth)) ⟨m.hear n subscription.id, u⟩ ⟨m', u⟩ ∧
        view (h.deliver e s subscription) m') :
    Proceeds view (depth + 1) s (h.publish e s') := by
  have hremaining : ∀ (remaining : List (Subscription L)) s m outer, view s m → ∃ m',
      ReflTransGen (Step (outer.length + (depth + 1))) ⟨m, ⟨n, e, remaining⟩ :: outer⟩ ⟨m', outer⟩ ∧
        view (remaining.foldl (h.deliver e) s) m' := by
    intro remaining
    induction remaining with
    | nil => exact fun s m outer hm => ⟨m, .single .finish, hm⟩
    | cons subscription rest ih =>
      intro s m outer hm
      obtain ⟨m', hheard, hm'⟩ := hdeliver subscription s m (⟨n, e, rest⟩ :: outer) hm
      rw [List.length_cons, Nat.add_assoc, Nat.add_comm 1] at hheard
      obtain ⟨m'', hrest, hm''⟩ := ih _ m' outer hm'
      exact ⟨m'', (ReflTransGen.head .deliver hheard).trans hrest, hm''⟩
  -- The publication is put on top of what is underway and taken off when all have heard.
  intro m u hm
  obtain ⟨hm', hbus, hplace⟩ := hannounced m hm
  obtain ⟨m'', hrun, hm''⟩ := hremaining ((h.bus s').recipients e) s' _ u hm'
  refine ⟨m'', .head (.publish e (by simp)) ?_, hm''⟩
  rw [Proceedings.publish, hplace, hbus]
  exact hrun

end Hosts

/-! ## Sessions -/

namespace BusSession

variable {depth : Nat}

/-- The minutes of a session. -/
def IsMinutes (s : BusSession) (m : Minutes (List BusAction)) : Prop :=
  m = ⟨s.bus, s.publications.map Publication.event,
    s.deliveries.map fun d => ⟨d.publication, d.subscription⟩⟩

theorem proceeds_act {publish : Event → BusSession → BusSession}
    (hpublish : ∀ e s, Proceeds IsMinutes depth s (publish e s)) (script : List BusAction)
    (s : BusSession) : Proceeds IsMinutes depth s (act publish script s).1 := by
  induction script generalizing s with
  | nil => exact .refl s
  | cons action rest ih =>
    have hchange : ∀ bus, Proceeds IsMinutes depth s { s with bus := bus } := fun bus =>
      proceeds_of_bus bus (by rintro _ rfl; rfl)
    cases action with
    | fail text => exact .refl s
    | subscribe name type script =>
      rw [act]
      split
      · exact ih s
      · exact (hchange _).trans (ih _)
    | unsubscribe name => exact (hchange _).trans (ih _)
    | publish e => exact (hpublish e s).trans (ih _)

/-- **Publishing in a session proceeds in such steps.** -/
theorem proceeds_publish (depth : Nat) (e : Event) (s : BusSession) :
    Proceeds IsMinutes depth s (publish depth e s) := by
  induction depth generalizing e s with
  | zero => exact .refl s
  | succ depth ih =>
    refine proceeds_of_deliver (n := s.publications.length) ?_ fun subscription s' m u hm => ?_
    · rintro _ rfl
      exact ⟨by simp [IsMinutes, Minutes.announce], rfl, by simp⟩
    · have hacted := proceeds_act ih subscription.listener { s' with deliveries := s'.deliveries ++
        [⟨s.publications.length, subscription.id, s'.bus.nameOf subscription.id, e⟩] }
      have hm' : IsMinutes { s' with deliveries := s'.deliveries ++
          [⟨s.publications.length, subscription.id, s'.bus.nameOf subscription.id, e⟩] }
          (m.hear s.publications.length subscription.id) := by
        rw [hm]
        simp [IsMinutes, Minutes.hear]
      obtain ⟨m'', hrun, hm''⟩ := hacted _ u hm'
      refine ⟨m'', hrun, ?_⟩
      unfold BusHost.deliver host
      dsimp only
      split
      · next heq => rwa [heq] at hm''
      · next heq =>
        rw [heq] at hm''
        exact hm''

end BusSession

end LiveTemplates
