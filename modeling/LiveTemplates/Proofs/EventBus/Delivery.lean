import Mathlib.Data.List.Dedup
import Mathlib.Data.List.Nodup
import LiveTemplates.Proofs.EventBus.Order

/-!
# Who hears of an event

What is done on a bus is a list of deeds (`Deed`): someone subscribes, ends a subscription or
publishes, and those who are to hear of the latest publication hear of it one after the other. A
listener may do anything of that while it hears of an event, so no order of the deeds is excluded
but the one that the stack of publications demands (`Proceedings.Run`).

Two things stay as they are, whatever is done. The subscriptions of a bus are those that were made
and not withdrawn, in the order of their numbers (`Kept`). And those who have heard of a publication
together with those who are still to hear of it are the recipients it had in the beginning
(`Proceedings.Run.heardOf_append_awaited`). So a publication reaches exactly those who were
subscribed when it began (`BusHost.publish_reaches_recipients`).

A host proceeds in this way if its listeners do nothing to the bus but what deeds can say
(`BusHost.exists_run_publish`), and the listeners of a session are such, to any depth
(`BusSession.goes_publish`).
-/

namespace LiveTemplates

variable {L : Type}

/-! ## Ending subscriptions by their numbers -/

namespace EventBus

variable {b : EventBus L} {name : String} {id : Nat}

/-- The bus without the subscription of a number, which may be gone already. -/
def withdraw (b : EventBus L) (id : Nat) : EventBus L :=
  { b with subscriptions := b.subscriptions.filter (·.id != id) }

/-- The number of a subscription is one that was given. -/
theorem lt_of_latest? (h : b.latest? name = some id) : id < b.names.length := by
  obtain ⟨entry, hlast, rfl⟩ := Option.map_eq_some_iff.mp h
  have hmem := (List.mem_filter.mp (List.mem_of_getLast? hlast)).1
  exact List.snd_lt_of_mem_zipIdx hmem

/-- To unsubscribe is to withdraw the latest subscription of the name, if there is one. -/
theorem unsubscribe_cases (b : EventBus L) (name : String) :
    b.unsubscribe name = b ∨ ∃ id < b.names.length, b.unsubscribe name = b.withdraw id := by
  unfold unsubscribe
  cases h : b.latest? name with
  | none => exact .inl rfl
  | some id => exact .inr ⟨id, lt_of_latest? h, rfl⟩

end EventBus

/-! ## Deeds -/

/-- What is done on a bus. -/
inductive Deed (L : Type)
  | subscribe (name : String) (type : Option EventType) (listener : L)
  /-- Ends the subscription of a number. -/
  | withdraw (id : Nat)
  | publish (e : Event)
  /-- The next listener hears of the latest publication. -/
  | hear
  /-- All have heard of the latest publication. -/
  | finish

namespace Deed

/-- Whether a subscription is made. -/
def isSubscribe : Deed L → Bool
  | subscribe _ _ _ => true
  | _ => false

/-- The number of the subscription that is ended. -/
def withdrawn? : Deed L → Option Nat
  | withdraw id => some id
  | _ => none

end Deed

/-- How many subscriptions were made. -/
def madeBy (deeds : List (Deed L)) : Nat :=
  deeds.countP Deed.isSubscribe

/-- The numbers of the subscriptions that were ended, as often as it was done. -/
def withdrawnBy (deeds : List (Deed L)) : List Nat :=
  deeds.filterMap Deed.withdrawn?

namespace Proceedings

/-- What a deed does. A subscription can be ended once it was made, however often. -/
inductive Does : Proceedings L → Deed L → Proceedings L → Prop
  | subscribe {m u} (name : String) (type : Option EventType) (listener : L) :
    Does ⟨m, u⟩ (.subscribe name type listener)
      ⟨{ m with bus := m.bus.subscribe name type listener }, u⟩
  | withdraw {m u id} (h : id < m.bus.names.length) :
    Does ⟨m, u⟩ (.withdraw id) ⟨{ m with bus := m.bus.withdraw id }, u⟩
  | publish {p} (e : Event) : Does p (.publish e) (p.publish e)
  | hear {m n e subscription rest outer} : Does ⟨m, ⟨n, e, subscription :: rest⟩ :: outer⟩ .hear
      ⟨m.hear n subscription.id, ⟨n, e, rest⟩ :: outer⟩
  | finish {m n e outer} : Does ⟨m, ⟨n, e, []⟩ :: outer⟩ .finish ⟨m, outer⟩

/-- Deeds one after the other. -/
inductive Run : Proceedings L → List (Deed L) → Proceedings L → Prop
  | nil {p} : Run p [] p
  | cons {p p' p'' deed deeds} : Does p deed p' → Run p' deeds p'' → Run p (deed :: deeds) p''

variable {p p' p'' q : Proceedings L} {deed : Deed L} {deeds deeds' : List (Deed L)}

theorem Run.single (h : Does p deed p') : Run p [deed] p' :=
  .cons h .nil

theorem Run.append (h : Run p deeds p') (h' : Run p' deeds' p'') : Run p (deeds ++ deeds') p'' := by
  induction h with
  | nil => exact h'
  | cons hdoes _ ih => exact .cons hdoes (ih h')

/-- A deed is one of the things that may happen at a time. -/
theorem Does.toStep (h : Does p deed p') : Step (p.underway.length + 1) p p' := by
  cases h with
  | subscribe name type listener => exact .change _
  | withdraw _ => exact .change _
  | publish e => exact .publish e (Nat.lt_succ_self _)
  | hear => exact .deliver
  | finish => exact .finish

theorem Stacked.run (h : Stacked p) (hrun : Run p deeds p') : Stacked p' := by
  induction hrun with
  | nil => exact h
  | cons hdoes _ ih => exact ih (h.step hdoes.toStep)

end Proceedings

open Proceedings (Does Run)

/-! ## The subscriptions that are kept -/

/-- The subscriptions are those that were made and not withdrawn. -/
structure Kept (deeds : List (Deed L)) (b : EventBus L) : Prop where
  made : b.names.length = madeBy deeds
  withdrawn : ∀ id ∈ withdrawnBy deeds, id < b.names.length
  kept : b.subscriptions.map Subscription.id
    = (List.range b.names.length).filter fun id => id ∉ withdrawnBy deeds

variable {before deeds : List (Deed L)} {deed : Deed L} {b : EventBus L} {p p' q : Proceedings L}

theorem madeBy_append (deeds deeds' : List (Deed L)) :
    madeBy (deeds ++ deeds') = madeBy deeds + madeBy deeds' :=
  List.countP_append

theorem withdrawnBy_append (deeds deeds' : List (Deed L)) :
    withdrawnBy (deeds ++ deeds') = withdrawnBy deeds ++ withdrawnBy deeds' :=
  List.filterMap_append

/-- What does not touch the subscriptions keeps them. -/
theorem Kept.append_of_untouched (h : Kept deeds b) (hmade : deed.isSubscribe = false)
    (hwithdrawn : deed.withdrawn? = none) : Kept (deeds ++ [deed]) b := by
  have hmade' : madeBy (deeds ++ [deed]) = madeBy deeds := by
    simp [madeBy, hmade]
  have hwithdrawn' : withdrawnBy (deeds ++ [deed])
      = withdrawnBy deeds := by
    simp [withdrawnBy, hwithdrawn]
  exact ⟨hmade' ▸ h.made, hwithdrawn' ▸ h.withdrawn, hwithdrawn' ▸ h.kept⟩

/-- A new subscription has the number after all others. -/
theorem Kept.subscribe (h : Kept deeds b) (name : String) (type : Option EventType) (listener : L) :
    Kept (deeds ++ [.subscribe name type listener]) (b.subscribe name type listener) := by
  have hwithdrawn : withdrawnBy (deeds ++ [.subscribe name type listener])
      = withdrawnBy deeds := by
    simp [withdrawnBy, Deed.withdrawn?]
  have hnew : b.names.length ∉ withdrawnBy deeds := by
    intro hmem
    exact Nat.lt_irrefl _ (h.withdrawn _ hmem)
  have hlength : (b.subscribe name type listener).names.length = b.names.length + 1 := by
    simp [EventBus.subscribe]
  refine ⟨?_, fun id hid => ?_, ?_⟩
  · rw [hlength, madeBy_append, h.made]
    rfl
  · rw [hwithdrawn] at hid
    rw [hlength]
    exact Nat.lt_succ_of_lt (h.withdrawn id hid)
  · rw [hlength, hwithdrawn, List.range_succ, List.filter_append, ← h.kept]
    simp [EventBus.subscribe, hnew]

/-- A subscription that is withdrawn is kept no longer. -/
theorem Kept.withdraw {id : Nat} (h : Kept deeds b) (hid : id < b.names.length) :
    Kept (deeds ++ [.withdraw id]) (b.withdraw id) := by
  have hwithdrawn : withdrawnBy (deeds ++ [.withdraw id])
      = withdrawnBy deeds ++ [id] := withdrawnBy_append _ _
  refine ⟨?_, fun k hk => ?_, ?_⟩
  · rw [madeBy_append]
    exact h.made
  · rw [hwithdrawn, List.mem_append, List.mem_singleton] at hk
    rcases hk with hk | rfl
    · exact h.withdrawn k hk
    · exact hid
  · calc (b.withdraw id).subscriptions.map Subscription.id
        = (b.subscriptions.map Subscription.id).filter (· != id) := by
          rw [List.filter_map]
          rfl
      _ = (List.range b.names.length).filter fun k =>
            k ∉ withdrawnBy (deeds ++ [.withdraw id]) := by
          rw [h.kept, List.filter_filter, hwithdrawn]
          refine List.filter_congr fun k _ => ?_
          simp [bne, Bool.beq_eq_decide_eq, Bool.and_comm]

theorem Kept.does (h : Kept deeds p.minutes.bus) (hdoes : Does p deed p') :
    Kept (deeds ++ [deed]) p'.minutes.bus := by
  cases hdoes with
  | subscribe name type listener => exact h.subscribe name type listener
  | withdraw hid => exact h.withdraw hid
  | publish e => exact h.append_of_untouched rfl rfl
  | hear => exact h.append_of_untouched rfl rfl
  | finish => exact h.append_of_untouched rfl rfl

/-- **Whatever is done, the subscriptions are those that were made and not withdrawn.** -/
theorem Kept.run (h : Kept before p.minutes.bus) (hrun : Run p deeds p') :
    Kept (before ++ deeds) p'.minutes.bus := by
  induction hrun generalizing before with
  | nil => rwa [List.append_nil]
  | cons hdoes _ ih => simpa using ih (h.does hdoes)

theorem kept_initial : Kept [] (Proceedings.initial : Proceedings L).minutes.bus :=
  ⟨rfl, (by intro _ h; cases h), rfl⟩

/-- The subscriptions have their numbers in order. -/
theorem Kept.pairwise (h : Kept deeds b) :
    (b.subscriptions.map Subscription.id).Pairwise (· < ·) := by
  rw [h.kept]
  exact List.pairwise_lt_range.filter _

/-- The number of a subscription is one that was given. -/
theorem Kept.lt {s : Subscription L} (h : Kept deeds b) (hs : s ∈ b.subscriptions) :
    s.id < b.names.length := by
  have hmem : s.id ∈ b.subscriptions.map Subscription.id := List.mem_map_of_mem hs
  rw [h.kept] at hmem
  exact List.mem_range.mp (List.mem_filter.mp hmem).1

/-- **There are as many subscriptions as were made, but for those that were withdrawn.** -/
theorem Kept.length_add (h : Kept deeds b) :
    b.subscriptions.length + (withdrawnBy deeds).dedup.length
      = madeBy deeds := by
  have hgone : ((List.range b.names.length).filter fun id =>
      !decide (id ∉ withdrawnBy deeds)).Perm (withdrawnBy deeds).dedup := by
    refine (List.perm_ext_iff_of_nodup (List.nodup_range.filter _) (List.nodup_dedup _)).mpr
      fun id => ?_
    rw [List.mem_filter, List.mem_range, List.mem_dedup]
    constructor
    · rintro ⟨_, hmem⟩
      simpa using hmem
    · intro hmem
      exact ⟨h.withdrawn id hmem, by simpa using hmem⟩
  calc b.subscriptions.length + (withdrawnBy deeds).dedup.length
      = (b.subscriptions.map Subscription.id).length
          + (withdrawnBy deeds).dedup.length := by rw [List.length_map]
    _ = (List.range b.names.length).length := by
        rw [h.kept, ← hgone.length_eq, ← List.length_eq_length_filter_add]
    _ = madeBy deeds := by rw [List.length_range, h.made]

/-! ## Those who hear of a publication -/

/-- The numbers of those who have heard of a publication, in the order in which they did. -/
def Minutes.heardOf (m : Minutes L) (n : Nat) : List Nat :=
  (m.hearings.filter fun d => d.publication = n).map Hearing.subscription

/-- The numbers of those who are still to hear of a publication. -/
def Proceedings.awaited (p : Proceedings L) (n : Nat) : List Nat :=
  p.underway.flatMap fun u =>
    if u.publication = n then u.remaining.map Subscription.id else []

variable {n : Nat} {e : Event}

/-- Somebody hears of a publication, of this one or of another one. -/
theorem Minutes.heardOf_hear (m : Minutes L) (k id n : Nat) :
    (m.hear k id).heardOf n = m.heardOf n ++ if k = n then [id] else [] := by
  by_cases hk : k = n <;> simp [heardOf, hear, hk]

namespace Proceedings

/-- A deed makes nobody miss a publication that was made before, or hear of it twice. -/
theorem Does.heardOf_append_awaited (h : Does p deed p')
    (hn : n < p.minutes.publications.length) :
    p'.minutes.heardOf n ++ p'.awaited n = p.minutes.heardOf n ++ p.awaited n ∧
      n < p'.minutes.publications.length := by
  cases h with
  | subscribe name type listener => exact ⟨rfl, hn⟩
  | withdraw _ => exact ⟨rfl, hn⟩
  | publish e =>
    have hother : p.minutes.publications.length ≠ n := Nat.ne_of_gt hn
    refine ⟨?_, lt_length_announce hn e⟩
    simp [Proceedings.publish, awaited, hother, Minutes.announce, Minutes.heardOf]
  | @hear m k e subscription rest outer =>
    refine ⟨?_, hn⟩
    rw [Minutes.heardOf_hear]
    by_cases hk : k = n <;> simp [awaited, hk]
  | finish => exact ⟨by simp [awaited], hn⟩

/--
**Those who have heard of a publication and those who are still to hear of it stay the same
together**, whatever is done after the publication began.
-/
theorem Run.heardOf_append_awaited (h : Run p deeds p') (hn : n < p.minutes.publications.length) :
    p'.minutes.heardOf n ++ p'.awaited n = p.minutes.heardOf n ++ p.awaited n := by
  induction h with
  | nil => rfl
  | cons hdoes _ ih =>
    obtain ⟨hsame, hn'⟩ := hdoes.heardOf_append_awaited hn
    exact (ih hn').trans hsame

/-- Nobody awaits a publication that is still to be made. -/
theorem Stacked.awaited_eq_nil (h : Stacked q) :
    q.awaited q.minutes.publications.length = [] := by
  refine List.flatMap_eq_nil_iff.mpr fun u hu => ?_
  rw [if_neg (Nat.ne_of_lt (h.announced u hu))]

/-- When a publication begins, nobody has heard of it, and its recipients await it. -/
theorem Stacked.heardOf_publish (h : Stacked q) (e : Event) :
    (q.publish e).minutes.heardOf q.minutes.publications.length = [] ∧
      (q.publish e).awaited q.minutes.publications.length
        = (q.minutes.bus.recipients e).map Subscription.id := by
  constructor
  · have hnobody : ∀ d ∈ q.minutes.hearings,
        ¬ decide (d.publication = q.minutes.publications.length) = true := fun d hd => by
      simpa using Nat.ne_of_lt (h.published d hd)
    show (q.minutes.hearings.filter _).map _ = []
    rw [List.filter_eq_nil_iff.mpr hnobody, List.map_nil]
  · show (if _ then _ else _) ++ q.awaited _ = _
    rw [if_pos rfl, h.awaited_eq_nil, List.append_nil]

/-- Those who have heard of a publication, and those who are still to hear of it, once it began. -/
theorem Stacked.heardOf_append_awaited (h : Stacked q) (hrun : Run (q.publish e) deeds p) :
    p.minutes.heardOf q.minutes.publications.length ++ p.awaited q.minutes.publications.length
      = (q.minutes.bus.recipients e).map Subscription.id := by
  obtain ⟨hnobody, hawaited⟩ := h.heardOf_publish e
  have hbegun : q.minutes.publications.length < (q.publish e).minutes.publications.length :=
    Nat.lt_of_lt_of_eq (Nat.lt_succ_self _) (length_announce _ e).symm
  rw [hrun.heardOf_append_awaited hbegun, hnobody, hawaited, List.nil_append]

/-- **When a publication is over, its recipients have heard of it.** -/
theorem Stacked.heardOf_eq (h : Stacked q) (hrun : Run (q.publish e) deeds p)
    (hover : p.underway = q.underway) : p.minutes.heardOf q.minutes.publications.length
      = (q.minutes.bus.recipients e).map Subscription.id := by
  have hnone : p.awaited q.minutes.publications.length = [] := by
    rw [awaited, hover]
    exact h.awaited_eq_nil
  rw [← h.heardOf_append_awaited hrun, hnone, List.append_nil]

end Proceedings

/-! ## Hosts do deeds -/

section Hosts

variable {σ : Type} {view : σ → Minutes L → Prop} {s s' s'' : σ}

/-- From one state to another a host goes by deeds, with the same publications underway. -/
def Goes (view : σ → Minutes L → Prop) (s s' : σ) : Prop :=
  ∀ m u, view s m → ∃ deeds m', Run ⟨m, u⟩ deeds ⟨m', u⟩ ∧ view s' m'

theorem Goes.refl (s : σ) : Goes view s s :=
  fun m _ hm => ⟨[], m, .nil, hm⟩

theorem Goes.trans (h : Goes view s s') (h' : Goes view s' s'') : Goes view s s'' := by
  intro m u hm
  obtain ⟨deeds, m', hrun, hm'⟩ := h m u hm
  obtain ⟨deeds', m'', hrun', hm''⟩ := h' m' u hm'
  exact ⟨deeds ++ deeds', m'', hrun.append hrun', hm''⟩

namespace BusHost

variable {h : BusHost σ L}

/-- What a listener does is done by deeds, and so is what is done if it fails. -/
theorem exists_run_deliver
    (htell : ∀ subscription s m u, view s m → ∃ deeds m',
      Run ⟨m.hear n subscription.id, u⟩ deeds ⟨m', u⟩ ∧ view (h.tell subscription e s).1 m')
    (hentry : ∀ entry s m, view s m → view (h.addEntry entry s) m)
    (subscription : Subscription L) (s : σ) (m : Minutes L) (u : List (Underway L))
    (hm : view s m) :
    ∃ deeds m', Run ⟨m.hear n subscription.id, u⟩ deeds ⟨m', u⟩ ∧
      view (h.deliver e s subscription) m' := by
  obtain ⟨deeds, m', hrun, hm'⟩ := htell subscription s m u hm
  refine ⟨deeds, m', hrun, ?_⟩
  unfold deliver
  split
  · next heq => rwa [heq] at hm'
  · next heq =>
    rw [heq] at hm'
    exact hentry _ _ _ hm'

/-- **To publish is done by deeds if what each listener does is.** -/
theorem exists_run_publish
    (htell : ∀ subscription s m u, view s m → ∃ deeds m',
      Run ⟨m.hear n subscription.id, u⟩ deeds ⟨m', u⟩ ∧ view (h.tell subscription e s).1 m')
    (hentry : ∀ entry s m, view s m → view (h.addEntry entry s) m)
    (hn : q.minutes.publications.length = n) (hs : view s (q.minutes.announce e))
    (hbus : h.bus s = q.minutes.bus) :
    ∃ deeds m, Run (q.publish e) deeds ⟨m, q.underway⟩ ∧ view (h.publish e s) m := by
  -- The recipients hear of the event one by one, and what each does is done in between.
  have hremaining : ∀ (remaining : List (Subscription L)) s m, view s m → ∃ deeds m',
      Run ⟨m, ⟨n, e, remaining⟩ :: q.underway⟩ deeds ⟨m', q.underway⟩ ∧
        view (remaining.foldl (h.deliver e) s) m' := by
    intro remaining
    induction remaining with
    | nil => exact fun s m hm => ⟨_, m, .single .finish, hm⟩
    | cons subscription rest ih =>
      intro s m hm
      obtain ⟨deeds, m', hrun, hm'⟩ :=
        exists_run_deliver htell hentry subscription s m (⟨n, e, rest⟩ :: q.underway) hm
      obtain ⟨deeds', m'', hrun', hm''⟩ := ih _ m' hm'
      exact ⟨_, m'', .cons .hear (hrun.append hrun'), hm''⟩
  obtain ⟨deeds, m, hrun, hm⟩ := hremaining (q.minutes.bus.recipients e) s _ hs
  refine ⟨deeds, m, ?_, ?_⟩
  · rw [Proceedings.publish, hn]
    exact hrun
  · rw [publish, hbus]
    exact hm

end BusHost

end Hosts

/-! ## Who hears of an event -/

/-- The recipients of an event, as they are when it is published. -/
theorem mem_map_recipients {id : Nat} :
    id ∈ (b.recipients e).map Subscription.id ↔
      ∃ s ∈ b.subscriptions, s.id = id ∧ s.accepts e = true := by
  rw [List.mem_map]
  constructor
  · rintro ⟨s, hs, hid⟩
    obtain ⟨hmem, haccepts⟩ := List.mem_filter.mp hs
    exact ⟨s, hmem, hid, haccepts⟩
  · rintro ⟨s, hmem, hid, haccepts⟩
    exact ⟨s, List.mem_filter.mpr ⟨hmem, haccepts⟩, hid⟩

/--
**An event reaches exactly those who were subscribed to it when it was published.** Let anything be
done on a bus, up to a moment at which an event is published, and let anything be done after that.
At any time those who have heard of the event, followed by those who are still to hear of it, are
the recipients it had in the beginning, each one once and in the order of their subscriptions. So
when the publication is over, they are the ones who heard of it. Who subscribes later has a number
that none of them has. Of the subscriptions made up to the moment all are left but those that were
withdrawn, however often.

A host publishes in this way if what each listener does is done by deeds, whether it fails or not.
-/
theorem BusHost.publish_reaches_recipients (e : Event) (hq : Run .initial before q) :
    (∀ during p, Run (q.publish e) during p →
      p.minutes.heardOf q.minutes.publications.length ++ p.awaited q.minutes.publications.length
        = (q.minutes.bus.recipients e).map Subscription.id ∧
      (p.underway = q.underway → p.minutes.heardOf q.minutes.publications.length
        = (q.minutes.bus.recipients e).map Subscription.id) ∧
      p.minutes.bus.names.length ∉ (q.minutes.bus.recipients e).map Subscription.id) ∧
    ((q.minutes.bus.recipients e).map Subscription.id).Pairwise (· < ·) ∧
    (∀ id, id ∈ (q.minutes.bus.recipients e).map Subscription.id ↔
      ∃ s ∈ q.minutes.bus.subscriptions, s.id = id ∧ s.accepts e = true) ∧
    q.minutes.bus.subscriptions.length + (withdrawnBy before).dedup.length = madeBy before ∧
    ∀ (σ : Type) (view : σ → Minutes L → Prop) (h : BusHost σ L) (s : σ),
      (∀ subscription s m u, view s m → ∃ deeds m',
        Run ⟨m.hear q.minutes.publications.length subscription.id, u⟩ deeds ⟨m', u⟩ ∧
          view (h.tell subscription e s).1 m') →
      (∀ entry s m, view s m → view (h.addEntry entry s) m) →
      view s (q.minutes.announce e) → h.bus s = q.minutes.bus →
      ∃ during m, Run (q.publish e) during ⟨m, q.underway⟩ ∧ view (h.publish e s) m ∧
        m.heardOf q.minutes.publications.length
          = (q.minutes.bus.recipients e).map Subscription.id := by
  have hstacked : q.Stacked := Proceedings.stacked_initial.run hq
  have hkept : Kept before q.minutes.bus := kept_initial.run hq
  refine ⟨fun during p hrun => ⟨hstacked.heardOf_append_awaited hrun, hstacked.heardOf_eq hrun,
    fun hmem => ?_⟩, hkept.pairwise.sublist (List.filter_sublist.map _),
    fun id => mem_map_recipients, hkept.length_add, fun σ view h s htell hentry hs hbus => ?_⟩
  · obtain ⟨s, hs, hid, _⟩ := mem_map_recipients.mp hmem
    have hlt : s.id < q.minutes.bus.names.length := hkept.lt hs
    have hgrows : madeBy before ≤ madeBy (before ++ .publish e :: during) := by
      rw [madeBy_append]
      exact Nat.le_add_right _ _
    have hlater := (hkept.run (.cons (.publish e) hrun)).made
    rw [hkept.made] at hlt
    omega
  · obtain ⟨during, m, hrun, hm⟩ := exists_run_publish htell hentry rfl hs hbus
    exact ⟨during, m, hrun, hm, hstacked.heardOf_eq hrun rfl⟩

/-! ## Sessions -/

namespace BusSession

theorem goes_subscribe (s : BusSession) (name : String) (type : Option EventType)
    (script : List BusAction) : Goes IsMinutes s (s.subscribe name type script) := by
  rintro _ u rfl
  exact ⟨_, _, .single (.subscribe name type script), rfl⟩

theorem goes_unsubscribe (s : BusSession) (name : String) :
    Goes IsMinutes s (s.unsubscribe name) := by
  rintro _ u rfl
  unfold unsubscribe
  rcases EventBus.unsubscribe_cases s.bus name with h | ⟨id, hid, h⟩
  · rw [h]
    exact ⟨[], _, .nil, rfl⟩
  · rw [h]
    exact ⟨_, _, .single (.withdraw hid), rfl⟩

/-- What a script does is done by deeds, up to where it fails. -/
theorem goes_act {publish : Event → BusSession → BusSession}
    (hpublish : ∀ e s, Goes IsMinutes s (publish e s)) (script : List BusAction) (s : BusSession) :
    Goes IsMinutes s (act publish script s).1 := by
  induction script generalizing s with
  | nil => exact .refl s
  | cons action rest ih =>
    cases action with
    | fail text => exact .refl s
    | subscribe name type script =>
      rw [act]
      split
      · exact ih s
      · exact (goes_subscribe s name type script).trans (ih _)
    | unsubscribe name => exact (goes_unsubscribe s name).trans (ih _)
    | publish e => exact (hpublish e s).trans (ih _)

/-- Somebody hears of an event and does what the script says. -/
theorem exists_run_tell {publish : Event → BusSession → BusSession}
    (hpublish : ∀ e s, Goes IsMinutes s (publish e s)) (n : Nat) (e : Event)
    (subscription : Subscription (List BusAction)) (s : BusSession)
    (m : Minutes (List BusAction)) (u : List (Underway (List BusAction))) (hm : IsMinutes s m) :
    ∃ deeds m', Run ⟨m.hear n subscription.id, u⟩ deeds ⟨m', u⟩ ∧
      IsMinutes ((host n publish).tell subscription e s).1 m' := by
  refine goes_act hpublish subscription.listener _ _ u ?_
  rw [hm]
  simp [IsMinutes, Minutes.hear]

theorem isMinutes_announce {s : BusSession} {m : Minutes (List BusAction)} (hm : IsMinutes s m)
    (e : Event) (recipients : List Nat) :
    IsMinutes { s with publications := s.publications ++ [⟨e, recipients⟩] } (m.announce e) := by
  rw [hm]
  simp [IsMinutes, Minutes.announce]

/-- A session publishes by deeds if those who hear of the event publish by deeds. -/
theorem exists_run_publish {depth : Nat} (hpublish : ∀ e s, Goes IsMinutes s (publish depth e s))
    (e : Event) {s : BusSession} {m : Minutes (List BusAction)}
    (u : List (Underway (List BusAction))) (hm : IsMinutes s m) :
    ∃ deeds m', Run ((⟨m, u⟩ : Proceedings (List BusAction)).publish e) deeds ⟨m', u⟩ ∧
      IsMinutes (publish (depth + 1) e s) m' := by
  have hplace : m.publications.length = s.publications.length := by rw [hm]; simp
  have hbus : s.bus = m.bus := by rw [hm]
  exact BusHost.exists_run_publish (q := ⟨m, u⟩)
    (exists_run_tell hpublish s.publications.length e) (fun _ _ _ h => h) hplace
    (isMinutes_announce hm e _) hbus

/-- **What is done in a session is done by deeds**, however deep publications are nested. -/
theorem goes_publish (depth : Nat) (e : Event) (s : BusSession) :
    Goes IsMinutes s (publish depth e s) := by
  induction depth generalizing e s with
  | zero => exact .refl s
  | succ depth ih =>
    intro m u hm
    obtain ⟨deeds, m', hrun, hm'⟩ := exists_run_publish ih e u hm
    exact ⟨_, m', .cons (.publish e) hrun, hm'⟩

/--
**An event that a session publishes reaches those who were subscribed to it**, whatever their
scripts say. The subscriptions that are left are those that were made and not withdrawn.
-/
theorem heardOf_publish (depth : Nat) (e : Event) {before : List (Deed (List BusAction))}
    {s : BusSession} {m : Minutes (List BusAction)} {u : List (Underway (List BusAction))}
    (hbefore : Run .initial before ⟨m, u⟩) (hm : IsMinutes s m) :
    ∃ deeds m', Run .initial (before ++ .publish e :: deeds) ⟨m', u⟩ ∧
      IsMinutes (publish (depth + 1) e s) m' ∧
      m'.heardOf m.publications.length = (m.bus.recipients e).map Subscription.id ∧
      Kept (before ++ .publish e :: deeds) m'.bus := by
  obtain ⟨deeds, m', hrun, hm'⟩ := exists_run_publish (goes_publish depth) e u hm
  have hall := hbefore.append (.cons (.publish e) hrun)
  exact ⟨deeds, m', hall, hm', (Proceedings.stacked_initial.run hbefore).heardOf_eq hrun rfl,
    kept_initial.run hall⟩

/-- The first listener ends the second's subscription, makes a fourth, publishes, and fails. -/
def meddler : List BusAction :=
  [.unsubscribe "second", .subscribe "fourth" none [], .publish .stopped, .fail "broken"]

/-- Three listeners, of which the first one hears of starts only. -/
def meddledBus : EventBus (List BusAction) :=
  ((EventBus.initial.subscribe "first" (some .started) meddler).subscribe "second" none
    []).subscribe "third" none []

theorem meddledBus_heard :
    Run .initial [.subscribe "first" (some .started) meddler, .subscribe "second" none [],
      .subscribe "third" none []] ⟨⟨meddledBus, [], []⟩, []⟩ ∧
    ∃ m, IsMinutes (publish 2 .started ⟨meddledBus, [], [], []⟩) m ∧
      m.heardOf 0 = [0, 1, 2] ∧ m.heardOf 1 = [2, 3] ∧ m.bus.subscriptions.length = 3 := by
  have hrun : Run .initial [.subscribe "first" (some .started) meddler,
      .subscribe "second" none [], .subscribe "third" none []] ⟨⟨meddledBus, [], []⟩, []⟩ :=
    .cons (.subscribe _ _ _) (.cons (.subscribe _ _ _) (.single (.subscribe _ _ _)))
  obtain ⟨_, m, _, hm, hheard⟩ := (BusHost.publish_reaches_recipients .started hrun).2.2.2.2
    BusSession IsMinutes (host 0 (publish 1)) ⟨meddledBus, [⟨.started, [0, 1, 2]⟩], [], []⟩
    (exists_run_tell (goes_publish 1) 0 .started) (fun _ _ _ h => h) rfl rfl
  refine ⟨hrun, m, hm, hheard, ?_, ?_⟩
  · rw [hm]
    rfl
  · rw [hm]
    rfl

end BusSession

end LiveTemplates
