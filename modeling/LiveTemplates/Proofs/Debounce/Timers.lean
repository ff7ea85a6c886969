import LiveTemplates.Proofs.Debounce.Ledger
import LiveTemplates.Proofs.Watch.Attention

/-!
# Every pending change has its timer

As long as nobody is disposed of, each pending change has a timer that is still to run
(`Debouncers.Armed`). To take notice of a change cancels the timer of the change in whose place it
comes, and no other. When a timer runs, its own change is settled, and the timers of all others are
left as they are. So once no timer is due, no change is pending.
-/

namespace LiveTemplates

/-! ## Timers -/

/-- Whether a timer is still to run when time passes up to a limit. -/
def Timer.isDue {α : Type} (limit : Int) (t : Timer α) : Bool :=
  t.active && decide (t.due ≤ limit)

namespace Clock

variable {α : Type} {c : Clock α} {limit : Int} {i : Nat} {t t' : Timer α}

/-- How many timers are still to run when time passes up to a limit. -/
def dueCount (limit : Int) (c : Clock α) : Nat :=
  c.timers.countP (Timer.isDue limit)

theorem foldl_earlier_mem (t : Nat × Timer α) (rest : List (Nat × Timer α)) :
    rest.foldl earlier t ∈ t :: rest := by
  induction rest generalizing t with
  | nil => exact List.mem_singleton_self t
  | cons u rest ih =>
    have hnext := ih (earlier t u)
    rw [List.foldl_cons]
    rcases List.mem_cons.mp hnext with heq | hmem
    · rw [heq]
      unfold earlier
      split
      · simp
      · simp
    · exact List.mem_cons_of_mem _ (List.mem_cons_of_mem _ hmem)

/-- The timers that are still to run, with their places. -/
theorem mem_due_iff {u : Nat × Timer α} :
    u ∈ (c.timers.zipIdx.map fun (t, i) => (i, t)).filter
      (fun (_, t) => t.active && decide (t.due ≤ limit)) ↔
      c.timers[u.1]? = some u.2 ∧ u.2.isDue limit = true := by
  obtain ⟨i, t⟩ := u
  rw [List.mem_filter, List.mem_map]
  constructor
  · rintro ⟨⟨⟨t', i'⟩, hmem, heq⟩, hdue⟩
    cases heq
    exact ⟨List.mem_zipIdx_iff_getElem?.mp hmem, hdue⟩
  · rintro ⟨hget, hdue⟩
    exact ⟨⟨(t, i), List.mem_zipIdx_iff_getElem?.mpr hget, rfl⟩, hdue⟩

/-- The timer that runs next is still to run. -/
theorem isDue_of_nextDue? (h : c.nextDue? limit = some (i, t)) :
    c.timers[i]? = some t ∧ t.isDue limit = true := by
  unfold nextDue? at h
  dsimp only at h
  split at h
  · cases h
  · next u rest hdue =>
    have hmem := foldl_earlier_mem u rest
    rw [← hdue, Option.some.inj h] at hmem
    exact mem_due_iff.mp hmem

/-- When no timer runs next, none is still to run. -/
theorem not_isDue_of_nextDue? (h : c.nextDue? limit = none) (ht : t ∈ c.timers) :
    t.isDue limit = false := by
  obtain ⟨i, hi⟩ := List.mem_iff_getElem?.mp ht
  unfold nextDue? at h
  dsimp only at h
  split at h
  · next hdue =>
    by_cases hisDue : t.isDue limit = true
    · have hboth : c.timers[(i, t).1]? = some (i, t).2 ∧ (i, t).2.isDue limit = true :=
        ⟨hi, hisDue⟩
      rw [← mem_due_iff, hdue] at hboth
      cases hboth
    · simpa using hisDue
  · cases h

/-- A timer that runs is not to run any more. -/
theorem dueCount_beginTimer (hget : c.timers[i]? = some t) (hdue : t.isDue limit = true) :
    (c.beginTimer i).dueCount limit + 1 = c.dueCount limit := by
  obtain ⟨hlt, rfl⟩ := List.getElem?_eq_some_iff.mp hget
  have hpos : 0 < c.timers.countP (Timer.isDue limit) :=
    List.countP_pos_iff.mpr ⟨_, List.getElem_mem hlt, hdue⟩
  unfold dueCount beginTimer
  rw [hget]
  show (c.timers.set i _).countP _ + 1 = _
  rw [List.countP_set hlt, if_pos hdue, if_neg (by simp [Timer.isDue])]
  omega

/-- A timer that runs is the only one that changes. -/
theorem mem_timers_beginTimer (hget : c.timers[i]? = some t) (hmem : t' ∈ c.timers)
    (hne : t' ≠ t) : t' ∈ (c.beginTimer i).timers := by
  obtain ⟨j, hj⟩ := List.mem_iff_getElem?.mp hmem
  have hij : i ≠ j := by
    rintro rfl
    exact hne (Option.some.inj (hj.symm.trans hget))
  unfold beginTimer
  rw [hget]
  show t' ∈ c.timers.set i _
  exact List.mem_of_getElem? ((List.getElem?_set_ne hij).trans hj)

end Clock

/-! ## One debouncer -/

namespace Debouncer

variable {d : Debouncer} {p q : Path} {g : Nat} {c : PendingChange}

/-- Neither a path nor a generation is pending twice, and the next generation is a new one. -/
structure Distinct (d : Debouncer) : Prop where
  paths : d.pendingPaths.Nodup
  generations : (d.pending.map PendingChange.generation).Nodup
  bounded : ∀ c ∈ d.pending, c.generation ≤ d.lastGeneration

theorem distinct_of_pending_eq_nil (h : d.pending = []) : d.Distinct := by
  refine ⟨?_, ?_, ?_⟩
  · simp [pendingPaths, h]
  · simp [h]
  · simp [h]

theorem mem_map_path_setGeneration (cs : List PendingChange) :
    q ∈ (setGeneration p g cs).map PendingChange.path ↔
      q ∈ cs.map PendingChange.path ∨ q = p := by
  induction cs with
  | nil => simp [setGeneration]
  | cons c cs ih =>
    rw [setGeneration]
    by_cases hc : c.path = p
    · rw [if_pos (by simpa using hc)]
      simp only [List.map_cons, List.mem_cons, hc]
      constructor
      · rintro (h | h)
        · exact .inr h
        · exact .inl (.inr h)
      · rintro ((h | h) | h)
        · exact .inl h
        · exact .inr h
        · exact .inl h
    · rw [if_neg (by simpa using hc), List.map_cons, List.mem_cons, ih, List.map_cons,
        List.mem_cons, or_assoc]

theorem Distinct.notify (h : d.Distinct) (p : Path) : (d.notify p).1.Distinct := by
  unfold Debouncer.notify
  split
  · exact h
  · have hperm := perm_setGeneration d p (d.lastGeneration + 1)
    refine ⟨nodup_setGeneration h.paths p _, ?_, fun c hc => ?_⟩
    · have hnew : ((⟨p, d.lastGeneration + 1⟩ :: d.pending).map
          PendingChange.generation).Nodup := by
        rw [List.map_cons, List.nodup_cons]
        refine ⟨fun hmem => ?_, h.generations⟩
        obtain ⟨c, hc, heq⟩ := List.mem_map.mp hmem
        have := h.bounded c hc
        dsimp only at heq
        omega
      rw [(hperm.map PendingChange.generation).nodup_iff, List.map_append] at hnew
      exact (List.nodup_append.mp hnew).1
    · show c.generation ≤ d.lastGeneration + 1
      rcases (mem_setGeneration_iff h.paths).mp hc with rfl | ⟨hc, _⟩
      · exact Nat.le_refl _
      · exact Nat.le_succ_of_le (h.bounded c hc)

theorem Distinct.expire (h : d.Distinct) (p : Path) (g : Nat) : (d.expire p g).1.Distinct := by
  unfold Debouncer.expire
  split
  · have hsublist : (d.pending.filter (·.path != p)).Sublist d.pending := List.filter_sublist
    exact ⟨h.paths.sublist (hsublist.map _), h.generations.sublist (hsublist.map _),
      fun c hc => h.bounded c (hsublist.subset hc)⟩
  · exact h

/-- What an expiry settles is not pending any more. -/
theorem ne_of_mem_expire (h : d.Distinct) (hc : c ∈ (d.expire p g).1.pending) : c ≠ ⟨p, g⟩ := by
  rintro rfl
  unfold Debouncer.expire at hc
  split at hc
  · have hne := (List.mem_filter.mp hc).2
    simp at hne
  · next hpending => exact hpending (generationOf?_of_mem h.paths hc)

/-- An expiry settles its own path, or nothing. -/
theorem count_pendingPaths_expire (h : d.Distinct) (p : Path) (g : Nat) (q : Path) :
    (d.expire p g).1.pendingPaths.count q + (if (d.expire p g).2 ∧ q = p then 1 else 0)
      = d.pendingPaths.count q := by
  unfold Debouncer.expire
  split
  · next hpending =>
    obtain ⟨l, r, hsplit, _⟩ := exists_split_of_generationOf? hpending
    have hfilter := filter_of_split hsplit h.paths
    have hnodup := h.paths
    unfold pendingPaths at hnodup ⊢
    dsimp only
    rw [hfilter, hsplit]
    simp only [List.map_append, List.map_cons, List.count_append, List.count_cons, true_and]
    by_cases hq : q = p
    · simp [hq]
      omega
    · have : ¬ p = q := fun h => hq h.symm
      simp [hq, this]
  · simp

end Debouncer

/-! ## All debouncers -/

namespace Debouncers

variable {d : Debouncers} {limit : Int} {i j : Nat} {p q : Path} {x : Debouncer}

/-- Each pending change has a timer that is still to run when time passes up to a limit. -/
structure Armed (limit : Int) (d : Debouncers) : Prop where
  distinct : ∀ x ∈ d.all, x.Distinct
  timer : ∀ {i x}, d.all[i]? = some x → ∀ c ∈ x.pending, ∃ t ∈ d.clock.timers,
    t.action = ⟨i, c.path, c.generation⟩ ∧ t.isDue limit = true

theorem armed_of_pending_eq_nil (limit : Int) (h : ∀ x ∈ d.all, x.pending = []) :
    d.Armed limit where
  distinct x hx := Debouncer.distinct_of_pending_eq_nil (h x hx)
  timer hx c hc := by
    rw [h _ (List.mem_of_getElem? hx)] at hc
    cases hc

theorem pendingPaths_of_some (hx : d.all[i]? = some x) : d.pendingPaths i = x.pendingPaths := by
  unfold pendingPaths
  rw [hx]
  rfl

/-- When no timer is still to run, nothing is pending. -/
theorem Armed.pendingPaths_eq_nil (h : d.Armed limit) (hnone : d.clock.dueCount limit = 0)
    (i : Nat) : d.pendingPaths i = [] := by
  cases hx : d.all[i]? with
  | none => simp [pendingPaths, hx]
  | some x =>
    have hpending : x.pending = [] := by
      refine List.eq_nil_iff_forall_not_mem.mpr fun c hc => ?_
      obtain ⟨t, ht, _, hdue⟩ := h.timer hx c hc
      exact absurd hdue (List.countP_eq_zero.mp hnone t ht)
    rw [pendingPaths_of_some hx, Debouncer.pendingPaths, hpending]
    rfl

theorem Armed.nodup_pendingPaths (h : d.Armed limit) (i : Nat) : (d.pendingPaths i).Nodup := by
  cases hx : d.all[i]? with
  | none => simp [pendingPaths, hx]
  | some x =>
    rw [pendingPaths_of_some hx]
    exact (h.distinct x (List.mem_of_getElem? hx)).paths

/-- What stands at a place after one place was set. -/
theorem getElem?_set_cases {d' : Debouncers} {y z : Debouncer} (hx : d.all[i]? = some x)
    (hall : d'.all = d.all.set i y) (hz : d'.all[j]? = some z) :
    i = j ∧ z = y ∨ i ≠ j ∧ d.all[j]? = some z := by
  rw [hall, List.getElem?_set] at hz
  by_cases hij : i = j
  · rw [if_pos hij, if_pos (List.getElem?_eq_some_iff.mp hx).1] at hz
    exact .inl ⟨hij, (Option.some.inj hz).symm⟩
  · rw [if_neg hij] at hz
    exact .inr ⟨hij, hz⟩

/-! ### Notices -/

theorem mem_pendingPaths_notify (d : Debouncers) (i j : Nat) (p q : Path) :
    q ∈ (d.notify i p).pendingPaths j ↔ q ∈ d.pendingPaths j ∨
      j = i ∧ q = p ∧ ∃ x, d.all[i]? = some x ∧ x.disposed = false := by
  cases hx : d.all[i]? with
  | none =>
    rw [notify_of_none hx]
    simp
  | some x =>
    by_cases hij : i = j
    · subst hij
      have hnew : (d.notify i p).all[i]? = some (x.notify p).1 := by
        rw [all_notify hx]
        exact List.getElem?_set_self (List.getElem?_eq_some_iff.mp hx).1
      rw [pendingPaths_of_some hnew, pendingPaths_of_some hx]
      cases hdisposed : x.disposed with
      | true => simp [Debouncer.notify, hdisposed]
      | false =>
        unfold Debouncer.notify Debouncer.pendingPaths
        rw [hdisposed, if_neg (by simp), Debouncer.mem_map_path_setGeneration]
        simp [hdisposed]
    · have hother : (d.notify i p).pendingPaths j = d.pendingPaths j := by
        unfold pendingPaths
        rw [getElem?_notify_of_ne d p hij]
      rw [hother]
      constructor
      · exact .inl
      · rintro (h | ⟨h, _⟩)
        · exact h
        · exact absurd h.symm hij

/-- A notice cancels a timer and starts one. -/
theorem timers_notify (hx : d.all[i]? = some x) (hdisposed : x.disposed = false) (p : Path) :
    (d.notify i p).clock.timers = (d.clock.timers.map fun t =>
        if t.action.owner == i && (x.generationOf? p).toList.contains t.action.generation then
          { t with active := false } else t) ++
      [⟨d.clock.now + x.delay.microseconds, ⟨i, p, x.lastGeneration + 1⟩, true⟩] := by
  unfold notify Debouncer.notify
  rw [hx]
  simp [hdisposed, cancel, Clock.cancel, Clock.startTimer]

theorem now_notify (d : Debouncers) (i : Nat) (p : Path) :
    (d.notify i p).clock.now = d.clock.now := by
  unfold notify
  split
  · rfl
  · split
    · rfl
    · rfl

/-- **A notice leaves every pending change with a timer**, if that of the new one is in time. -/
theorem Armed.notify (h : d.Armed limit) (hx : d.all[i]? = some x)
    (hintime : x.disposed = false → d.clock.now + x.delay.microseconds ≤ limit) (p : Path) :
    (d.notify i p).Armed limit := by
  have hdistinct := h.distinct x (List.mem_of_getElem? hx)
  cases hdisposed : x.disposed with
  | true =>
    have hsame : d.notify i p = d := by
      unfold Debouncers.notify Debouncer.notify
      rw [hx]
      simp [hdisposed]
    rwa [hsame]
  | false =>
    have hall := all_notify hx p
    have htimers := timers_notify hx hdisposed p
    -- A timer goes on unless its generation is that of the change in whose place the new one comes.
    have hgoesOn : ∀ {k} {c : PendingChange}, (∃ t ∈ d.clock.timers,
        t.action = ⟨k, c.path, c.generation⟩ ∧ t.isDue limit = true) →
        ¬ (k = i ∧ x.generationOf? p = some c.generation) →
        ∃ t ∈ (d.notify i p).clock.timers, t.action = ⟨k, c.path, c.generation⟩ ∧
          t.isDue limit = true := by
      rintro k c ⟨t, ht, haction, hdue⟩ hother
      refine ⟨t, ?_, haction, hdue⟩
      rw [htimers]
      refine List.mem_append_left _ (List.mem_map.mpr ⟨t, ht, if_neg fun hcancelled => hother ?_⟩)
      rw [haction] at hcancelled
      simpa using hcancelled
    refine ⟨fun y hy => ?_, fun {j y} hy c hc => ?_⟩
    · rw [hall] at hy
      rcases List.mem_or_eq_of_mem_set hy with hy | rfl
      · exact h.distinct y hy
      · exact hdistinct.notify p
    · rcases getElem?_set_cases hx hall hy with ⟨rfl, rfl⟩ | ⟨hne, hy⟩
      · unfold Debouncer.notify at hc
        rw [if_neg (by simp [hdisposed])] at hc
        rcases (Debouncer.mem_setGeneration_iff hdistinct.paths).mp hc with rfl | ⟨hc, hpath⟩
        · refine ⟨_, htimers ▸ List.mem_append_right _ (List.mem_singleton_self _), rfl, ?_⟩
          simp [Timer.isDue, hintime hdisposed]
        · refine hgoesOn (h.timer hx c hc) fun ⟨_, hgeneration⟩ => hpath ?_
          obtain ⟨l, r, hsplit, _⟩ := Debouncer.exists_split_of_generationOf? hgeneration
          have hmem : (⟨p, c.generation⟩ : PendingChange) ∈ x.pending := by rw [hsplit]; simp
          have hsame := List.inj_on_of_nodup_map hdistinct.generations hc hmem rfl
          exact congrArg PendingChange.path hsame
      · exact hgoesOn (h.timer hy c hc) fun ⟨hji, _⟩ => hne hji.symm

/-! ### Timers that run -/

theorem clock_expire (d : Debouncers) (e : Expiry) : (d.expire e).1.clock = d.clock := by
  unfold expire
  split
  · rfl
  · split
    · rfl
    · rfl

/-- **A timer that runs leaves every pending change with a timer.** -/
theorem Armed.expire {t : Timer Expiry} (h : d.Armed limit) (ht : d.clock.timers[i]? = some t) :
    (Debouncers.expire { d with clock := d.clock.beginTimer i } t.action).1.Armed limit := by
  generalize hd : ({ d with clock := d.clock.beginTimer i } : Debouncers) = d'
  have hall : d'.all = d.all := by rw [← hd]
  have hclock : (d'.expire t.action).1.clock = d.clock.beginTimer i := by
    rw [clock_expire, ← hd]
  have hgoesOn : ∀ {j x} {c : PendingChange}, d.all[j]? = some x → c ∈ x.pending →
      (⟨j, c.path, c.generation⟩ : Expiry) ≠ t.action →
      ∃ t' ∈ (d'.expire t.action).1.clock.timers, t'.action = ⟨j, c.path, c.generation⟩ ∧
        t'.isDue limit = true := by
    intro j x c hx hc hne
    obtain ⟨t', ht', haction, hdue⟩ := h.timer hx c hc
    refine ⟨t', ?_, haction, hdue⟩
    rw [hclock]
    exact Clock.mem_timers_beginTimer ht ht' fun heq => hne (haction ▸ heq ▸ rfl)
  cases hx : d.all[t.action.owner]? with
  | none =>
    have hsame : (d'.expire t.action).1.all = d.all := by
      rw [expire_of_none (by rw [hall]; exact hx), hall]
    refine ⟨fun y hy => h.distinct y (hsame ▸ hy), fun {j y} hy c hc => ?_⟩
    rw [hsame] at hy
    refine hgoesOn hy hc fun heq => ?_
    rw [← heq, hy] at hx
    cases hx
  | some x =>
    have hset := all_expire (e := t.action) (hall ▸ hx : d'.all[t.action.owner]? = some x)
    rw [hall] at hset
    have hdistinct := h.distinct x (List.mem_of_getElem? hx)
    refine ⟨fun y hy => ?_, fun {j y} hy c hc => ?_⟩
    · rw [hset] at hy
      rcases List.mem_or_eq_of_mem_set hy with hy | rfl
      · exact h.distinct y hy
      · exact hdistinct.expire _ _
    · rcases getElem?_set_cases hx hset hy with ⟨rfl, rfl⟩ | ⟨hne, hy⟩
      · have hsettled := Debouncer.ne_of_mem_expire hdistinct hc
        have hsubset : (x.expire t.action.path t.action.generation).1.pending ⊆ x.pending := by
          unfold Debouncer.expire
          split
          · exact List.filter_sublist.subset
          · exact List.Subset.refl _
        refine hgoesOn hx (hsubset hc) fun heq => hsettled ?_
        rw [← heq]
      · refine hgoesOn hy hc fun heq => hne ?_
        rw [← heq]

/-- When a timer runs, the change that is called back for is pending no more, and all others are. -/
theorem count_pendingPaths_expire (h : ∀ x ∈ d.all, x.Distinct) (e : Expiry) (i : Nat) (q : Path) :
    ((d.expire e).2.1.map (Prod.mk e.owner)).toList.count (i, q)
      + ((d.expire e).1.pendingPaths i).count q = (d.pendingPaths i).count q := by
  cases hx : d.all[e.owner]? with
  | none =>
    rw [expire_of_none hx]
    simp
  | some x =>
    have hcount := Debouncer.count_pendingPaths_expire (h x (List.mem_of_getElem? hx)) e.path
      e.generation q
    have hcalled : (d.expire e).2.1
        = if (x.expire e.path e.generation).2 = true then some e.path else none := by
      unfold expire
      rw [hx]
      dsimp only
      cases hexpire : x.expire e.path e.generation with
      | mk x' settled => cases settled <;> rfl
    by_cases hi : e.owner = i
    · subst hi
      have hnew : (d.expire e).1.all[e.owner]? = some (x.expire e.path e.generation).1 := by
        rw [all_expire hx]
        exact List.getElem?_set_self (List.getElem?_eq_some_iff.mp hx).1
      rw [pendingPaths_of_some hnew, pendingPaths_of_some hx, ← hcount, hcalled, Nat.add_comm]
      congr 1
      cases (x.expire e.path e.generation).2 with
      | false => simp
      | true =>
        by_cases hq : q = e.path
        · simp [hq]
        · have : ¬ e.path = q := fun h => hq h.symm
          simp [hq, this]
    · have hother : (d.expire e).1.pendingPaths i = d.pendingPaths i := by
        unfold pendingPaths
        rw [all_expire hx, List.getElem?_set_ne hi]
      rw [hother, hcalled]
      split
      · simp [hi]
      · simp

end Debouncers

end LiveTemplates
