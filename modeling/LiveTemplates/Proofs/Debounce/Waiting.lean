import LiveTemplates.Proofs.Debounce.Timers

/-!
# What a debouncer waits for

A debouncer on a clock waits for two lists of the same paths (`Waiting`). One has each path with the
time of its latest notice, in the order of these notices. The other has the paths in the order in
which they became pending. Time that passes takes paths out of the first list from its front, since
all of them have to be quiet for equally long. A flush goes by the second list.

`Debouncers.Tracks` says that a debouncer with its timers waits for such lists: the timers that are
still to run are those of the first list, in that order, and each of them carries the generation
that is pending for its path.
-/

namespace LiveTemplates

/-! ## The timer that runs next -/

namespace Clock

variable {α : Type} {c : Clock α} {limit : Int} {t : Timer α} {l r : List (Timer α)}

theorem foldl_earlier_of_le {u : Nat × Timer α} {rest : List (Nat × Timer α)}
    (h : ∀ v ∈ rest, u.2.due ≤ v.2.due) : rest.foldl earlier u = u := by
  induction rest with
  | nil => rfl
  | cons v rest ih =>
    have hfirst : earlier u v = u := if_neg (Int.not_lt.mpr (h v List.mem_cons_self))
    rw [List.foldl_cons, hfirst]
    exact ih fun v hv => h v (List.mem_cons_of_mem _ hv)

/-- Timers that are not to run are not due, wherever they are placed. -/
theorem filter_map_zipIdx_eq_nil {f : Timer α × Nat → Nat × Timer α} {P : Nat × Timer α → Bool}
    (hl : ∀ u ∈ l, u.active = false) (hf : ∀ u, (f u).2 = u.1)
    (hP : ∀ v, P v = true → v.2.active = true) : (l.zipIdx.map f).filter P = [] := by
  refine List.filter_eq_nil_iff.mpr fun v hv hdue => ?_
  obtain ⟨u, hu, rfl⟩ := List.mem_map.mp hv
  have hactive := hP _ hdue
  rw [hf, hl u.1 (List.fst_mem_of_mem_zipIdx hu)] at hactive
  cases hactive

/-- The first of the timers that are still to run is the next if no other is due before it. -/
theorem nextDue?_of_split (hsplit : c.timers = l ++ t :: r) (hl : ∀ u ∈ l, u.active = false)
    (hactive : t.active = true) (hfirst : ∀ u ∈ r, u.active = true → t.due ≤ u.due)
    (hdue : t.due ≤ limit) : c.nextDue? limit = some (l.length, t) := by
  unfold nextDue?
  dsimp only
  rw [hsplit, List.zipIdx_append, List.map_append, List.filter_append,
    filter_map_zipIdx_eq_nil hl (fun _ => rfl) fun _ hv => (Bool.and_eq_true_iff.mp hv).1,
    List.nil_append, List.zipIdx_cons, List.map_cons,
    List.filter_cons_of_pos (by simp [hactive, hdue])]
  dsimp only
  rw [Nat.zero_add, foldl_earlier_of_le]
  intro v hv
  obtain ⟨hmem, hvdue⟩ := List.mem_filter.mp hv
  obtain ⟨⟨t', i⟩, hafter, rfl⟩ := List.mem_map.mp hmem
  exact hfirst t' (List.fst_mem_of_mem_zipIdx hafter) (Bool.and_eq_true_iff.mp hvdue).1

theorem nextDue?_eq_none (h : ∀ t ∈ c.timers, t.active = true → limit < t.due) :
    c.nextDue? limit = none := by
  cases hnext : c.nextDue? limit with
  | none => rfl
  | some u =>
    obtain ⟨hget, hdue⟩ := isDue_of_nextDue? hnext
    obtain ⟨hactive, hle⟩ := Bool.and_eq_true_iff.mp hdue
    exact absurd (of_decide_eq_true hle) (Int.not_le.mpr (h _ (List.mem_of_getElem? hget) hactive))

/-- The timers that are cancelled are not to run any more. -/
theorem filter_active_cancel (c : Clock α) (f : α → Bool) :
    (c.cancel f).timers.filter Timer.active =
      (c.timers.filter Timer.active).filter fun t => !f t.action := by
  unfold cancel
  dsimp only
  induction c.timers with
  | nil => rfl
  | cons t ts ih =>
    rw [List.map_cons, List.filter_cons, List.filter_cons, ih]
    cases hactive : t.active with
    | false => by_cases hf : f t.action = true <;> simp [hf, hactive]
    | true => by_cases hf : f t.action = true <;> simp [hf, hactive]

/-- A timer that begins to run is no more among those that are to run. -/
theorem filter_active_beginTimer (hsplit : c.timers = l ++ t :: r)
    (hl : ∀ u ∈ l, u.active = false) :
    (c.beginTimer l.length).timers.filter Timer.active = r.filter Timer.active := by
  have hget : c.timers[l.length]? = some t := by simp [hsplit]
  unfold beginTimer
  rw [hget, hsplit]
  have hbefore : l.filter Timer.active = [] :=
    List.filter_eq_nil_iff.mpr fun u hu => by simp [hl u hu]
  simp [hbefore]

theorem now_beginTimer (hsplit : c.timers = l ++ t :: r) :
    (c.beginTimer l.length).now = max c.now t.due := by
  have hget : c.timers[l.length]? = some t := by simp [hsplit]
  unfold beginTimer
  rw [hget]

end Clock

/-! ## Generations -/

namespace Debouncer

variable {d : Debouncer} {p q : Path} {g : Nat}

theorem generationOf?_eq_some_iff (hnodup : d.pendingPaths.Nodup) :
    d.generationOf? p = some g ↔ ⟨p, g⟩ ∈ d.pending := by
  constructor
  · intro h
    obtain ⟨l, r, hsplit, _⟩ := exists_split_of_generationOf? h
    rw [hsplit]
    simp
  · exact generationOf?_of_mem hnodup

/-- A generation is pending for one path. -/
theorem Distinct.path_eq (h : d.Distinct) (hp : ⟨p, g⟩ ∈ d.pending) (hq : ⟨q, g⟩ ∈ d.pending) :
    p = q :=
  congrArg PendingChange.path (List.inj_on_of_nodup_map h.generations hp hq rfl)

/-- A path that is pending keeps its place, another one comes last. -/
theorem map_path_setGeneration (p : Path) (g : Nat) (cs : List PendingChange) :
    (setGeneration p g cs).map PendingChange.path =
      if p ∈ cs.map PendingChange.path then cs.map PendingChange.path
      else cs.map PendingChange.path ++ [p] := by
  induction cs with
  | nil => simp [setGeneration]
  | cons c cs ih =>
    rw [setGeneration]
    by_cases hc : c.path = p
    · simp [hc]
    · have hne : ¬ p = c.path := fun h => hc h.symm
      rw [if_neg (by simpa using hc), List.map_cons, ih]
      simp only [List.map_cons, List.mem_cons, hne, false_or]
      split
      · rfl
      · rfl

end Debouncer

/-! ## What is waited for -/

/-- How long a timer waits, on a clock that does not go back. -/
def Delay.wait (d : Delay) : Int :=
  max 0 d.microseconds

/-- What a debouncer waits for. -/
structure Waiting where
  /-- The microseconds on the clock. -/
  now : Int
  /-- The pending paths, each with the time of its latest notice, in the order of these notices. -/
  latest : List (Path × Int)
  /-- The pending paths in the order in which they became pending. -/
  pending : List Path
  disposed : Bool
deriving DecidableEq, Repr

namespace Waiting

variable {a : Waiting} {wait limit : Int} {p : Path} {q : Path × Int} {rest : List (Path × Int)}

/-- Nothing is waited for yet. -/
def initial : Waiting := ⟨0, [], [], false⟩

/-- Notice is taken of a change. -/
def notify (a : Waiting) (p : Path) : Waiting :=
  if a.disposed then a
  else
    { a with
      latest := a.latest.filter (·.1 != p) ++ [(p, a.now)]
      pending := if p ∈ a.pending then a.pending else a.pending ++ [p] }

/-- The notices after which it has been quiet for long enough at a time. -/
def due (a : Waiting) (wait limit : Int) : List (Path × Int) :=
  a.latest.filter fun q => decide (q.2 + wait ≤ limit)

/-- Time passes up to a limit. -/
def advance (a : Waiting) (wait limit : Int) : Waiting :=
  let latest := a.latest.filter fun q => decide (limit < q.2 + wait)
  { a with
    now := limit
    latest := latest
    pending := a.pending.filter fun p => decide (p ∈ latest.map Prod.fst) }

/-- Time passes until the first notice is due. -/
def settle (a : Waiting) (wait : Int) : Waiting :=
  match a.latest with
  | [] => a
  | q :: rest =>
    { a with now := q.2 + wait, latest := rest, pending := a.pending.filter (· != q.1) }

/-- Nothing is waited for any more. -/
def clear (a : Waiting) : Waiting :=
  { a with latest := [], pending := [] }

/-- Nothing is waited for any more, and nothing will be. -/
def dispose (a : Waiting) : Waiting :=
  { a.clear with disposed := true }

/-- The two lists belong together, and nobody waits for a time that has passed. -/
structure Sound (wait : Int) (a : Waiting) : Prop where
  ordered : a.latest.Pairwise fun q r => q.2 ≤ r.2
  noticed : ∀ q ∈ a.latest, q.2 ≤ a.now
  notDue : ∀ q ∈ a.latest, a.now ≤ q.2 + wait
  nodup_latest : (a.latest.map Prod.fst).Nodup
  nodup_pending : a.pending.Nodup
  mem_pending : ∀ p, p ∈ a.pending ↔ p ∈ a.latest.map Prod.fst

theorem sound_of_nil (wait : Int) (hlatest : a.latest = []) (hpending : a.pending = []) :
    a.Sound wait := by
  refine ⟨?_, ?_, ?_, ?_, ?_, ?_⟩ <;> simp [hlatest, hpending]

/-- What holds of the latest notices and of a new one holds of the latest notices after it. -/
theorem forall_mem_renewed {P : Path × Int → Prop} {t : Int} (h : ∀ q ∈ a.latest, P q)
    (hnew : P (p, t)) : ∀ q ∈ a.latest.filter (·.1 != p) ++ [(p, t)], P q := by
  intro q hq
  rcases List.mem_append.mp hq with hq | hq
  · exact h q (List.mem_filter.mp hq).1
  · obtain rfl := List.mem_singleton.mp hq
    exact hnew

theorem mem_map_fst_renewed {t : Int} {q : Path} :
    q ∈ (a.latest.filter (·.1 != p) ++ [(p, t)]).map Prod.fst ↔
      q ∈ a.latest.map Prod.fst ∨ q = p := by
  by_cases hq : q = p
  · simp [hq]
  · simp [hq]

theorem nodup_map_fst_renewed {t : Int} (h : (a.latest.map Prod.fst).Nodup) :
    ((a.latest.filter (·.1 != p) ++ [(p, t)]).map Prod.fst).Nodup := by
  rw [List.map_append, List.nodup_append]
  refine ⟨h.sublist (List.filter_sublist.map _), by simp, ?_⟩
  rintro _ hmem r hr rfl
  obtain ⟨q, hq, rfl⟩ := List.mem_map.mp hmem
  exact bne_iff_ne.mp (List.mem_filter.mp hq).2 (by simpa using hr)

theorem Sound.notify (h : a.Sound wait) (hwait : 0 ≤ wait) (p : Path) :
    (a.notify p).Sound wait := by
  unfold Waiting.notify
  split
  · exact h
  · refine ⟨?ordered, ?noticed, ?notDue, ?latest, ?pending, ?same⟩
    case ordered =>
      refine List.pairwise_append.mpr ⟨h.ordered.filter _, List.pairwise_singleton _ _, ?_⟩
      intro q hq r hr
      rw [List.mem_singleton.mp hr]
      exact h.noticed q (List.mem_filter.mp hq).1
    case noticed => exact forall_mem_renewed h.noticed (Int.le_refl a.now)
    case notDue =>
      have hnew : a.now ≤ a.now + wait := by omega
      exact forall_mem_renewed (P := fun q => a.now ≤ q.2 + wait) h.notDue hnew
    case latest => exact nodup_map_fst_renewed h.nodup_latest
    case pending =>
      show (if p ∈ a.pending then a.pending else a.pending ++ [p]).Nodup
      split
      · exact h.nodup_pending
      · next hp => exact List.concat_eq_append ▸ h.nodup_pending.concat hp
    case same =>
      intro q
      rw [mem_map_fst_renewed, ← h.mem_pending]
      show q ∈ (if p ∈ a.pending then a.pending else a.pending ++ [p]) ↔ _
      split
      · next hp =>
        refine ⟨.inl, ?_⟩
        rintro (hq | rfl)
        · exact hq
        · exact hp
      · simp

/-- Time may pass as long as none of what is still waited for comes to be due. -/
theorem Sound.advance (h : a.Sound wait) (hlimit : a.now ≤ limit) :
    (a.advance wait limit).Sound wait := by
  have hkept : (a.advance wait limit).latest.Sublist a.latest := List.filter_sublist
  refine ⟨h.ordered.sublist hkept, fun q hq => ?_, fun q hq => ?_,
    h.nodup_latest.sublist (hkept.map _), h.nodup_pending.filter _, fun p => ?_⟩
  · exact Int.le_trans (h.noticed q (hkept.subset hq)) hlimit
  · have hlater := (List.mem_filter.mp hq).2
    show limit ≤ q.2 + wait
    simpa using Int.le_of_lt (of_decide_eq_true hlater)
  · show p ∈ a.pending.filter _ ↔ _
    rw [List.mem_filter, h.mem_pending]
    constructor
    · rintro ⟨_, hp⟩
      exact of_decide_eq_true hp
    · intro hp
      exact ⟨(hkept.map _).subset hp, decide_eq_true hp⟩

theorem Sound.settle (h : a.Sound wait) (hlatest : a.latest = q :: rest) :
    (a.settle wait).Sound wait := by
  have hordered := h.ordered
  have hnodup := h.nodup_latest
  rw [hlatest] at hordered hnodup
  obtain ⟨hfirst, hordered⟩ := List.pairwise_cons.mp hordered
  rw [List.map_cons, List.nodup_cons] at hnodup
  have hmem : ∀ r ∈ rest, r ∈ a.latest := fun r hr => hlatest ▸ List.mem_cons_of_mem _ hr
  have hpassed : a.now ≤ q.2 + wait := h.notDue q (hlatest ▸ List.mem_cons_self)
  unfold Waiting.settle
  rw [hlatest]
  refine ⟨hordered, fun r hr => Int.le_trans (h.noticed r (hmem r hr)) hpassed, fun r hr => ?_,
    hnodup.2, h.nodup_pending.filter _, fun p => ?_⟩
  · have := hfirst r hr
    show q.2 + wait ≤ r.2 + wait
    omega
  · show p ∈ a.pending.filter (· != q.1) ↔ p ∈ rest.map Prod.fst
    rw [List.mem_filter, h.mem_pending, hlatest, List.map_cons, List.mem_cons]
    by_cases hp : p = q.1
    · rw [hp]
      simpa using hnodup.1
    · simp [hp]

/-- A notice that is due may be settled before the others. -/
theorem Sound.advance_settle (h : a.Sound wait) (hlatest : a.latest = q :: rest)
    (hdue : q.2 + wait ≤ limit) :
    (a.settle wait).advance wait limit = a.advance wait limit ∧
      a.due wait limit = q :: (a.settle wait).due wait limit := by
  have hnodup := h.nodup_latest
  rw [hlatest, List.map_cons, List.nodup_cons] at hnodup
  have hnow : ¬ limit < q.2 + wait := Int.not_lt.mpr hdue
  constructor
  · unfold Waiting.advance Waiting.settle
    rw [hlatest]
    dsimp only
    rw [List.filter_cons_of_neg (by simpa using hnow), List.filter_filter]
    congr 1
    refine List.filter_congr fun p _ => ?_
    -- The path of the notice that is settled is not waited for a second time.
    have hsettled :
        p ∈ (rest.filter fun q => decide (limit < q.2 + wait)).map Prod.fst → p ≠ q.1 := by
      rintro hp rfl
      exact hnodup.1 ((List.filter_sublist.map Prod.fst).subset hp)
    rw [Bool.eq_iff_iff, Bool.and_eq_true_iff, bne_iff_ne]
    exact and_iff_left_of_imp fun hp => hsettled (of_decide_eq_true hp)
  · unfold Waiting.due Waiting.settle
    rw [hlatest]
    exact List.filter_cons_of_pos (by simpa using hdue)

/-- When the first notice is not due, none is. -/
theorem Sound.advance_of_notDue (h : a.Sound wait)
    (hnone : ∀ q ∈ a.latest, limit < q.2 + wait) :
    a.advance wait limit = { a with now := limit } ∧ a.due wait limit = [] := by
  have hall : (a.latest.filter fun q => decide (limit < q.2 + wait)) = a.latest :=
    List.filter_eq_self.mpr fun q hq => decide_eq_true (hnone q hq)
  constructor
  · unfold Waiting.advance
    dsimp only
    rw [hall, List.filter_eq_self.mpr fun p hp => decide_eq_true ((h.mem_pending p).mp hp)]
  · refine List.filter_eq_nil_iff.mpr fun q hq => ?_
    simpa using hnone q hq

end Waiting

/-! ## One debouncer with its timers -/

namespace Debouncers

variable {d : Debouncers} {x : Debouncer} {a : Waiting} {limit : Int} {p : Path}
  {q : Path × Int} {rest : List (Path × Int)}

/-- The only debouncer waits for what is said. -/
structure Tracks (d : Debouncers) (x : Debouncer) (a : Waiting) : Prop where
  all : d.all = [x]
  now : d.clock.now = a.now
  disposed : x.disposed = a.disposed
  distinct : x.Distinct
  pending : x.pendingPaths = a.pending
  /-- The timers that are still to run are those of the latest notices. -/
  timers : ((d.clock.timers.filter Timer.active).map fun t => (t.action.path, t.due)) =
    a.latest.map fun q => (q.1, q.2 + x.delay.microseconds)
  current : ∀ t ∈ d.clock.timers.filter Timer.active,
    t.action.owner = 0 ∧ ⟨t.action.path, t.action.generation⟩ ∈ x.pending

theorem tracks_initial (delay : Delay) (label : String) :
    Tracks (initial.add (.initial delay label)) (.initial delay label) .initial where
  all := rfl
  now := rfl
  disposed := rfl
  distinct := Debouncer.distinct_of_pending_eq_nil rfl
  pending := rfl
  timers := rfl
  current t ht := by cases ht

theorem Tracks.getElem? (h : Tracks d x a) : d.all[0]? = some x := by
  rw [h.all]
  rfl

/-- What waits for nothing has no timers that are still to run. -/
theorem tracks_of_cancelled {d' : Debouncers} {x' : Debouncer} {a' : Waiting} (h : Tracks d x a)
    (hall : d'.all = [x']) (hdisposed : x'.disposed = a'.disposed) (hpending : x'.pending = [])
    (hclock : d'.clock = d.clock.cancel fun e =>
      e.owner == 0 && (x.pending.map PendingChange.generation).contains e.generation)
    (hnow : a'.now = a.now) (hlatest : a'.latest = []) (hnone : a'.pending = []) :
    Tracks d' x' a' := by
  have hcancelled : d'.clock.timers.filter Timer.active = [] := by
    rw [hclock, Clock.filter_active_cancel]
    refine List.filter_eq_nil_iff.mpr fun t ht => ?_
    obtain ⟨howner, hmem⟩ := h.current t ht
    have hgeneration : t.action.generation ∈ x.pending.map PendingChange.generation :=
      List.mem_map.mpr ⟨_, hmem, rfl⟩
    simpa [howner] using hgeneration
  refine ⟨hall, ?_, hdisposed, Debouncer.distinct_of_pending_eq_nil hpending, ?_, ?_, ?_⟩
  · rw [hclock, hnow]
    exact h.now
  · rw [hnone, Debouncer.pendingPaths, hpending]
    rfl
  · rw [hcancelled, hlatest]
    rfl
  · rw [hcancelled]
    intro t ht
    cases ht

theorem Tracks.flush (h : Tracks d x a) :
    (d.flush 0).2 = a.pending ∧ Tracks (d.flush 0).1 { x with pending := [] } a.clear := by
  have hx := h.getElem?
  unfold Debouncers.flush Debouncer.flush
  rw [hx]
  refine ⟨h.pending, tracks_of_cancelled h ?_ h.disposed rfl rfl rfl rfl rfl⟩
  show d.all.set 0 _ = _
  rw [h.all]
  rfl

theorem Tracks.dispose (h : Tracks d x a) :
    Tracks (d.dispose 0).1 { x with pending := [], disposed := true } a.dispose := by
  have hx := h.getElem?
  unfold Debouncers.dispose Debouncer.dispose
  rw [hx]
  refine tracks_of_cancelled h ?_ rfl rfl rfl rfl rfl rfl
  show d.all.set 0 _ = _
  rw [h.all]
  rfl

/-- Time passes without timers. -/
theorem Tracks.setNow (h : Tracks d x a) (now : Int) :
    Tracks { d with clock := { d.clock with now := now } } x { a with now := now } :=
  ⟨h.all, rfl, h.disposed, h.distinct, h.pending, h.timers, h.current⟩

/-- A notice cancels the timer of its own path, if there is one, and starts the last timer. -/
theorem Tracks.filter_active_notify (h : Tracks d x a) (hdisposed : x.disposed = false) (p : Path) :
    (d.notify 0 p).clock.timers.filter Timer.active =
      (d.clock.timers.filter Timer.active).filter (·.action.path != p) ++
        [⟨d.clock.now + x.delay.microseconds, ⟨0, p, x.lastGeneration + 1⟩, true⟩] := by
  have hcancelled : (d.clock.timers.filter Timer.active).filter (fun t =>
      !(t.action.owner == 0 && (x.generationOf? p).toList.contains t.action.generation)) =
        (d.clock.timers.filter Timer.active).filter (·.action.path != p) := by
    refine List.filter_congr fun t ht => ?_
    obtain ⟨howner, hmem⟩ := h.current t ht
    have hown : x.generationOf? p = some t.action.generation ↔ t.action.path = p := by
      rw [Debouncer.generationOf?_eq_some_iff h.distinct.paths]
      constructor
      · exact h.distinct.path_eq hmem
      · rintro rfl
        exact hmem
    rw [Bool.eq_iff_iff]
    simp [howner, ← hown]
  rw [← hcancelled, ← Clock.filter_active_cancel d.clock fun e =>
    e.owner == 0 && (x.generationOf? p).toList.contains e.generation]
  unfold Debouncers.notify Debouncer.notify
  rw [h.getElem?]
  simp [hdisposed, Debouncers.cancel, Clock.startTimer, Clock.cancel]

theorem Tracks.notify (h : Tracks d x a) (p : Path) :
    Tracks (d.notify 0 p) (x.notify p).1 (a.notify p) := by
  have hx := h.getElem?
  have hall : (d.notify 0 p).all = [(x.notify p).1] := by
    rw [all_notify hx, h.all]
    rfl
  have hnow := (now_notify d 0 p).trans h.now
  cases hdisposed : x.disposed with
  | true =>
    have hsame : d.notify 0 p = d := by
      unfold Debouncers.notify Debouncer.notify
      rw [hx]
      simp [hdisposed]
    have hx' : (x.notify p).1 = x := by simp [Debouncer.notify, hdisposed]
    have ha : a.notify p = a := if_pos (h.disposed ▸ hdisposed)
    rw [hsame, hx', ha]
    exact h
  | false =>
    have hx' : (x.notify p).1 = { x with
        pending := Debouncer.setGeneration p (x.lastGeneration + 1) x.pending
        lastGeneration := x.lastGeneration + 1 } := by
      simp [Debouncer.notify, hdisposed]
    have ha : a.notify p = { a with
        latest := a.latest.filter (·.1 != p) ++ [(p, a.now)]
        pending := if p ∈ a.pending then a.pending else a.pending ++ [p] } :=
      if_neg (by simp [← h.disposed, hdisposed])
    have hactive := h.filter_active_notify hdisposed p
    have hdistinct := h.distinct.notify p
    rw [hx'] at hall hdistinct ⊢
    rw [ha]
    refine ⟨hall, hnow, h.disposed, hdistinct, ?_, ?_, ?_⟩
    · show (Debouncer.setGeneration p _ x.pending).map PendingChange.path = _
      rw [Debouncer.map_path_setGeneration]
      exact if_congr (by rw [← h.pending]; rfl) h.pending (by rw [← h.pending]; rfl)
    · rw [hactive, List.map_append, List.map_append, h.now]
      congr 1
      calc ((d.clock.timers.filter Timer.active).filter (·.action.path != p)).map
            (fun t => (t.action.path, t.due))
          = ((d.clock.timers.filter Timer.active).map fun t => (t.action.path, t.due)).filter
            (·.1 != p) := (List.filter_map (p := fun q : Path × Int => q.1 != p)).symm
        _ = (a.latest.map fun q => (q.1, q.2 + x.delay.microseconds)).filter (·.1 != p) := by
          rw [h.timers]
        _ = (a.latest.filter (·.1 != p)).map fun q => (q.1, q.2 + x.delay.microseconds) :=
          List.filter_map (p := fun q : Path × Int => q.1 != p)
    · rw [hactive]
      intro t ht
      rcases List.mem_append.mp ht with ht | ht
      · obtain ⟨ht, hne⟩ := List.mem_filter.mp ht
        obtain ⟨howner, hmem⟩ := h.current t ht
        exact ⟨howner, Debouncer.mem_setGeneration_of_ne hmem (by simpa using hne)⟩
      · rw [List.mem_singleton.mp ht]
        exact ⟨rfl, Debouncer.mem_setGeneration_self p _ x.pending⟩

/-- A timer that carries what is pending calls back for its path. -/
theorem exists_expire_eq {e : Expiry} (hall : d.all = [x]) (hdistinct : x.Distinct)
    (howner : e.owner = 0) (hmem : ⟨e.path, e.generation⟩ ∈ x.pending) :
    ∃ log, d.expire e = (⟨d.clock, [{ x with pending := x.pending.filter (·.path != e.path) }]⟩,
      some e.path, log) := by
  have hgeneration := (Debouncer.generationOf?_eq_some_iff hdistinct.paths).mpr hmem
  have hx : x.expire e.path e.generation =
      ({ x with pending := x.pending.filter (·.path != e.path) }, true) := by
    rw [Debouncer.expire, if_pos hgeneration]
  refine ⟨[⟨.debug, "change_stable", ("path", .string e.path.toString) :: context x⟩], ?_⟩
  unfold Debouncers.expire
  rw [howner, hall]
  simp only [List.getElem?_cons_zero, hx]
  rfl

/-- The first of the timers that are still to run is that of the first notice. -/
theorem Tracks.exists_first (h : Tracks d x a) (hlatest : a.latest = q :: rest) :
    ∃ l t r, d.clock.timers = l ++ t :: r ∧ (∀ u ∈ l, u.active = false) ∧ t.active = true ∧
      t.action.path = q.1 ∧ t.due = q.2 + x.delay.microseconds ∧
      d.clock.timers.filter Timer.active = t :: r.filter Timer.active ∧
      ((r.filter Timer.active).map fun t => (t.action.path, t.due)) =
        rest.map fun q => (q.1, q.2 + x.delay.microseconds) := by
  have htimers := h.timers
  rw [hlatest] at htimers
  obtain ⟨t, ts, hactives, hthis, hrest⟩ := List.map_eq_cons_iff.mp htimers
  obtain ⟨l, r, hsplit, hl, hactive, rfl⟩ := List.filter_eq_cons_iff.mp hactives
  exact ⟨l, t, r, hsplit, fun u hu => by simpa using hl u hu, hactive, congrArg Prod.fst hthis,
    congrArg Prod.snd hthis, hactives, hrest⟩

/-- The timer of the first notice runs next if it is due, and settles its change. -/
theorem Tracks.expire_first (h : Tracks d x a)
    (hordered : a.latest.Pairwise fun q r => q.2 ≤ r.2) (hnodup : (a.latest.map Prod.fst).Nodup)
    (hlatest : a.latest = q :: rest) (hdue : q.2 + x.delay.microseconds ≤ limit) :
    ∃ i t, d.clock.nextDue? limit = some (i, t) ∧ ∃ d' x' log,
      Debouncers.expire { d with clock := d.clock.beginTimer i } t.action = (d', some q.1, log) ∧
      x'.delay = x.delay ∧
      Tracks d' x' { a with
        now := max a.now (q.2 + x.delay.microseconds)
        latest := rest
        pending := a.pending.filter (· != q.1) } := by
  obtain ⟨l, t, r, hsplit, hl, hactive, hpath, htdue, hactives, hrest⟩ := h.exists_first hlatest
  rw [hlatest] at hordered hnodup
  rw [List.map_cons, List.nodup_cons] at hnodup
  -- What another timer is for: a later notice of another path.
  have hothers : ∀ u ∈ r.filter Timer.active, t.due ≤ u.due ∧ u.action.path ≠ q.1 := by
    intro u hu
    obtain ⟨q', hq', heq⟩ := List.mem_map.mp
      (hrest ▸ List.mem_map_of_mem hu : (u.action.path, u.due) ∈ _)
    have hlater := (List.pairwise_cons.mp hordered).1 q' hq'
    have hupath : q'.1 = u.action.path := congrArg Prod.fst heq
    have hudue : q'.2 + x.delay.microseconds = u.due := congrArg Prod.snd heq
    refine ⟨by omega, fun hsame => hnodup.1 ?_⟩
    exact List.mem_map.mpr ⟨q', hq', hupath.trans hsame⟩
  have hnext : d.clock.nextDue? limit = some (l.length, t) :=
    Clock.nextDue?_of_split hsplit hl hactive
      (fun u hu huactive => (hothers u (List.mem_filter.mpr ⟨hu, huactive⟩)).1) (htdue ▸ hdue)
  obtain ⟨howner, hmem⟩ := h.current t (hactives ▸ List.mem_cons_self)
  obtain ⟨log, hexpire⟩ := exists_expire_eq
    (d := { d with clock := d.clock.beginTimer l.length }) h.all h.distinct howner hmem
  rw [hpath] at hexpire hmem
  have hremaining := Clock.filter_active_beginTimer hsplit hl
  have hdistinct := h.distinct.expire q.1 t.action.generation
  rw [Debouncer.expire,
    if_pos ((Debouncer.generationOf?_eq_some_iff h.distinct.paths).mpr hmem)] at hdistinct
  refine ⟨l.length, t, hnext, _, { x with pending := x.pending.filter (·.path != q.1) }, log,
    hexpire, rfl, ⟨rfl, ?_, h.disposed, hdistinct, ?_, ?_, ?_⟩⟩
  · show (d.clock.beginTimer l.length).now = max a.now _
    rw [Clock.now_beginTimer hsplit, htdue, h.now]
  · show (x.pending.filter _).map PendingChange.path = _
    rw [← h.pending]
    exact (List.filter_map (p := fun p => p != q.1)).symm
  · exact hremaining ▸ hrest
  · intro u hu
    have hu : u ∈ r.filter Timer.active := hremaining ▸ hu
    obtain ⟨huowner, humem⟩ := h.current u (hactives ▸ List.mem_cons_of_mem _ hu)
    exact ⟨huowner, List.mem_filter.mpr ⟨humem, bne_iff_ne.mpr (hothers u hu).2⟩⟩

/-- When the first notice is not due, no timer runs. -/
theorem Tracks.nextDue?_eq_none (h : Tracks d x a)
    (hnone : ∀ q ∈ a.latest, limit < q.2 + x.delay.microseconds) :
    d.clock.nextDue? limit = none := by
  refine Clock.nextDue?_eq_none fun t ht hactive => ?_
  have hmem : (t.action.path, t.due) ∈ (d.clock.timers.filter Timer.active).map
      fun t => (t.action.path, t.due) :=
    List.mem_map.mpr ⟨t, List.mem_filter.mpr ⟨ht, hactive⟩, rfl⟩
  rw [h.timers] at hmem
  obtain ⟨q, hq, heq⟩ := List.mem_map.mp hmem
  have htdue : q.2 + x.delay.microseconds = t.due := congrArg Prod.snd heq
  exact htdue ▸ hnone q hq

end Debouncers

end LiveTemplates
