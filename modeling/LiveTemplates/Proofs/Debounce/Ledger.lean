import Mathlib.Data.List.Nodup
import LiveTemplates.Debounce

/-!
# Every change is accounted for

A debouncer forgets a change once it is settled. Here it is run with a ledger, in which the history
of every accepted change is kept: it is pending, or a later notice of the same path superseded it,
or its callback was committed to, or it was cancelled at disposal.

The steps of a run come in any order. A timer that was started may expire at any later time, also
when it was cancelled, but only once. Callbacks are called one by one, after the step that committed
to them, and other steps may come between them.

The invariant is `Balanced`. It is kept because a generation is never used twice: what an expiry
finds pending under the generation of its own timer is the change that the timer was started for.

Balanced accounts alone would do for a debouncer that takes no notice of anything. So it is also
said which notices are taken, in terms of the run (`noticed`), and to which account each step moves
what is pending (`Takes`, `Balanced.step_expire_pending`, `step_flush`, `step_dispose`).
-/

namespace LiveTemplates

namespace Debouncer

/-! ## What the operations do to the pending changes -/

variable {d : Debouncer} {p : Path} {g : Nat}

/-- A path without a pending change is none of the pending paths. -/
theorem path_ne_of_generationOf?_none (h : d.generationOf? p = none) :
    ∀ c ∈ d.pending, c.path ≠ p := by
  intro c hc
  have := List.find?_eq_none.mp (Option.map_eq_none_iff.mp h) c hc
  simpa using this

/-- The pending change of a path stands among the others. -/
theorem exists_split_of_generationOf? (h : d.generationOf? p = some g) :
    ∃ l r, d.pending = l ++ ⟨p, g⟩ :: r ∧ ∀ c ∈ l, c.path ≠ p := by
  obtain ⟨⟨q, g'⟩, hfind, rfl⟩ := Option.map_eq_some_iff.mp h
  obtain ⟨hq, l, r, hpending, hl⟩ := List.find?_eq_some_iff_append.mp hfind
  obtain rfl : q = p := by simpa using hq
  exact ⟨l, r, hpending, fun c hc => by simpa using hl c hc⟩

/-- A path that is not pending comes after those that are. -/
theorem setGeneration_of_absent {cs : List PendingChange} (h : ∀ c ∈ cs, c.path ≠ p) :
    setGeneration p g cs = cs ++ [⟨p, g⟩] := by
  induction cs with
  | nil => rfl
  | cons c cs ih =>
    have hc : (c.path == p) = false := by simpa using h c List.mem_cons_self
    rw [setGeneration, hc, ih fun c hc => h c (List.mem_cons_of_mem _ hc)]
    rfl

/-- A path that is pending keeps its place. -/
theorem setGeneration_of_split {l r : List PendingChange} {g₀ : Nat} (hl : ∀ c ∈ l, c.path ≠ p) :
    setGeneration p g (l ++ ⟨p, g₀⟩ :: r) = l ++ ⟨p, g⟩ :: r := by
  induction l with
  | nil => simp [setGeneration]
  | cons c l ih =>
    have hc : (c.path == p) = false := by simpa using hl c List.mem_cons_self
    rw [List.cons_append, setGeneration, hc, ih fun c hc => hl c (List.mem_cons_of_mem _ hc)]
    rfl

/-- Without a path, the pending changes are those around it. -/
theorem filter_of_split {l r : List PendingChange} (h : d.pending = l ++ ⟨p, g⟩ :: r)
    (hnodup : d.pendingPaths.Nodup) : d.pending.filter (·.path != p) = l ++ r := by
  rw [pendingPaths, h, List.map_append, List.map_cons, List.nodup_append] at hnodup
  obtain ⟨_, hr, hlr⟩ := hnodup
  have hl : ∀ c ∈ l, c.path ≠ p := fun c hc =>
    hlr _ (List.mem_map_of_mem hc) _ List.mem_cons_self
  have hr : ∀ c ∈ r, c.path ≠ p := by
    rintro c hc rfl
    exact (List.nodup_cons.mp hr).1 (List.mem_map.mpr ⟨c, hc, rfl⟩)
  rw [h, List.filter_append, List.filter_cons_of_neg (by simp),
    List.filter_eq_self.mpr fun c hc => by simpa using hl c hc,
    List.filter_eq_self.mpr fun c hc => by simpa using hr c hc]

/-- A pending change has the generation of its path. -/
theorem generationOf?_of_mem {c : PendingChange} (hnodup : d.pendingPaths.Nodup)
    (hc : c ∈ d.pending) : d.generationOf? c.path = some c.generation := by
  cases h : d.generationOf? c.path with
  | none => exact absurd rfl (path_ne_of_generationOf?_none h c hc)
  | some g =>
    obtain ⟨l, r, hpending, _⟩ := exists_split_of_generationOf? h
    have hmem : (⟨c.path, g⟩ : PendingChange) ∈ d.pending := by rw [hpending]; simp
    have heq : c = ⟨c.path, g⟩ := List.inj_on_of_nodup_map hnodup hc hmem rfl
    exact congrArg (fun c : PendingChange => some c.generation) heq.symm

/-- A notice puts a change in, and takes the one of its path out. -/
theorem perm_setGeneration (d : Debouncer) (p : Path) (g : Nat) :
    (⟨p, g⟩ :: d.pending).Perm
      (setGeneration p g d.pending ++ ((d.generationOf? p).map (PendingChange.mk p)).toList) := by
  cases h : d.generationOf? p with
  | none =>
    rw [setGeneration_of_absent (path_ne_of_generationOf?_none h)]
    simpa using (List.perm_append_singleton _ _).symm
  | some g₀ =>
    obtain ⟨l, r, hpending, hl⟩ := exists_split_of_generationOf? h
    rw [hpending, setGeneration_of_split hl, List.perm_iff_count]
    intro c
    simp only [Option.map_some, Option.toList_some, List.count_cons, List.count_append,
      List.count_nil]
    omega

/-- A notice lets no path be pending twice. -/
theorem nodup_setGeneration (hnodup : d.pendingPaths.Nodup) (p : Path) (g : Nat) :
    ((setGeneration p g d.pending).map PendingChange.path).Nodup := by
  cases h : d.generationOf? p with
  | none =>
    have hp := path_ne_of_generationOf?_none h
    rw [setGeneration_of_absent hp, List.map_append, List.nodup_append]
    refine ⟨hnodup, by simp, ?_⟩
    rintro _ hq q hp' rfl
    obtain ⟨c, hc, rfl⟩ := List.mem_map.mp hq
    exact hp c hc (by simpa using hp')
  | some g₀ =>
    obtain ⟨l, r, hpending, hl⟩ := exists_split_of_generationOf? h
    rw [pendingPaths, hpending] at hnodup
    rw [hpending, setGeneration_of_split hl]
    simpa using hnodup

/-- A notice makes its path pending. -/
theorem mem_setGeneration_self (p : Path) (g : Nat) (cs : List PendingChange) :
    (⟨p, g⟩ : PendingChange) ∈ setGeneration p g cs := by
  induction cs with
  | nil => exact List.mem_singleton_self _
  | cons c cs ih =>
    rw [setGeneration]
    split
    · exact List.mem_cons_self
    · exact List.mem_cons_of_mem _ ih

/-- A notice leaves the changes of other paths pending. -/
theorem mem_setGeneration_of_ne {c : PendingChange} {cs : List PendingChange} (hc : c ∈ cs)
    (hne : c.path ≠ p) : c ∈ setGeneration p g cs := by
  induction cs with
  | nil => cases hc
  | cons c' cs ih =>
    rw [setGeneration]
    rcases List.mem_cons.mp hc with rfl | hc
    · rw [if_neg (by simpa using hne)]
      exact List.mem_cons_self
    · split
      · exact List.mem_cons_of_mem _ hc
      · exact List.mem_cons_of_mem _ (ih hc)

/-- After a notice its change is pending, and the changes of other paths are as before. -/
theorem mem_setGeneration_iff {c : PendingChange} (hnodup : d.pendingPaths.Nodup) :
    c ∈ setGeneration p g d.pending ↔ c = ⟨p, g⟩ ∨ c ∈ d.pending ∧ c.path ≠ p := by
  constructor
  · intro hc
    by_cases hp : c.path = p
    · exact Or.inl (List.inj_on_of_nodup_map (nodup_setGeneration hnodup p g) hc
        (mem_setGeneration_self p g _) hp)
    · have := (perm_setGeneration d p g).mem_iff.mpr (List.mem_append_left _ hc)
      rcases List.mem_cons.mp this with rfl | hc
      · exact absurd rfl hp
      · exact Or.inr ⟨hc, hp⟩
  · rintro (rfl | ⟨hc, hp⟩)
    · exact mem_setGeneration_self p g _
    · exact mem_setGeneration_of_ne hc hp

/-- A notice supersedes what is pending for its path. -/
theorem mem_generationOf?_iff {c : PendingChange} (hnodup : d.pendingPaths.Nodup) :
    c ∈ ((d.generationOf? p).map (PendingChange.mk p)).toList ↔ c ∈ d.pending ∧ c.path = p := by
  rw [Option.mem_toList, Option.map_eq_some_iff]
  constructor
  · rintro ⟨g, hg, rfl⟩
    obtain ⟨l, r, hpending, _⟩ := exists_split_of_generationOf? hg
    exact ⟨by rw [hpending]; simp, rfl⟩
  · rintro ⟨hc, rfl⟩
    exact ⟨c.generation, generationOf?_of_mem hnodup hc, rfl⟩

/-! ## Runs with a ledger -/

/-- What committed to callbacks. -/
inductive Cause
  /-- The timer that was started for the change expired. -/
  | expiry (c : PendingChange)
  | flush
deriving DecidableEq, Repr

/-- Callbacks that are called one by one. -/
structure Task where
  cause : Cause
  called : List PendingChange
  queued : List PendingChange
deriving DecidableEq, Repr

/-- The changes whose callbacks a task has called or will call. -/
def Task.committed (k : Task) : List PendingChange :=
  k.called ++ k.queued

/-- The task with the next callback called. -/
def Task.callNext (k : Task) : Task :=
  match k.queued with
  | [] => k
  | c :: rest => { k with called := k.called ++ [c], queued := rest }

/-- A debouncer with its history. A change is named by its path and the generation it was given. -/
structure Ledger where
  debouncer : Debouncer
  /-- Timers that were started and have not expired, cancelled or not. -/
  armed : List PendingChange
  /-- The changes of which notice was taken, the latest first. -/
  accepted : List PendingChange
  /-- Changes in whose place a later one of the same path became pending. -/
  superseded : List PendingChange
  /-- Changes that were given up at disposal. -/
  cancelled : List PendingChange
  tasks : List Task
deriving Repr

namespace Ledger

/-- The ledger of a debouncer to which nothing has happened. -/
def initial (delay : Delay) (label : String) : Ledger :=
  ⟨.initial delay label, [], [], [], [], []⟩

/-- The changes whose callbacks were called or will be. -/
def committed (s : Ledger) : List PendingChange :=
  s.tasks.flatMap Task.committed

/-- The changes whose callbacks were called. -/
def called (s : Ledger) : List PendingChange :=
  s.tasks.flatMap Task.called

/-- The change of which notice was taken last, for a path. -/
def latest? (s : Ledger) (p : Path) : Option PendingChange :=
  s.accepted.find? (·.path == p)

/-- What can happen to a debouncer. -/
inductive Action
  | notify (p : Path)
  /-- The timer that was started for the change expires. -/
  | expire (c : PendingChange)
  | flush
  | dispose
  /-- The task at a place calls its next callback. -/
  | call (i : Nat)
deriving DecidableEq, Repr

/-- One step. A timer that was not started, or has expired before, does not expire. -/
def step (s : Ledger) : Action → Ledger
  | .notify p =>
    match s.debouncer.notify p with
    | (d, none) => { s with debouncer := d }
    | (d, some notice) =>
      { s with
        debouncer := d
        armed := ⟨p, notice.started⟩ :: s.armed
        accepted := ⟨p, notice.started⟩ :: s.accepted
        superseded := (notice.superseded.map (PendingChange.mk p)).toList ++ s.superseded }
  | .expire c =>
    if c ∈ s.armed then
      let (d, settled) := s.debouncer.expire c.path c.generation
      { s with
        debouncer := d
        armed := s.armed.erase c
        tasks := if settled then s.tasks ++ [⟨.expiry c, [], [c]⟩] else s.tasks }
    else s
  | .flush =>
    let (d, settled) := s.debouncer.flush
    { s with debouncer := d, tasks := s.tasks ++ [⟨.flush, [], settled⟩] }
  | .dispose =>
    let (d, given) := s.debouncer.dispose
    { s with debouncer := d, cancelled := s.cancelled ++ given }
  | .call i => { s with tasks := s.tasks.modify i Task.callNext }

/-- The ledger of a debouncer after some steps. -/
def after (delay : Delay) (label : String) (actions : List Action) : Ledger :=
  actions.foldl step (initial delay label)

/-- The paths of which a debouncer is told in some steps, until it is disposed of. -/
def noticed : List Action → List Path
  | [] => []
  | .notify p :: rest => p :: noticed rest
  | .dispose :: _ => []
  | .expire _ :: rest | .flush :: rest | .call _ :: rest => noticed rest

/--
A notice is taken of a change. It has a new generation and a timer, and is pending in the place of
the change of its path, which is superseded. Nothing is called or cancelled.
-/
structure Takes (s : Ledger) (c : PendingChange) (s' : Ledger) : Prop where
  fresh : ∀ c' ∈ s.accepted, c'.generation < c.generation
  accepted : s'.accepted = c :: s.accepted
  armed : s'.armed = c :: s.armed
  pending : ∀ c', c' ∈ s'.debouncer.pending ↔
    c' = c ∨ c' ∈ s.debouncer.pending ∧ c'.path ≠ c.path
  superseded : ∀ c', c' ∈ s'.superseded ↔
    (c' ∈ s.debouncer.pending ∧ c'.path = c.path) ∨ c' ∈ s.superseded
  disposed : s'.debouncer.disposed = s.debouncer.disposed
  cancelled : s'.cancelled = s.cancelled
  tasks : s'.tasks = s.tasks

/-- **The invariant of all runs.** -/
structure Balanced (s : Ledger) : Prop where
  /-- A path is pending at most once. -/
  nodup : s.debouncer.pendingPaths.Nodup
  /-- A pending change is the latest one of its path. -/
  latest : ∀ c ∈ s.debouncer.pending, s.latest? c.path = some c
  /-- Generations grow. -/
  growing : s.accepted.Pairwise fun c c' => c'.generation < c.generation
  bounded : ∀ c ∈ s.accepted, c.generation ≤ s.debouncer.lastGeneration
  /-- Each accepted change has one account. -/
  accounts : s.accepted.Perm
    (s.debouncer.pending ++ (s.superseded ++ (s.committed ++ s.cancelled)))
  /-- The timer of a pending change has not expired. -/
  armed : ∀ c ∈ s.debouncer.pending, c ∈ s.armed
  /-- A timer belongs to one accepted change and expires once. -/
  timers : s.armed.Nodup ∧ s.armed ⊆ s.accepted
  superseded : ∀ c ∈ s.superseded,
    ∃ c' ∈ s.accepted, c'.path = c.path ∧ c.generation < c'.generation
  cancelled : s.cancelled ≠ [] → s.debouncer.disposed = true
  disposed : s.debouncer.disposed = true → s.debouncer.pending = []
  /-- An expiry commits to the callback for the change that its timer was started for. -/
  expiries : ∀ k ∈ s.tasks, ∀ c, k.cause = .expiry c → k.committed = [c]

/-! ## What a step changes -/

variable {s : Ledger} {p : Path} {c : PendingChange}

/-- After disposal no notice is taken. -/
theorem step_notify_disposed (h : s.debouncer.disposed = true) : s.step (.notify p) = s := by
  simp [step, notify, h]

theorem step_notify (h : s.debouncer.disposed = false) :
    s.step (.notify p) = { s with
      debouncer := { s.debouncer with
        pending := setGeneration p (s.debouncer.lastGeneration + 1) s.debouncer.pending
        lastGeneration := s.debouncer.lastGeneration + 1 }
      armed := ⟨p, s.debouncer.lastGeneration + 1⟩ :: s.armed
      accepted := ⟨p, s.debouncer.lastGeneration + 1⟩ :: s.accepted
      superseded :=
        ((s.debouncer.generationOf? p).map (PendingChange.mk p)).toList ++ s.superseded } := by
  simp [step, notify, h]

/-- An expiry commits to the callback if its change is pending. -/
theorem step_expire (harmed : c ∈ s.armed)
    (h : s.debouncer.generationOf? c.path = some c.generation) :
    s.step (.expire c) = { s with
      debouncer := { s.debouncer with
        pending := s.debouncer.pending.filter (·.path != c.path) }
      armed := s.armed.erase c
      tasks := s.tasks ++ [⟨.expiry c, [], [c]⟩] } := by
  simp [step, expire, harmed, h]

/-- **A stale expiry changes nothing** but that its timer has expired. -/
theorem step_expire_stale (h : s.debouncer.generationOf? c.path ≠ some c.generation) :
    s.step (.expire c) = { s with armed := s.armed.erase c } := by
  by_cases harmed : c ∈ s.armed
  · simp [step, expire, harmed, h]
  · simp [step, harmed, List.erase_of_not_mem]

/-- A flush commits to the callbacks for all that is pending. -/
theorem step_flush (s : Ledger) :
    s.step .flush = { s with
      debouncer := { s.debouncer with pending := [] }
      tasks := s.tasks ++ [⟨.flush, [], s.debouncer.pending⟩] } := rfl

/-- Disposal cancels all that is pending. -/
theorem step_dispose (s : Ledger) :
    s.step .dispose = { s with
      debouncer := { s.debouncer with pending := [], disposed := true }
      cancelled := s.cancelled ++ s.debouncer.pending } := rfl

/-- An expiry neither disposes of the debouncer nor takes notice of a change. -/
theorem step_expire_keeps (s : Ledger) (c : PendingChange) :
    (s.step (.expire c)).debouncer.disposed = s.debouncer.disposed ∧
      (s.step (.expire c)).accepted = s.accepted := by
  by_cases h : s.debouncer.generationOf? c.path = some c.generation
  · by_cases harmed : c ∈ s.armed
    · rw [step_expire harmed h]
      exact ⟨rfl, rfl⟩
    · simp [step, harmed]
  · rw [step_expire_stale h]
    exact ⟨rfl, rfl⟩

/-- A debouncer is disposed of by disposal alone, and for good. -/
theorem disposed_step {a : Action} :
    (s.step a).debouncer.disposed = true ↔ s.debouncer.disposed = true ∨ a = .dispose := by
  cases a with
  | notify p =>
    cases hd : s.debouncer.disposed with
    | true => simp [step_notify_disposed hd, hd]
    | false => simp [step_notify hd, hd]
  | expire c => simp [(step_expire_keeps s c).1]
  | flush => simp [step_flush]
  | dispose => simp [step_dispose]
  | call i => simp [step]

/-! ## Which changes are accepted -/

theorem disposed_foldl (actions : List Action) :
    (actions.foldl step s).debouncer.disposed = true ↔
      s.debouncer.disposed = true ∨ .dispose ∈ actions := by
  induction actions generalizing s with
  | nil => simp
  | cons a rest ih =>
    rw [List.foldl_cons, ih, disposed_step, List.mem_cons, or_assoc, @eq_comm _ a]

/-- After disposal no change is accepted. -/
theorem accepted_foldl_disposed (actions : List Action) (hd : s.debouncer.disposed = true) :
    (actions.foldl step s).accepted = s.accepted := by
  induction actions generalizing s with
  | nil => rfl
  | cons a rest ih =>
    rw [List.foldl_cons, ih (disposed_step.mpr (.inl hd))]
    cases a with
    | notify p => rw [step_notify_disposed hd]
    | expire c => exact (step_expire_keeps s c).2
    | flush | dispose | call i => rfl

/-- **Every notice before disposal is taken**, and no other, in their order. -/
theorem paths_accepted_foldl (actions : List Action) (hd : s.debouncer.disposed = false) :
    (actions.foldl step s).accepted.map PendingChange.path
      = (noticed actions).reverse ++ s.accepted.map PendingChange.path := by
  induction actions generalizing s with
  | nil => rfl
  | cons a rest ih =>
    rw [List.foldl_cons]
    cases a with
    | notify p =>
      have hdisposed : (s.step (.notify p)).debouncer.disposed = false := by
        rw [step_notify hd]
        exact hd
      rw [ih hdisposed, step_notify hd]
      simp [noticed]
    | expire c =>
      obtain ⟨hdisposed, haccepted⟩ := step_expire_keeps s c
      rw [ih (hdisposed.trans hd), haccepted]
      rfl
    | flush => exact ih hd
    | dispose =>
      rw [accepted_foldl_disposed rest rfl]
      rfl
    | call i => exact ih hd

/-! ## The invariant is kept -/

/-- The accounts balance if they balance for each change. -/
theorem accounts_iff :
    s.accepted.Perm (s.debouncer.pending ++ (s.superseded ++ (s.committed ++ s.cancelled))) ↔
      ∀ c, s.accepted.count c = s.debouncer.pending.count c
        + (s.superseded.count c + (s.committed.count c + s.cancelled.count c)) := by
  simp only [List.perm_iff_count, List.count_append]

theorem balanced_initial (delay : Delay) (label : String) : Balanced (initial delay label) := by
  constructor <;> simp [initial, Debouncer.initial, pendingPaths, committed]

/-- A new change takes the place of the one of its path. -/
theorem Balanced.notify (hs : Balanced s) (p : Path) : Balanced (s.step (.notify p)) := by
  cases hd : s.debouncer.disposed with
  | true => rwa [step_notify_disposed hd]
  | false =>
    rw [step_notify hd]
    have hfresh : ∀ c ∈ s.accepted, c.generation < s.debouncer.lastGeneration + 1 := fun c hc =>
      Nat.lt_succ_of_le (hs.bounded c hc)
    constructor
    case nodup => exact nodup_setGeneration hs.nodup p _
    case latest =>
      intro c hc
      rcases (mem_setGeneration_iff hs.nodup).mp hc with rfl | ⟨hc, hp⟩
      · simp [latest?]
      · rw [latest?, List.find?_cons_of_neg (by simpa using Ne.symm hp)]
        exact hs.latest c hc
    case growing => exact List.pairwise_cons.mpr ⟨hfresh, hs.growing⟩
    case bounded =>
      intro c hc
      rcases List.mem_cons.mp hc with rfl | hc
      · exact Nat.le_refl _
      · exact Nat.le_of_lt (hfresh c hc)
    case accounts =>
      -- the new change goes into the pending ones, and the one of its path from there to the
      -- superseded ones
      refine accounts_iff.mpr fun c => ?_
      have haccounts := accounts_iff.mp hs.accounts c
      have hmoved := (perm_setGeneration s.debouncer p (s.debouncer.lastGeneration + 1)).count_eq c
      simp only [List.count_append, List.count_cons, committed] at hmoved haccounts ⊢
      omega
    case armed =>
      intro c hc
      rcases (mem_setGeneration_iff hs.nodup).mp hc with rfl | ⟨hc, _⟩
      · exact List.mem_cons_self
      · exact List.mem_cons_of_mem _ (hs.armed c hc)
    case timers =>
      refine ⟨List.nodup_cons.mpr ⟨fun h => ?_, hs.timers.1⟩, fun c hc => ?_⟩
      · exact Nat.lt_irrefl _ (hfresh _ (hs.timers.2 h))
      · rcases List.mem_cons.mp hc with rfl | hc
        · exact List.mem_cons_self
        · exact List.mem_cons_of_mem _ (hs.timers.2 hc)
    case superseded =>
      -- the new change is later than the one in whose place it comes
      intro c hc
      rcases List.mem_append.mp hc with hc | hc
      · obtain ⟨hpending, rfl⟩ := (mem_generationOf?_iff hs.nodup).mp hc
        have hlatest := List.mem_of_find?_eq_some (hs.latest c hpending)
        exact ⟨_, List.mem_cons_self, rfl, hfresh c hlatest⟩
      · obtain ⟨c', hc', hlater⟩ := hs.superseded c hc
        exact ⟨c', List.mem_cons_of_mem _ hc', hlater⟩
    case cancelled => exact hs.cancelled
    case disposed => exact fun h => absurd h (by simp [hd])
    case expiries => exact hs.expiries

/-- The expiry of a pending change's timer commits to its callback. -/
theorem Balanced.step_expire_pending (hs : Balanced s) (hc : c ∈ s.debouncer.pending) :
    s.step (.expire c) = { s with
      debouncer := { s.debouncer with pending := s.debouncer.pending.erase c }
      armed := s.armed.erase c
      tasks := s.tasks ++ [⟨.expiry c, [], [c]⟩] } := by
  have hgeneration := generationOf?_of_mem hs.nodup hc
  obtain ⟨l, r, hsplit, hl⟩ := exists_split_of_generationOf? hgeneration
  have hnotMem : c ∉ l := fun h => hl c h rfl
  have herase : s.debouncer.pending.erase c = l ++ r := by
    rw [hsplit, List.erase_append_right _ hnotMem, List.erase_cons_head]
  rw [step_expire (hs.armed c hc) hgeneration, filter_of_split hsplit hs.nodup, herase]

/-- The expiry of another timer changes nothing but that the timer has expired. -/
theorem expire_not_pending (hc : c ∉ s.debouncer.pending) :
    s.step (.expire c) = { s with armed := s.armed.erase c } := by
  refine step_expire_stale fun h => ?_
  obtain ⟨l, r, hpending, _⟩ := exists_split_of_generationOf? h
  exact hc (by rw [hpending]; simp)

/-- An expiry settles the change of its own timer, or none. -/
theorem Balanced.expire (hs : Balanced s) (c : PendingChange) : Balanced (s.step (.expire c)) := by
  by_cases hc : c ∈ s.debouncer.pending
  · rw [hs.step_expire_pending hc]
    have hrest : ∀ c' ∈ s.debouncer.pending.erase c, c' ≠ c ∧ c' ∈ s.debouncer.pending :=
      fun c' => (List.Nodup.of_map _ hs.nodup).mem_erase_iff.mp
    constructor
    case nodup => exact hs.nodup.sublist (List.erase_sublist.map _)
    case latest => exact fun c' hc' => hs.latest c' (hrest c' hc').2
    case growing => exact hs.growing
    case bounded => exact hs.bounded
    case accounts =>
      refine accounts_iff.mpr fun c' => ?_
      have haccounts := accounts_iff.mp hs.accounts c'
      have hmoved := (List.perm_cons_erase hc).count_eq c'
      simp only [List.count_append, List.count_cons, committed, List.flatMap_append,
        List.flatMap_cons, List.flatMap_nil, Task.committed, List.count_nil] at haccounts hmoved ⊢
      omega
    case armed =>
      intro c' hc'
      obtain ⟨hne, hmem⟩ := hrest c' hc'
      exact (List.mem_erase_of_ne hne).mpr (hs.armed c' hmem)
    case timers =>
      exact ⟨hs.timers.1.erase c, fun c' hc' => hs.timers.2 (List.mem_of_mem_erase hc')⟩
    case superseded => exact hs.superseded
    case cancelled => exact hs.cancelled
    case disposed => exact fun hd => absurd (hs.disposed hd) (List.ne_nil_of_mem hc)
    case expiries =>
      intro k hk c' hcause
      rcases List.mem_append.mp hk with hk | hk
      · exact hs.expiries k hk c' hcause
      · obtain rfl := List.mem_singleton.mp hk
        obtain rfl : c = c' := by simpa using hcause
        rfl
  · -- no timer of a pending change expires here, so all of them are still armed
    rw [expire_not_pending hc]
    refine { hs with armed := fun c' hc' => ?_, timers := ?_ }
    · have hne : c' ≠ c := fun heq => hc (heq ▸ hc')
      exact (List.mem_erase_of_ne hne).mpr (hs.armed c' hc')
    · exact ⟨hs.timers.1.erase c, fun c' hc' => hs.timers.2 (List.mem_of_mem_erase hc')⟩

/-- A flush settles all pending changes. -/
theorem Balanced.flush (hs : Balanced s) : Balanced (s.step .flush) := by
  constructor
  case nodup => exact List.nodup_nil
  case latest => exact nofun
  case growing => exact hs.growing
  case bounded => exact hs.bounded
  case accounts =>
    refine accounts_iff.mpr fun c => ?_
    have haccounts := accounts_iff.mp hs.accounts c
    simp only [step, Debouncer.flush, List.count_append, committed, List.flatMap_append,
      List.flatMap_cons, List.flatMap_nil, Task.committed, List.count_nil] at haccounts ⊢
    omega
  case armed => exact nofun
  case timers => exact hs.timers
  case superseded => exact hs.superseded
  case cancelled => exact hs.cancelled
  case disposed => exact fun _ => rfl
  case expiries =>
    intro k hk c hcause
    rcases List.mem_append.mp hk with hk | hk
    · exact hs.expiries k hk c hcause
    · obtain rfl := List.mem_singleton.mp hk
      simp at hcause

/-- Disposal gives all pending changes up. -/
theorem Balanced.dispose (hs : Balanced s) : Balanced (s.step .dispose) := by
  constructor
  case nodup => exact List.nodup_nil
  case latest => exact nofun
  case growing => exact hs.growing
  case bounded => exact hs.bounded
  case accounts =>
    refine accounts_iff.mpr fun c => ?_
    have haccounts := accounts_iff.mp hs.accounts c
    simp only [step, Debouncer.dispose, List.count_append, committed, List.count_nil]
      at haccounts ⊢
    omega
  case armed => exact nofun
  case timers => exact hs.timers
  case superseded => exact hs.superseded
  case cancelled => exact fun _ => rfl
  case disposed => exact fun _ => rfl
  case expiries => exact hs.expiries

/-- A call changes no task's cause, and not to what it is committed. -/
theorem causes_and_commitments (ks : List Task) (i : Nat) :
    ((ks.modify i Task.callNext).map fun k => (k.cause, k.committed))
      = ks.map fun k => (k.cause, k.committed) := by
  have hcall : ∀ k : Task, (k.callNext.cause, k.callNext.committed) = (k.cause, k.committed) := by
    rintro ⟨cause, called, queued⟩
    cases queued <;> simp [Task.callNext, Task.committed]
  induction ks generalizing i with
  | nil => rw [List.modify_nil]
  | cons k ks ih =>
    cases i with
    | zero => rw [List.modify_zero_cons, List.map_cons, List.map_cons, hcall]
    | succ i => rw [List.modify_succ_cons, List.map_cons, List.map_cons, ih i]

/-- A call moves no change from one account to another. -/
theorem committed_call (s : Ledger) (i : Nat) : (s.step (.call i)).committed = s.committed := by
  have h := congrArg (List.flatMap Prod.snd) (causes_and_commitments s.tasks i)
  rw [List.flatMap_map, List.flatMap_map] at h
  exact h

theorem Balanced.call (hs : Balanced s) (i : Nat) : Balanced (s.step (.call i)) := by
  refine { hs with accounts := ?_, expiries := ?_ }
  · rw [committed_call]
    exact hs.accounts
  · intro k hk c hcause
    have hmem : (k.cause, k.committed) ∈ s.tasks.map fun k => (k.cause, k.committed) := by
      rw [← causes_and_commitments s.tasks i]
      exact List.mem_map_of_mem hk
    obtain ⟨k', hk', heq⟩ := List.mem_map.mp hmem
    obtain ⟨hcause', hcommitted⟩ := Prod.mk.inj heq
    rw [← hcommitted]
    exact hs.expiries k' hk' c (hcause'.trans hcause)

theorem Balanced.step (hs : Balanced s) (a : Action) : Balanced (s.step a) := by
  cases a with
  | notify p => exact hs.notify p
  | expire c => exact hs.expire c
  | flush => exact hs.flush
  | dispose => exact hs.dispose
  | call i => exact hs.call i

/-- The ledger is balanced after any steps, by induction from the first one on. -/
theorem balanced_after (delay : Delay) (label : String) (actions : List Action) :
    Balanced (after delay label actions) := by
  have hrun : ∀ s, Balanced s → Balanced (actions.foldl step s) := by
    induction actions with
    | nil => exact fun s hs => hs
    | cons a actions ih => exact fun s hs => ih _ (hs.step a)
  exact hrun _ (balanced_initial delay label)

/-! ## What follows from the accounts -/

/-- No two accepted changes are the same. -/
theorem Balanced.nodup_accepted (hs : Balanced s) : s.accepted.Nodup :=
  hs.growing.imp fun h heq => Nat.ne_of_gt h (congrArg PendingChange.generation heq)

/-- The latest change of a path has its greatest generation. -/
theorem Balanced.generation_le_latest (hs : Balanced s) (hlatest : s.latest? p = some c)
    {c' : PendingChange} (hc' : c' ∈ s.accepted) (hp : c'.path = p) :
    c'.generation ≤ c.generation := by
  obtain ⟨_, l, r, haccepted, hl⟩ := List.find?_eq_some_iff_append.mp hlatest
  have hgrowing := hs.growing
  rw [haccepted] at hc' hgrowing
  rcases List.mem_append.mp hc' with h | h
  · exact absurd hp (by simpa using hl c' h)
  · rcases List.mem_cons.mp h with rfl | h
    · exact Nat.le_refl _
    · have hafter := (List.pairwise_cons.mp (List.pairwise_append.mp hgrowing).2.1).1
      exact Nat.le_of_lt (hafter c' h)

/-- No callback is called twice for a change. -/
theorem Balanced.nodup_called (hs : Balanced s) : s.called.Nodup := by
  have hcommitted : s.committed.Nodup :=
    (List.nodup_append.mp (List.nodup_append.mp
      (List.nodup_append.mp (hs.accounts.nodup hs.nodup_accepted)).2.1).2.1).1
  have hsublist : ∀ ks : List Task,
      (ks.flatMap Task.called).Sublist (ks.flatMap Task.committed) := by
    intro ks
    induction ks with
    | nil => exact List.Sublist.refl _
    | cons k ks ih => exact (List.sublist_append_left k.called k.queued).append ih
  exact hcommitted.sublist (hsublist s.tasks)

/-- **A notice is taken** unless the debouncer was disposed of. -/
theorem Balanced.takes (hs : Balanced s) (hd : s.debouncer.disposed = false) (p : Path) :
    s.Takes ⟨p, s.debouncer.lastGeneration + 1⟩ (s.step (.notify p)) := by
  rw [step_notify hd]
  constructor
  case fresh => exact fun c hc => Nat.lt_succ_of_le (hs.bounded c hc)
  case accepted => rfl
  case armed => rfl
  case pending => exact fun c => mem_setGeneration_iff hs.nodup
  case superseded =>
    intro c
    rw [List.mem_append, mem_generationOf?_iff hs.nodup]
  case disposed => rfl
  case cancelled => rfl
  case tasks => rfl

/--
The latest change of a path is not superseded. Where it is not pending, and nothing was cancelled,
it has its account among the callbacks.
-/
theorem Balanced.count_latest (hs : Balanced s) (hd : s.debouncer.disposed = false)
    (hlatest : s.latest? p = some c) (hp : p ∉ s.debouncer.pendingPaths) :
    s.committed.count c = 1 := by
  have hpath : c.path = p := by simpa using List.find?_some hlatest
  have hmem : c ∈ s.accepted := List.mem_of_find?_eq_some hlatest
  have hpending : s.debouncer.pending.count c = 0 := List.count_eq_zero.mpr fun h =>
    hp (List.mem_map.mpr ⟨c, h, hpath⟩)
  have hsuperseded : s.superseded.count c = 0 := by
    refine List.count_eq_zero.mpr fun h => ?_
    obtain ⟨c', hc', hpath', hlt⟩ := hs.superseded c h
    have hle := hs.generation_le_latest hlatest hc' (hpath'.trans hpath)
    omega
  have hcancelled : s.cancelled.count c = 0 := by
    by_cases h : s.cancelled = []
    · rw [h, List.count_nil]
    · exact absurd (hs.cancelled h) (by simp [hd])
  have haccounts := accounts_iff.mp hs.accounts c
  rw [List.count_eq_one_of_mem hs.nodup_accepted hmem] at haccounts
  omega

/-- A task can call all callbacks that it is committed to, and nothing else changes. -/
theorem calls_finish {i : Nat} {k : Task} (h : s.tasks[i]? = some k) :
    (List.replicate k.queued.length (.call i)).foldl step s
      = { s with tasks := s.tasks.set i { k with called := k.committed, queued := [] } } := by
  obtain ⟨cause, called, queued⟩ := k
  induction queued generalizing s called with
  | nil =>
    obtain ⟨hi, hk⟩ := List.getElem?_eq_some_iff.mp h
    simp [Task.committed, ← hk]
  | cons c rest ih =>
    have hstep : s.step (.call i)
        = { s with tasks := s.tasks.set i ⟨cause, called ++ [c], rest⟩ } := by
      simp [step, List.modify_eq_set_getElem?, h, Task.callNext]
    have hi : i < s.tasks.length := (List.getElem?_eq_some_iff.mp h).1
    have hnext : (s.step (.call i)).tasks[i]? = some ⟨cause, called ++ [c], rest⟩ := by
      rw [hstep]
      exact List.getElem?_set_self hi
    rw [List.length_cons, List.replicate_succ, List.foldl_cons, ih _ hnext, hstep]
    simp [Task.committed]

/-! ## All runs -/

/--
**Every change is accounted for once**, whatever steps a debouncer takes in whatever order.

The ledger is balanced, and the changes in it are those of which the debouncer was told before it
was disposed of. No change has its callback called twice, and every task can call what it is
committed to.

Each step moves changes from one account to another, and no others. A notice, before disposal, makes
its change pending and supersedes the one of its path. The expiry of a timer whose change is pending
commits to the callback, and any other expiry changes nothing. A flush commits to the callbacks of
all that is pending, and disposal cancels it.

So where a path is not pending, and the debouncer not disposed of, the callback for its latest
change was called or will be, once. After disposal nothing is pending, and no notice is taken.
-/
theorem changes_accounted_for (delay : Delay) (label : String) (actions : List Action) :
    let s := after delay label actions
    Balanced s ∧
      s.accepted.map PendingChange.path = (noticed actions).reverse ∧
      (s.debouncer.disposed = true ↔ .dispose ∈ actions) ∧
      s.called.Nodup ∧
      (∀ i k, s.tasks[i]? = some k →
        (List.replicate k.queued.length (.call i)).foldl step s
          = { s with tasks := s.tasks.set i { k with called := k.committed, queued := [] } }) ∧
      (s.debouncer.disposed = false → ∀ p, ∃ c, c.path = p ∧ s.Takes c (s.step (.notify p))) ∧
      (∀ c ∈ s.debouncer.pending, s.step (.expire c) = { s with
        debouncer := { s.debouncer with pending := s.debouncer.pending.erase c }
        armed := s.armed.erase c
        tasks := s.tasks ++ [⟨.expiry c, [], [c]⟩] }) ∧
      (∀ c ∉ s.debouncer.pending, s.step (.expire c) = { s with armed := s.armed.erase c }) ∧
      (s.step .flush = { s with
        debouncer := { s.debouncer with pending := [] }
        tasks := s.tasks ++ [⟨.flush, [], s.debouncer.pending⟩] }) ∧
      (s.step .dispose = { s with
        debouncer := { s.debouncer with pending := [], disposed := true }
        cancelled := s.cancelled ++ s.debouncer.pending }) ∧
      (s.debouncer.disposed = false → ∀ p c, s.latest? p = some c →
        p ∉ s.debouncer.pendingPaths → s.committed.count c = 1) ∧
      (s.debouncer.disposed = true →
        s.debouncer.pending = [] ∧ ∀ p, s.step (.notify p) = s) := by
  intro s
  have hs : Balanced s := balanced_after delay label actions
  have haccepted : s.accepted.map PendingChange.path = (noticed actions).reverse :=
    (paths_accepted_foldl actions rfl).trans (List.append_nil _)
  have hdisposed : s.debouncer.disposed = true ↔ .dispose ∈ actions :=
    (disposed_foldl actions).trans (or_iff_right Bool.false_ne_true)
  refine ⟨hs, haccepted, hdisposed, hs.nodup_called, ?_, ?_, ?_, ?_, step_flush s, step_dispose s,
    ?_, ?_⟩
  · exact fun i k hk => calls_finish hk
  · exact fun hd p => ⟨_, rfl, hs.takes hd p⟩
  · exact fun c hc => hs.step_expire_pending hc
  · exact fun c hc => expire_not_pending hc
  · exact fun hd p c hlatest hp => hs.count_latest hd hlatest hp
  · exact fun hd => ⟨hs.disposed hd, fun p => step_notify_disposed hd⟩

/-- A timer that was cancelled and expires all the same does nothing. -/
example (delay : Delay) (label : String) :
    let p : Path := ⟨.slash, ["a"]⟩
    let s := after delay label [.notify p, .notify p, .expire ⟨p, 1⟩, .flush, .call 0]
    s.called = [⟨p, 2⟩] ∧ s.superseded = [⟨p, 1⟩] ∧ s.armed = [⟨p, 2⟩] := by
  exact ⟨rfl, rfl, rfl⟩

end Ledger

end Debouncer

end LiveTemplates
