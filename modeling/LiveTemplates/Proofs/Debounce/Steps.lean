import LiveTemplates.Proofs.Debounce.Waiting

/-!
# Steps of a debouncer

A debouncer takes notice of changes, lets time pass, is flushed and is disposed of. Its callback
does not use the debouncer, but it may fail and change everything else (`DebounceHost.Heedless`).
The calls are recorded with the time on the clock.

Each step does to a debouncer with its timers what it does to the lists that it waits for
(`DebounceHost.Heedless.take_waits`). For time that passes this is an induction on the timers that
run: the next one is always that of the first notice that is waited for.
-/

namespace LiveTemplates

/-- What happens to a debouncer. -/
inductive DebounceStep
  | notify (p : Path)
  /-- Milliseconds pass. -/
  | advance (ms : Nat)
  | flush
  | dispose
deriving DecidableEq, Repr

namespace Waiting

variable {a : Waiting} {wait limit : Int}

/-- What is waited for after a step. -/
def take (a : Waiting) (wait : Int) : DebounceStep → Waiting
  | .notify p => a.notify p
  | .advance ms => a.advance wait (a.now + 1000 * ms)
  | .flush => a.clear
  | .dispose => a.dispose

/-- The calls of the callback in a step. -/
def calls (a : Waiting) (wait : Int) : DebounceStep → List (Path × Int)
  | .notify _ => []
  | .advance ms => (a.due wait (a.now + 1000 * ms)).map fun q => (q.1, q.2 + wait)
  | .flush => a.pending.map fun p => (p, a.now)
  | .dispose => []

theorem Sound.take (h : a.Sound wait) (hwait : 0 ≤ wait) (step : DebounceStep) :
    (a.take wait step).Sound wait := by
  cases step with
  | notify p => exact h.notify hwait p
  | advance ms => exact h.advance (by omega)
  | flush => exact sound_of_nil wait rfl rfl
  | dispose => exact sound_of_nil wait rfl rfl

/-- Either no notice is due, or the first one is. -/
theorem Sound.due_cases (h : a.Sound wait) (limit : Int) :
    (∀ q ∈ a.latest, limit < q.2 + wait) ∨
      ∃ q rest, a.latest = q :: rest ∧ q.2 + wait ≤ limit := by
  have hordered := h.ordered
  cases hlatest : a.latest with
  | nil => exact .inl fun q hq => absurd hq List.not_mem_nil
  | cons q rest =>
    by_cases hdue : q.2 + wait ≤ limit
    · exact .inr ⟨q, rest, rfl, hdue⟩
    · rw [hlatest] at hordered
      refine .inl fun r hr => ?_
      rcases List.mem_cons.mp hr with rfl | hr
      · exact Int.not_le.mp hdue
      · have := (List.pairwise_cons.mp hordered).1 r hr
        omega

end Waiting

/-! ## Hosts whose callback does not use the debouncer -/

namespace DebounceHost

variable {σ : Type} (h : DebounceHost σ)

/-- The host with a record of all calls of the callback, each with the microseconds on the clock. -/
def recorded : DebounceHost (σ × List (Path × Int)) where
  debouncers s := h.debouncers s.1
  update s d log := (h.update s.1 d log, s.2)
  call i p s := (h.call i p s.1, s.2 ++ [(p, (h.debouncers s.1).clock.now)])

/-- One step of the first debouncer. As many timers may run as there are. -/
def take (s : σ) : DebounceStep → σ
  | .notify p => h.update s ((h.debouncers s).notify 0 p) []
  | .advance ms => h.advance (h.debouncers s).clock.timers.length ms s
  | .flush => (h.flush 0 s).1
  | .dispose => h.update s ((h.debouncers s).dispose 0).1 ((h.debouncers s).dispose 0).2

/-- The state after a number of steps. -/
def after (s : σ) (steps : Nat → DebounceStep) : Nat → σ
  | 0 => s
  | n + 1 => h.take (after s steps n) (steps n)

theorem runDue_of_nextDue? {s : σ} {limit : Int} {i : Nat} {t : Timer Expiry}
    (hnext : (h.debouncers s).clock.nextDue? limit = some (i, t)) (fuel : Nat) :
    h.runDue limit (fuel + 1) s = h.runDue limit fuel (h.fire t.action (h.update s
      { h.debouncers s with clock := (h.debouncers s).clock.beginTimer i } [])) := by
  rw [runDue]
  simp only [hnext]

theorem runDue_of_none {s : σ} {limit : Int}
    (hnext : (h.debouncers s).clock.nextDue? limit = none) (fuel : Nat) :
    h.runDue limit fuel s = s := by
  cases fuel with
  | zero => rfl
  | succ fuel =>
    rw [runDue]
    simp only [hnext]

theorem fire_of_expire {s : σ} {e : Expiry} {d : Debouncers} {p : Path} {log : List Log.Entry}
    (hexpire : (h.debouncers s).expire e = (d, some p, log)) :
    h.fire e s = h.call e.owner p (h.update s d log) := by
  unfold fire
  rw [hexpire]

/-- The callback leaves the debouncers as they are, in all states of a kind that is kept. -/
structure Heedless (Good : σ → Prop) : Prop where
  debouncers_update : ∀ {s} d log, Good s → h.debouncers (h.update s d log) = d
  debouncers_call : ∀ {s} i p, Good s → h.debouncers (h.call i p s) = h.debouncers s
  update : ∀ {s} d log, Good s → Good (h.update s d log)
  call : ∀ {s} i p, Good s → Good (h.call i p s)

/-- A state with a record of calls waits for what is said. -/
structure Waits (Good : σ → Prop) (delay : Delay) (s : σ × List (Path × Int)) (a : Waiting) :
    Prop where
  good : Good s.1
  tracks : ∃ x, x.delay = delay ∧ (h.debouncers s.1).Tracks x a

variable {h} {Good : σ → Prop} {s : σ × List (Path × Int)} {a a' : Waiting} {delay : Delay}
  {limit : Int}

/-- The callback for one path after the other is recorded, and nothing else changes. -/
theorem Heedless.foldl_call (hh : h.Heedless Good) (hs : Good s.1) (ps : List Path) :
    let s' := ps.foldl (fun s p => h.recorded.call 0 p s) s
    Good s'.1 ∧ h.debouncers s'.1 = h.debouncers s.1 ∧
      s'.2 = s.2 ++ ps.map fun p => (p, (h.debouncers s.1).clock.now) := by
  induction ps generalizing s with
  | nil => simp [hs]
  | cons p ps ih =>
    have hcalled := hh.debouncers_call 0 p hs
    obtain ⟨hgood, hdebouncers, hcalls⟩ := ih (s := h.recorded.call 0 p s) (hh.call 0 p hs)
    refine ⟨hgood, hdebouncers.trans hcalled, hcalls.trans ?_⟩
    show (s.2 ++ [(p, (h.debouncers s.1).clock.now)]) ++ ps.map
      (fun q => (q, (h.debouncers (h.call 0 p s.1)).clock.now)) = _
    rw [hcalled, List.append_assoc]
    rfl

theorem Heedless.update_waits (hh : h.Heedless Good) (hs : Good s.1) {d : Debouncers}
    {x : Debouncer} (hd : d.Tracks x a) (hdelay : x.delay = delay) (log : List Log.Entry) :
    h.Waits Good delay (h.recorded.update s d log) a :=
  ⟨hh.update d log hs, x, hdelay, (hh.debouncers_update d log hs).symm ▸ hd⟩

/-- When the first notice is due, its timer runs next. -/
theorem Heedless.runDue_first (hh : h.Heedless Good) (hs : h.Waits Good delay s a)
    (hsound : a.Sound delay.wait) {q : Path × Int} {rest : List (Path × Int)}
    (hlatest : a.latest = q :: rest) (hdue : q.2 + delay.wait ≤ limit) (fuel : Nat) :
    ∃ s₁, h.recorded.runDue limit (fuel + 1) s = h.recorded.runDue limit fuel s₁ ∧
      h.Waits Good delay s₁ (a.settle delay.wait) ∧ s₁.2 = s.2 ++ [(q.1, q.2 + delay.wait)] := by
  obtain ⟨x, rfl, hx⟩ := hs.tracks
  have hmem : q ∈ a.latest := hlatest ▸ List.mem_cons_self
  have hnoticed := hsound.noticed q hmem
  have hnotDue := hsound.notDue q hmem
  -- A timer with a negative delay runs when it is started.
  have hthen : max a.now (q.2 + x.delay.microseconds) = q.2 + x.delay.wait := by
    unfold Delay.wait at hnotDue ⊢
    omega
  have htimer : q.2 + x.delay.microseconds ≤ limit := by
    unfold Delay.wait at hdue
    omega
  obtain ⟨i, t, hnext, d', x', log, hexpire, hdelay, htracks⟩ :=
    hx.expire_first hsound.ordered hsound.nodup_latest hlatest htimer
  rw [hthen] at htracks
  have hsettle : a.settle x.delay.wait = { a with
      now := q.2 + x.delay.wait, latest := rest, pending := a.pending.filter (· != q.1) } := by
    rw [Waiting.settle, hlatest]
  -- The state when the timer begins to run, and when its change is settled.
  let s₁ := h.recorded.update s
    { h.debouncers s.1 with clock := (h.debouncers s.1).clock.beginTimer i } []
  have hbegun : Good s₁.1 := hh.update _ [] hs.good
  let s₂ := h.recorded.update s₁ d' log
  have hsettled : Good s₂.1 := hh.update d' log hbegun
  have hdebouncers : h.debouncers s₂.1 = d' := hh.debouncers_update d' log hbegun
  refine ⟨h.recorded.call t.action.owner q.1 s₂, ?_, ⟨hh.call _ _ hsettled, x', hdelay, ?_⟩, ?_⟩
  · rw [h.recorded.runDue_of_nextDue? hnext]
    congr 1
    have hexpired : (h.debouncers s₁.1).expire t.action = (d', some q.1, log) :=
      (hh.debouncers_update _ [] hs.good).symm ▸ hexpire
    exact h.recorded.fire_of_expire hexpired
  · rw [hsettle]
    exact ((hh.debouncers_call _ _ hsettled).trans hdebouncers).symm ▸ htracks
  · show s.2 ++ [(q.1, (h.debouncers s₂.1).clock.now)] = _
    rw [hdebouncers, htracks.now]

/-- When no notice is due, no timer runs. -/
theorem Heedless.runDue_none (hs : h.Waits Good delay s a) (hsound : a.Sound delay.wait)
    (hlimit : a.now ≤ limit) (hnone : ∀ q ∈ a.latest, limit < q.2 + delay.wait) (fuel : Nat) :
    h.recorded.runDue limit fuel s = s := by
  obtain ⟨x, rfl, hx⟩ := hs.tracks
  refine h.recorded.runDue_of_none (hx.nextDue?_eq_none fun q hq => ?_) fuel
  have hlater := hnone q hq
  have hnoticed := hsound.noticed q hq
  unfold Delay.wait at hlater
  omega

/-- **The timers that are due run one by one**, in the order of the latest notices. -/
theorem Heedless.runDue_waits (hh : h.Heedless Good) (hs : h.Waits Good delay s a)
    (hsound : a.Sound delay.wait) (hlimit : a.now ≤ limit) {fuel : Nat}
    (hfuel : a.latest.length ≤ fuel) :
    ∃ now, h.Waits Good delay (h.recorded.runDue limit fuel s)
        { a.advance delay.wait limit with now := now } ∧
      (h.recorded.runDue limit fuel s).2 =
        s.2 ++ (a.due delay.wait limit).map fun q => (q.1, q.2 + delay.wait) := by
  induction fuel generalizing s a with
  | zero =>
    have hlatest : a.latest = [] := List.length_eq_zero_iff.mp (Nat.le_zero.mp hfuel)
    have hnone : ∀ q ∈ a.latest, limit < q.2 + delay.wait := by simp [hlatest]
    obtain ⟨hadvance, hdue⟩ := hsound.advance_of_notDue hnone
    rw [hadvance, hdue]
    exact ⟨a.now, hs, (List.append_nil _).symm⟩
  | succ fuel ih =>
    rcases hsound.due_cases limit with hnone | ⟨q, rest, hlatest, hdue⟩
    · obtain ⟨hadvance, hdue⟩ := hsound.advance_of_notDue hnone
      rw [hadvance, hdue, runDue_none hs hsound hlimit hnone]
      exact ⟨a.now, hs, (List.append_nil _).symm⟩
    · obtain ⟨s₁, hrun, hs₁, hcalls⟩ := hh.runDue_first hs hsound hlatest hdue fuel
      obtain ⟨hadvance, hdueEq⟩ := hsound.advance_settle hlatest hdue
      have hlater : (a.settle delay.wait).now ≤ limit := by
        rw [Waiting.settle, hlatest]
        exact hdue
      have hfewer : (a.settle delay.wait).latest.length ≤ fuel := by
        rw [hlatest, List.length_cons] at hfuel
        rw [Waiting.settle, hlatest]
        exact Nat.le_of_succ_le_succ hfuel
      obtain ⟨now, hwaits, hrecorded⟩ := ih hs₁ (hsound.settle hlatest) hlater hfewer
      rw [hadvance] at hwaits
      rw [hrun, hrecorded, hcalls, hdueEq, List.append_assoc]
      exact ⟨now, hwaits, rfl⟩

/-- There is a timer for every notice that is waited for. -/
theorem Waits.length_latest_le (hs : h.Waits Good delay s a) :
    a.latest.length ≤ (h.debouncers s.1).clock.timers.length := by
  obtain ⟨x, -, hx⟩ := hs.tracks
  have hlength := congrArg List.length hx.timers
  rw [List.length_map, List.length_map] at hlength
  exact hlength ▸ List.length_filter_le _ _

theorem Waits.pendingPaths (hs : h.Waits Good delay s a) :
    (h.debouncers s.1).pendingPaths 0 = a.pending := by
  obtain ⟨x, -, hx⟩ := hs.tracks
  rw [Debouncers.pendingPaths_of_some hx.getElem?, hx.pending]

theorem Waits.now (hs : h.Waits Good delay s a) : (h.debouncers s.1).clock.now = a.now := by
  obtain ⟨x, -, hx⟩ := hs.tracks
  exact hx.now

theorem Heedless.advance_waits (hh : h.Heedless Good) (hs : h.Waits Good delay s a)
    (hsound : a.Sound delay.wait) {fuel : Nat} (hfuel : a.latest.length ≤ fuel) (ms : Nat) :
    h.Waits Good delay (h.recorded.advance fuel ms s) (a.take delay.wait (.advance ms)) ∧
      (h.recorded.advance fuel ms s).2 = s.2 ++ a.calls delay.wait (.advance ms) := by
  have hlater : a.now ≤ a.now + 1000 * (ms : Int) := by omega
  obtain ⟨now, ⟨hgood, x, hdelay, hx⟩, hcalls⟩ := hh.runDue_waits hs hsound hlater hfuel
  have hlimit : (h.recorded.debouncers s).clock.now + 1000 * (ms : Int) = a.now + 1000 * ms := by
    rw [← hs.now]
    rfl
  unfold advance
  rw [hlimit]
  exact ⟨hh.update_waits hgood (hx.setNow _) hdelay [], hcalls⟩

theorem Heedless.flush_waits (hh : h.Heedless Good) (hs : h.Waits Good delay s a) :
    (h.recorded.flush 0 s).2 = a.pending ∧
      h.Waits Good delay (h.recorded.flush 0 s).1 a.clear ∧
      (h.recorded.flush 0 s).1.2 = s.2 ++ a.pending.map fun p => (p, a.now) := by
  obtain ⟨x, hdelay, hx⟩ := hs.tracks
  obtain ⟨hpaths, hx'⟩ := hx.flush
  let s₁ := h.recorded.update s ((h.debouncers s.1).flush 0).1 []
  have hgood : Good s₁.1 := hh.update _ [] hs.good
  have hdebouncers : h.debouncers s₁.1 = ((h.debouncers s.1).flush 0).1 :=
    hh.debouncers_update _ [] hs.good
  obtain ⟨hgood', hdebouncers', hcalls⟩ := hh.foldl_call hgood a.pending
  have hnow : (h.debouncers s₁.1).clock.now = a.now := by
    rw [hdebouncers]
    exact hx'.now
  have hflush : h.recorded.flush 0 s =
      (a.pending.foldl (fun s p => h.recorded.call 0 p s) s₁, a.pending) := by
    rw [← hpaths]
    rfl
  rw [hnow] at hcalls
  rw [hflush]
  exact ⟨rfl, ⟨hgood', { x with pending := [] }, hdelay,
    (hdebouncers'.trans hdebouncers).symm ▸ hx'⟩, hcalls⟩

/-- **One step of a debouncer does what a step does to what is waited for.** -/
theorem Heedless.take_waits (hh : h.Heedless Good) (hs : h.Waits Good delay s a)
    (hsound : a.Sound delay.wait) (step : DebounceStep) :
    h.Waits Good delay (h.recorded.take s step) (a.take delay.wait step) ∧
      (h.recorded.take s step).2 = s.2 ++ a.calls delay.wait step := by
  cases step with
  | notify p =>
    obtain ⟨x, hdelay, hx⟩ := hs.tracks
    have hdelay' : (x.notify p).1.delay = delay := by
      rw [← hdelay, Debouncer.notify]
      split
      · rfl
      · rfl
    exact ⟨hh.update_waits hs.good (hx.notify p) hdelay' [], (List.append_nil _).symm⟩
  | advance ms => exact hh.advance_waits hs hsound hs.length_latest_le ms
  | flush => exact (hh.flush_waits hs).2
  | dispose =>
    obtain ⟨x, hdelay, hx⟩ := hs.tracks
    exact ⟨hh.update_waits hs.good hx.dispose hdelay _, (List.append_nil _).symm⟩

end DebounceHost

end LiveTemplates
