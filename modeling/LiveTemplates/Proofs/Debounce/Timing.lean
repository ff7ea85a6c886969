import LiveTemplates.Debounce.Session
import LiveTemplates.Proofs.Debounce.Steps
import LiveTemplates.Proofs.Number.Rounding

/-!
# When callbacks are called

What a debouncer calls back for can be read off the history of its steps, without timers and
generations. A step that lets time pass calls back for the notices that are due and that it is the
first to come to, unless another notice of the path, a flush or the disposal came in between
(`DebounceHistory.fired`). A flush calls back for the paths that are pending, in the order in which
they became so (`DebounceHistory.begun`).

What a debouncer waits for after some steps is what the history says, since one more step does the
same to both (`DebounceHistory.waitingAt_succ`).
-/

namespace LiveTemplates

/-- Up to some weeks, the milliseconds of a delay are what a timer waits. -/
theorem Delay.exists_wait_eq {ms : Int} (hlow : 0 ≤ ms) (hhigh : ms ≤ 2 ^ 32) :
    ∃ delay, Delay.ofMilliseconds ms = .ok delay ∧ delay.wait = 1000 * ms := by
  have hwait : 0 ≤ 1000 * ms := by omega
  exact ⟨_, Delay.ofMilliseconds_eq hlow hhigh, max_eq_right hwait⟩

/-! ## Histories -/

namespace DebounceStep

/-- The microseconds that pass in a step. -/
def passes : DebounceStep → Int
  | .advance ms => 1000 * ms
  | _ => 0

/-- Whether a step lets time pass. -/
def isAdvance : DebounceStep → Bool
  | .advance _ => true
  | _ => false

end DebounceStep

/-- The steps of a debouncer, one after the other. -/
abbrev DebounceHistory := Nat → DebounceStep

namespace DebounceHistory

variable (steps : DebounceHistory) (wait : Int)

/-- The microseconds on the clock when a step begins. -/
def timeAt : Nat → Int
  | 0 => 0
  | n + 1 => timeAt n + (steps n).passes

/-- A step is an accepted notice of a path. -/
def Accepts (k : Nat) (p : Path) : Prop :=
  steps k = .notify p ∧ ∀ j < k, steps j ≠ .dispose

/-- No other notice of a path, no flush and no disposal comes between two steps. -/
def Undisturbed (k n : Nat) (p : Path) : Prop :=
  ∀ j < n, k < j → steps j ≠ .notify p ∧ steps j ≠ .flush ∧ steps j ≠ .dispose

/-- Between two steps none brings the clock to the time when a notice in the first is due. -/
def NotReached (k n : Nat) : Prop :=
  ∀ j < n, k < j → (steps j).isAdvance = true → steps.timeAt (j + 1) < steps.timeAt k + wait

/-- A step is the first to bring the clock to the time when an earlier notice is due. -/
def FirstReaches (n k : Nat) : Prop :=
  (steps n).isAdvance = true ∧ steps.timeAt k + wait ≤ steps.timeAt (n + 1) ∧
    steps.NotReached wait k n

/-- An earlier notice is still waited for when a step begins. -/
def Stands (n k : Nat) (p : Path) : Prop :=
  steps.Accepts k p ∧ steps.Undisturbed k n p ∧ steps.NotReached wait k n

/-- A path is pending when a step begins. -/
def Pending (n : Nat) (p : Path) : Prop :=
  ∃ k < n, steps.Stands wait n k p

/-- A path became pending with an earlier notice and has been pending ever since. -/
def PendingSince (n k : Nat) (p : Path) : Prop :=
  steps.Accepts k p ∧ ¬ steps.Pending wait k p ∧ ∀ m ≤ n, k < m → steps.Pending wait m p

instance (k : Nat) (p : Path) : Decidable (steps.Accepts k p) :=
  inferInstanceAs (Decidable (_ ∧ ∀ j < k, _))

instance (k n : Nat) (p : Path) : Decidable (steps.Undisturbed k n p) :=
  inferInstanceAs (Decidable (∀ j < n, k < j → _))

instance (k n : Nat) : Decidable (steps.NotReached wait k n) :=
  inferInstanceAs (Decidable (∀ j < n, k < j → _))

instance (n k : Nat) : Decidable (steps.FirstReaches wait n k) :=
  inferInstanceAs (Decidable (_ ∧ _ ∧ _))

instance (n k : Nat) (p : Path) : Decidable (steps.Stands wait n k p) :=
  inferInstanceAs (Decidable (_ ∧ _ ∧ _))

instance (n : Nat) (p : Path) : Decidable (steps.Pending wait n p) :=
  inferInstanceAs (Decidable (∃ k < n, _))

instance (n k : Nat) (p : Path) : Decidable (steps.PendingSince wait n k p) :=
  inferInstanceAs (Decidable (_ ∧ _ ∧ ∀ m ≤ n, k < m → _))

/-- The notices of some kind before a step, each with its path and its step. -/
def noticesWhere (n : Nat) (R : Nat → Path → Bool) : List (Path × Nat) :=
  (List.range n).filterMap fun k =>
    match steps k with
    | .notify p => if R k p then some (p, k) else none
    | _ => none

/-- The notices for which a step calls back because time passes. -/
def fired (n : Nat) : List (Path × Nat) :=
  steps.noticesWhere n fun k p =>
    decide (steps.Accepts k p ∧ steps.Undisturbed k n p ∧ steps.FirstReaches wait n k)

/-- The pending paths when a step begins, in the order in which they became pending. -/
def begun (n : Nat) : List Path :=
  (steps.noticesWhere n fun k p => decide (steps.PendingSince wait n k p)).map Prod.fst

/-- The calls of the callback in a step, each with the microseconds on the clock. -/
def calls (n : Nat) : List (Path × Int) :=
  (steps.fired wait n).map (fun q => (q.1, steps.timeAt q.2 + wait)) ++
    if steps n = .flush then (steps.begun wait n).map fun p => (p, steps.timeAt n) else []

/-- The notices that are waited for when a step begins. -/
def standing (n : Nat) : List (Path × Nat) :=
  steps.noticesWhere n fun k p => decide (steps.Stands wait n k p)

/-- What is waited for when a step begins. -/
def waitingAt (n : Nat) : Waiting where
  now := steps.timeAt n
  latest := (steps.standing wait n).map fun q => (q.1, steps.timeAt q.2)
  pending := steps.begun wait n
  disposed := decide (∃ j < n, steps j = .dispose)

variable {steps wait} {n k : Nat} {p : Path} {R S : Nat → Path → Bool}

/-! ## Notices of some kind -/

theorem mem_noticesWhere :
    (p, k) ∈ steps.noticesWhere n R ↔ k < n ∧ steps k = .notify p ∧ R k p = true := by
  unfold noticesWhere
  rw [List.mem_filterMap]
  constructor
  · rintro ⟨k', hk', heq⟩
    split at heq
    · next q hstep =>
      split at heq
      · next hR =>
        cases heq
        exact ⟨List.mem_range.mp hk', hstep, hR⟩
      · cases heq
    · cases heq
  · rintro ⟨hk, hstep, hR⟩
    refine ⟨k, List.mem_range.mpr hk, ?_⟩
    simp only [hstep, hR]
    rfl

/-- The notices that meet one more condition. -/
theorem noticesWhere_eq_filter {R' : Nat → Path → Bool}
    (h : ∀ k < n, ∀ p, steps k = .notify p → R' k p = (R k p && S k p)) :
    steps.noticesWhere n R' = (steps.noticesWhere n R).filter fun q => S q.2 q.1 := by
  unfold noticesWhere
  rw [List.filter_filterMap]
  refine List.filterMap_congr fun k hk => ?_
  cases hstep : steps k with
  | notify p =>
    dsimp only
    rw [h k (List.mem_range.mp hk) p hstep]
    cases hR : R k p with
    | false => rfl
    | true => cases hS : S k p <;> simp [Option.filter, hS]
  | advance ms => rfl
  | flush => rfl
  | dispose => rfl

theorem noticesWhere_succ_of_notify (hstep : steps n = .notify p) (R : Nat → Path → Bool) :
    steps.noticesWhere (n + 1) R =
      steps.noticesWhere n R ++ if R n p then [(p, n)] else [] := by
  unfold noticesWhere
  rw [List.range_succ, List.filterMap_append]
  congr 1
  simp only [List.filterMap_cons, List.filterMap_nil, hstep]
  cases R n p with
  | false => rfl
  | true => rfl

theorem noticesWhere_succ_of_ne (hstep : ∀ p, steps n ≠ .notify p) (R : Nat → Path → Bool) :
    steps.noticesWhere (n + 1) R = steps.noticesWhere n R := by
  unfold noticesWhere
  rw [List.range_succ, List.filterMap_append]
  cases hn : steps n with
  | notify p => exact absurd hn (hstep p)
  | advance ms => simp [hn]
  | flush => simp [hn]
  | dispose => simp [hn]

/-! ## One more step -/

/-- What a step leaves of the notices that were waited for. -/
def Lasts (steps : DebounceHistory) (wait : Int) (n k : Nat) (p : Path) : Prop :=
  steps n ≠ .notify p ∧ steps n ≠ .flush ∧ steps n ≠ .dispose ∧
    ((steps n).isAdvance = true → steps.timeAt (n + 1) < steps.timeAt k + wait)

instance : Decidable (steps.Lasts wait n k p) :=
  inferInstanceAs (Decidable (_ ∧ _ ∧ _ ∧ _))

theorem forall_lt_succ_iff {P : Nat → Prop} (hk : k < n) :
    (∀ j < n + 1, k < j → P j) ↔ (∀ j < n, k < j → P j) ∧ P n := by
  constructor
  · intro h
    exact ⟨fun j hj => h j (Nat.lt_succ_of_lt hj), h n (Nat.lt_succ_self n) hk⟩
  · rintro ⟨h, hn⟩ j hj hkj
    rcases Nat.lt_succ_iff_lt_or_eq.mp hj with hj | rfl
    · exact h j hj hkj
    · exact hn

theorem stands_succ (hk : k < n) :
    steps.Stands wait (n + 1) k p ↔ steps.Stands wait n k p ∧ steps.Lasts wait n k p := by
  unfold Stands Undisturbed NotReached Lasts
  rw [forall_lt_succ_iff hk, forall_lt_succ_iff hk]
  tauto

/-- A notice is waited for as soon as it is accepted. -/
theorem stands_of_accepts (h : steps.Accepts n p) : steps.Stands wait (n + 1) n p :=
  ⟨h, fun j hj hn => by omega, fun j hj hn => by omega⟩

theorem mem_standing : (p, k) ∈ steps.standing wait n ↔ k < n ∧ steps.Stands wait n k p := by
  unfold standing
  rw [mem_noticesWhere, decide_eq_true_iff]
  constructor
  · rintro ⟨hk, -, h⟩
    exact ⟨hk, h⟩
  · rintro ⟨hk, h⟩
    exact ⟨hk, h.1.1, h⟩

theorem pending_iff : steps.Pending wait n p ↔ p ∈ (steps.standing wait n).map Prod.fst := by
  rw [List.mem_map]
  constructor
  · rintro ⟨k, hk, h⟩
    exact ⟨(p, k), mem_standing.mpr ⟨hk, h⟩, rfl⟩
  · rintro ⟨⟨p, k⟩, hmem, rfl⟩
    obtain ⟨hk, h⟩ := mem_standing.mp hmem
    exact ⟨k, hk, h⟩

/-- A path that was not pending becomes so with the notice that is taken. -/
theorem accepts_of_pending_succ (hnot : ¬ steps.Pending wait n p)
    (h : steps.Pending wait (n + 1) p) : steps.Accepts n p := by
  obtain ⟨k, hk, hstands⟩ := h
  rcases Nat.lt_succ_iff_lt_or_eq.mp hk with hk | rfl
  · exact absurd ⟨k, hk, ((stands_succ hk).mp hstands).1⟩ hnot
  · exact hstands.1

theorem pending_of_accepts (h : steps.Accepts n p) : steps.Pending wait (n + 1) p :=
  ⟨n, Nat.lt_succ_self n, stands_of_accepts h⟩

theorem pendingSince_succ (hk : k < n) :
    steps.PendingSince wait (n + 1) k p ↔
      steps.PendingSince wait n k p ∧ steps.Pending wait (n + 1) p := by
  constructor
  · rintro ⟨haccepts, hnot, hever⟩
    exact ⟨⟨haccepts, hnot, fun m hm => hever m (Nat.le_succ_of_le hm)⟩,
      hever (n + 1) (Nat.le_refl _) (Nat.lt_succ_of_lt hk)⟩
  · rintro ⟨⟨haccepts, hnot, hever⟩, hpending⟩
    refine ⟨haccepts, hnot, fun m hm hkm => ?_⟩
    rcases Nat.le_succ_iff.mp hm with hm | rfl
    · exact hever m hm hkm
    · exact hpending

theorem pendingSince_succ_self :
    steps.PendingSince wait (n + 1) n p ↔ steps.Accepts n p ∧ ¬ steps.Pending wait n p := by
  constructor
  · rintro ⟨haccepts, hnot, -⟩
    exact ⟨haccepts, hnot⟩
  · rintro ⟨haccepts, hnot⟩
    refine ⟨haccepts, hnot, fun m hm hnm => ?_⟩
    obtain rfl : m = n + 1 := by omega
    exact pending_of_accepts haccepts

theorem mem_begun_iff : p ∈ steps.begun wait n ↔ ∃ k < n, steps.PendingSince wait n k p := by
  unfold begun
  rw [List.mem_map]
  constructor
  · rintro ⟨⟨p, k⟩, hmem, rfl⟩
    obtain ⟨hk, -, h⟩ := mem_noticesWhere.mp hmem
    exact ⟨k, hk, of_decide_eq_true h⟩
  · rintro ⟨k, hk, h⟩
    exact ⟨(p, k), mem_noticesWhere.mpr ⟨hk, h.1.1, decide_eq_true h⟩, rfl⟩

/-- **What is pending has become so some time.** -/
theorem mem_begun : p ∈ steps.begun wait n ↔ steps.Pending wait n p := by
  rw [mem_begun_iff]
  constructor
  · rintro ⟨k, hk, h⟩
    exact h.2.2 n (Nat.le_refl _) hk
  · induction n with
    | zero =>
      rintro ⟨k, hk, -⟩
      omega
    | succ n ih =>
      intro hpending
      by_cases hbefore : steps.Pending wait n p
      · obtain ⟨k, hk, hsince⟩ := ih hbefore
        exact ⟨k, Nat.lt_succ_of_lt hk, (pendingSince_succ hk).mpr ⟨hsince, hpending⟩⟩
      · exact ⟨n, Nat.lt_succ_self n, pendingSince_succ_self.mpr
          ⟨accepts_of_pending_succ hbefore hpending, hbefore⟩⟩

/-- The older notices that are still waited for after a step. -/
theorem standing_kept :
    (steps.noticesWhere n fun k p => decide (steps.Stands wait (n + 1) k p)) =
      (steps.standing wait n).filter fun q => decide (steps.Lasts wait n q.2 q.1) := by
  refine noticesWhere_eq_filter (S := fun k p => decide (steps.Lasts wait n k p))
    fun k hk p _ => ?_
  rw [← Bool.decide_and, decide_eq_decide]
  exact stands_succ hk

/-- The paths that are still pending after a step. -/
theorem begun_kept :
    (steps.noticesWhere n fun k p => decide (steps.PendingSince wait (n + 1) k p)).map Prod.fst =
      (steps.begun wait n).filter fun p => decide (steps.Pending wait (n + 1) p) := by
  have hkept : (steps.noticesWhere n fun k p => decide (steps.PendingSince wait (n + 1) k p)) =
      (steps.noticesWhere n fun k p => decide (steps.PendingSince wait n k p)).filter
        fun q => decide (steps.Pending wait (n + 1) q.1) := by
    refine noticesWhere_eq_filter (S := fun _ p => decide (steps.Pending wait (n + 1) p))
      fun k hk p _ => ?_
    rw [← Bool.decide_and, decide_eq_decide]
    exact pendingSince_succ hk
  rw [hkept]
  exact (List.filter_map (p := fun p => decide (steps.Pending wait (n + 1) p))).symm

theorem disposed_succ :
    decide (∃ j < n + 1, steps j = .dispose) =
      (decide (∃ j < n, steps j = .dispose) || decide (steps n = .dispose)) := by
  rw [← Bool.decide_or, decide_eq_decide]
  constructor
  · rintro ⟨j, hj, h⟩
    rcases Nat.lt_succ_iff_lt_or_eq.mp hj with hj | rfl
    · exact .inl ⟨j, hj, h⟩
    · exact .inr h
  · rintro (⟨j, hj, h⟩ | h)
    · exact ⟨j, Nat.lt_succ_of_lt hj, h⟩
    · exact ⟨n, Nat.lt_succ_self n, h⟩

/-- After disposal nothing is pending. -/
theorem not_pending_of_disposed (hdisposed : ∃ j < n, steps j = .dispose) :
    ¬ steps.Pending wait n p := by
  rintro ⟨k, hk, ⟨hnotice, hbefore⟩, hundisturbed, -⟩
  obtain ⟨j, hj, hdispose⟩ := hdisposed
  rcases Nat.lt_trichotomy j k with hlt | rfl | hgt
  · exact hbefore j hlt hdispose
  · rw [hnotice] at hdispose
    cases hdispose
  · exact (hundisturbed j hj hgt).2.2 hdispose

/-- When nothing is pending, nothing is waited for. -/
theorem standing_eq_nil (h : ∀ p, ¬ steps.Pending wait n p) : steps.standing wait n = [] := by
  refine List.eq_nil_iff_forall_not_mem.mpr fun q hq => h q.1 ?_
  obtain ⟨hk, hstands⟩ := mem_standing.mp hq
  exact ⟨q.2, hk, hstands⟩

theorem begun_eq_nil (h : ∀ p, ¬ steps.Pending wait n p) : steps.begun wait n = [] :=
  List.eq_nil_iff_forall_not_mem.mpr fun p hp => h p (mem_begun.mp hp)

/-- A flush and the disposal leave nothing pending. -/
theorem not_pending_of_cleared (hstep : steps n = .flush ∨ steps n = .dispose) :
    ¬ steps.Pending wait (n + 1) p := by
  rintro ⟨k, hk, hstands⟩
  rcases Nat.lt_succ_iff_lt_or_eq.mp hk with hk | rfl
  · obtain ⟨-, hflush, hdispose, -⟩ := ((stands_succ hk).mp hstands).2
    exact hstep.elim hflush hdispose
  · have hnotice := hstands.1.1
    rcases hstep with hstep | hstep
    · rw [hstep] at hnotice
      cases hnotice
    · rw [hstep] at hnotice
      cases hnotice

theorem waitingAt_succ_of_cleared (hstep : steps n = .flush ∨ steps n = .dispose) :
    steps.waitingAt wait (n + 1) =
      { (steps.waitingAt wait n).clear with
        disposed := decide (∃ j < n + 1, steps j = .dispose) } := by
  have hnone : ∀ p, ¬ steps.Pending wait (n + 1) p := fun p => not_pending_of_cleared hstep
  have htime : steps.timeAt (n + 1) = steps.timeAt n := by
    rcases hstep with hstep | hstep
    · simp [timeAt, hstep, DebounceStep.passes]
    · simp [timeAt, hstep, DebounceStep.passes]
  unfold waitingAt Waiting.clear
  rw [standing_eq_nil hnone, begun_eq_nil hnone, htime]
  rfl

theorem waitingAt_succ_of_advance {ms : Nat} (hstep : steps n = .advance ms) :
    steps.waitingAt wait (n + 1) =
      (steps.waitingAt wait n).advance wait (steps.timeAt n + 1000 * ms) := by
  have htime : steps.timeAt (n + 1) = steps.timeAt n + 1000 * ms := by
    simp [timeAt, hstep, DebounceStep.passes]
  have hother : ∀ p, steps n ≠ .notify p := fun p h => by rw [hstep] at h; cases h
  have hlatest : (steps.standing wait (n + 1)).map (fun q => (q.1, steps.timeAt q.2)) =
      ((steps.standing wait n).map fun q => (q.1, steps.timeAt q.2)).filter
        fun q => decide (steps.timeAt n + 1000 * ms < q.2 + wait) := by
    rw [standing, noticesWhere_succ_of_ne hother, standing_kept, List.filter_map]
    congr 1
    refine List.filter_congr fun q _ => decide_eq_decide.mpr ?_
    simp [Lasts, hstep, htime, DebounceStep.isAdvance]
  have hpending : steps.begun wait (n + 1) = (steps.begun wait n).filter fun p =>
      decide (p ∈ ((steps.standing wait (n + 1)).map
        fun q => (q.1, steps.timeAt q.2)).map Prod.fst) := by
    rw [begun, noticesWhere_succ_of_ne hother, begun_kept]
    refine List.filter_congr fun p _ => decide_eq_decide.mpr ?_
    rw [pending_iff, List.map_map]
    rfl
  have hdisposed : decide (∃ j < n + 1, steps j = .dispose) =
      decide (∃ j < n, steps j = .dispose) := by
    rw [disposed_succ]
    simp [hstep]
  unfold waitingAt Waiting.advance
  dsimp only
  rw [hdisposed, hpending, hlatest, htime]

/-- A notice ends what was waited for after the previous one of its path, and nothing else. -/
theorem lasts_of_notify {q : Path} (hstep : steps n = .notify p) :
    steps.Lasts wait n k q ↔ q ≠ p := by
  have hother : DebounceStep.notify p ≠ .notify q ↔ q ≠ p := by
    rw [ne_eq, DebounceStep.notify.injEq, eq_comm]
  simp [Lasts, hstep, hother, DebounceStep.isAdvance]

theorem waitingAt_succ_of_notify (hstep : steps n = .notify p) :
    steps.waitingAt wait (n + 1) = (steps.waitingAt wait n).notify p := by
  have htime : steps.timeAt (n + 1) = steps.timeAt n := by
    simp [timeAt, hstep, DebounceStep.passes]
  have hdisposed : decide (∃ j < n + 1, steps j = .dispose) =
      decide (∃ j < n, steps j = .dispose) := by
    rw [disposed_succ]
    simp [hstep]
  by_cases hgone : ∃ j < n, steps j = .dispose
  · -- After disposal no notice is accepted.
    obtain ⟨j, hj, hdispose⟩ := hgone
    have hbefore : ∀ p, ¬ steps.Pending wait n p := fun p =>
      not_pending_of_disposed ⟨j, hj, hdispose⟩
    have hafter : ∀ p, ¬ steps.Pending wait (n + 1) p := fun p =>
      not_pending_of_disposed ⟨j, Nat.lt_succ_of_lt hj, hdispose⟩
    have hignored : (steps.waitingAt wait n).notify p = steps.waitingAt wait n :=
      if_pos (decide_eq_true ⟨j, hj, hdispose⟩)
    rw [hignored]
    unfold waitingAt
    rw [standing_eq_nil hbefore, standing_eq_nil hafter, begun_eq_nil hbefore, begun_eq_nil hafter,
      htime, hdisposed]
  · have haccepts : steps.Accepts n p := ⟨hstep, fun j hj hdispose => hgone ⟨j, hj, hdispose⟩⟩
    have hlatest : (steps.standing wait (n + 1)).map (fun q => (q.1, steps.timeAt q.2)) =
        ((steps.standing wait n).map fun q => (q.1, steps.timeAt q.2)).filter (·.1 != p) ++
          [(p, steps.timeAt n)] := by
      rw [standing, noticesWhere_succ_of_notify hstep, standing_kept,
        if_pos (decide_eq_true (stands_of_accepts haccepts)), List.map_append, List.filter_map]
      congr 2
      refine List.filter_congr fun q _ => ?_
      rw [Bool.eq_iff_iff, decide_eq_true_iff, lasts_of_notify hstep]
      exact bne_iff_ne.symm
    have hpending : steps.begun wait (n + 1) =
        if p ∈ steps.begun wait n then steps.begun wait n else steps.begun wait n ++ [p] := by
      have hkept : (steps.begun wait n).filter (fun q => decide (steps.Pending wait (n + 1) q)) =
          steps.begun wait n := by
        refine List.filter_eq_self.mpr fun q hq => decide_eq_true ?_
        by_cases hqp : q = p
        · exact hqp ▸ pending_of_accepts haccepts
        · obtain ⟨k, hk, hstands⟩ := mem_begun.mp hq
          exact ⟨k, Nat.lt_succ_of_lt hk,
            (stands_succ hk).mpr ⟨hstands, (lasts_of_notify hstep).mpr hqp⟩⟩
      rw [begun, noticesWhere_succ_of_notify hstep, List.map_append, begun_kept, hkept]
      simp only [pendingSince_succ_self, haccepts, true_and, mem_begun]
      by_cases hp : steps.Pending wait n p
      · simp [hp]
      · simp [hp]
    have haccepted : (steps.waitingAt wait n).notify p = { steps.waitingAt wait n with
        latest := (steps.waitingAt wait n).latest.filter (·.1 != p) ++ [(p, steps.timeAt n)]
        pending := if p ∈ steps.begun wait n then steps.begun wait n
          else steps.begun wait n ++ [p] } :=
      if_neg fun h => hgone (of_decide_eq_true h)
    rw [haccepted]
    unfold waitingAt
    rw [hlatest, hpending, htime, hdisposed]

/-- **One more step does to the history what it does to what is waited for.** -/
theorem waitingAt_succ (steps : DebounceHistory) (wait : Int) (n : Nat) :
    steps.waitingAt wait (n + 1) = (steps.waitingAt wait n).take wait (steps n) := by
  cases hstep : steps n with
  | notify p => exact waitingAt_succ_of_notify hstep
  | advance ms => exact waitingAt_succ_of_advance hstep
  | flush =>
    rw [waitingAt_succ_of_cleared (.inl hstep), disposed_succ]
    simp [hstep, Waiting.take, Waiting.clear, waitingAt]
  | dispose =>
    rw [waitingAt_succ_of_cleared (.inr hstep), disposed_succ]
    simp [hstep, Waiting.take, Waiting.clear, Waiting.dispose]

/-! ## The calls of a step -/

theorem fired_of_advance {ms : Nat} (hstep : steps n = .advance ms) :
    steps.fired wait n = (steps.standing wait n).filter
      fun q => decide (steps.timeAt q.2 + wait ≤ steps.timeAt n + 1000 * ms) := by
  have htime : steps.timeAt (n + 1) = steps.timeAt n + 1000 * ms := by
    simp [timeAt, hstep, DebounceStep.passes]
  refine noticesWhere_eq_filter
    (S := fun k _ => decide (steps.timeAt k + wait ≤ steps.timeAt n + 1000 * ms))
    fun k _ p _ => ?_
  rw [← Bool.decide_and, decide_eq_decide]
  simp only [FirstReaches, Stands, hstep, htime, DebounceStep.isAdvance, true_and]
  tauto

theorem fired_of_ne (hstep : (steps n).isAdvance = false) : steps.fired wait n = [] := by
  refine List.eq_nil_iff_forall_not_mem.mpr fun q hq => ?_
  obtain ⟨-, -, hfired⟩ := mem_noticesWhere.mp hq
  obtain ⟨-, -, hadvance, -⟩ := of_decide_eq_true hfired
  rw [hstep] at hadvance
  cases hadvance

/-- **The calls of a step are those for what is waited for.** -/
theorem calls_eq (steps : DebounceHistory) (wait : Int) (n : Nat) :
    steps.calls wait n = (steps.waitingAt wait n).calls wait (steps n) := by
  unfold calls
  cases hstep : steps n with
  | notify p =>
    rw [fired_of_ne (by rw [hstep]; rfl)]
    rfl
  | advance ms =>
    rw [fired_of_advance hstep, if_neg (by simp), List.append_nil]
    show _ = (((steps.standing wait n).map fun q => (q.1, steps.timeAt q.2)).filter _).map _
    rw [List.filter_map, List.map_map]
    rfl
  | flush =>
    rw [fired_of_ne (by rw [hstep]; rfl)]
    rfl
  | dispose =>
    rw [fired_of_ne (by rw [hstep]; rfl)]
    rfl

/-! ## The order of the calls -/

theorem timeAt_mono (steps : DebounceHistory) (h : k ≤ n) : steps.timeAt k ≤ steps.timeAt n := by
  induction n with
  | zero => exact Nat.le_zero.mp h ▸ Int.le_refl _
  | succ n ih =>
    rcases Nat.le_succ_iff.mp h with h | rfl
    · have hpasses : 0 ≤ (steps n).passes := by
        cases steps n with
        | advance ms =>
          show 0 ≤ 1000 * (ms : Int)
          omega
        | notify p => exact Int.le_refl 0
        | flush => exact Int.le_refl 0
        | dispose => exact Int.le_refl 0
      have := ih h
      rw [timeAt]
      omega
    · exact Int.le_refl _

theorem pairwise_noticesWhere (steps : DebounceHistory) (n : Nat) (R : Nat → Path → Bool) :
    (steps.noticesWhere n R).Pairwise fun q r => q.2 < r.2 := by
  induction n with
  | zero => exact List.Pairwise.nil
  | succ n ih =>
    by_cases hnotice : ∃ p, steps n = .notify p
    · obtain ⟨p, hstep⟩ := hnotice
      rw [noticesWhere_succ_of_notify hstep]
      refine List.pairwise_append.mpr ⟨ih, ?_, fun q hq r hr => ?_⟩
      · split
        · exact List.pairwise_singleton _ _
        · exact List.Pairwise.nil
      · have hr : r = (p, n) := by
          split at hr
          · exact List.mem_singleton.mp hr
          · cases hr
        rw [hr]
        exact (mem_noticesWhere.mp hq).1
    · rw [noticesWhere_succ_of_ne fun p hstep => hnotice ⟨p, hstep⟩]
      exact ih

/-- **The timers run in the order of the notices**, also over several steps. -/
theorem pairwise_fired (steps : DebounceHistory) (wait : Int) (n : Nat) :
    ((List.range n).flatMap (steps.fired wait)).Pairwise fun q r => q.2 < r.2 := by
  induction n with
  | zero => exact List.Pairwise.nil
  | succ n ih =>
    rw [List.range_succ, List.flatMap_append, List.flatMap_singleton]
    refine List.pairwise_append.mpr ⟨ih, pairwise_noticesWhere steps n _, fun q hq r hr => ?_⟩
    obtain ⟨m, hm, hq⟩ := List.mem_flatMap.mp hq
    have hm : m < n := List.mem_range.mp hm
    obtain ⟨hqm, -, hqfired⟩ := mem_noticesWhere.mp hq
    obtain ⟨-, -, hadvance, hreached, -⟩ := of_decide_eq_true hqfired
    obtain ⟨-, -, hrfired⟩ := mem_noticesWhere.mp hr
    obtain ⟨-, -, -, -, hnotReached⟩ := of_decide_eq_true hrfired
    by_cases hrm : r.2 < m
    · -- The later notice was not due yet in the step that came to the earlier one.
      have hnotYet := hnotReached m hm hrm hadvance
      by_contra hle
      have := timeAt_mono steps (Nat.not_lt.mp hle)
      omega
    · omega

end DebounceHistory

/-! ## Callbacks that fail -/

namespace DebounceSession

/-- All that the script says is to fail. -/
def OnlyFails (s : DebounceSession) : Prop :=
  ∀ e ∈ s.script, ∃ text, e.reaction = .fail text

variable {s : DebounceSession}

theorem OnlyFails.react (h : s.OnlyFails) (flush : DebounceSession → DebounceSession) (p : Path) :
    (react flush p s).1.debouncers = s.debouncers ∧ (react flush p s).1.OnlyFails := by
  unfold DebounceSession.react
  dsimp only
  cases hfind : s.script.find? (·.path == p.toString) with
  | none => exact ⟨rfl, h⟩
  | some e =>
    obtain ⟨text, hfail⟩ := h e (List.mem_of_find?_eq_some hfind)
    simp only [hfail]
    split
    · exact ⟨rfl, fun e' he' => h e' (List.mem_filter.mp he').1⟩
    · exact ⟨rfl, h⟩

theorem OnlyFails.callWith (h : s.OnlyFails) (flush : DebounceSession → DebounceSession)
    (p : Path) :
    (callWith flush p s).debouncers = s.debouncers ∧ (callWith flush p s).OnlyFails := by
  have hplain := h.react flush p
  have hown : ({ s with onOwnLoop := true } : DebounceSession).OnlyFails := h
  have hcoroutine := hown.react flush p
  unfold DebounceSession.callWith
  split
  · exact ⟨rfl, h⟩
  · generalize DebounceSession.react flush p s = r at hplain ⊢
    obtain ⟨s', _ | text⟩ := r
    · exact hplain
    · exact hplain
  · split
    · exact hplain
    · split
      · exact ⟨rfl, h⟩
      · generalize DebounceSession.react flush p { s with onOwnLoop := true } = r at hcoroutine ⊢
        obtain ⟨s', _ | text⟩ := r
        · exact hcoroutine
        · exact hcoroutine

/-- A callback that only fails does not use the debouncer. -/
theorem heedless_host (depth : Nat) : (host depth).Heedless OnlyFails := by
  cases depth with
  | zero => exact ⟨fun _ _ _ => rfl, fun _ _ _ => rfl, fun _ _ h => h, fun _ _ h => h⟩
  | succ depth =>
    exact ⟨fun _ _ _ => rfl, fun _ p h => (h.callWith _ p).1, fun _ _ h => h,
      fun _ p h => (h.callWith _ p).2⟩

end DebounceSession

/-! ## The record of a host -/

namespace DebounceHost

variable {σ : Type} {h : DebounceHost σ} {Good : σ → Prop} {s : σ} {delay : Delay} {label : String}

/-- After some steps a debouncer waits for what the history says, and has called what it says. -/
theorem Heedless.after_waits (hh : h.Heedless Good) (hs : Good s)
    (hstart : h.debouncers s = Debouncers.initial.add (.initial delay label))
    (steps : DebounceHistory) (n : Nat) :
    h.Waits Good delay (h.recorded.after (s, []) steps n) (steps.waitingAt delay.wait n) ∧
      (steps.waitingAt delay.wait n).Sound delay.wait ∧
      (h.recorded.after (s, []) steps n).2 =
        (List.range n).flatMap (steps.calls delay.wait) := by
  induction n with
  | zero =>
    exact ⟨⟨hs, _, rfl, hstart ▸ Debouncers.tracks_initial delay label⟩,
      Waiting.sound_of_nil _ rfl rfl, rfl⟩
  | succ n ih =>
    obtain ⟨hwaits, hsound, hcalls⟩ := ih
    obtain ⟨hwaits', hcalls'⟩ := hh.take_waits hwaits hsound (steps n)
    rw [DebounceHistory.waitingAt_succ, List.range_succ, List.flatMap_append,
      List.flatMap_singleton, DebounceHistory.calls_eq, ← hcalls]
    exact ⟨hwaits', hsound.take (Int.le_max_left _ _) (steps n), hcalls'⟩

/--
**The whole record of a debouncer is read off its history.** After any number of steps the callback
was called for the notices that time came to, in the order of these notices, each as soon as it had
been quiet for the delay, and for what flushes found pending, and for nothing else. What is pending
is listed in the order in which it became so, and this is what a flush calls back for and returns.
-/
theorem record_of_history (hh : h.Heedless Good) (hs : Good s)
    (hstart : h.debouncers s = Debouncers.initial.add (.initial delay label))
    (steps : DebounceHistory) (n : Nat) :
    let s' := h.recorded.after (s, []) steps n
    (h.debouncers s'.1).clock.now = steps.timeAt n ∧
      s'.2 = (List.range n).flatMap (steps.calls delay.wait) ∧
      ((List.range n).flatMap (steps.fired delay.wait)).Pairwise (fun q r => q.2 < r.2) ∧
      (h.debouncers s'.1).pendingPaths 0 = steps.begun delay.wait n ∧
      (h.recorded.flush 0 s').2 = steps.begun delay.wait n ∧
      (steps.begun delay.wait n).Nodup ∧
      ∀ p, p ∈ steps.begun delay.wait n ↔ steps.Pending delay.wait n p := by
  intro s'
  obtain ⟨hwaits, hsound, hcalls⟩ := hh.after_waits hs hstart steps n
  exact ⟨hwaits.now, hcalls, steps.pairwise_fired delay.wait n, hwaits.pendingPaths,
    (hh.flush_waits hwaits).1, hsound.nodup_pending, fun p => DebounceHistory.mem_begun⟩

/-- A session whose callback fails for one of two paths. -/
def failingSession : DebounceSession :=
  .initial ⟨100, 100000⟩ "" (some .plain) [⟨"/a", .fail "no", false⟩]

/-- Two paths are noticed, the first once more before it has been quiet for long enough. -/
def overtakingHistory : DebounceHistory := fun n =>
  [.notify ⟨.slash, ["a"]⟩, .notify ⟨.slash, ["b"]⟩, .advance 60, .notify ⟨.slash, ["a"]⟩,
    .advance 40, .notify ⟨.slash, ["b"]⟩, .flush][n]?.getD (.advance 100)

/-- The timer of the second path runs first, but a flush calls back for the first path before. -/
theorem failingSession_record :
    let h := DebounceSession.host 1
    let s' := h.recorded.after (failingSession, []) overtakingHistory 7
    h.Heedless DebounceSession.OnlyFails ∧ failingSession.OnlyFails ∧
      h.debouncers failingSession = Debouncers.initial.add (.initial ⟨100, 100000⟩ "") ∧
      s'.2 = [(⟨.slash, ["b"]⟩, 100000), (⟨.slash, ["a"]⟩, 100000), (⟨.slash, ["b"]⟩, 100000)] ∧
      (h.debouncers s'.1).pendingPaths 0 = [] := by
  intro h s'
  have hfails : failingSession.OnlyFails := by
    intro e he
    exact ⟨"no", List.mem_singleton.mp he ▸ rfl⟩
  have hstart : h.debouncers failingSession =
      Debouncers.initial.add (.initial ⟨100, 100000⟩ "") := rfl
  have hheedless := DebounceSession.heedless_host 1
  obtain ⟨-, hcalls, -, hpending, -⟩ :=
    record_of_history hheedless hfails hstart overtakingHistory 7
  refine ⟨hheedless, hfails, hstart, ?_, ?_⟩
  · rw [hcalls]
    decide +kernel
  · rw [hpending]
    decide +kernel

end DebounceHost

end LiveTemplates
