import LiveTemplates.Proofs.Debounce.Ledger

/-!
# After disposal

A debouncer that was disposed of commits to no more callbacks: nothing is pending, no notice is
taken, and the timers that are still armed are stale. What it has committed to before is another
matter. Disposal does not look at it, so the callbacks that are queued at that moment are still
called: that of a timer which found its change pending before, and all those that a flush has taken
out and not called yet.
-/

namespace LiveTemplates.Debouncer.Ledger

variable {s : Ledger} {a : Action}

/-- The changes whose callbacks are yet to be called, task by task. -/
def queued (s : Ledger) : List PendingChange :=
  s.tasks.flatMap Task.queued

/-- The change whose callback a step calls, if it calls one. -/
def starts (s : Ledger) : Action → Option PendingChange
  | .call i => s.tasks[i]?.bind fun k => k.queued.head?
  | _ => none

/-- The changes whose callbacks some steps call, in that order. -/
def started : Ledger → List Action → List PendingChange
  | _, [] => []
  | s, a :: rest => (s.starts a).toList ++ started (s.step a) rest

/-- A call takes the next change of its task out of the queue. -/
theorem perm_queued_call (ks : List Task) (i : Nat) :
    ((ks[i]?.bind fun k => k.queued.head?).toList
      ++ (ks.modify i Task.callNext).flatMap Task.queued).Perm (ks.flatMap Task.queued) := by
  induction ks generalizing i with
  | nil => simp
  | cons k ks ih =>
    cases i with
    | zero =>
      obtain ⟨cause, called, queued⟩ := k
      cases queued with
      | nil => simp [Task.callNext]
      | cons c rest => simp [Task.callNext]
    | succ i =>
      rw [List.modify_succ_cons, List.getElem?_cons_succ, List.flatMap_cons, List.flatMap_cons]
      refine List.Perm.trans ?_ ((ih i).append_left k.queued)
      rw [← List.append_assoc, ← List.append_assoc]
      exact List.perm_append_comm.append_right _

/-- **A step after disposal queues nothing**, and what it calls was queued. -/
theorem Balanced.perm_queued_step (hs : Balanced s) (hd : s.debouncer.disposed = true) (a : Action) :
    ((s.starts a).toList ++ (s.step a).queued).Perm s.queued := by
  have hpending := hs.disposed hd
  cases a with
  | notify p =>
    rw [step_notify_disposed hd]
    exact .refl _
  | expire c =>
    have hstale : c ∉ s.debouncer.pending := by rw [hpending]; exact List.not_mem_nil
    rw [expire_not_pending hstale]
    exact .refl _
  | flush =>
    show ((s.tasks ++ [(⟨.flush, [], s.debouncer.pending⟩ : Task)]).flatMap Task.queued).Perm s.queued
    rw [hpending]
    simp [queued]
  | dispose => exact .refl _
  | call i => exact perm_queued_call s.tasks i

/-- The callbacks that are called after disposal, and those that are still queued, were queued. -/
theorem Balanced.perm_queued (hs : Balanced s) (hd : s.debouncer.disposed = true)
    (later : List Action) :
    (s.started later ++ (later.foldl Ledger.step s).queued).Perm s.queued := by
  induction later generalizing s with
  | nil => exact .refl _
  | cons a rest ih =>
    have hrest := ih (hs.step a) (disposed_step.mpr (.inl hd))
    rw [started, List.append_assoc, List.foldl_cons]
    exact (hrest.append_left _).trans (hs.perm_queued_step hd a)

/-- What is queued with an expiry is the change of its timer. -/
theorem Balanced.eq_of_expiry (hs : Balanced s) {k : Task} (hk : k ∈ s.tasks) {c c' : PendingChange}
    (hcause : k.cause = .expiry c') (hc : c ∈ k.queued) : c = c' := by
  have hcommitted : c ∈ k.committed := List.mem_append_right _ hc
  rw [hs.expiries k hk c' hcause] at hcommitted
  exact List.mem_singleton.mp hcommitted

/--
**Whatever steps follow disposal**, each callback that they call was queued before: by a timer that
found its own change pending, or by a flush.
-/
theorem exists_task_of_started (delay : Delay) (label : String) (actions : List Action)
    (later : List Action) :
    let s := after delay label (actions ++ [.dispose])
    (s.started later ++ (later.foldl step s).queued).Perm s.queued ∧
      ∀ c ∈ s.started later, ∃ k ∈ s.tasks, c ∈ k.queued ∧
        (k.cause = .expiry c ∨ k.cause = .flush) := by
  intro s
  have hs : Balanced s := balanced_after delay label _
  have hd : s.debouncer.disposed = true := by
    show (after delay label (actions ++ [.dispose])).debouncer.disposed = true
    rw [after, List.foldl_append]
    rfl
  have hperm := hs.perm_queued hd later
  refine ⟨hperm, fun c hc => ?_⟩
  obtain ⟨k, hk, hqueued⟩ := List.mem_flatMap.mp (hperm.subset (List.mem_append_left _ hc))
  refine ⟨k, hk, hqueued, ?_⟩
  cases hcause : k.cause with
  | expiry c' => exact .inl (by rw [hs.eq_of_expiry hk hcause hqueued])
  | flush => exact .inr rfl

/-- A flush of two paths, with disposal between its two callbacks. -/
example (delay : Delay) (label : String) :
    let a : Path := ⟨.slash, ["a"]⟩
    let b : Path := ⟨.slash, ["b"]⟩
    (after delay label [.notify a, .notify b, .flush, .call 0, .dispose]).started [.call 0]
      = [⟨b, 2⟩] := by
  rfl

end LiveTemplates.Debouncer.Ledger
