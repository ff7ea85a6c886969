/-!
# Keys that are still unused

Loops that use each key once come to an end when there are finitely many keys: each time a key is
used that was not used before, fewer are left.
-/

namespace LiveTemplates

variable {α : Type} [DecidableEq α]

/-- How many of some keys were not used. -/
def unused (keys used : List α) : Nat :=
  (keys.filter fun k => k ∉ used).length

/-- Using one more key leaves no more. -/
theorem unused_cons_le (keys used : List α) (k : α) :
    unused keys (k :: used) ≤ unused keys used := by
  unfold unused
  rw [← List.countP_eq_length_filter, ← List.countP_eq_length_filter]
  refine List.countP_mono_left fun w _ h => ?_
  simp_all

/-- Using one of the keys for the first time leaves fewer. -/
theorem unused_cons_lt {keys used : List α} {k : α} (hk : k ∈ keys) (hnew : k ∉ used) :
    unused keys (k :: used) < unused keys used := by
  have hsplit : keys.filter (fun w => w ∉ k :: used)
      = (keys.filter fun w => w ∉ used).filter fun w => w ≠ k := by
    rw [List.filter_filter]
    refine List.filter_congr fun w _ => ?_
    by_cases h : w = k <;> simp [h]
  unfold unused
  rw [hsplit, List.length_filter_lt_length_iff_exists]
  exact ⟨k, List.mem_filter.2 ⟨hk, by simpa using hnew⟩, by simp⟩

end LiveTemplates
