import LiveTemplates.Path

/-!
# The order of paths

Paths are ordered by their pieces. The order is total, and sorting brings paths into it.
-/

namespace LiveTemplates.Path

variable {p q r : Path}

theorem le_iff : le p q = true ↔ ¬ q.pieces < p.pieces := by
  rw [le, Bool.not_eq_true', decide_eq_false_iff_not]

theorem le_trans (h : le p q = true) (h' : le q r = true) : le p r = true := by
  rw [le_iff, List.not_lt] at *
  exact List.le_trans h h'

theorem le_total (p q : Path) : (le p q || le q p) = true := by
  rw [Bool.or_eq_true, le_iff, le_iff, List.not_lt, List.not_lt]
  exact List.le_total _ _

theorem pairwise_sort (ps : List Path) : (sort ps).Pairwise fun p q => le p q = true :=
  @List.pairwise_mergeSort Path le (fun _ _ _ => le_trans) le_total ps

end LiveTemplates.Path
