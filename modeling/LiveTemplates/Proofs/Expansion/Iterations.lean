import Mathlib.Order.WellFounded
import LiveTemplates.Expansion

/-!
# An expansion takes finitely many steps

`Expansion.run` goes on as long as there is a step, and it is a function only because
`Expansion.follows_wellFounded` says that there is an end. Here the steps are counted: a loop that
is cut off after a number of steps (`Expansion.runWithin`) yields what the expansion yields, for
every number from some one on.

The chain alone gives no such number. One file has endlessly many spellings, and each of them is a
key of its own (`Expansion.chainKey_spelled_injective`).
-/

namespace LiveTemplates

namespace Expansion

/-! ## The loop, cut off after some steps -/

/-- The steps of an expansion, at most as many as are allowed. -/
def runWithin (t : FileTree) (source : Path) (isFirst : Bool) :
    Nat → Expansion → Option (Except ExpansionError Expansion)
  | 0, _ => none
  | n + 1, e =>
    match step? t source isFirst e with
    | .error err => some (.error err)
    | .ok none => some (.ok e)
    | .ok (some e') => runWithin t source false n e'

variable {t : FileTree} {source : Path} {isFirst : Bool} {e : Expansion}

/-- An expansion that comes to its end within the allowed steps is the expansion. -/
theorem run_eq_of_runWithin {n : Nat} {r : Except ExpansionError Expansion}
    (h : runWithin t source isFirst n e = some r) : run t source isFirst e = r := by
  induction n generalizing isFirst e with
  | zero => simp [runWithin] at h
  | succ n ih =>
    rw [runWithin] at h
    rw [run]
    split at h
    · next hstep => split <;> simp_all
    · next hstep => split <;> simp_all
    · next e' hstep =>
      split
      · next hstep' => simp [hstep] at hstep'
      · next hstep' => simp [hstep] at hstep'
      · next e'' hstep' =>
        obtain rfl : e' = e'' := by simpa [hstep] using hstep'
        exact ih h

/-- More allowed steps change nothing about an expansion that came to its end. -/
theorem runWithin_of_le {n m : Nat} {r : Except ExpansionError Expansion} (hle : n ≤ m)
    (h : runWithin t source isFirst n e = some r) : runWithin t source isFirst m e = some r := by
  induction n generalizing isFirst e m with
  | zero => simp [runWithin] at h
  | succ n ih =>
    obtain ⟨m, rfl⟩ : ∃ k, m = k + 1 := ⟨m - 1, by omega⟩
    rw [runWithin] at h ⊢
    split at h
    · exact h
    · exact h
    · exact ih (by omega) h

/-- Some number of steps is enough, by induction along the steps. -/
theorem exists_runWithin (t : FileTree) (source : Path) (isFirst : Bool) (e : Expansion) :
    ∃ n r, runWithin t source isFirst n e = some r := by
  induction e using (follows_wellFounded t source).induction generalizing isFirst with
  | _ e ih =>
    cases hstep : step? t source isFirst e with
    | error err => exact ⟨1, .error err, by rw [runWithin, hstep]⟩
    | ok next =>
      cases next with
      | none => exact ⟨1, .ok e, by rw [runWithin, hstep]⟩
      | some e' =>
        obtain ⟨n, r, hn⟩ := ih e' ⟨isFirst, hstep⟩ false
        exact ⟨n + 1, r, by rw [runWithin, hstep]; exact hn⟩

/-! ## The spellings of a file -/

/-- A path with some steps to the same directory in front of it. -/
def spelled : Nat → List Char → List Char
  | 0, f => f
  | k + 1, f => '.' :: '/' :: spelled k f

theorem dropTrailing_spelled (k : Nat) (f : List Char) :
    Text.dropTrailing Text.isBlank (spelled k f)
      = spelled k (Text.dropTrailing Text.isBlank f) := by
  induction k with
  | zero => rfl
  | succ k ih =>
    rw [spelled, spelled, Text.dropTrailing_cons (by decide),
      Text.dropTrailing_cons (by decide), ih]

/-- Trimming a spelling is trimming what is spelled. -/
theorem trim_spelled {f : List Char} (hf : ∀ c ∈ f.head?, Text.isBlank c = false) (k : Nat) :
    Text.trim (spelled k f) = spelled k (Text.dropTrailing Text.isBlank f) := by
  have hhead : (spelled k f).dropWhile Text.isBlank = spelled k f := by
    cases k with
    | zero =>
      cases f with
      | nil => rfl
      | cons c f => rw [spelled, List.dropWhile_cons, hf c rfl]; simp
    | succ k => rw [spelled, List.dropWhile_cons, show Text.isBlank '.' = false by decide]; simp
  rw [Text.trim, Text.trimOf, hhead, dropTrailing_spelled]

/-- What stands before a text has no part in how long its lower-case form is. -/
theorem length_lowercaseAfter (before before' s : List Char) :
    (Text.lowercaseAfter before s).length = (Text.lowercaseAfter before' s).length := by
  induction s generalizing before before' with
  | nil => rfl
  | cons c s ih =>
    rw [Text.lowercaseAfter, Text.lowercaseAfter, List.length_append, List.length_append,
      ih (c :: before) (c :: before')]
    congr 1
    split
    · split <;> split <;> rfl
    · rfl

/-- Each step to the same directory makes the lower-case form longer by two characters. -/
theorem length_lowercase_spelled (k : Nat) (f : List Char) :
    (Text.lowercase (spelled k f)).length = 2 * k + (Text.lowercase f).length := by
  have hdot : Text.lowercaseMap.apply '.' = ['.'] := by decide +kernel
  have hslash : Text.lowercaseMap.apply '/' = ['/'] := by decide +kernel
  induction k with
  | zero => simp [spelled]
  | succ k ih =>
    unfold Text.lowercase at ih ⊢
    rw [spelled, Text.lowercaseAfter, Text.lowercaseAfter, if_neg (by decide), if_neg (by decide),
      hdot, hslash, List.length_append, List.length_append,
      length_lowercaseAfter _ [] (spelled k f), ih, List.length_singleton, List.length_singleton]
    omega

/-- **A file has endlessly many keys**: its spellings have different ones. -/
theorem chainKey_spelled_injective {f : List Char} (hf : ∀ c ∈ f.head?, Text.isBlank c = false) :
    Function.Injective fun k => chainKey (spelled k f) := by
  intro j k h
  have hlen := congrArg List.length h
  simp only [chainKey, trim_spelled hf, length_lowercase_spelled] at hlen
  omega

/-- A step to the same directory is no part of a path. -/
theorem ofString_spelled {g : List Char} (hg : g.head? ≠ some '/') (k : Nat) :
    Path.ofString (String.ofList (spelled k g)) = Path.ofString (String.ofList g) := by
  have hroot : ∀ {s : List Char}, s.head? ≠ some '/' → Path.rootOf s = .workingDirectory := by
    intro s hs
    unfold Path.rootOf
    split <;> simp_all
  have hnames : Path.namesFrom [] (spelled k g) = Path.namesFrom [] g := by
    induction k with
    | zero => rfl
    | succ k ih =>
      rw [spelled, Path.namesFrom, if_neg (by decide), Path.namesFrom, if_pos (by decide), ih]
      rfl
  have hhead : (spelled k g).head? ≠ some '/' := by
    cases k with
    | zero => exact hg
    | succ k => simp [spelled]
  simp only [Path.ofString, String.toList_ofList, hroot hhead, hroot hg, hnames]

/-- The spellings of a relative path lead to the same file. -/
theorem resolve_spelled {f : List Char} (hf : ∀ c ∈ f.head?, Text.isBlank c = false ∧ c ≠ '/')
    (source : Path) (k : Nat) (cwd : Path) :
    source.resolve (String.ofList (spelled k f)) cwd
      = source.resolve (String.ofList f) cwd := by
  have hblank : ∀ c ∈ f.head?, Text.isBlank c = false := fun c hc => (hf c hc).1
  have hhead : (Text.dropTrailing Text.isBlank f).head? ≠ some '/' := by
    cases f with
    | nil => simp [Text.dropTrailing]
    | cons c f =>
      rw [Text.dropTrailing_cons (hblank c rfl)]
      simpa using (hf c rfl).2
  have htrim : Text.trim f = Text.dropTrailing Text.isBlank f := trim_spelled hblank 0
  simp only [Path.resolve, Text.trimString, String.toList_ofList, trim_spelled hblank, htrim]
  show (source.parent.join (Path.ofString _)).absolute cwd = _
  rw [ofString_spelled hhead]
  rfl

/-! ## The end -/

/--
**Every expansion comes to its end.** From some number of steps on the loop that is cut off yields
what the expansion yields, be it a text or an error, and no endless sequence of steps starts with
the text. That a relative path has endlessly many keys makes no difference.
-/
theorem expand_comes_to_end (t : FileTree) (source : Path) (text : List Char) :
    (∃ n, ∀ m, n ≤ m → runWithin t source true m (initial text) = some (expand t source text)) ∧
      (¬ ∃ es : Nat → Expansion, es 0 = initial text ∧ ∀ n, Follows t source (es (n + 1)) (es n)) ∧
      ∀ f : List Char, (∀ c ∈ f.head?, Text.isBlank c = false ∧ c ≠ '/') →
        Function.Injective (fun k => chainKey (spelled k f)) ∧
          ∀ k, source.resolve (String.ofList (spelled k f)) t.cwd
            = source.resolve (String.ofList f) t.cwd := by
  refine ⟨?_, ?_, fun f hf => ⟨chainKey_spelled_injective fun c hc => (hf c hc).1,
    fun k => resolve_spelled hf source k t.cwd⟩⟩
  · obtain ⟨n, r, hn⟩ := exists_runWithin t source true (initial text)
    refine ⟨n, fun m hm => ?_⟩
    rw [expand, run_eq_of_runWithin hn]
    exact runWithin_of_le hm hn
  · rintro ⟨es, _, hes⟩
    exact (wellFounded_iff_isEmpty_descending_chain.mp (follows_wellFounded t source)).false
      ⟨es, hes⟩

/-- The step that takes the inner tag out puts the outer one together. -/
example (t : FileTree) (source : Path) :
    runWithin t source true 3 (initial "<!--@ <!--@ output a -->partial -->".toList)
      = some (.ok ⟨[], [source.resolve "a" t.cwd], false, []⟩) := by
  rfl

end Expansion

end LiveTemplates
