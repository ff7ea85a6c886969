import LiveTemplates.Expansion.Basic
import LiveTemplates.Unused

/-!
# Expansion comes to an end

Steps make a text shorter, except that an include brings in the text of a file. Each include uses up
its argument, but there are endlessly many arguments, since a file has many spellings, and a tag can
be put together from what is left of several texts.

The proof follows the pieces that a text is made of: the text at the start, and one piece for each
include, all no longer than some bound `M`, which the tree and the first text give. A step that
replaces a tag of more than `3 * M` characters makes the pieces fewer, because such a tag lies on
more than three of them: those in its middle go, and one comes. A step that replaces a shorter
include uses up an argument of at most `3 * M` characters, and of these there are finitely many. All
other steps shorten the text and add no piece. So the unused short arguments, the number of pieces
and the length of the text go down together (`Expansion.follows_wellFounded`).
-/

namespace LiveTemplates

/-! ## Bounds -/

/-- The values of a function on a list have a bound. -/
theorem exists_forall_mem_le {α : Type} (f : α → Nat) (xs : List α) : ∃ M, ∀ x ∈ xs, f x ≤ M := by
  induction xs with
  | nil => exact ⟨0, by simp⟩
  | cons x xs ih =>
    obtain ⟨M, hM⟩ := ih
    refine ⟨max (f x) M, fun y hy => ?_⟩
    rcases List.mem_cons.1 hy with rfl | hy
    · exact Nat.le_max_left _ _
    · exact Nat.le_trans (hM y hy) (Nat.le_max_right _ _)

namespace FileTree

/-- A file that can be read has an entry with its content. -/
theorem exists_mem_of_readText {t : FileTree} {p : Path} {text : List Char}
    (h : t.readText p = .ok text) : ∃ place content s, (place, Entry.file content) ∈ t.entries ∧
      Text.decodeUtf8 content = .ok s ∧ text = Text.unifyLineEnds s.toList := by
  unfold readText at h
  split at h
  · simp at h
  · next content hread =>
    split at h
    · simp at h
    · next s hs =>
      simp only [Except.ok.injEq] at h
      unfold read at hread
      split at hread
      · simp at hread
      · next place _ =>
        split at hread
        · next c hentry =>
          simp only [Except.ok.injEq] at hread
          subst hread
          unfold entry? at hentry
          split at hentry
          · simp at hentry
          · obtain ⟨_, _, hsplit, _⟩ := List.lookup_eq_some_iff.1 hentry
            exact ⟨place, c, s, by simp [hsplit], hs, h.symm⟩
        · simp at hread

/-- The texts of the files of a tree have a bound. -/
theorem exists_length_le_of_readText (t : FileTree) :
    ∃ M, ∀ p text, t.readText p = .ok text → text.length ≤ M := by
  let size : Place × Entry → Nat := fun e =>
    match e.2 with
    | .directory => 0
    | .file content =>
      match Text.decodeUtf8 content with
      | .ok s => (Text.unifyLineEnds s.toList).length
      | .error _ => 0
  obtain ⟨M, hM⟩ := exists_forall_mem_le size t.entries
  refine ⟨M, fun p text h => ?_⟩
  obtain ⟨place, content, s, hmem, hs, rfl⟩ := exists_mem_of_readText h
  have := hM _ hmem
  simpa only [size, hs] using this

end FileTree

namespace Expansion

/-- All characters are in one list. -/
theorem exists_forall_char_mem : ∃ cs : List Char, ∀ c, c ∈ cs := by
  refine ⟨(List.range 0x110000).map Char.ofNat, fun c => ?_⟩
  refine List.mem_map.2 ⟨c.toNat, List.mem_range.2 ?_, Char.ofNat_toNat c⟩
  have := c.valid
  simp only [UInt32.isValidChar, Nat.isValidChar] at this
  unfold Char.toNat
  omega

/-- All texts up to a length are in one list. -/
theorem exists_forall_length_le_mem (n : Nat) :
    ∃ ws : List (List Char), ∀ w : List Char, w.length ≤ n → w ∈ ws := by
  obtain ⟨cs, hcs⟩ := exists_forall_char_mem
  induction n with
  | zero => exact ⟨[[]], fun w hw => by simp_all⟩
  | succ n ih =>
    obtain ⟨ws, hws⟩ := ih
    refine ⟨[] :: ws.flatMap fun w => cs.map (· :: w), fun w hw => ?_⟩
    cases w with
    | nil => simp
    | cons c w =>
      refine List.mem_cons_of_mem _ (List.mem_flatMap.2 ⟨w, hws w (by simpa using hw), ?_⟩)
      exact List.mem_map.2 ⟨c, hcs c, rfl⟩

/-! ## Pieces -/

/-- Pieces of a text that are no longer than `M`. -/
def IsPieces (M : Nat) (ps : List (List Char)) (s : List Char) : Prop :=
  ps.flatten = s ∧ ∀ p ∈ ps, p.length ≤ M

/-- The pieces of a longer text are more. -/
theorem IsPieces.length_le {M : Nat} {ps : List (List Char)} {s : List Char}
    (h : IsPieces M ps s) : s.length ≤ ps.length * M := by
  obtain ⟨rfl, hM⟩ := h
  induction ps with
  | nil => simp
  | cons p ps ih =>
    have hp := hM p (by simp)
    have := ih fun q hq => hM q (by simp [hq])
    simp only [List.flatten_cons, List.length_append, List.length_cons, Nat.add_mul]
    omega

/-- Texts in pieces, one after the other. -/
theorem IsPieces.append {M : Nat} {ps qs : List (List Char)} {s u : List Char}
    (hp : IsPieces M ps s) (hq : IsPieces M qs u) : IsPieces M (ps ++ qs) (s ++ u) := by
  obtain ⟨rfl, hps⟩ := hp
  obtain ⟨rfl, hqs⟩ := hq
  exact ⟨by simp, fun p h => (List.mem_append.1 h).elim (hps p) (hqs p)⟩

/-- One more piece. -/
theorem IsPieces.cons {M : Nat} {ps : List (List Char)} {p s : List Char}
    (hp : p.length ≤ M) (hs : IsPieces M ps s) : IsPieces M (p :: ps) (p ++ s) := by
  obtain ⟨rfl, hps⟩ := hs
  exact ⟨by simp, fun q h => (List.mem_cons.1 h).elim (fun h => h ▸ hp) (hps q)⟩

/-- A cut through a text in pieces divides at most one of them. -/
theorem IsPieces.cut {M : Nat} {ps : List (List Char)} {s u : List Char}
    (h : IsPieces M ps (s ++ u)) : ∃ qs rs, IsPieces M qs s ∧ IsPieces M rs u ∧
      qs.length + rs.length ≤ ps.length + 1 := by
  obtain ⟨hflat, hM⟩ := h
  induction ps generalizing s with
  | nil =>
    obtain ⟨rfl, rfl⟩ : s = [] ∧ u = [] := by simpa using hflat.symm
    exact ⟨[], [], ⟨rfl, by simp⟩, ⟨rfl, by simp⟩, by simp⟩
  | cons p ps ih =>
    have hp := hM p (by simp)
    have hps : ∀ q ∈ ps, q.length ≤ M := fun q hq => hM q (by simp [hq])
    rw [List.flatten_cons] at hflat
    rcases List.append_eq_append_iff.1 hflat with ⟨s', rfl, h'⟩ | ⟨p', rfl, rfl⟩
    · obtain ⟨qs, rs, hqs, hrs, hlen⟩ := ih h' hps
      refine ⟨p :: qs, rs, hqs.cons hp, hrs, ?_⟩
      simp only [List.length_cons]
      omega
    · have hlen : s.length + p'.length ≤ M := by simpa using hp
      refine ⟨[s], p' :: ps, ⟨by simp, by simp; omega⟩, IsPieces.cons (by omega) ⟨rfl, hps⟩, ?_⟩
      simp only [List.length_cons, List.length_nil]
      omega

/-- Without its middle, a text has no more pieces. -/
theorem IsPieces.without {M : Nat} {ps : List (List Char)} {a r b : List Char}
    (h : IsPieces M ps (a ++ (r ++ b))) :
    ∃ qs, IsPieces M qs (a ++ b) ∧ qs.length ≤ ps.length := by
  obtain ⟨hflat, hM⟩ := h
  induction ps generalizing a r with
  | nil =>
    obtain ⟨rfl, rfl, rfl⟩ : a = [] ∧ r = [] ∧ b = [] := by simpa using hflat.symm
    exact ⟨[], ⟨rfl, by simp⟩, by simp⟩
  | cons p ps ih =>
    have hp := hM p (by simp)
    have hps : ∀ q ∈ ps, q.length ≤ M := fun q hq => hM q (by simp [hq])
    rw [List.flatten_cons] at hflat
    rcases List.append_eq_append_iff.1 hflat with ⟨a', rfl, h'⟩ | ⟨p', rfl, h'⟩
    · obtain ⟨qs, hqs, hlen⟩ := ih h' hps
      refine ⟨p :: qs, ?_, by simpa using hlen⟩
      rw [List.append_assoc]
      exact hqs.cons hp
    · simp only [List.length_append] at hp
      rcases List.append_eq_append_iff.1 h' with ⟨b', rfl, rfl⟩ | ⟨r', rfl, h''⟩
      · refine ⟨(a ++ b') :: ps, ?_, by simp⟩
        rw [← List.append_assoc]
        refine IsPieces.cons ?_ ⟨rfl, hps⟩
        simp only [List.length_append] at hp ⊢
        omega
      · obtain ⟨qs, hqs, hlen⟩ := ih (a := []) h'' hps
        exact ⟨a :: qs, hqs.cons (by omega), by simpa using hlen⟩

/-- With another middle, a text is still in pieces; in fewer ones if the old middle was long. -/
theorem IsPieces.splice {M : Nat} {ps : List (List Char)} {a r b c : List Char}
    (h : IsPieces M ps (a ++ (r ++ b))) (hc : c.length ≤ M) :
    ∃ qs, IsPieces M qs (a ++ (c ++ b)) ∧ (3 * M < r.length → qs.length < ps.length) := by
  obtain ⟨as, rest, has, hrest, hlen⟩ := h.cut
  obtain ⟨rs, bs, hrs, hbs, hlen'⟩ := hrest.cut
  refine ⟨as ++ c :: bs, has.append (hbs.cons hc), fun hlong => ?_⟩
  have hr : 3 < rs.length := by
    refine Nat.lt_of_not_le fun hle => ?_
    have := Nat.mul_le_mul_right M hle
    have := hrs.length_le
    omega
  simp only [List.length_append, List.length_cons]
  omega

/-! ## Steps -/

/-- An expansion that comes right after another one. -/
def Follows (t : FileTree) (source : Path) (e' e : Expansion) : Prop :=
  ∃ isFirst, step? t source isFirst e = .ok (some e')

/-- What a step does to the text and the chain. -/
inductive Replaces (t : FileTree) (e : Expansion) : Expansion → Prop
  /-- A tag is replaced by nothing. -/
  | erase {e' : Expansion} (before raw rest : List Char) (hraw : raw ≠ [])
      (htext : e.text = before ++ (raw ++ rest)) (htext' : e'.text = before ++ rest)
      (hchain : e'.chain = e.chain) : Replaces t e e'
  /-- An include is replaced by a file's text. -/
  | insert {e' : Expansion} (before raw rest argument text : List Char)
      (target : Path) (hread : t.readText target = .ok text)
      (harg : argument.length ≤ raw.length) (hnew : chainKey argument ∉ e.chain)
      (htext : e.text = before ++ (raw ++ rest)) (htext' : e'.text = before ++ (text ++ rest))
      (hchain : e'.chain = chainKey argument :: e.chain) : Replaces t e e'

/-- An include that is replaced by a text has a file with that text. -/
theorem exists_readText_of_includedText {t : FileTree} {source target : Path}
    {argument text : List Char} (h : t.includedText source argument = .ok (some (target, text))) :
    t.readText target = .ok text := by
  unfold FileTree.includedText at h
  split at h
  · simp at h
  · next target' _ =>
    split at h
    · next text' htext =>
      simp only [Except.ok.injEq, Option.some.injEq, Prod.mk.injEq] at h
      obtain ⟨rfl, rfl⟩ := h
      exact htext
    · simp at h

/-- Each step replaces a tag. -/
theorem Follows.replaces {t : FileTree} {source : Path} {e' e : Expansion}
    (h : Follows t source e' e) : Replaces t e e' := by
  obtain ⟨isFirst, h⟩ := h
  unfold step? at h
  split at h
  · simp at h
  · next before m hfirst =>
    have htext := Tag.eq_of_first? hfirst
    split at h
    · simp at h
    · next replacement e'' happly =>
      simp only [Except.ok.injEq, Option.some.injEq] at h
      subst h
      unfold applyTag at happly
      split at happly
      · simp at happly
      · split at happly
        · simp at happly
        · split at happly
          · simp only [Except.ok.injEq, Prod.mk.injEq] at happly
            obtain ⟨rfl, rfl⟩ := happly
            exact .erase before m.raw m.rest m.raw_ne_nil htext rfl rfl
          · simp only [Except.ok.injEq, Prod.mk.injEq] at happly
            obtain ⟨rfl, rfl⟩ := happly
            exact .erase before m.raw m.rest m.raw_ne_nil htext rfl rfl
          · dsimp only at happly
            split at happly
            · simp at happly
            · next hnew =>
              split at happly
              · simp at happly
              · simp at happly
              · next target text hincluded =>
                simp only [Except.ok.injEq, Prod.mk.injEq] at happly
                obtain ⟨rfl, rfl⟩ := happly
                exact .insert before m.raw m.rest m.argument text target
                  (exists_readText_of_includedText hincluded) m.length_argument_le
                  (fun h => hnew (List.contains_iff_mem.2 h)) htext rfl rfl

/-- Expansions with their text in pieces come to an end. -/
theorem acc_follows {t : FileTree} {source : Path} {M : Nat} {keys : List (List Char)}
    (hread : ∀ p text, t.readText p = .ok text → text.length ≤ M)
    (hkeys : ∀ argument : List Char, argument.length ≤ 3 * M → chainKey argument ∈ keys)
    (e : Expansion) (ps : List (List Char)) (hps : IsPieces M ps e.text) :
    Acc (Follows t source) e := by
  refine Acc.intro e fun e' hfollows => ?_
  cases hfollows.replaces with
  | erase before raw rest hraw htext htext' hchain =>
    rw [htext] at hps
    obtain ⟨qs, hqs, hlen⟩ := hps.without
    have hshort : e'.text.length < e.text.length := by
      have := List.length_pos_iff.2 hraw
      rw [htext, htext']
      simp only [List.length_append]
      omega
    exact acc_follows hread hkeys e' qs (htext' ▸ hqs)
  | insert before raw rest argument text target hfile harg hnew htext htext' hchain =>
    rw [htext] at hps
    obtain ⟨qs, hqs, hlen⟩ := hps.splice (hread _ _ hfile)
    have hle := unused_cons_le keys e.chain (chainKey argument)
    have hlt : raw.length ≤ 3 * M →
        unused keys (chainKey argument :: e.chain) < unused keys e.chain :=
      fun hshort => unused_cons_lt (hkeys _ (Nat.le_trans harg hshort)) hnew
    exact acc_follows hread hkeys e' qs (htext' ▸ hqs)
termination_by (unused keys e.chain, ps.length, e.text.length)
decreasing_by
  · rw [hchain]
    rcases Nat.lt_or_eq_of_le hlen with h | h
    · exact Prod.Lex.right _ (Prod.Lex.left _ _ h)
    · rw [h]
      exact Prod.Lex.right _ (Prod.Lex.right _ hshort)
  · rw [hchain]
    rcases Nat.lt_or_ge (3 * M) raw.length with h | h
    · rcases Nat.lt_or_eq_of_le hle with h' | h'
      · exact Prod.Lex.left _ _ h'
      · rw [h']
        exact Prod.Lex.right _ (Prod.Lex.left _ _ (hlen h))
    · exact Prod.Lex.left _ _ (hlt h)

/-- There is no endless expansion, whatever the tree and the text. -/
theorem follows_wellFounded (t : FileTree) (source : Path) : WellFounded (Follows t source) := by
  refine ⟨fun e => ?_⟩
  obtain ⟨M, hM⟩ := t.exists_length_le_of_readText
  obtain ⟨ws, hws⟩ := exists_forall_length_le_mem (3 * max M e.text.length)
  refine @acc_follows t source (max M e.text.length) (ws.map chainKey)
    (fun p text h => Nat.le_trans (hM p text h) (Nat.le_max_left _ _))
    (fun argument h => List.mem_map.2 ⟨argument, hws argument h, rfl⟩) e [e.text] ?_
  refine ⟨List.flatten_singleton, fun p hp => ?_⟩
  rw [List.mem_singleton.1 hp]
  exact Nat.le_max_right _ _

end Expansion

end LiveTemplates
