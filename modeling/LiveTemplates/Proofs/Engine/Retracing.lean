import LiveTemplates.Proofs.Engine.Rendering
import LiveTemplates.Proofs.Expansion.Locality
import LiveTemplates.Proofs.FileTree.Repetition
import LiveTemplates.Proofs.References.Relisting

/-!
# Processing once more

Processing lets a tree grow and changes no file but those that are written (`Receives`). When files
are processed once more, everything is there from the beginning that is there in the end. A file
that is written several times holds for a while what it held at that time the first time, and in the
end what it held in the end (`Retraces`). So each write has the same fate again
(`exists_writeAll_again`), each file is planned as before (`plan_again`), and after the last file
the tree is what it was.
-/

namespace LiveTemplates

namespace FileTree

variable {t t' u : FileTree} {p : Path} {q : Place}

/-! ## What processing leaves as it was -/

/-- New directories change no file. -/
theorem MakesRoom.sameFile (h : MakesRoom t t') (q : Place) : SameFile t t' q := by
  intro b
  rcases h.entry q with heq | hdirectory
  · rw [heq]
  · rw [hdirectory]
    constructor
    · intro hb
      obtain ⟨b', hb'⟩ := h.grows.file hb
      rw [hb'] at hdirectory
      cases hdirectory
    · intro hb
      cases hb

/-- A tree has grown, and no file has changed but those at some paths. -/
structure Receives (t : FileTree) (written : List Path) (t' : FileTree) : Prop where
  grows : Grows t t'
  rooted : t'.Rooted
  same : ∀ q, (∀ output ∈ written, (output.absolute t.cwd).names ≠ q) → SameFile t t' q

theorem MakesRoom.receives (h : MakesRoom t t') (ht : t.Rooted) : t.Receives [] t' :=
  ⟨h.grows, h.rooted ht, fun q _ => h.sameFile q⟩

theorem Receives.trans {written written' : List Path} (h : t.Receives written t')
    (h' : t'.Receives written' u) : t.Receives (written ++ written') u := by
  refine ⟨h.grows.trans h'.grows, h'.rooted, fun q hq => ?_⟩
  have hcwd := h.grows.cwd_eq
  refine (h.same q fun output hmem => hq output (List.mem_append_left _ hmem)).trans
    (h'.same q fun output hmem => ?_)
  rw [hcwd]
  exact hq output (List.mem_append_right _ hmem)

theorem receives_refl (ht : t.Rooted) : t.Receives [] t :=
  ⟨Grows.refl t, ht, fun _ _ _ => Iff.rfl⟩

theorem receives_write (ht : t.Rooted) {content : ByteArray} (h : t.write p content = .ok t') :
    t.Receives [p] t' := by
  obtain ⟨hgrows, hrooted⟩ := ht.write h
  obtain ⟨_, rfl⟩ := write_eq_put ht.workingDirectory h
  refine ⟨hgrows, hrooted, fun q hq b => ?_⟩
  rw [entry_put_of_ne _ (Ne.symm (hq p List.mem_cons_self))]

/-- **Outputs change no file but those that are written.** -/
theorem receives_writeAll (ht : t.Rooted) (source : Path) (content : ByteArray)
    (outputs : List Path) :
    t.Receives (t.writeAll source content outputs).2.1 (t.writeAll source content outputs).1 := by
  induction outputs generalizing t with
  | nil => exact receives_refl ht
  | cons output rest ih =>
    rw [writeAll]
    split
    · exact ih ht
    · have hroom := makesRoom_ensureDirectory t output.parent
      split
      · next heq =>
        rw [heq] at hroom
        exact hroom.receives ht
      · next t₁ heq =>
        rw [heq] at hroom
        split
        · exact hroom.receives ht
        · next t₂ hwrite =>
          have hwritten := receives_write (hroom.rooted ht) hwrite
          exact (hroom.receives ht).trans (hwritten.trans (ih hwritten.rooted))

/-! ## Writing once more -/

/--
A tree in which everything is there that is there in the end. What it holds was there at that time
when it was done first, or is there in the end.
-/
structure Retraces (final first second : FileTree) : Prop where
  rooted : second.Rooted
  grows : Grows final second
  places : second.places = final.places
  entry : ∀ q, second.entry? q = first.entry? q ∨ second.entry? q = final.entry? q

variable {final first second : FileTree}

theorem retraces_final (h : final.Rooted) (first : FileTree) : Retraces final first final :=
  ⟨h, Grows.refl final, rfl, fun _ => Or.inr rfl⟩

/-- In the end the tree is what it was. -/
theorem Retraces.eq_final (h : Retraces final final second) (hfinal : final.Rooted) :
    second = final := by
  refine hfinal.ext h.grows.workingDirectory h.places fun q => ?_
  rcases h.entry q with heq | heq
  · exact heq
  · exact heq

/-- A file that is the same in the end is the same in the meantime. -/
theorem Retraces.sameFile (h : Retraces final first second) (hsame : SameFile first final q) :
    SameFile first second q := by
  rcases h.entry q with heq | heq
  · intro b
    rw [heq]
  · intro b
    rw [heq]
    exact hsame b

/-- Directories that are made the first time are there the second time. -/
theorem Retraces.makesRoom (h : Retraces final first second) (hroom : MakesRoom first t')
    (hgrows : Grows t' final) : Retraces final t' second := by
  refine ⟨h.rooted, h.grows, h.places, fun q => ?_⟩
  rcases hroom.entry q with heq | hdirectory
  · rw [heq]
    exact h.entry q
  · have hfinal := hgrows.directory hdirectory
    exact Or.inr ((h.grows.directory hfinal).trans hfinal.symm)

/-- A file that is written both times holds the same. -/
theorem Retraces.put (h : Retraces final first second) {b content : ByteArray} (hq : q ≠ [])
    (hfile : second.entry? q = some (.file b))
    (hrooted : (second.put q (.file content)).Rooted) :
    Retraces final (first.put q (.file content)) (second.put q (.file content)) := by
  have hdirectory : second.entry? q ≠ some .directory := by simp [hfile]
  refine ⟨hrooted, h.grows.trans (grows_put hq hdirectory fun h => by cases h), ?_, fun r => ?_⟩
  · have hmem : q ∈ second.places :=
      (mem_places_iff hq).mpr (by rw [hfile, Option.isSome_some])
    rw [places_put, if_pos hmem, h.places]
  · by_cases hr : r = q
    · rw [hr, entry_put_self _ hq, entry_put_self _ hq]
      exact Or.inl rfl
    · rw [entry_put_of_ne _ hr, entry_put_of_ne _ hr]
      exact h.entry r

/-- How the failure to write one of some outputs is told of when they are written again. -/
def FailsAgain (outputs : List Path) (e e' : FileError) : Prop :=
  ∃ output ∈ outputs, e.Again output.parent e'

section WriteAll

variable {source output : Path} {content : ByteArray} {rest : List Path} {e : FileError}

theorem writeAll_of_skipped (hskip : output.sameAs source t.cwd = true) :
    t.writeAll source content (output :: rest) = t.writeAll source content rest := by
  rw [writeAll, if_pos hskip]

theorem writeAll_of_unmade (hskip : ¬ output.sameAs source t.cwd = true)
    (hmade : t.ensureDirectory output.parent = (t', some e)) :
    t.writeAll source content (output :: rest) = (t', [], some e) := by
  rw [writeAll, if_neg hskip, hmade]

theorem writeAll_of_unwritten (hskip : ¬ output.sameAs source t.cwd = true)
    (hmade : t.ensureDirectory output.parent = (t', none))
    (hwrite : t'.write output content = .error e) :
    t.writeAll source content (output :: rest) = (t', [], some e) := by
  rw [writeAll, if_neg hskip, hmade]
  dsimp only
  rw [hwrite]

theorem writeAll_of_written (hskip : ¬ output.sameAs source t.cwd = true)
    (hmade : t.ensureDirectory output.parent = (t', none))
    (hwrite : t'.write output content = .ok u) :
    t.writeAll source content (output :: rest)
      = ((u.writeAll source content rest).1, output :: (u.writeAll source content rest).2.1,
        (u.writeAll source content rest).2.2) := by
  rw [writeAll, if_neg hskip, hmade]
  dsimp only
  rw [hwrite]

end WriteAll

theorem FailsAgain.cons {outputs : List Path} {e e' : FileError} (h : FailsAgain outputs e e')
    (output : Path) : FailsAgain (output :: outputs) e e' := by
  obtain ⟨o, ho, hagain⟩ := h
  exact ⟨o, List.mem_cons_of_mem _ ho, hagain⟩

theorem FailsAgain.rel_cons {outputs : List Path} {failure failure' : Option FileError}
    (h : Option.Rel (FailsAgain outputs) failure failure') (output : Path) :
    Option.Rel (FailsAgain (output :: outputs)) failure failure' := by
  cases h with
  | none => exact .none
  | some hagain => exact .some (hagain.cons output)

/-- **What was written is written again, and what failed fails again.** -/
theorem exists_writeAll_again (hfirst : first.Rooted) (source : Path) (content : ByteArray)
    (outputs : List Path) (hgrows : Grows (first.writeAll source content outputs).1 final)
    (h : Retraces final first second) :
    ∃ second' failure, second.writeAll source content outputs
        = (second', (first.writeAll source content outputs).2.1, failure) ∧
      Retraces final (first.writeAll source content outputs).1 second' ∧
      Option.Rel (FailsAgain outputs) (first.writeAll source content outputs).2.2 failure := by
  induction outputs generalizing first second with
  | nil => exact ⟨second, none, rfl, h, .none⟩
  | cons output rest ih =>
    have hcwd : second.cwd = first.cwd := by
      have hall := (receives_writeAll hfirst source content (output :: rest)).grows.trans hgrows
      rw [h.grows.cwd_eq, hall.cwd_eq]
    by_cases hskip : output.sameAs source first.cwd = true
    · rw [writeAll_of_skipped hskip] at hgrows ⊢
      rw [writeAll_of_skipped (hcwd ▸ hskip)]
      obtain ⟨second', failure, heq, hretraces, hrel⟩ := ih hfirst hgrows h
      exact ⟨second', failure, heq, hretraces, FailsAgain.rel_cons hrel output⟩
    · have hskip' : ¬ output.sameAs source second.cwd = true := hcwd ▸ hskip
      have hroom := makesRoom_ensureDirectory first output.parent
      cases hmade : first.ensureDirectory output.parent with
      | mk first₁ failure =>
        rw [hmade] at hroom
        have hfirst₁ : first₁.Rooted := hroom.rooted hfirst
        cases failure with
        | some e =>
          rw [writeAll_of_unmade hskip hmade] at hgrows ⊢
          obtain ⟨failure', hmade', hagain⟩ :=
            ensureDirectory_again hfirst hmade (hgrows.trans h.grows)
          cases hagain with
          | some hagain =>
            exact ⟨second, _, writeAll_of_unmade hskip' hmade', h.makesRoom hroom hgrows,
              .some ⟨output, List.mem_cons_self, hagain⟩⟩
        | none =>
          obtain ⟨place, hopens⟩ := exists_opens_of_ensureDirectory hmade
          cases hwrite : first₁.write output content with
          | error e =>
            rw [writeAll_of_unwritten hskip hmade hwrite] at hgrows ⊢
            obtain ⟨failure', hmade', hagain⟩ :=
              ensureDirectory_again hfirst hmade (hgrows.trans h.grows)
            cases hagain
            have hwrite' := write_error_again hfirst₁ hopens (hgrows.trans h.grows) hwrite
            exact ⟨second, _, writeAll_of_unwritten hskip' hmade' hwrite',
              h.makesRoom hroom hgrows, .some ⟨output, List.mem_cons_self, Or.inl rfl⟩⟩
          | ok first₂ =>
            rw [writeAll_of_written hskip hmade hwrite] at hgrows ⊢
            obtain ⟨hgrows₂, hfirst₂⟩ := hfirst₁.write hwrite
            have hrest := (receives_writeAll hfirst₂ source content rest).grows.trans hgrows
            obtain ⟨failure', hmade', hagain⟩ :=
              ensureDirectory_again hfirst hmade ((hgrows₂.trans hrest).trans h.grows)
            cases hagain
            obtain ⟨rfl, hne, ⟨b, hfile⟩, hwrite'⟩ :=
              write_again hfirst₁ hopens hwrite (hrest.trans h.grows)
            have hretraces := (h.makesRoom hroom (hgrows₂.trans hrest)).put hne hfile
              (h.rooted.write hwrite').2
            obtain ⟨second', failure, heq, hretraces', hrel⟩ := ih hfirst₂ hgrows hretraces
            refine ⟨second', failure, ?_, hretraces', FailsAgain.rel_cons hrel output⟩
            rw [writeAll_of_written hskip' hmade' hwrite', heq]

end FileTree

/-- What a result is when its file is processed again: the same, or the outputs fail again. -/
def ProcessResult.Again (outputs : List Path) (r r' : ProcessResult) : Prop :=
  r' = r ∨ ∃ e e', FileTree.FailsAgain outputs e e' ∧
    r = .failed r.path .unexpected e.message ∧ r' = .failed r.path .unexpected e'.message

namespace Engine

open FileTree

variable {s : Engine} {x : ReferenceIndex} {p : Path} {t u final first second : FileTree}
  {place : Place}

/-! ## One file -/

/-- The outputs to which a text is to be written. -/
def Plan.outputs : Plan → List Path
  | .settled _ => []
  | .writing _ outputs => outputs

/-- **The same is to be done with a file** if it and what its expansion looks up are the same. -/
theorem plan_again (ht : t.Rooted) (hu : u.Rooted) (hgrows : Grows t u)
    (hfile : t.isFile p = .ok true) (hsource : SameFile t u (p.absolute t.cwd).names)
    (hincludes : ∀ text q, t.readText p = .ok text → Expansion.LooksUp t p text q →
      SameFile t u q) : s.plan p u = s.plan p t := by
  obtain ⟨q, content, hholds⟩ := isFile_iff.mp hfile
  have hplace := place_of_find ht.workingDirectory hholds.find
  have hholds' : u.Holds p q content :=
    ⟨hgrows.find ht hholds.find, (hplace ▸ hsource content).mp hholds.entry⟩
  have hread : u.readText p = t.readText p := by
    unfold readText
    rw [read_eq_ok_iff.mpr ⟨q, hholds⟩, read_eq_ok_iff.mpr ⟨q, hholds'⟩]
  unfold plan
  rw [hread]
  cases htext : t.readText p with
  | error e => rfl
  | ok text =>
    have hexpand := Expansion.expand_congr ht hu hgrows.workingDirectory
      (fun q hq => hincludes text q htext hq)
    dsimp only
    rw [hexpand]

theorem path_plan {r : ProcessResult} (h : s.plan p t = .settled r) : r.path = p := by
  unfold plan at h
  split at h
  · cases h
    rfl
  · split at h
    · cases h
      rfl
    · split at h
      · cases h
        rfl
      · split at h
        · cases h
          rfl
        · cases h
          rfl
        · split at h
          · cases h
            rfl
          · split at h
            · cases h
            · cases h
              rfl

/-- The result of a file is about the file. -/
theorem path_render (s : Engine) (p : Path) (t : FileTree) : (s.render p t).2.2.path = p := by
  unfold render
  cases hplan : s.plan p t with
  | settled r => exact path_plan hplan
  | writing text outputs =>
    dsimp only [Plan.carryOut]
    split <;> rfl

/-- Processing a file changes no file but those that are written. -/
theorem receives_render (s : Engine) (p : Path) (ht : t.Rooted) :
    t.Receives (s.render p t).2.1 (s.render p t).1 := by
  unfold render
  cases s.plan p t with
  | settled r => exact receives_refl ht
  | writing text outputs =>
    have hreceives := receives_writeAll ht p (String.ofList text).toUTF8 outputs
    dsimp only [Plan.carryOut]
    generalize t.writeAll p (String.ofList text).toUTF8 outputs = w at hreceives
    obtain ⟨t', written, _ | e⟩ := w
    · exact hreceives
    · exact hreceives

/-- **A file that is planned as before is processed as before**, up to how outputs fail. -/
theorem exists_render_again (hfirst : first.Rooted) (hplan : s.plan p second = s.plan p first)
    (hgrows : Grows (s.render p first).1 final) (h : Retraces final first second) :
    Retraces final (s.render p first).1 (s.render p second).1 ∧
      (s.render p first).2.2.Again (s.plan p first).outputs (s.render p second).2.2 := by
  unfold render at hgrows ⊢
  rw [hplan]
  generalize s.plan p first = plan at hgrows ⊢
  cases plan with
  | settled r => exact ⟨h, Or.inl rfl⟩
  | writing text outputs =>
    dsimp only [Plan.carryOut, Plan.outputs] at hgrows ⊢
    have hagain := fun (hgrows : Grows _ final) => exists_writeAll_again hfirst p
      (String.ofList text).toUTF8 outputs hgrows h
    generalize first.writeAll p (String.ofList text).toUTF8 outputs = w at hgrows hagain
    obtain ⟨first', written, failure⟩ := w
    have hgrows' : Grows first' final := by cases failure <;> exact hgrows
    obtain ⟨second', failure', heq, hretraces, hrel⟩ := hagain hgrows'
    rw [heq]
    cases hrel with
    | none => exact ⟨hretraces, Or.inl rfl⟩
    | some hfails => exact ⟨hretraces, Or.inr ⟨_, _, hfails, rfl, rfl⟩⟩

/-! ## Several files -/

/-- The outputs that are written when some files are processed. -/
def writtenIn (s : Engine) (turns : List (Path × FileTree)) : List Path :=
  turns.flatMap fun turn => (s.render turn.1 turn.2).2.1

/-- Processing files changes no file but those that are written. -/
theorem receives_renderSelected (s : Engine) (x : ReferenceIndex) (ps : List Path) (ht : t.Rooted) :
    t.Receives (s.writtenIn (s.turns x ps t)) (s.renderSelected x ps t).1 := by
  induction ps generalizing t with
  | nil => exact receives_refl ht
  | cons p ps ih =>
    rw [turns, renderSelected]
    cases t.refusal? p with
    | some e => exact receives_refl ht
    | none =>
      dsimp only
      split
      · exact receives_refl ht
      · split
        · have hreceives := receives_render s p ht
          exact hreceives.trans (ih hreceives.rooted)
        · exact ih ht

/--
What is written when some files are processed stays apart from what is read: from these files, and
from all that their expansions look up.
-/
structure Apart (s : Engine) (cwd : Path) (turns : List (Path × FileTree)) : Prop where
  sources : ∀ output ∈ s.writtenIn turns, ∀ turn ∈ turns,
    (output.absolute cwd).names ≠ (turn.1.absolute cwd).names
  includes : ∀ output ∈ s.writtenIn turns, ∀ turn ∈ turns, ∀ text q,
    turn.2.readText turn.1 = .ok text → Expansion.LooksUp turn.2 turn.1 text q →
    (output.absolute cwd).names ≠ q

theorem Apart.tail {cwd : Path} {turn : Path × FileTree} {turns : List (Path × FileTree)}
    (h : s.Apart cwd (turn :: turns)) : s.Apart cwd turns := by
  have hwritten : ∀ output ∈ s.writtenIn turns, output ∈ s.writtenIn (turn :: turns) :=
    fun output hmem => List.mem_append_right _ hmem
  exact ⟨fun output ho turn' hturn => h.sources output (hwritten output ho) turn'
      (List.mem_cons_of_mem _ hturn),
    fun output ho turn' hturn => h.includes output (hwritten output ho) turn'
      (List.mem_cons_of_mem _ hturn)⟩

/-- **A file is planned as before** while nothing changes but what stays apart from it. -/
theorem plan_of_apart {turns : List (Path × FileTree)} (ht : t.Rooted) (hu : u.Rooted)
    (hfile : t.isFile p = .ok true) (hapart : s.Apart t.cwd ((p, t) :: turns))
    (hreceives : t.Receives (s.writtenIn ((p, t) :: turns)) final) (hgrows : Grows t u)
    (hsame : ∀ q, SameFile t final q → SameFile t u q) : s.plan p u = s.plan p t := by
  refine plan_again ht hu hgrows hfile (hsame _ (hreceives.same _ fun output hmem => ?_))
    fun text q htext hq => hsame q (hreceives.same q fun output hmem => ?_)
  · exact hapart.sources output hmem _ List.mem_cons_self
  · exact hapart.includes output hmem _ List.mem_cons_self text q htext hq

/-- Two outcomes are the same failure, or lists of results in which each repeats the other. -/
def Repeats (R : ProcessResult → ProcessResult → Prop) :
    Except EngineFailure (List ProcessResult) → Except EngineFailure (List ProcessResult) → Prop
  | .error e, .error e' => e' = e
  | .ok rs, .ok rs' => List.Forall₂ R rs rs'
  | _, _ => False

theorem Repeats.cons {R : ProcessResult → ProcessResult → Prop} {r r' : ProcessResult}
    {outcome outcome' : Except EngineFailure (List ProcessResult)} (hr : R r r')
    (h : Repeats R outcome outcome') :
    Repeats R (outcome.map (r :: ·)) (outcome'.map (r' :: ·)) := by
  cases outcome with
  | error e =>
    cases outcome' with
    | error e' => exact h
    | ok rs' => exact h
  | ok rs =>
    cases outcome' with
    | error e' => exact h
    | ok rs' => exact List.Forall₂.cons hr h

/-- Why the processing of files stops at a path, if it does. -/
def stopsAt? (s : Engine) (x : ReferenceIndex) (p : Path) (t : FileTree) : Option EngineFailure :=
  match t.refusal? p with
  | some e => some (.file e)
  | none =>
    if meetsMissingExtension { s with tree := t } x p then some (.missing .extension) else none

/-- Whether a path is a file decides whether processing stops there. -/
theorem stopsAt_of_isFile (h : u.isFile p = t.isFile p) : s.stopsAt? x p u = s.stopsAt? x p t := by
  unfold stopsAt? meetsMissingExtension
  rw [ReferenceIndex.refusal_of_isFile h]
  dsimp only
  rw [ReferenceIndex.admits_of_isFile h]

theorem stopsAt_eq_none_iff : s.stopsAt? x p t = none ↔
    t.refusal? p = none ∧ meetsMissingExtension { s with tree := t } x p = false := by
  rw [stopsAt?]
  cases t.refusal? p <;> simp

section Selected

variable (ps : List Path) {e : EngineFailure}

theorem renderSelected_of_stops (h : s.stopsAt? x p t = some e) :
    s.renderSelected x (p :: ps) t = (t, .error e) ∧ s.turns x (p :: ps) t = [] := by
  rw [stopsAt?] at h
  rw [renderSelected, turns]
  cases hrefusal : t.refusal? p with
  | some e' =>
    rw [hrefusal] at h
    cases h
    exact ⟨rfl, rfl⟩
  | none =>
    rw [hrefusal] at h
    dsimp only at h ⊢
    by_cases hmissing : meetsMissingExtension { s with tree := t } x p = true
    · rw [if_pos hmissing] at h ⊢
      rw [if_pos hmissing]
      cases h
      exact ⟨rfl, rfl⟩
    · rw [if_neg hmissing] at h
      cases h

theorem renderSelected_of_selects (h : s.stopsAt? x p t = none) (hselects : x.selects t p = true) :
    s.renderSelected x (p :: ps) t
        = ((s.renderSelected x ps (s.render p t).1).1,
          (s.renderSelected x ps (s.render p t).1).2.map ((s.render p t).2.2 :: ·)) ∧
      s.turns x (p :: ps) t = (p, t) :: s.turns x ps (s.render p t).1 := by
  obtain ⟨hrefusal, hmissing⟩ := stopsAt_eq_none_iff.mp h
  rw [renderSelected, turns, hrefusal]
  dsimp only
  rw [hmissing, hselects]
  exact ⟨rfl, rfl⟩

theorem renderSelected_of_passes (h : s.stopsAt? x p t = none) (hselects : x.selects t p = false) :
    s.renderSelected x (p :: ps) t = s.renderSelected x ps t ∧
      s.turns x (p :: ps) t = s.turns x ps t := by
  obtain ⟨hrefusal, hmissing⟩ := stopsAt_eq_none_iff.mp h
  rw [renderSelected, turns, hrefusal]
  dsimp only
  rw [hmissing, hselects]
  exact ⟨rfl, rfl⟩

end Selected

/-- A path that is there in the end, where it is passed over. -/
structure PassesOver (s : Engine) (x : ReferenceIndex) (place : Place) (final : FileTree)
    (p : Path) : Prop where
  below : p ∈ final.below x.root place
  stops : s.stopsAt? x p final = none
  selects : x.selects final p = false

/--
**Some files are processed again as before.** The paths at which their processing comes by the
second time are those of the first time, and others that are passed over.
-/
theorem renderSelected_again (keep : Path → Bool) (ps : List Path) (hfirst : first.Rooted)
    (hroot : first.find x.root = .ok place)
    (hkeep : ∀ p ∈ ps, keep p = true → p ∈ first.below x.root place)
    (hskip : ∀ p ∈ ps, keep p = false → s.PassesOver x place final p)
    (hfinal : (s.renderSelected x (ps.filter keep) first).1 = final)
    (hapart : s.Apart first.cwd (s.turns x (ps.filter keep) first))
    (h : Retraces final first second) :
    (s.renderSelected x ps second).1 = final ∧
      Repeats (fun r r' => r.Again (s.plan r.path final).outputs r')
        (s.renderSelected x (ps.filter keep) first).2 (s.renderSelected x ps second).2 := by
  have hreceives := receives_renderSelected s x (ps.filter keep) hfirst
  rw [hfinal] at hreceives
  have hfinalRooted := hreceives.rooted
  have hgrows := hreceives.grows.trans h.grows
  induction ps generalizing first second with
  | nil =>
    obtain rfl : first = final := hfinal
    exact ⟨h.eq_final hfirst, .nil⟩
  | cons p ps ih =>
    have hkeep' := fun q hq => hkeep q (List.mem_cons_of_mem _ hq)
    have hskip' := fun q hq => hskip q (List.mem_cons_of_mem _ hq)
    cases hp : keep p with
    | false =>
      -- what is new is passed over
      rw [List.filter_cons_of_neg (by simp [hp])] at hfinal hapart hreceives ⊢
      obtain ⟨hbelow, hstops, hselects⟩ := hskip p List.mem_cons_self hp
      have hfile := isFile_of_below hfinalRooted h.rooted h.grows
        (hreceives.grows.find hfirst hroot) hbelow
      rw [(renderSelected_of_passes ps ((stopsAt_of_isFile hfile).trans hstops)
        ((ReferenceIndex.selects_of_isFile hfile).trans hselects)).1]
      exact ih hfirst hroot hkeep' hskip' hfinal hapart h hreceives hgrows
    | true =>
      rw [List.filter_cons_of_pos hp] at hfinal hapart hreceives ⊢
      have hfile := isFile_of_below hfirst h.rooted hgrows hroot (hkeep p List.mem_cons_self hp)
      have hstops : s.stopsAt? x p second = s.stopsAt? x p first := stopsAt_of_isFile hfile
      have hselects : x.selects second p = x.selects first p :=
        ReferenceIndex.selects_of_isFile hfile
      cases hstop : s.stopsAt? x p first with
      | some e =>
        rw [(renderSelected_of_stops (ps.filter keep) hstop).1] at hfinal ⊢
        rw [(renderSelected_of_stops ps (hstops.trans hstop)).1]
        obtain rfl : first = final := hfinal
        exact ⟨h.eq_final hfirst, rfl⟩
      | none =>
        cases hselect : x.selects first p with
        | false =>
          obtain ⟨hrendered, hturns⟩ :=
            renderSelected_of_passes (ps.filter keep) hstop hselect
          rw [hrendered] at hfinal ⊢
          rw [hturns] at hapart hreceives
          rw [(renderSelected_of_passes ps (hstops.trans hstop) (hselects.trans hselect)).1]
          exact ih hfirst hroot hkeep' hskip' hfinal hapart h hreceives hgrows
        | true =>
          obtain ⟨hrendered, hturns⟩ :=
            renderSelected_of_selects (ps.filter keep) hstop hselect
          obtain ⟨hrendered', _⟩ :=
            renderSelected_of_selects ps (hstops.trans hstop) (hselects.trans hselect)
          rw [hturns] at hapart hreceives
          rw [hrendered] at hfinal ⊢
          rw [hrendered']
          dsimp only at hfinal ⊢
          have hisFile : first.isFile p = .ok true := (ReferenceIndex.selects_iff.mp hselect).1
          have hplan : s.plan p second = s.plan p first :=
            plan_of_apart hfirst h.rooted hisFile hapart hreceives hgrows fun _ => h.sameFile
          have hplanned : s.plan p final = s.plan p first :=
            plan_of_apart hfirst hfinalRooted hisFile hapart hreceives hreceives.grows fun _ => id
          have hreceived := receives_render s p hfirst
          have hrest := receives_renderSelected s x (ps.filter keep) hreceived.rooted
          rw [hfinal] at hrest
          obtain ⟨hretraces, hagain⟩ := exists_render_again hfirst hplan hrest.grows h
          obtain ⟨hend, hresults⟩ := ih hreceived.rooted (hreceived.grows.find hfirst hroot)
            (fun q hq hkept => hreceived.grows.mem_below (hkeep' q hq hkept)) hskip' hfinal
            (hreceived.grows.cwd_eq ▸ hapart.tail) hretraces hrest
            (hrest.grows.trans hretraces.grows)
          refine ⟨hend, hresults.cons ?_⟩
          rw [path_render, hplanned]
          exact hagain

end Engine

end LiveTemplates
