import Mathlib.Logic.Relation
import LiveTemplates.Proofs.Expansion.Simulation

/-!
# Circular includes

Files include each other (`Includes`): from each include that stands in a file an edge leads to the
file that its argument names. Files are told apart by where they stand in the tree, whatever the
arguments look like. All arguments are seen from the directory of the file that is expanded.

An expansion keeps the arguments it has met, and only those; on a cycle each file may be named by a
new argument on every turn. What ends it is that each include is read to its end before the reading
goes on: a text that could be read has includes of a finite depth (`grounded_of_reading`), and a
cycle has none. So no expansion succeeds from which a cycle can be reached
(`exists_error_of_cycle`).
-/

namespace LiveTemplates

open Relation

/-- The text of the file at a place, if it has one. -/
def FileTree.textAt (t : FileTree) (place : Place) : Option (List Char) :=
  (t.entry? place).bind Entry.text?

/-- What can be read by a path is the text at the place to which the path leads. -/
theorem FileTree.readText_eq_ok_iff {t : FileTree} {p : Path} {place : Place} {s : List Char}
    (hplace : t.find p = .ok place) : t.readText p = .ok s ↔ t.textAt place = some s := by
  simp only [readText, read, hplace, textAt]
  cases t.entry? place with
  | none => simp
  | some entry =>
    cases entry with
    | directory => simp [Entry.text?]
    | file content =>
      simp only [Option.bind_some, Entry.text?]
      cases Text.decodeUtf8 content with
      | error flaw => simp
      | ok text => simp

/-- An include brings in the text that stands where its argument leads. -/
theorem FileTree.includedText_of_textAt {t : FileTree} {source : Path} {argument : List Char}
    {place : Place} {s : List Char}
    (hplace : t.find (source.resolve (String.ofList argument) t.cwd) = .ok place)
    (h : t.textAt place = some s) :
    ∃ target, t.includedText source argument = .ok (some (target, s)) := by
  have hread := (readText_eq_ok_iff hplace).mpr h
  have hfile : t.isFile (source.resolve (String.ofList argument) t.cwd) = .ok true := by
    rw [textAt, Option.bind_eq_some_iff] at h
    obtain ⟨entry, hentry, htext⟩ := h
    cases entry with
    | directory => simp [Entry.text?] at htext
    | file content =>
      rw [isFile, hasEntry, hplace]
      simp [hentry]
  refine ⟨source.resolve (String.ofList argument) t.cwd, ?_⟩
  unfold includedText includedFile?
  dsimp only
  rw [hfile]
  dsimp only
  rw [hread]

namespace Expansion

variable {t : FileTree} {k : IncludeKeys t} {source : Path} {text : List Char}

/-! ## Texts and what they bring in -/

/-- An include that stands in a text brings in another text. -/
def BringsIn (t : FileTree) (source : Path) (s content : List Char) : Prop :=
  ∃ tag ∈ Tag.scan s, tag.kind = some .includeFile ∧
    ∃ target, t.includedText source tag.argument = .ok (some (target, content))

/-- Only finitely deep, texts are brought in. -/
def Grounded (t : FileTree) (source : Path) (s : List Char) : Prop :=
  Acc (fun content s => BringsIn t source s content) s

/-- What a text brings in comes from its first tag or from what follows it. -/
theorem bringsIn_of_first? {s before content : List Char} {m : Tag.Sighting}
    (h : Tag.first? s = some (before, m)) (hb : BringsIn t source s content) :
    ((m.toTag before.length).kind = some .includeFile ∧
      ∃ target, t.includedText source (m.toTag before.length).argument
        = .ok (some (target, content))) ∨
      BringsIn t source m.rest content := by
  obtain ⟨tag, htag, hkind, hincluded⟩ := hb
  rw [Tag.scan_of_first? h] at htag
  rcases List.mem_cons.mp htag with rfl | htag
  · exact Or.inl ⟨hkind, hincluded⟩
  · obtain ⟨tag', htag', rfl⟩ := List.mem_map.mp htag
    exact Or.inr ⟨tag', htag', hkind, hincluded⟩

theorem not_bringsIn_of_none {s content : List Char} (h : Tag.first? s = none) :
    ¬ BringsIn t source s content := by
  rintro ⟨tag, htag, -⟩
  rw [Tag.scan, Tag.scanFrom_eq, h] at htag
  cases htag

/-- A tag after which the reading goes on in the same text is no include. -/
theorem kind_ne_of_readTag_onward {e e' : Expansion} {tag : Tag}
    (h : readTag t source e tag = .ok (.onward e')) : tag.kind ≠ some .includeFile := by
  intro hkind
  unfold readTag at h
  rw [hkind] at h
  dsimp only at h
  split at h
  · cases h
  · split at h
    · cases h
    · split at h <;> cases h

/-- **A text that can be read brings in texts of a finite depth.** -/
theorem grounded_of_reading (s : List Char) (e : Expansion) (hkeys : keysOf s ⊆ k.keys)
    {e' : Expansion} (h : reading k source s e hkeys = .ok e') : Grounded t source s := by
  -- The recursion is that of `reading`: into what a tag brings in, then on to what follows the tag.
  cases hfirst : Tag.first? s with
  | none => exact ⟨_, fun content hb => absurd hb (not_bringsIn_of_none hfirst)⟩
  | some first =>
    obtain ⟨before, m⟩ := first
    have hkeys' : keysOf m.rest ⊆ k.keys := fun _ hkey =>
      hkeys (keysOf_rest_subset hfirst hkey)
    cases hread : readTag t source { e with text := e.text ++ before } (m.toTag before.length) with
    | error err =>
      rw [reading_of_refused hfirst hread] at h
      cases h
    | ok r =>
      cases r with
      | onward e₁ =>
        rw [reading_of_onward hfirst hread] at h
        have hrest : Grounded t source m.rest := grounded_of_reading m.rest e₁ hkeys' h
        refine ⟨_, fun content hb => ?_⟩
        rcases bringsIn_of_first? hfirst hb with ⟨hkind, _⟩ | hb
        · exact absurd hkind (kind_ne_of_readTag_onward hread)
        · exact hrest.inv hb
      | into e₁ content =>
        obtain ⟨_, _, target, hincluded⟩ := chain_of_readTag_into hread
        have hcontent : keysOf content ⊆ k.keys :=
          k.complete _ content (exists_readText_of_includedText hincluded)
        rw [reading_of_into hfirst hread hkeys hcontent] at h
        cases hr : reading k source content e₁ hcontent with
        | error err =>
          rw [hr] at h
          cases h
        | ok r =>
          rw [hr] at h
          have hbrought : Grounded t source content := grounded_of_reading content e₁ hcontent hr
          have hrest : Grounded t source m.rest := grounded_of_reading m.rest r hkeys' h
          refine ⟨_, fun content' hb => ?_⟩
          rcases bringsIn_of_first? hfirst hb with ⟨_, target', hincluded'⟩ | hb
          · obtain ⟨_, rfl⟩ : target = target' ∧ content = content' := by
              simpa [hincluded] using hincluded'
            exact hbrought
          · exact hrest.inv hb
termination_by (unused k.keys e.chain, s.length)
-- What is brought in may be long, but its key is used up; what follows a tag is shorter.
decreasing_by
  · rw [chain_of_readTag_onward hread]
    exact Prod.Lex.right _ (Tag.length_rest_lt_of_first? hfirst)
  · have hlt := unused_lt_of_readTag_into hread (hkeys (chainKey_mem_keysOf hfirst))
    exact Prod.Lex.left _ _ hlt
  · have hlt := unused_lt_of_readTag_into hread (hkeys (chainKey_mem_keysOf hfirst))
    exact Prod.Lex.left _ _
      (Nat.lt_of_le_of_lt (unused_le_of_suffix (suffix_of_reading hr)) hlt)

/-- A text whose expansion succeeds can be read, so it is grounded. -/
theorem grounded_of_expand {e : Expansion} (hclean : AllClean t source text)
    (h : expand t source text = .ok e) : Grounded t source text := by
  have hkeys : keysOf text ⊆ (IncludeKeys.ofText t text).keys := fun _ hkey =>
    List.mem_flatMap.mpr ⟨text, List.mem_cons_self, hkey⟩
  obtain ⟨hrun, _⟩ := @run_reading t (.ofText t text) source text []
    ⟨[], [], startsPartial text, []⟩ Tag.inert_nil hclean hkeys
  rw [expand, run_first] at h
  simp only [List.nil_append, List.append_nil] at hrun
  rw [initial, hrun] at h
  cases hr : reading (IncludeKeys.ofText t text) source text ⟨[], [], startsPartial text, []⟩
      hkeys with
  | error err =>
    rw [hr] at h
    cases h
  | ok e' => exact grounded_of_reading text _ hkeys hr

/-! ## The files that include each other -/

/-- The places to which the includes lead that stand in the file at a place. -/
def includedPlaces (t : FileTree) (source : Path) (file : Place) : List Place :=
  ((t.textAt file).elim [] Tag.scan).filterMap fun tag =>
    if tag.kind = some .includeFile then
      (t.find (source.resolve (String.ofList tag.argument) t.cwd)).toOption
    else none

/-- An include in the file at one place leads to another place. -/
def Includes (t : FileTree) (source : Path) (file target : Place) : Prop :=
  target ∈ includedPlaces t source file

theorem Includes.exists_tag {file target : Place} (h : Includes t source file target) :
    ∃ s, t.textAt file = some s ∧ ∃ tag ∈ Tag.scan s, tag.kind = some .includeFile ∧
      t.find (source.resolve (String.ofList tag.argument) t.cwd) = .ok target := by
  obtain ⟨tag, htag, hfound⟩ := List.mem_filterMap.mp h
  cases hs : t.textAt file with
  | none => simp [hs] at htag
  | some s =>
    rw [hs] at htag
    split at hfound
    · next hkind =>
      refine ⟨s, rfl, tag, htag, hkind, ?_⟩
      cases hfind : t.find (source.resolve (String.ofList tag.argument) t.cwd) with
      | error k => simp [hfind, Except.toOption] at hfound
      | ok place => simpa [hfind, Except.toOption] using hfound
    · cases hfound

/-- Files include others only finitely deep if their texts bring in others only finitely deep. -/
theorem Grounded.acc {s : List Char} (h : Grounded t source s) {file : Place}
    (hfile : t.textAt file = some s) :
    Acc (fun target file => Includes t source file target) file := by
  induction h generalizing file with
  | intro s _ ih =>
    refine ⟨_, fun target htarget => ?_⟩
    obtain ⟨s', hs', tag, htag, hkind, hfind⟩ := htarget.exists_tag
    obtain rfl : s' = s := by simpa [hs'] using hfile
    cases htext : t.textAt target with
    | none =>
      -- nothing is included by what has no text
      refine ⟨_, fun _ h => ?_⟩
      obtain ⟨_, hsome, _⟩ := Includes.exists_tag h
      rw [htext] at hsome
      cases hsome
    | some content =>
      have hincluded := FileTree.includedText_of_textAt hfind htext
      exact ih content ⟨tag, htag, hkind, hincluded⟩ htext

/-- What is accessible is on no cycle. -/
theorem not_of_acc {α : Type} {r : α → α → Prop} {x : α} (h : Acc r x) : ¬ r x x := by
  induction h with
  | intro x _ ih => exact fun hx => ih x hx hx

/-- What leads only finitely deep leads to no cycle. -/
theorem not_transGen_of_acc {α : Type} {r : α → α → Prop} {x y : α}
    (h : Acc (fun b a => r a b) x) (hreach : ReflTransGen r x y) : ¬ TransGen r y y := by
  have hy : Acc (fun b a => r a b) y := by
    induction hreach with
    | refl => exact h
    | tail _ hstep ih => exact ih.inv hstep
  -- A cycle is a step of the transitive closure from a node to itself.
  intro hcycle
  exact not_of_acc (acc_transGen_iff.mpr hy) (transGen_swap.mpr hcycle)

/--
**An expansion of clean texts fails if its file leads to a cycle of includes**, of whatever length,
through the file itself or not, and whichever arguments name the files on it. In a tree of clean
files all texts are clean (`AllClean.of_texts`).
-/
theorem exists_error_of_cycle {place file : Place} (hclean : AllClean t source text)
    (hplace : t.find source = .ok place) (htext : t.readText source = .ok text)
    (hreach : ReflTransGen (Includes t source) place file)
    (hcycle : TransGen (Includes t source) file file) :
    ∃ err, expand t source text = .error err := by
  cases h : expand t source text with
  | error err => exact ⟨err, rfl⟩
  | ok e =>
    have hgrounded := grounded_of_expand hclean h
    have hacc := hgrounded.acc ((FileTree.readText_eq_ok_iff hplace).mp htext)
    exact absurd hcycle (not_transGen_of_acc hacc hreach)

/-- A tree with two files that include each other under a new name on the second turn. -/
def turningTree : FileTree where
  entries := [(["w"], .directory), (["w", "page.t"], .file "1<!--@ include a.t -->".toUTF8),
    (["w", "a.t"], .file "2<!--@ include ././b.t -->".toUTF8),
    (["w", "b.t"], .file "3<!--@ include ../w/a.t -->".toUTF8)]
  workingDirectory := ["w"]

/-- A text whose file is not on the cycle that it leads to. -/
def turningText : List Char := "1<!--@ include a.t -->".toList

/-- The page leads to a cycle that it is not on, so its expansion fails. -/
theorem exists_error_turningText :
    (AllClean turningTree (.ofString "/w/page.t") turningText ∧
      turningTree.find (.ofString "/w/page.t") = .ok ["w", "page.t"] ∧
      turningTree.readText (.ofString "/w/page.t") = .ok turningText ∧
      ReflTransGen (Includes turningTree (.ofString "/w/page.t")) ["w", "page.t"] ["w", "a.t"] ∧
      TransGen (Includes turningTree (.ofString "/w/page.t")) ["w", "a.t"] ["w", "a.t"]) ∧
    ∃ err, expand turningTree (.ofString "/w/page.t") turningText = .error err := by
  have hclean : AllClean turningTree (.ofString "/w/page.t") turningText := by
    refine AllClean.of_texts fun s hs => Tag.clean_of_notMem ?_
    revert s
    decide +kernel
  have hplace : turningTree.find (.ofString "/w/page.t") = .ok ["w", "page.t"] := by decide +kernel
  have htext : turningTree.readText (.ofString "/w/page.t") = .ok turningText := by decide +kernel
  have hpage : Includes turningTree (.ofString "/w/page.t") ["w", "page.t"] ["w", "a.t"] := by
    unfold Includes
    decide +kernel
  have hfirst : Includes turningTree (.ofString "/w/page.t") ["w", "a.t"] ["w", "b.t"] := by
    unfold Includes
    decide +kernel
  have hsecond : Includes turningTree (.ofString "/w/page.t") ["w", "b.t"] ["w", "a.t"] := by
    unfold Includes
    decide +kernel
  have hcycle := (TransGen.single hfirst).tail hsecond
  exact ⟨⟨hclean, hplace, htext, .single hpage, hcycle⟩,
    exists_error_of_cycle hclean hplace htext (.single hpage) hcycle⟩

end Expansion

end LiveTemplates
