import LiveTemplates.Expansion
import LiveTemplates.Proofs.Tag.Clean

/-!
# The structural reading of a text

What directives mean, without replacing anything and searching again: the tags of a text are taken
in their order, once. What stands between them is copied. An include is the reading of its file's
text at that place, and whatever is included there is included once and for all.

A text can be read in this way whether or not it is clean.

## Termination

Every include that is read uses up a key, and the keys that can come up are those of the tags in the
texts of the tree, with those in the first text (`IncludeKeys`). A reading never gives a key back,
so its result says that it holds all keys of its start.
-/

namespace LiveTemplates

/-- The text of a file, if it has one. -/
def Entry.text? : Entry → Option (List Char)
  | .directory => none
  | .file content =>
    match Text.decodeUtf8 content with
    | .ok s => some (Text.unifyLineEnds s.toList)
    | .error _ => none

/-- The texts of all files of a tree. -/
def FileTree.texts (t : FileTree) : List (List Char) :=
  t.entries.filterMap fun e => e.2.text?

/-- What is read from a file is one of the texts. -/
theorem FileTree.mem_texts {t : FileTree} {p : Path} {text : List Char}
    (h : t.readText p = .ok text) : text ∈ t.texts := by
  obtain ⟨place, content, s, hmem, hs, rfl⟩ := exists_mem_of_readText h
  exact List.mem_filterMap.mpr ⟨_, hmem, by simp only [Entry.text?, hs]⟩

/-- The tag with its first character at a place. -/
def Tag.placed (tag : Tag) (place : Nat) : Tag :=
  { tag with start := place, stop := place + tag.raw.length }

namespace Expansion

/-- The keys of the includes that stand in a text. -/
def keysOf (text : List Char) : List (List Char) :=
  (Tag.scan text).map fun tag => chainKey tag.argument

/-- Finitely many keys, with those of all includes in files among them. -/
structure IncludeKeys (t : FileTree) where
  keys : List (List Char)
  complete : ∀ p text, t.readText p = .ok text → keysOf text ⊆ keys

/-- The keys of a text and of all files. -/
def IncludeKeys.ofText (t : FileTree) (text : List Char) : IncludeKeys t where
  keys := (text :: t.texts).flatMap keysOf
  complete _ _ h _ hkey :=
    List.mem_flatMap.mpr ⟨_, List.mem_cons_of_mem _ (FileTree.mem_texts h), hkey⟩

/-- The keys of the parts of a text are those of its tags. -/
theorem mem_keysOf_of_mem_parts {text : List Char} :
    ∀ part ∈ Tag.parts text, chainKey part.2.argument ∈ keysOf text := by
  have hmem : ∀ (tags : List Tag) (place : Nat), ∀ part ∈ Tag.partsFrom place text tags,
      part.2 ∈ tags := by
    intro tags
    induction tags with
    | nil => intro place part h; simp [Tag.partsFrom] at h
    | cons tag tags ih =>
      intro place part h
      rcases List.mem_cons.mp h with rfl | h
      · exact List.mem_cons_self
      · exact List.mem_cons_of_mem _ (ih _ part h)
  intro part h
  exact List.mem_map.mpr ⟨part.2, hmem _ _ part h, rfl⟩

/-- What is to be read after a tag. -/
inductive Reading
  /-- The tags that follow. -/
  | onward (e : Expansion)
  /-- The text of a file, and then the tags that follow. -/
  | into (e : Expansion) (content : List Char)

/--
What a tag means, where `e` is what was read before. The place of a tag that is refused is that in
the expanded text.
-/
def readTag (t : FileTree) (source : Path) (e : Expansion) (tag : Tag) :
    Except ExpansionError Reading :=
  let refused := fun kind => .error (.tag ⟨kind, tag.placed e.text.length⟩)
  match tag.kind with
  | none => refused .unknownTag
  | some .partialFile => .ok (.onward e)
  | some .outputFile =>
    if tag.argument = [] then refused .malformedTag
    else
      let path := source.resolve (String.ofList tag.argument) t.cwd
      .ok (.onward { e with outputPaths := e.outputPaths ++ [path] })
  | some .includeFile =>
    let key := chainKey tag.argument
    if tag.argument = [] then refused .malformedTag
    else if e.chain.contains key then refused .circularInclude
    else
      match t.includedText source tag.argument with
      | .error err => .error (.unreadable err)
      | .ok none => refused .includeNotFound
      | .ok (some (_, content)) => .ok (.into { e with chain := key :: e.chain } content)

/-- What a tag means is the same wherever it stands. -/
theorem readTag_moved (t : FileTree) (source : Path) (e : Expansion) (n : Nat) (tag : Tag) :
    readTag t source e (Tag.moved n tag) = readTag t source e tag := by
  have hkind : (Tag.moved n tag).kind = tag.kind := rfl
  have hargument : (Tag.moved n tag).argument = tag.argument := rfl
  have hplaced : (Tag.moved n tag).placed e.text.length = tag.placed e.text.length := rfl
  unfold readTag
  rw [hkind, hargument, hplaced]

/-- A tag that is not an include leaves the chain as it is. -/
theorem chain_of_readTag_onward {t : FileTree} {source : Path} {e e' : Expansion} {tag : Tag}
    (h : readTag t source e tag = .ok (.onward e')) : e'.chain = e.chain := by
  unfold readTag at h
  split at h
  · simp at h
  · cases h; rfl
  · split at h
    · simp at h
    · cases h; rfl
  · dsimp only at h
    split at h
    · simp at h
    · split at h
      · simp at h
      · split at h <;> simp at h

/-- An include uses its key for the first time and brings in what a file holds. -/
theorem chain_of_readTag_into {t : FileTree} {source : Path} {e e' : Expansion} {tag : Tag}
    {content : List Char} (h : readTag t source e tag = .ok (.into e' content)) :
    e'.chain = chainKey tag.argument :: e.chain ∧ chainKey tag.argument ∉ e.chain ∧
      ∃ target, t.includedText source tag.argument = .ok (some (target, content)) := by
  unfold readTag at h
  split at h
  · simp at h
  · simp at h
  · split at h <;> simp at h
  · dsimp only at h
    split at h
    · simp at h
    · split at h
      · simp at h
      · next hnew =>
        split at h
        · simp at h
        · simp at h
        · next target content' hincluded =>
          cases h
          exact ⟨rfl, by simpa using hnew, target, hincluded⟩

/-- Keys that were used later leave no more unused. -/
theorem unused_le_of_suffix {keys used used' : List (List Char)} (h : used <:+ used') :
    unused keys used' ≤ unused keys used := by
  obtain ⟨new, rfl⟩ := h
  induction new with
  | nil => exact Nat.le_refl _
  | cons key new ih => exact Nat.le_trans (unused_cons_le keys (new ++ used) key) ih

/-- An include that is read leaves fewer keys unused. -/
theorem unused_lt_of_readTag_into {t : FileTree} {source : Path} {e e' : Expansion} {tag : Tag}
    {content : List Char} {keys : List (List Char)}
    (h : readTag t source e tag = .ok (.into e' content)) (hkey : chainKey tag.argument ∈ keys) :
    unused keys e'.chain < unused keys e.chain := by
  obtain ⟨hchain, hnew, _⟩ := chain_of_readTag_into h
  rw [hchain]
  exact unused_cons_lt hkey hnew

/-- An expansion that has used all the keys that another one had used. -/
abbrev Later (e : Expansion) :=
  { e' : Expansion // e.chain <:+ e'.chain }

/-- What is later than something later is later. -/
def Later.widen {e e' : Expansion} (h : e.chain <:+ e'.chain) (r : Later e') : Later e :=
  ⟨r.1, h.trans r.2⟩

/-- Widening changes nothing about the expansion itself. -/
theorem Later.map_val_widen {e e' : Expansion} (h : e.chain <:+ e'.chain)
    (r : Except ExpansionError (Later e')) :
    (r.map (Later.widen h)).map Subtype.val = r.map Subtype.val := by
  cases r <;> rfl

/-- Reads tags with the gaps before them and `last` after them, where `e` was read before. -/
def walk {t : FileTree} (k : IncludeKeys t) (source : Path) (last : List Char) (e : Expansion)
    (parts : List (List Char × Tag)) (hparts : ∀ part ∈ parts, chainKey part.2.argument ∈ k.keys) :
    Except ExpansionError (Later e) :=
  match parts with
  | [] => .ok ⟨{ e with text := e.text ++ last }, List.suffix_rfl⟩
  | (gap, tag) :: rest =>
    have hrest := fun part h => hparts part (List.mem_cons_of_mem _ h)
    match h : readTag t source { e with text := e.text ++ gap } tag with
    | .error err => .error err
    | .ok (.onward e') =>
      (walk k source last e' rest hrest).map
        (Later.widen ⟨[], (chain_of_readTag_onward h).symm⟩)
    | .ok (.into e' content) =>
      have hcontent := fun part hp =>
        let ⟨_, _, _, hincluded⟩ := chain_of_readTag_into h
        k.complete _ content (exists_readText_of_includedText hincluded)
          (mem_keysOf_of_mem_parts part hp)
      have hchain : e.chain <:+ e'.chain := by
        rw [(chain_of_readTag_into h).1]; exact List.suffix_cons _ _
      match walk k source (Tag.lastGap content) e' (Tag.parts content) hcontent with
      | .error err => .error err
      | .ok r => (walk k source last r.1 rest hrest).map (Later.widen (hchain.trans r.2))
termination_by (unused k.keys e.chain, parts.length)
decreasing_by
  · rw [chain_of_readTag_onward h]
    exact Prod.Lex.right _ (by simp)
  · have hlt := unused_lt_of_readTag_into h (hparts _ List.mem_cons_self)
    exact Prod.Lex.left _ _ hlt
  · -- the text of the file may have used more keys, but it gave none back
    have hlt := unused_lt_of_readTag_into h (hparts _ List.mem_cons_self)
    exact Prod.Lex.left _ _ (Nat.lt_of_le_of_lt (unused_le_of_suffix r.2) hlt)

/-! ## Equations -/

section Equations

variable {t : FileTree} {k : IncludeKeys t} {source : Path} {last : List Char} {e e' : Expansion}
  {gap : List Char} {tag : Tag} {rest : List (List Char × Tag)}
  {hparts : ∀ part ∈ (gap, tag) :: rest, chainKey part.2.argument ∈ k.keys}

/-- A tag that is refused ends the reading. -/
theorem walk_cons_refused {err : ExpansionError}
    (h : readTag t source { e with text := e.text ++ gap } tag = .error err) :
    walk k source last e ((gap, tag) :: rest) hparts = .error err := by
  rw [walk]
  split
  · next err' h' => rw [h] at h'; cases h'; rfl
  · next h' => rw [h] at h'; cases h'
  · next h' => rw [h] at h'; cases h'

/-- After a tag that is no include the tags that follow are read. -/
theorem walk_cons_onward
    (h : readTag t source { e with text := e.text ++ gap } tag = .ok (.onward e')) :
    (walk k source last e ((gap, tag) :: rest) hparts).map Subtype.val
      = (walk k source last e' rest fun part hp => hparts part (List.mem_cons_of_mem _ hp)).map
          Subtype.val := by
  rw [walk]
  split
  · next h' => rw [h] at h'; cases h'
  · next h' => rw [h] at h'; cases h'; exact Later.map_val_widen _ _
  · next h' => rw [h] at h'; cases h'

/-- An include is the reading of its file's text, and then the tags that follow are read. -/
theorem walk_cons_into {content : List Char}
    (h : readTag t source { e with text := e.text ++ gap } tag = .ok (.into e' content))
    (hcontent : ∀ part ∈ Tag.parts content, chainKey part.2.argument ∈ k.keys) :
    (walk k source last e ((gap, tag) :: rest) hparts).map Subtype.val
      = (walk k source (Tag.lastGap content) e' (Tag.parts content) hcontent).bind fun r =>
          (walk k source last r.1 rest fun part hp =>
            hparts part (List.mem_cons_of_mem _ hp)).map Subtype.val := by
  rw [walk]
  split
  · next h' => rw [h] at h'; cases h'
  · next h' => rw [h] at h'; cases h'
  · next h' =>
    rw [h] at h'
    cases h'
    dsimp only
    split
    · next hw => rw [hw]; rfl
    · next hw => rw [hw]; exact Later.map_val_widen _ _

end Equations

/-- Where a tag stands in its own text has no part in the reading. -/
theorem walk_moved {t : FileTree} {k : IncludeKeys t} {source : Path} {last : List Char} (n : Nat)
    (e : Expansion) (parts : List (List Char × Tag))
    (hparts : ∀ part ∈ parts, chainKey part.2.argument ∈ k.keys)
    (hmoved : ∀ part ∈ parts.map fun (gap, tag) => (gap, Tag.moved n tag),
      chainKey part.2.argument ∈ k.keys) :
    (walk k source last e (parts.map fun (gap, tag) => (gap, Tag.moved n tag)) hmoved).map
        Subtype.val
      = (walk k source last e parts hparts).map Subtype.val := by
  induction parts generalizing e with
  | nil => rfl
  | cons part parts ih =>
    obtain ⟨gap, tag⟩ := part
    have hsame := readTag_moved t source { e with text := e.text ++ gap } n tag
    have hrest := fun part hp => hparts part (List.mem_cons_of_mem _ hp)
    cases h : readTag t source { e with text := e.text ++ gap } tag with
    | error err =>
      rw [walk_cons_refused h]
      simp only [List.map_cons]
      rw [walk_cons_refused (hsame.trans h)]
    | ok r =>
      cases r with
      | onward e' =>
        rw [walk_cons_onward h, ← ih e' hrest]
        simp only [List.map_cons]
        rw [walk_cons_onward (hsame.trans h)]
      | into e' content =>
        obtain ⟨_, _, _, hincluded⟩ := chain_of_readTag_into h
        have hcontent := fun part hp =>
          k.complete _ content (exists_readText_of_includedText hincluded)
            (mem_keysOf_of_mem_parts part hp)
        rw [walk_cons_into h hcontent]
        simp only [List.map_cons]
        rw [walk_cons_into (hsame.trans h) hcontent]
        exact congrArg _ (funext fun r => ih r.1 hrest _)

/-! ## The reading of a text -/

/-- The reading of a text after something that was read before. -/
def reading {t : FileTree} (k : IncludeKeys t) (source : Path) (text : List Char) (e : Expansion)
    (hkeys : keysOf text ⊆ k.keys) : Except ExpansionError Expansion :=
  (walk k source (Tag.lastGap text) e (Tag.parts text) fun part hp =>
    hkeys (mem_keysOf_of_mem_parts part hp)).map Subtype.val

/-- Whether the first tag of a text marks the file as a part of others. -/
def startsPartial (text : List Char) : Bool :=
  (Tag.scan text).head?.any fun tag => tag.kind = some .partialFile

/-- **The reading of a text as that of the file `source`.** -/
def structural (t : FileTree) (source : Path) (text : List Char) :
    Except ExpansionError Expansion :=
  reading (.ofText t text) source text { initial [] with isPartial := startsPartial text }
    fun _ hkey => List.mem_flatMap.mpr ⟨text, List.mem_cons_self, hkey⟩

end Expansion

end LiveTemplates
