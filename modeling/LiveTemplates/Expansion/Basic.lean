import LiveTemplates.Include

/-!
# Steps of an expansion

A step replaces the first tag of a text. A partial mark and an output are replaced by nothing, an
include by the text of its file.

All paths are seen from the directory of the file whose text is expanded, also those in tags that an
include brought in. The same include may come only once: its argument, in lower case, must differ
from those of all includes before it.

Whether the file is a part of others is decided by the very first tag alone.
-/

namespace LiveTemplates

/-- Why a tag cannot be expanded. -/
inductive TagErrorKind
  | malformedTag
  | unknownTag
  | circularInclude
  | includeNotFound
deriving DecidableEq, Repr

/-- A tag that cannot be expanded. -/
structure TagError where
  kind : TagErrorKind
  tag : Tag
deriving DecidableEq, Repr

/-- A tag error in words. -/
def TagError.message (e : TagError) : String :=
  match e.kind with
  | .malformedTag => "Malformed tag " ++ String.ofList e.tag.raw
  | .unknownTag => "Unknown tag " ++ String.ofList e.tag.raw
  | .circularInclude => "Circular reference detected " ++ String.ofList e.tag.argument
  | .includeNotFound => "Include file not found " ++ String.ofList e.tag.argument

/-- Why a text cannot be expanded. -/
inductive ExpansionError
  | tag (e : TagError)
  /-- The file of an include cannot be read. -/
  | unreadable (e : ReadError)
deriving DecidableEq, Repr

/-- An error as it is reported. -/
def ExpansionError.message : ExpansionError → String
  | .tag e => e.message
  | .unreadable e => e.message

/-- What an expansion yields. -/
structure Expansion where
  text : List Char
  /-- The outputs that were asked for, in the order of their tags. -/
  outputPaths : List Path
  isPartial : Bool
  /-- The includes that were replaced, by their arguments in lower case, the last one first. -/
  chain : List (List Char)
deriving DecidableEq, Repr

namespace Expansion

/-- The form of an include's argument by which a repetition is noticed. -/
def chainKey (argument : List Char) : List Char :=
  Text.lowercase (Text.trim argument)

/-- An expansion before its first step. -/
def initial (text : List Char) : Expansion :=
  ⟨text, [], false, []⟩

/-- What a tag is replaced by, and what is noted about it. -/
def applyTag (t : FileTree) (source : Path) (isFirst : Bool) (tag : Tag) (e : Expansion) :
    Except ExpansionError (List Char × Expansion) :=
  match tag.kind with
  | none => .error (.tag ⟨.unknownTag, tag⟩)
  | some kind =>
    if kind.requiresArgument && tag.argument.isEmpty then .error (.tag ⟨.malformedTag, tag⟩)
    else
      match kind with
      | .partialFile => .ok ([], { e with isPartial := e.isPartial || isFirst })
      | .outputFile =>
        let path := source.resolve (String.ofList tag.argument) t.cwd
        .ok ([], { e with outputPaths := e.outputPaths ++ [path] })
      | .includeFile =>
        let key := chainKey tag.argument
        if e.chain.contains key then .error (.tag ⟨.circularInclude, tag⟩)
        else
          match t.includedText source tag.argument with
          | .error err => .error (.unreadable err)
          | .ok none => .error (.tag ⟨.includeNotFound, tag⟩)
          | .ok (some (_, text)) => .ok (text, { e with chain := key :: e.chain })

/-- One step: the first tag is replaced. Without a tag there is no step. -/
def step? (t : FileTree) (source : Path) (isFirst : Bool) (e : Expansion) :
    Except ExpansionError (Option Expansion) :=
  match Tag.first? e.text with
  | none => .ok none
  | some (before, m) =>
    match applyTag t source isFirst (m.toTag before.length) e with
    | .error err => .error err
    | .ok (replacement, e') => .ok (some { e' with text := before ++ (replacement ++ m.rest) })

end Expansion

end LiveTemplates
