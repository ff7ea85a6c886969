import LiveTemplates.FileTree
import LiveTemplates.Tag.Scan

/-!
# Included files

The argument of a directive in a file is a path seen from the directory of that file. An include
refers to a file only if one is there; that none is there is an expected outcome and no error.

`includedPaths` lists the files that a text refers to directly. It removes the first tag of the text
again and again, so that tags count which appear only when another one between their parts is gone.
-/

namespace LiveTemplates

namespace FileTree

/-- The file that an include refers to, if there is one. -/
def includedFile? (t : FileTree) (source : Path) (argument : List Char) : Option Path :=
  let target := source.resolve (String.ofList argument) t.cwd
  match t.isFile target with
  | .ok true => some target
  | _ => none

/-- The file that an include refers to, if there is one, with its text. -/
def includedText (t : FileTree) (source : Path) (argument : List Char) :
    Except ReadError (Option (Path × List Char)) :=
  match t.includedFile? source argument with
  | none => .ok none
  | some target =>
    match t.readText target with
    | .ok text => .ok (some (target, text))
    | .error e => .error e

end FileTree

namespace Tag

/-- What stands around the first tag of a text is shorter than the text. -/
theorem length_of_first? {s before : List Char} {m : Sighting}
    (h : first? s = some (before, m)) : (before ++ m.rest).length < s.length := by
  have := List.length_pos_iff.2 m.raw_ne_nil
  rw [eq_of_first? h]
  simp only [List.length_append]
  omega

/-- The tags that are met when the first tag of a text is removed until none is left. -/
def peel (s : List Char) : List Tag :=
  match _h : first? s with
  | none => []
  | some (before, m) => m.toTag before.length :: peel (before ++ m.rest)
termination_by s.length
decreasing_by exact length_of_first? _h

/-- Whether a tag is an include with an argument. -/
def isInclude (tag : Tag) : Bool :=
  tag.kind = some .includeFile && !tag.argument.isEmpty

end Tag

/-- A list without the elements that occur in it before. -/
def distinct {α : Type} [BEq α] (xs : List α) : List α :=
  xs.foldl (fun seen x => if seen.contains x then seen else seen ++ [x]) []

/-- The files that the text of a file refers to directly, each one once. -/
def FileTree.includedPaths (t : FileTree) (source : Path) (text : List Char) : List Path :=
  distinct <| (Tag.peel text).filterMap fun tag =>
    if tag.isInclude then t.includedFile? source tag.argument else none

end LiveTemplates
