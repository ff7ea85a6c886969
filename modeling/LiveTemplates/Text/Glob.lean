/-!
# Name patterns

A pattern stands for a set of names. `*` is any text, `?` any one character and `[…]` one character
of a set; every other character is itself. A set lists characters and ranges, and `!` at its start
turns it into its complement. A bracket that is never closed is itself.

A range whose ends are in the wrong order is left out of its set, together with both ends. What is
left may be empty: such a set has no character, and its complement has all.

Matching walks over the name once. It keeps, for each place of the pattern, whether the part of the
pattern before it can be the part of the name read so far, so that stars cost no repeated search.
-/

namespace LiveTemplates.Text.Glob

/-- One entry of a set. -/
inductive Member
  | single (c : Char)
  | range (first last : Char)
deriving DecidableEq, Repr

/-- One place of a pattern. -/
inductive Token
  | star
  | anyChar
  | char (c : Char)
  | set (complement : Bool) (members : List Member)
deriving DecidableEq, Repr

/-- Whether an entry of a set is met by a character. -/
def Member.admits : Member → Char → Bool
  | .single d, c => c == d
  | .range lo hi, c => lo ≤ c && c ≤ hi

/-- Whether a place of a pattern is met by a character. A star is not met by one character. -/
def Token.admits : Token → Char → Bool
  | .star, _ => false
  | .anyChar, _ => true
  | .char d, c => c == d
  | .set complement members, c => (members.any (·.admits c)) != complement

/-! ## Reading a set -/

/--
The hyphens of a set's text that make ranges, as the pieces between them. A hyphen counts if `skip`
characters or more stand before it in its piece; each piece but the first gives one character to
the range before it, and the next range needs one more.
-/
def pieces (skip : Nat) (piece : List Char) : List Char → List (List Char)
  | [] => [piece.reverse]
  | c :: rest =>
    if c == '-' && skip == 0 then piece.reverse :: pieces 2 [] rest
    else pieces (skip - 1) (c :: piece) rest

/-- An empty last piece means that its hyphen makes no range. -/
def closeLastPiece : List (List Char) → List (List Char)
  | [] => []
  | [p, []] => [p ++ ['-']]
  | p :: rest => p :: closeLastPiece rest

/-- Leaves out the ranges whose ends are in the wrong order, the last one first. -/
def dropEmptyRanges : List (List Char) → List (List Char)
  | [] => []
  | p :: rest =>
    match dropEmptyRanges rest with
    | [] => [p]
    | q :: qs =>
      match p.getLast?, q.head? with
      | some lo, some hi => if hi < lo then (p.dropLast ++ q.tail) :: qs else p :: q :: qs
      | _, _ => p :: q :: qs

/-- The entries of one piece after its first character, which ends the range before it. -/
def membersOf : List (List Char) → List Member
  | [] => []
  | [p] => p.map .single
  | p :: q :: rest =>
    match p.getLast?, q with
    | some lo, hi :: q' => p.dropLast.map .single ++ .range lo hi :: membersOf (q' :: rest)
    | _, _ => p.map .single ++ .single '-' :: membersOf (q :: rest)
termination_by ps => ps.length

/-- The set that the text between two brackets stands for. -/
def Token.ofSetText (text : List Char) : Token :=
  let skip := if text.head? == some '!' then 2 else 1
  match dropEmptyRanges (closeLastPiece (pieces skip [] text)) with
  | ('!' :: p) :: rest => .set true (membersOf (p :: rest))
  | ps => .set false (membersOf ps)

/-- The text up to the next closing bracket, after `start`, and what follows the bracket. -/
def toBracket? (start text : List Char) : Option (List Char × List Char) :=
  match text.dropWhile (· != ']') with
  | _ :: after => some (start ++ text.takeWhile (· != ']'), after)
  | [] => none

/--
The text of a set and what follows its closing bracket. A closing bracket right at the start, or
right after the mark of a complement, is an entry of the set.
-/
def setText? : List Char → Option (List Char × List Char)
  | '!' :: ']' :: rest => toBracket? ['!', ']'] rest
  | '!' :: rest => toBracket? ['!'] rest
  | ']' :: rest => toBracket? [']'] rest
  | rest => toBracket? [] rest

theorem length_lt_of_toBracket? {start text inside after : List Char}
    (h : toBracket? start text = some (inside, after)) : after.length < text.length := by
  unfold toBracket? at h
  split at h
  · next c tail heq =>
    have hle := List.Sublist.length_le (List.dropWhile_sublist (· != ']') (l := text))
    rw [heq, List.length_cons] at hle
    simp only [Option.some.injEq, Prod.mk.injEq] at h
    rw [← h.2]
    omega
  · simp at h

/-- What follows a set is shorter than what follows its opening bracket. -/
theorem length_lt_of_setText? {text inside after : List Char}
    (h : setText? text = some (inside, after)) : after.length < text.length := by
  unfold setText? at h
  split at h <;> have := length_lt_of_toBracket? h <;> grind

/-- The places of a pattern. -/
def parse : List Char → List Token
  | [] => []
  | '*' :: rest => .star :: parse rest
  | '?' :: rest => .anyChar :: parse rest
  | '[' :: rest =>
    match _h : setText? rest with
    | none => .char '[' :: parse rest
    | some (text, after) => .ofSetText text :: parse after
  | c :: rest => .char c :: parse rest
termination_by pattern => pattern.length
decreasing_by
  all_goals simp_wf
  have := length_lt_of_setText? _h
  omega

/-! ## Matching -/

/--
The places that can be reached before any character is read. `here` says whether the first one can.
-/
def start (here : Bool) : List Token → List Bool
  | [] => [here]
  | .star :: rest => here :: start here rest
  | _ :: rest => here :: start false rest

/--
The places that can be reached after one more character. `here` says whether the first one is
reached by the place before it.
-/
def advance (c : Char) (here : Bool) : List Token → List Bool → List Bool
  | .star :: rest, was :: before => (here || was) :: advance c (here || was) rest before
  | t :: rest, was :: before => here :: advance c (was && t.admits c) rest before
  | _, _ => [here]

/-- Whether a name belongs to the set that a pattern stands for. -/
def accepts (pattern : List Token) (name : List Char) : Bool :=
  (name.foldl (fun reached c => advance c false pattern reached) (start true pattern)).getLast?
    == some true

/-- Whether a name matches a pattern. -/
def matchesName (pattern name : String) : Bool :=
  accepts (parse pattern.toList) name.toList

end LiveTemplates.Text.Glob
