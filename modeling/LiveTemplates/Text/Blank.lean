/-!
# Blanks

The characters that trimming removes, and trimming itself.

There are two sets. Text that a person writes is trimmed of `isBlank`, which counts the four
information separators U+001C to U+001F in; a number is trimmed of `isWhiteSpace`, which does not.
-/

namespace LiveTemplates.Text

/-- Spaces, tabs and line ends of every script, without the information separators. -/
def isWhiteSpace (c : Char) : Bool :=
  let n := c.toNat
  (0x09 ≤ n && n ≤ 0x0D) || n == 0x20 || n == 0x85 || n == 0xA0 || n == 0x1680
    || (0x2000 ≤ n && n ≤ 0x200A) || n == 0x2028 || n == 0x2029 || n == 0x202F || n == 0x205F
    || n == 0x3000

/-- Whether trimming a text removes the character. -/
def isBlank (c : Char) : Bool :=
  isWhiteSpace c || (0x1C ≤ c.toNat && c.toNat ≤ 0x1F)

/-- A text without its trailing characters of one kind. -/
def dropTrailing (p : Char → Bool) (s : List Char) : List Char :=
  (s.reverse.dropWhile p).reverse

/-- A text without the characters of one kind at both ends. -/
def trimOf (p : Char → Bool) (s : List Char) : List Char :=
  dropTrailing p (s.dropWhile p)

/-- A text without the blanks at both ends. -/
def trim (s : List Char) : List Char :=
  trimOf isBlank s

/-- Trimming adds nothing. -/
theorem length_trim_le (s : List Char) : (trim s).length ≤ s.length := by
  have key : ∀ (p : Char → Bool) (s : List Char), (s.dropWhile p).length ≤ s.length :=
    fun p s => (List.dropWhile_suffix p).length_le
  unfold trim trimOf dropTrailing
  rw [List.length_reverse]
  refine Nat.le_trans (key _ _) ?_
  rw [List.length_reverse]
  exact key _ _

/-- Trimming the end of a text leaves what stands before its last other character. -/
theorem dropTrailing_cons {p : Char → Bool} {c : Char} (hc : p c = false) (s : List Char) :
    dropTrailing p (c :: s) = c :: dropTrailing p s := by
  unfold dropTrailing
  rw [List.reverse_cons, List.dropWhile_append]
  split
  · next h => simp [List.isEmpty_iff.mp h, hc]
  · simp

/-- What dropping the characters of one kind leaves does not start with one. -/
theorem dropWhile_dropWhile (p : Char → Bool) (s : List Char) :
    (s.dropWhile p).dropWhile p = s.dropWhile p := by
  have hhead := List.head?_dropWhile_not p s
  cases hs : s.dropWhile p with
  | nil => rfl
  | cons c rest =>
    rw [hs] at hhead
    rw [List.dropWhile_cons, show p c = false from hhead]
    rfl

/-- What was trimmed has nothing left to trim. -/
theorem trimOf_trimOf (p : Char → Bool) (s : List Char) : trimOf p (trimOf p s) = trimOf p s := by
  have hend : dropTrailing p (dropTrailing p (s.dropWhile p)) = dropTrailing p (s.dropWhile p) := by
    rw [dropTrailing, dropTrailing, List.reverse_reverse, dropWhile_dropWhile]
  have hstart : (dropTrailing p (s.dropWhile p)).dropWhile p = dropTrailing p (s.dropWhile p) := by
    have hhead := List.head?_dropWhile_not p s
    cases hs : s.dropWhile p with
    | nil => rfl
    | cons c rest =>
      rw [hs] at hhead
      rw [dropTrailing_cons hhead, List.dropWhile_cons, show p c = false from hhead]
      rfl
  rw [trimOf, trimOf, hstart, hend]

/-- A string without the blanks at both ends. -/
def trimString (s : String) : String :=
  String.ofList (trim s.toList)

theorem trimString_trimString (s : String) : trimString (trimString s) = trimString s := by
  rw [trimString, trimString, String.toList_ofList, trim, trim, trimOf_trimOf]

end LiveTemplates.Text
