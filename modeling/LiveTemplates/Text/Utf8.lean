/-!
# Reading UTF-8

Octets are read as a text only if they are well-formed. When they are not, the report names the
first ill-formed sequence: the longest start of a character that stands there, or the single octet
that can start none, and why it goes no further.
-/

namespace LiveTemplates.Text

/-- Why a sequence of octets is no character. -/
inductive Utf8Fault
  /-- The octet cannot start a character. -/
  | invalidStart
  /-- The sequence is followed by an octet that cannot continue it. -/
  | invalidContinuation
  /-- The input ends inside a character. -/
  | unexpectedEnd
deriving DecidableEq, Repr

/-- The first ill-formed sequence of an input: `count` octets from `position` on. -/
structure Utf8Flaw where
  fault : Utf8Fault
  position : Nat
  count : Nat
  /-- The octet at `position`. -/
  octet : UInt8
deriving DecidableEq, Repr

/-- The values that may follow a first octet: one closed range for each octet of the rest. -/
def continuationRanges (first : UInt8) : Option (List (UInt8 × UInt8)) :=
  if first < 0x80 then some []
  else if first < 0xC2 then none
  else if first < 0xE0 then some [(0x80, 0xBF)]
  else if first == 0xE0 then some [(0xA0, 0xBF), (0x80, 0xBF)]
  else if first == 0xED then some [(0x80, 0x9F), (0x80, 0xBF)]
  else if first < 0xF0 then some [(0x80, 0xBF), (0x80, 0xBF)]
  else if first == 0xF0 then some [(0x90, 0xBF), (0x80, 0xBF), (0x80, 0xBF)]
  else if first < 0xF4 then some [(0x80, 0xBF), (0x80, 0xBF), (0x80, 0xBF)]
  else if first == 0xF4 then some [(0x80, 0x8F), (0x80, 0xBF), (0x80, 0xBF)]
  else none

/--
The first flaw of the octets from `position` on. While a character is being read, `started` counts
its octets so far, `first` is the first of them and `expected` says what must follow.
-/
def flawFrom (position started : Nat) (first : UInt8) (expected : List (UInt8 × UInt8)) :
    List UInt8 → Option Utf8Flaw
  | [] =>
    if expected.isEmpty then none
    else some ⟨.unexpectedEnd, position - started, started, first⟩
  | b :: rest =>
    match expected with
    | (lo, hi) :: expected' =>
      if lo ≤ b && b ≤ hi then flawFrom (position + 1) (started + 1) first expected' rest
      else some ⟨.invalidContinuation, position - started, started, first⟩
    | [] =>
      match continuationRanges b with
      | none => some ⟨.invalidStart, position, 1, b⟩
      | some expected' => flawFrom (position + 1) 1 b expected' rest

/-- The first flaw of a sequence of octets, if it has one. -/
def utf8Flaw? (octets : List UInt8) : Option Utf8Flaw :=
  flawFrom 0 0 0 [] octets

/-- The text that octets spell, or their first flaw. -/
def decodeUtf8 (octets : ByteArray) : Except Utf8Flaw String :=
  match String.fromUTF8? octets with
  | some s => .ok s
  | none => .error ((utf8Flaw? octets.data.toList).getD ⟨.invalidStart, 0, 1, 0⟩)

/-- What a text is written as is read back as that text. -/
theorem decodeUtf8_toUTF8 (s : String) : decodeUtf8 s.toUTF8 = .ok s := by
  have h : String.fromUTF8? s.toUTF8 = some s := dif_pos s.isValidUTF8
  simp only [decodeUtf8, h]

end LiveTemplates.Text
