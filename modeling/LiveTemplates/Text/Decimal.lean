import LiveTemplates.Text.Blank

/-!
# Decimal numbers

The decimal digits of all scripts, and the integers that they write. Each script has its ten digits
in a row.

No reader takes an integer of more than `maxDigits` digits: the time to read one grows faster than
its length.
-/

namespace LiveTemplates.Text

/-- The code points of the zeros of all scripts. -/
def zeros : List Nat :=
  [0x30, 0x660, 0x6F0, 0x7C0, 0x966, 0x9E6, 0xA66, 0xAE6, 0xB66, 0xBE6, 0xC66, 0xCE6, 0xD66,
   0xDE6, 0xE50, 0xED0, 0xF20, 0x1040, 0x1090, 0x17E0, 0x1810, 0x1946, 0x19D0, 0x1A80, 0x1A90,
   0x1B50, 0x1BB0, 0x1C40, 0x1C50, 0xA620, 0xA8D0, 0xA900, 0xA9D0, 0xA9F0, 0xAA50, 0xABF0,
   0xFF10, 0x104A0, 0x10D30, 0x11066, 0x110F0, 0x11136, 0x111D0, 0x112F0, 0x11450, 0x114D0,
   0x11650, 0x116C0, 0x11730, 0x118E0, 0x11950, 0x11C50, 0x11D50, 0x11DA0, 0x16A60, 0x16AC0,
   0x16B50, 0x1D7CE, 0x1D7D8, 0x1D7E2, 0x1D7EC, 0x1D7F6, 0x1E140, 0x1E2F0, 0x1E950, 0x1FBF0]

/-- The value of a decimal digit. -/
def digitValue? (c : Char) : Option Nat :=
  (zeros.find? fun z => z ≤ c.toNat ∧ c.toNat < z + 10).map fun z => c.toNat - z

/-- Whether a character is a decimal digit. -/
def isDecimal (c : Char) : Bool :=
  (digitValue? c).isSome

/-- The most digits that an integer may have. -/
def maxDigits : Nat := 4300

/-- The number that the digits 0 to 9 stand for. -/
def natOfDigits (ds : List Char) : Nat :=
  ds.foldl (fun n c => 10 * n + (c.toNat - '0'.toNat)) 0

/-- The value of digits, between which single low lines may stand; `n` is the value before them. -/
def readDigits? (n : Nat) : List Char → Option Nat
  | [] => none
  | [c] => (digitValue? c).map fun d => 10 * n + d
  | c :: '_' :: rest => (digitValue? c).bind fun d => readDigits? (10 * n + d) rest
  | c :: rest => (digitValue? c).bind fun d => readDigits? (10 * n + d) rest

/-- The value of at most `maxDigits` digits, between which single low lines may stand. -/
def readNat? (ds : List Char) : Option Nat :=
  if maxDigits < ds.countP isDecimal then none else readDigits? 0 ds

/-- An integer with white space around it and a sign before it, if any. -/
def readInteger? (s : List Char) : Option Int :=
  match trimOf isWhiteSpace s with
  | '-' :: ds => (readNat? ds).map fun n => -(n : Int)
  | '+' :: ds => (readNat? ds).map Int.ofNat
  | ds => (readNat? ds).map Int.ofNat

end LiveTemplates.Text
