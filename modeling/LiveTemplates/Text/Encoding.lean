import LiveTemplates.FileTree

/-!
# Encodings

A file of variables may be in another encoding than UTF-8. Encodings go by several names, in which
case does not matter and a dash or a blank is a low line.
-/

namespace LiveTemplates.Text

/-- How octets stand for characters. -/
inductive Encoding
  | utf8
  /-- Each octet stands for the character of its number. -/
  | latin1
  /-- As before, for the lower half of the octets only. -/
  | ascii
deriving DecidableEq, Repr

namespace Encoding

/-- The names of the encodings. -/
def names : List (Encoding × List String) :=
  [(.utf8, ["utf_8", "utf8", "u8", "utf", "utf8_ucs2", "utf8_ucs4", "cp65001", "utf_8_sig"]),
    (.latin1, ["latin_1", "latin1", "latin", "l1", "iso8859_1", "iso_8859_1", "iso8859", "8859",
      "cp819", "ibm819", "csisolatin1", "iso_ir_100", "iso_8859_1_1987"]),
    (.ascii, ["ascii", "us_ascii", "us", "646", "cp367", "ibm367", "csascii", "iso646_us",
      "iso_ir_6", "iso_646.irv_1991", "ansi_x3.4_1968", "ansi_x3_4_1968", "ansi_x3.4_1986"])]

/-- The encoding of a name. -/
def ofName? (name : String) : Option Encoding :=
  let plain := String.ofList <| name.toList.map fun c =>
    if c == '-' || c == ' ' then '_' else c.toLower
  (names.find? fun e => e.2.contains plain).map (·.1)

/-- The text that octets stand for, or what is wrong with them, in words. -/
def decode (e : Encoding) (octets : ByteArray) : Except String (List Char) :=
  let each := octets.data.toList.map fun b => Char.ofNat b.toNat
  match e with
  | .utf8 => (decodeUtf8 octets).map String.toList |>.mapError Utf8Flaw.message
  | .latin1 => .ok each
  | .ascii =>
    match octets.data.toList.findIdx? (0x80 ≤ ·) with
    | none => .ok each
    | some i =>
      let octet := String.ofList (hexPadded 2 (octets.data.toList.getD i 0).toNat)
      .error s!"'ascii' codec can't decode byte 0x{octet} in position {i}: ordinal not in range(128)"

end Encoding

end LiveTemplates.Text
