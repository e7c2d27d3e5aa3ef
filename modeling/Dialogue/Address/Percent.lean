import Dialogue.Text.Utf8

/-!
# Percent escapes

An address writes a byte as a percent sign and two hexadecimal digits where the
character itself could be taken for a delimiter or is no ASCII. Each part of an
address escapes a class of its own; the classes grow from the fragment to the user
information.
-/

namespace Dialogue.Percent

/-! ## Classes -/

/-- The control characters of ASCII. -/
def isControl (c : Char) : Bool :=
  c.toNat < 0x20 || c.toNat == 0x7F

/-- The characters that a fragment escapes. -/
def inFragment (c : Char) : Bool :=
  isControl c || " \"<>\x60".toList.contains c

/-- The characters that a path escapes. -/
def inPath (c : Char) : Bool :=
  inFragment c || "#?\x7b\x7d".toList.contains c

/-- The characters that user names and passwords escape. -/
def inUserInfo (c : Char) : Bool :=
  inPath c || "/:;=@[\\]^|".toList.contains c

/-- The characters that a query escapes. -/
def inQuery (c : Char) : Bool :=
  isControl c || " \"#<>".toList.contains c

/-- The characters that a query escapes where the scheme has a host. -/
def inHostedQuery (c : Char) : Bool :=
  inQuery c || c == '\''

/-! ## Writing -/

/-- A hexadecimal digit in upper case. -/
def digit (n : Nat) : Char :=
  if n < 10 then Char.ofNat (0x30 + n) else Char.ofNat (0x37 + n)

/-- The escape of a byte. -/
def escape (b : UInt8) : Text :=
  ['%', digit (b.toNat / 16), digit (b.toNat % 16)]

/-- One character, escaped if it is of a class or no ASCII. -/
def encodeChar (mustEscape : Char → Bool) (c : Char) : Text :=
  if 0x80 ≤ c.toNat || mustEscape c then (Utf8.encodeChar c).flatMap escape else [c]

/-- A text with the characters of a class escaped, and all that are no ASCII. -/
def encode (mustEscape : Char → Bool) (s : Text) : Text :=
  s.flatMap (encodeChar mustEscape)

/-! ## Reading -/

/-- The value of a hexadecimal digit. -/
def digitValue? (c : Char) : Option Nat :=
  if c.isDigit then some (c.toNat - 0x30)
  else if 'a' ≤ c && c ≤ 'f' then some (c.toNat - 0x57)
  else if 'A' ≤ c && c ≤ 'F' then some (c.toNat - 0x37)
  else none

/-- The byte of an escape, given its two digits. -/
def byte? (high low : Char) : Option UInt8 :=
  match digitValue? high, digitValue? low with
  | some x, some y => some (UInt8.ofNat (16 * x + y))
  | _, _ => none

/-- The bytes of a text once its escapes are undone. A percent sign that starts no
escape stands for itself. -/
def decode : Text → Bytes
  | [] => []
  | [c] => Utf8.encodeChar c
  | [c, d] => Utf8.encodeChar c ++ Utf8.encodeChar d
  | c :: high :: low :: rest =>
    match if c = '%' then byte? high low else none with
    | some b => b :: decode rest
    | none => Utf8.encodeChar c ++ decode (high :: low :: rest)

end Dialogue.Percent
