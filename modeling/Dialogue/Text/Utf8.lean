import Dialogue.Text.Basic

/-!
# UTF-8

`encode` writes a text as bytes. `scan` cuts any byte string into characters
and ill-formed pieces; from it come `decode`, which refuses ill-formed bytes
and says where they are, and `decodeLossy`, which puts U+FFFD in their place.

An ill-formed piece is as long as the longest start of a character that the
bytes at its place agree with, and at least one byte. A character that the end
of the bytes cuts off is not ill-formed but cut.
-/

namespace Dialogue.Utf8

/-! ## Writing -/

/-- The one to four bytes of a character. -/
def encodeChar (c : Char) : Bytes :=
  let n := c.toNat
  if n < 0x80 then
    [UInt8.ofNat n]
  else if n < 0x800 then
    [UInt8.ofNat (0xC0 + n / 0x40), UInt8.ofNat (0x80 + n % 0x40)]
  else if n < 0x10000 then
    [UInt8.ofNat (0xE0 + n / 0x1000), UInt8.ofNat (0x80 + n / 0x40 % 0x40),
      UInt8.ofNat (0x80 + n % 0x40)]
  else
    [UInt8.ofNat (0xF0 + n / 0x40000), UInt8.ofNat (0x80 + n / 0x1000 % 0x40),
      UInt8.ofNat (0x80 + n / 0x40 % 0x40), UInt8.ofNat (0x80 + n % 0x40)]

/-- The bytes of a text. -/
def encode (s : Text) : Bytes :=
  s.flatMap encodeChar

/-- How many bytes a text takes. -/
def size (s : Text) : Nat :=
  (encode s).length

@[simp] theorem encode_cons (c : Char) (s : Text) :
    encode (c :: s) = encodeChar c ++ encode s := by simp [encode]

@[simp] theorem encode_append (s t : Text) :
    encode (s ++ t) = encode s ++ encode t := by simp [encode]

/-! ## Cutting into pieces -/

/-- What stands at a place in a byte string. -/
inductive Piece where
  | char (c : Char)
  /-- Bytes that start no character, or that break off within one. -/
  | illFormed (length : Nat)
  /-- A character that the end of the bytes cuts off. -/
  | cut
  deriving DecidableEq, Repr

/-- The bytes that continue a character. -/
def isTail (b : UInt8) : Bool := 0x80 ≤ b && b ≤ 0xBF

/-- The second bytes that may follow the lead byte of a three-byte character:
no overlong forms, no surrogates. -/
def isSecondOfThree (lead b : UInt8) : Bool :=
  if lead == 0xE0 then 0xA0 ≤ b && b ≤ 0xBF
  else if lead == 0xED then 0x80 ≤ b && b ≤ 0x9F
  else isTail b

/-- The second bytes that may follow the lead byte of a four-byte character:
no overlong forms, nothing past U+10FFFF. -/
def isSecondOfFour (lead b : UInt8) : Bool :=
  if lead == 0xF0 then 0x90 ≤ b && b ≤ 0xBF
  else if lead == 0xF4 then 0x80 ≤ b && b ≤ 0x8F
  else isTail b

/-- The character with the given lead bits and tail bytes. -/
def join (lead : Nat) (tails : Bytes) : Char :=
  Char.ofNat (tails.foldl (fun n b => n * 0x40 + (b.toNat - 0x80)) lead)

/-- Cuts a byte string into characters and ill-formed pieces. -/
def scan : Bytes → List Piece
  | [] => []
  | a :: rest =>
    if a < 0x80 then
      .char (Char.ofNat a.toNat) :: scan rest
    else if 0xC2 ≤ a && a ≤ 0xDF then
      match rest with
      | [] => [.cut]
      | b :: rest₂ =>
        if isTail b then .char (join (a.toNat - 0xC0) [b]) :: scan rest₂
        else .illFormed 1 :: scan (b :: rest₂)
    else if 0xE0 ≤ a && a ≤ 0xEF then
      match rest with
      | [] => [.cut]
      | b :: rest₂ =>
        if isSecondOfThree a b then
          match rest₂ with
          | [] => [.cut]
          | c :: rest₃ =>
            if isTail c then .char (join (a.toNat - 0xE0) [b, c]) :: scan rest₃
            else .illFormed 2 :: scan (c :: rest₃)
        else .illFormed 1 :: scan (b :: rest₂)
    else if 0xF0 ≤ a && a ≤ 0xF4 then
      match rest with
      | [] => [.cut]
      | b :: rest₂ =>
        if isSecondOfFour a b then
          match rest₂ with
          | [] => [.cut]
          | c :: rest₃ =>
            if isTail c then
              match rest₃ with
              | [] => [.cut]
              | d :: rest₄ =>
                if isTail d then
                  .char (join (a.toNat - 0xF0) [b, c, d]) :: scan rest₄
                else .illFormed 3 :: scan (d :: rest₄)
            else .illFormed 2 :: scan (c :: rest₃)
        else .illFormed 1 :: scan (b :: rest₂)
    else
      .illFormed 1 :: scan rest

/-! ## Reading -/

/-- Where a byte string stops being UTF-8: the number of good bytes before the
place, and the length of the ill-formed piece, or `none` if the end cuts a
character off. -/
structure Fault where
  validUpTo : Nat
  length : Option Nat
  deriving DecidableEq, Repr

/-- Reads pieces after `good` bytes that were characters. -/
def assemble (good : Nat) : List Piece → Except Fault Text
  | [] => .ok []
  | .char c :: rest => do
    let s ← assemble (good + (encodeChar c).length) rest
    return c :: s
  | .illFormed n :: _ => .error ⟨good, some n⟩
  | .cut :: _ => .error ⟨good, none⟩

/-- The text that the bytes encode, or the first place where they encode none. -/
def decode (bytes : Bytes) : Except Fault Text :=
  assemble 0 (scan bytes)

/-- The character that stands for bytes that are none. -/
def replacement : Char := Char.ofNat 0xFFFD

/-- The character of a piece, U+FFFD if it has none. -/
def Piece.charOrReplacement : Piece → Char
  | .char c => c
  | .illFormed _ => replacement
  | .cut => replacement

/-- The text of the bytes, with U+FFFD for each piece that is no character. -/
def decodeLossy (bytes : Bytes) : Text :=
  (scan bytes).map Piece.charOrReplacement

/-- The sentence that reports ill-formed bytes. -/
def Fault.message (f : Fault) : Text :=
  match f.length with
  | some n =>
    "invalid utf-8 sequence of ".toList ++ Nat.toDigits 10 n ++
      " bytes from index ".toList ++ Nat.toDigits 10 f.validUpTo
  | none =>
    "incomplete utf-8 byte sequence from index ".toList ++
      Nat.toDigits 10 f.validUpTo

end Dialogue.Utf8
