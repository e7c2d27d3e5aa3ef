import Dialogue.Json.Fault
import Dialogue.Text.Utf8

/-!
# The scalars of JSON text

Readers take the text from some place on and give what they read with the text
that follows. This file reads blanks, words, texts in quotes and numbers. A text
is read to the end of its quotes before anything is asked about it.

A reader that needs more steps than it can tell in advance counts them down from
the length of its text, which is always enough: each step takes a character.
-/

namespace Dialogue.Json

/-- Reads a value from the head of a text. -/
abbrev Reader (α : Type) := Text → Except Fault (α × Text)

/-! ## Blanks and words -/

/-- The four blank characters of JSON. -/
def isBlank (c : Char) : Bool :=
  c == ' ' || c == '\n' || c == '\t' || c == '\r'

/-- The text from its first character that is not blank. -/
def skipBlanks (s : Text) : Text :=
  s.dropWhile isBlank

/-- Reads the rest of a word whose first letter is already taken. -/
def readWord : Text → Text → Except Fault Text
  | [], rest => .ok rest
  | _ :: _, [] => .error .endInValue
  | w :: word, c :: rest =>
    if w = c then readWord word rest else .error .expectedIdent

/-! ## Texts -/

/-- The value of a hexadecimal digit of either case. -/
def hexValue? (c : Char) : Option Nat :=
  if '0' ≤ c ∧ c ≤ '9' then some (c.toNat - '0'.toNat)
  else if 'a' ≤ c ∧ c ≤ 'f' then some (c.toNat - 'a'.toNat + 10)
  else if 'A' ≤ c ∧ c ≤ 'F' then some (c.toNat - 'A'.toNat + 10)
  else none

/-- The number of four hexadecimal digits. -/
def hexNumber? (digits : Text) : Option Nat :=
  digits.foldl (fun n c => do return (← n) * 16 + (← hexValue? c)) (some 0)

/-- The four hexadecimal digits of an escape. Fewer than four bytes before the
end of the text are an unfinished text, whatever they are. -/
def readHex : Reader Nat
  | a :: b :: c :: d :: rest =>
    match hexNumber? [a, b, c, d] with
    | some n => .ok (n, rest)
    | none => .error .invalidEscape
  | rest => .error (if Utf8.size rest < 4 then .endInText else .invalidEscape)

/-- The character of a surrogate pair. -/
def joinSurrogates (leading trailing : Nat) : Char :=
  Char.ofNat (0x10000 + (leading - 0xD800) * 0x400 + (trailing - 0xDC00))

/-- The second half of a surrogate pair, an escape of its own. -/
def readTrailing (leading : Nat) : Reader Char
  | '\\' :: 'u' :: rest => do
    let (n, rest) ← readHex rest
    if 0xDC00 ≤ n ∧ n ≤ 0xDFFF then
      return (joinSurrogates leading n, rest)
    else
      throw .loneLeadingSurrogate
  | [] => .error .endInText
  | ['\\'] => .error .endInText
  | _ => .error .endOfHexEscape

/-- The character of an escape, from behind its backslash. -/
def readEscape : Reader Char
  | [] => .error .endInText
  | c :: rest =>
    match c with
    | '"' => .ok ('"', rest)
    | '\\' => .ok ('\\', rest)
    | '/' => .ok ('/', rest)
    | 'b' => .ok ('\x08', rest)
    | 'f' => .ok ('\x0c', rest)
    | 'n' => .ok ('\n', rest)
    | 'r' => .ok ('\r', rest)
    | 't' => .ok ('\t', rest)
    | 'u' => do
      let (n, rest) ← readHex rest
      if 0xDC00 ≤ n ∧ n ≤ 0xDFFF then
        throw .loneLeadingSurrogate
      else if 0xD800 ≤ n ∧ n ≤ 0xDBFF then
        readTrailing n rest
      else
        return (Char.ofNat n, rest)
    | _ => .error .invalidEscape

/-- Reads at most so many characters of a text up to its closing quote. -/
def readChars : Nat → Reader Text
  | 0, _ => .error .endInText
  | _ + 1, [] => .error .endInText
  | steps + 1, c :: rest =>
    if c = '"' then
      .ok ([], rest)
    else if c = '\\' then do
      let (c, rest) ← readEscape rest
      let (s, rest) ← readChars steps rest
      return (c :: s, rest)
    else if c.toNat < 0x20 then
      .error .controlCharacter
    else do
      let (s, rest) ← readChars steps rest
      return (c :: s, rest)

/-- Reads a text from behind its opening quote. -/
def readQuoted : Reader Text := fun s =>
  readChars (s.length + 1) s

/-! ## Numbers -/

/-- The greatest significand that is kept exactly. -/
def significandLimit : Nat := Nat.pow 2 64 - 1

/-- Takes digits into a significand for as long as it stays below the limit; what
is left over are the digits that did not fit. -/
def absorbDigits : Nat → Text → Nat × Text
  | n, [] => (n, [])
  | n, c :: rest =>
    let next := n * 10 + Text.digitValue c
    if next ≤ significandLimit then absorbDigits next rest else (n, c :: rest)

/-- The double nearest to `10 ^ k`. -/
def powerOfTen (k : Nat) : Binary64 :=
  Binary64.ofNat (Nat.pow 10 k)

/-- Divides by `10 ^ k`, in steps of at most 308 places and rounding after each,
until the number is zero or no places are left. -/
def divideByPower : Nat → Nat → Binary64 → Binary64
  | 0, _, x => x
  | steps + 1, k, x =>
    if k ≤ 308 then x.divMagnitudes (powerOfTen k)
    else if x.isZero then x
    else divideByPower steps (k - 308) (x.divMagnitudes (powerOfTen 308))

/-- The magnitude `n · 10 ^ exponent`, rounded as the significand is read and
again after the power of ten. Three steps down reach zero from any significand. -/
def scaled (n : Nat) (exponent : Int) : Except Fault Binary64 :=
  let x := Binary64.ofNat n
  if exponent < 0 then
    .ok (divideByPower 4 exponent.natAbs x)
  else if 308 < exponent then
    if x.isZero then .ok x else .error .numberOutOfRange
  else
    let y := x.mulMagnitudes (powerOfTen exponent.toNat)
    if y.isFinite then .ok y else .error .numberOutOfRange

/-- A double with its sign. -/
def signed (negative : Bool) (x : Binary64) : Number :=
  .double (if negative then x.neg else x)

/-- The greatest exponent that is read as such. -/
def exponentLimit : Nat := Nat.pow 2 31 - 1

/-- The value of an exponent's digits, or nothing beyond the limit. -/
def boundedExponent? (digits : Text) : Option Nat :=
  let n := Text.toNat digits
  if n ≤ exponentLimit then some n else none

/-- Reads an exponent from behind its letter, for a number whose significand and
decimal exponent so far are known. -/
def readExponent (negative : Bool) (n : Nat) (exponent : Int) : Reader Number :=
  fun s => do
    let (down, s) := match s with
      | '-' :: rest => (true, rest)
      | '+' :: rest => (false, rest)
      | rest => (false, rest)
    match s with
    | [] => throw .endInValue
    | c :: _ =>
      if !c.isDigit then throw .invalidNumber
      let (digits, rest) := Text.spanDigits s
      match boundedExponent? digits with
      | some e =>
        let x ← scaled n (if down then exponent - e else exponent + e)
        return (signed negative x, rest)
      | none =>
        if n ≠ 0 ∧ !down then throw .numberOutOfRange
        return (signed negative Binary64.zero, rest)

/-- Reads what may follow the digits of a double: an exponent. -/
def readDouble (negative : Bool) (n : Nat) (exponent : Int) : Reader Number
  | c :: rest =>
    if c = 'e' ∨ c = 'E' then
      readExponent negative n exponent rest
    else do
      return (signed negative (← scaled n exponent), c :: rest)
  | [] => do return (signed negative (← scaled n exponent), [])

/-- Reads the places behind a point. Places that do not fit the significand are
passed over. -/
def readPlaces (negative : Bool) (n : Nat) (exponent : Int) : Reader Number :=
  fun s => do
    let (digits, rest) := Text.spanDigits s
    if digits = [] then
      throw (if rest = [] then .endInValue else .invalidNumber)
    let (n, left) := absorbDigits n digits
    let taken := digits.length - left.length
    readDouble negative n (exponent - taken) rest

/-- The whole number with the given sign, if it has one of its own in 64 bits. -/
def whole (negative : Bool) (n : Nat) : Number :=
  if !negative then .int n
  else if n = 0 ∨ Nat.pow 2 63 < n then signed true (Binary64.ofNat n)
  else .int (-n)

/-- Reads a number from behind its sign. -/
def readMagnitude (negative : Bool) : Reader Number := fun s => do
  match s with
  | [] => throw .endInValue
  | c :: rest =>
    if !c.isDigit then throw .invalidNumber
    if c = '0' ∧ (rest.head?.any Char.isDigit) then throw .invalidNumber
    let (digits, rest) := Text.spanDigits s
    let (n, left) := absorbDigits 0 digits
    match rest with
    | '.' :: rest => readPlaces negative n left.length rest
    | c :: _ =>
      if left = [] ∧ c ≠ 'e' ∧ c ≠ 'E' then return (whole negative n, rest)
      else readDouble negative n left.length rest
    | [] =>
      if left = [] then return (whole negative n, [])
      else readDouble negative n left.length []

/-- Reads a number. -/
def readNumber : Reader Number
  | '-' :: rest => readMagnitude true rest
  | rest => readMagnitude false rest

end Dialogue.Json
