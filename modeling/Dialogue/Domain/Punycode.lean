import Dialogue.Text.Basic

/-!
# Punycode

A label of a domain name in the letters, digits and hyphens of ASCII. First come the
characters of the label that are ASCII, then, behind a hyphen, how to insert the
others: in ascending order, and from left to right where they are equal.

The next insertion is named by its distance from the last. Distances count through
the places of the text, and from its end on through the places again for the next
character of Unicode. They are written in digits of base 36, the least first, with
a threshold for each position below which a digit is the last one; the thresholds
follow the size of the distances so far.
-/

namespace Dialogue.Punycode

/-! ## Digits -/

/-- The digit with a value: letters come before the figures. -/
def digit (value : Nat) : Char :=
  if value < 26 then Char.ofNat (0x61 + value) else Char.ofNat (0x16 + value)

/-- The value of a digit. -/
def digitValue? (c : Char) : Option Nat :=
  if 'a' ≤ c && c ≤ 'z' then some (c.toNat - 0x61)
  else if c.isDigit then some (c.toNat - 0x16)
  else none

/-! ## Thresholds -/

/-- A digit below the threshold is the last of its number. -/
def threshold (bias position : Nat) : Nat :=
  min 26 (max 1 (36 * (position + 1) - bias))

theorem threshold_pos (bias position : Nat) : 0 < threshold bias position := by
  simp only [threshold]
  omega

/-- How many positions a scaled distance takes, and the bias from it. -/
def scale (distance bias : Nat) : Nat :=
  if 455 < distance then scale (distance / 35) (bias + 36)
  else bias + 36 * distance / (distance + 38)
termination_by distance

/-- The bias after a distance, in a text that then has so many characters. The first
distance is usually far greater than the others. -/
def adapt (distance length : Nat) (first : Bool) : Nat :=
  let scaled := distance / (if first then 700 else 2)
  scale (scaled + scaled / length) 0

/-! ## Distances -/

/-- The digits of a distance from a position on. -/
def digits (bias position distance : Nat) : Text :=
  let t := threshold bias position
  if distance < t then [digit distance]
  else
    digit (t + (distance - t) % (36 - t)) ::
      digits bias (position + 1) ((distance - t) / (36 - t))
termination_by distance
decreasing_by
  have := threshold_pos bias position
  have := Nat.div_le_self (distance - threshold bias position)
    (36 - threshold bias position)
  omega

/-- Reads a distance from a position on, whose digits count `weight` each, and adds
it to a sum. -/
def readDistance (bias position weight sum : Nat) : Text → Option (Nat × Text)
  | [] => none
  | c :: rest =>
    match digitValue? c with
    | none => none
    | some value =>
      let t := threshold bias position
      if value < t then some (sum + value * weight, rest)
      else
        readDistance bias (position + 1) (weight * (36 - t)) (sum + value * weight) rest

/-- What follows a distance is shorter than what it was read from. -/
theorem length_readDistance {bias position weight sum distance : Nat} {s rest : Text}
    (h : readDistance bias position weight sum s = some (distance, rest)) :
    rest.length < s.length := by
  induction s generalizing position weight sum with
  | nil => simp [readDistance] at h
  | cons c s ih =>
    simp only [readDistance] at h
    split at h
    · simp at h
    · split at h
      · simp only [Option.some.injEq, Prod.mk.injEq] at h
        simp [← h.2]
      · have := ih h
        simp only [List.length_cons]
        omega

/-! ## Texts -/

/-- The characters that are no ASCII in the order of their insertion, each with the
place that it is inserted at. -/
def insertions (s : Text) : List (Nat × Nat) :=
  let foreign := s.zipIdx.filter fun (c, _) => !Text.isAscii c
  (foreign.mergeSort fun a b => a.1.toNat ≤ b.1.toNat).map fun (c, i) =>
    (c.toNat, (s.take i).countP fun d => d.toNat ≤ c.toNat)

/-- Where insertion has come to. -/
structure Cursor where
  /-- The character to insert next, if it is inserted at `place`. -/
  code : Nat
  place : Nat
  /-- How many characters the text has. -/
  length : Nat
  bias : Nat
  first : Bool
  deriving DecidableEq, Repr

namespace Cursor

/-- Before the first insertion into a text. -/
def start (length : Nat) : Cursor where
  code := 0x80
  place := 0
  length := length
  bias := 72
  first := true

/-- After an insertion at a distance. -/
def move (cursor : Cursor) (code place distance : Nat) : Cursor where
  code := code
  place := place + 1
  length := cursor.length + 1
  bias := adapt distance (cursor.length + 1) cursor.first
  first := false

end Cursor

/-- The distances of insertions, written one after the other. -/
def writeInsertions (cursor : Cursor) : List (Nat × Nat) → Text
  | [] => []
  | (code, place) :: rest =>
    let distance := (code - cursor.code) * (cursor.length + 1) + place - cursor.place
    digits cursor.bias 0 distance ++
      writeInsertions (cursor.move code place distance) rest

/-- A label in ASCII. -/
def encode (s : Text) : Text :=
  let basic := s.filter Text.isAscii
  basic ++ (if basic.isEmpty then [] else ['-']) ++
    writeInsertions (Cursor.start basic.length) (insertions s)

/-- Whether a number is the code point of a character. -/
def isCode (n : Nat) : Bool :=
  n < 0xD800 || (0xDFFF < n && n < 0x110000)

/-- Carries out written insertions. -/
def readInsertions (cursor : Cursor) (done : Text) (s : Text) : Option Text :=
  if s.isEmpty then some done
  else
    match h : readDistance cursor.bias 0 1 0 s with
    | none => none
    | some (distance, rest) =>
      let total := cursor.place + distance
      let code := cursor.code + total / (cursor.length + 1)
      let place := total % (cursor.length + 1)
      if isCode code then
        readInsertions (cursor.move code place distance)
          (done.insertIdx place (Char.ofNat code)) rest
      else none
termination_by s.length
decreasing_by exact length_readDistance h

/-- The label that a text stands for, if it stands for one. -/
def decode? (s : Text) : Option Text :=
  let reversed := s.reverse
  let basic := ((reversed.dropWhile (· != '-')).drop 1).reverse
  let code := if basic.isEmpty then s else (reversed.takeWhile (· != '-')).reverse
  if basic.all Text.isAscii then readInsertions (Cursor.start basic.length) basic code
  else none

end Dialogue.Punycode
