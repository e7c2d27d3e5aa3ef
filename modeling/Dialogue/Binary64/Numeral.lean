import Dialogue.Binary64.Rounding
import Dialogue.Text.Decimal

/-!
# Decimal numerals

A numeral is an optional sign, digits with at most one point before, inside or
after them, at least one digit, and optionally an exponent: `e` or `E`, an
optional sign and at least one digit. `Numeral.parse?` accepts just these texts;
the nearest binary64 number is its reading.
-/

namespace Dialogue

/-- The number `± coefficient · 10 ^ exponent`. -/
structure Numeral where
  negative : Bool
  coefficient : Nat
  exponent : Int
  deriving DecidableEq, Repr

namespace Numeral

/-- An optional sign: whether it is a minus, and what follows. -/
def takeSign : Text → Bool × Text
  | '-' :: rest => (true, rest)
  | '+' :: rest => (false, rest)
  | rest => (false, rest)

/-- The value of an exponent's digits. It stops growing once it has passed
65 535, far beyond any exponent that can matter. -/
def exponentValue (digits : Text) : Nat :=
  digits.foldl (fun n c => if n < 0x10000 then 10 * n + Text.digitValue c else n) 0

/-- What follows the mantissa: nothing, or an exponent. -/
def exponent? : Text → Option Int
  | [] => some 0
  | c :: rest =>
    if c = 'e' ∨ c = 'E' then
      let (negative, digits) := takeSign rest
      if digits ≠ [] ∧ digits.all Char.isDigit then
        let n : Int := exponentValue digits
        some (if negative then -n else n)
      else
        none
    else
      none

/-- The digits before a point, the digits after it, and what follows. -/
def splitMantissa (s : Text) : Text × Text × Text :=
  let (whole, rest) := Text.spanDigits s
  match rest with
  | '.' :: rest =>
    let (places, rest) := Text.spanDigits rest
    (whole, places, rest)
  | rest => (whole, [], rest)

/-- The numeral that the whole text writes. -/
def parse? (s : Text) : Option Numeral :=
  let (negative, rest) := takeSign s
  let (whole, places, rest) := splitMantissa rest
  if whole ++ places = [] then
    none
  else
    (exponent? rest).map fun e =>
      ⟨negative, Text.toNat (whole ++ places), e - places.length⟩

/-- The number nearest to the numeral's exact value; an infinity if it is too
large. -/
def nearest (n : Numeral) : Binary64 :=
  Binary64.ofRatio n.negative (n.coefficient * Nat.pow 10 n.exponent.toNat)
    (Nat.pow 10 (-n.exponent).toNat)

end Numeral

end Dialogue
