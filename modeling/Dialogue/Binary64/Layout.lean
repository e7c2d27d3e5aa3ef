import Dialogue.Binary64.Shortest
import Dialogue.Text.Decimal

/-!
# Numbers as text

A `Layout` says how the digits of a number are set: which way ties between
shortest decimals go, which leading exponents are written positionally, and
whether a whole number keeps a fraction of zero. A number outside the positional
range is written with an exponent that always has a sign.
-/

namespace Dialogue.Binary64

/-- The decisions of one way to write numbers. -/
structure Layout where
  tie : Tie
  /-- The leading exponents written positionally, ends included; all if absent. -/
  positional : Option (Int × Int)
  /-- A positional whole number ends in `.0`. -/
  keepsFraction : Bool

/-- Digits without the zeros at their end, and how many zeros there were. -/
def splitTrailingZeros (digits : Text) : Text × Nat :=
  let zeros := (digits.reverse.takeWhile (· == '0')).length
  (digits.take (digits.length - zeros), zeros)

/-- The digits times `10 ^ exponent`, without an exponent. -/
def Layout.positionally (l : Layout) (digits : Text) (exponent : Int) : Text :=
  if 0 ≤ exponent then
    digits ++ List.replicate exponent.toNat '0' ++
      (if l.keepsFraction then ['.', '0'] else [])
  else
    let places := (-exponent).toNat
    if places < digits.length then
      digits.take (digits.length - places) ++ '.' ::
        digits.drop (digits.length - places)
    else
      ['0', '.'] ++ List.replicate (places - digits.length) '0' ++ digits

/-- One digit before the point, the others after it, and the leading exponent. -/
def scientifically (digits : Text) (leading : Int) : Text :=
  digits.take 1 ++ (if digits.length = 1 then [] else '.' :: digits.drop 1) ++
    ['e', if leading < 0 then '-' else '+'] ++ Text.ofNat leading.natAbs

/-- The magnitude of a finite number. -/
def Layout.magnitude (l : Layout) (x : Binary64) : Text :=
  if x.isZero then l.positionally ['0'] 0 else
    let d := shortest l.tie x
    let (digits, zeros) := splitTrailingZeros (Text.ofNat d.coefficient)
    let exponent := d.exponent + zeros
    let leading := exponent + digits.length - 1
    let fits := match l.positional with
      | some (least, greatest) => least ≤ leading && leading ≤ greatest
      | none => true
    if fits then l.positionally digits exponent else scientifically digits leading

/-- A number as text, with the usual names for what is not finite. -/
def Layout.render (l : Layout) (x : Binary64) : Text :=
  if x.isNaN then "NaN".toList else
    (if x.negative then ['-'] else []) ++
      (if x.isFinite then l.magnitude x else "inf".toList)

end Dialogue.Binary64
