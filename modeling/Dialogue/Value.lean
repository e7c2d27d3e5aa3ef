import Dialogue.Binary64.Layout
import Dialogue.Binary64.Numeral
import Dialogue.Text.Blank

/-!
# Values

A value is a text, a number or a truth value. `display` is what a user sees of
it; `asNumber` is its numeric reading, which a comparison prefers when both
sides have one.
-/

namespace Dialogue

/-- What a variable holds and what a condition compares with. -/
inductive Value where
  | text (s : Text)
  | number (x : Binary64)
  | bool (b : Bool)
  deriving DecidableEq, Repr

namespace Value

/-- The name of the kind of value. -/
def kind : Value → Text
  | .text _ => "text".toList
  | .number _ => "number".toList
  | .bool _ => "bool".toList

/-- A number stands for itself, and a text for the finite number it writes,
blank characters around it aside. A truth value is never a number. -/
def asNumber : Value → Option Binary64
  | .number x => some x
  | .text s =>
    (Numeral.parse? (Text.trim s)).map Numeral.nearest |>.filter Binary64.isFinite
  | .bool _ => none

/-- Numbers that are not shown as whole numbers have no exponent, and of two
equally short forms the greater one is shown. -/
def plainLayout : Binary64.Layout where
  tie := .up
  positional := none
  keepsFraction := false

/-- A whole number below `2 ^ 63` in magnitude has no point and no sign of zero. -/
def displayNumber (x : Binary64) : Text :=
  match x.toInt? with
  | some i => if i.natAbs < Nat.pow 2 63 then Text.ofInt i else plainLayout.render x
  | none => plainLayout.render x

/-- The words for the truth values. -/
def displayBool (b : Bool) : Text :=
  if b then "true".toList else "false".toList

/-- What a user sees of a value. -/
def display : Value → Text
  | .text s => s
  | .number x => displayNumber x
  | .bool b => displayBool b

end Value

end Dialogue
