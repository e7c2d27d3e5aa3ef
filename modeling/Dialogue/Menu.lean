import Dialogue.Text.Blank
import Dialogue.Text.Decimal

/-!
# Menus

A menu numbers its entries from one. A reply picks an entry if, blank characters
around it aside, it is a run of ASCII digits whose value is one of the numbers;
leading zeros do no harm, and signs are not accepted.
-/

namespace Dialogue.Menu

/-- One line a label, each with its number. -/
def numbered (labels : List Text) : Text :=
  Text.joinLines
    (labels.zipIdx.map fun (label, i) => Text.ofNat (i + 1) ++ ['.', ' '] ++ label)

/-- The header, and below it the numbered labels. -/
def render (header : Text) (labels : List Text) : Text :=
  header ++ '\n' :: numbered labels

/-- The position, counted from zero, that a reply picks in a menu of `size`
entries. -/
def pick? (reply : Text) (size : Nat) : Option Nat :=
  let digits := Text.trim reply
  if digits = [] ∨ !digits.all Char.isDigit then
    none
  else
    let number := Text.toNat digits
    if 1 ≤ number ∧ number ≤ size then some (number - 1) else none

end Dialogue.Menu
