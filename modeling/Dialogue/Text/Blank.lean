import Dialogue.Text.Basic

/-!
# Blank characters

The blank characters are those with the Unicode property `White_Space`: 25
code points in 10 ranges. `trim` removes them from both ends of a text.
-/

namespace Dialogue.Text

/-- The Unicode property `White_Space`. -/
def isBlank (c : Char) : Bool :=
  let n := c.toNat
  (9 ≤ n && n ≤ 13) || n == 0x20 || n == 0x85 || n == 0xA0 || n == 0x1680 ||
  (0x2000 ≤ n && n ≤ 0x200A) || n == 0x2028 || n == 0x2029 || n == 0x202F ||
  n == 0x205F || n == 0x3000

/-- The text without the characters of a class at its end. -/
def dropEndWhile (p : Char → Bool) (s : Text) : Text :=
  (s.reverse.dropWhile p).reverse

/-- The text without blank characters at either end. -/
def trim (s : Text) : Text :=
  dropEndWhile isBlank (s.dropWhile isBlank)

end Dialogue.Text
