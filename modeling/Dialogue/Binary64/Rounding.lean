import Dialogue.Binary64.Basic

/-!
# Rounding to binary64

`ofRatio` is the number nearest to a quotient of natural numbers; of two equally
near ones it takes the one with an even significand. A quotient too large for a
finite number gives an infinity. The arithmetic of magnitudes is exact
arithmetic followed by this rounding.
-/

namespace Dialogue.Binary64

/-- The quotient rounded to the nearest natural number, halves to the even one. -/
def divNearest (n d : Nat) : Nat :=
  let q := n / d
  let r := n % d
  if d < 2 * r || (2 * r == d && q % 2 == 1) then q + 1 else q

/-- The greatest `e` with `2 ^ e ≤ n / d`, for positive `n` and `d`. -/
def floorLog2 (n d : Nat) : Int :=
  let e : Int := (n.log2 : Int) - d.log2
  if n * Nat.pow 2 (-e).toNat < d * Nat.pow 2 e.toNat then e - 1 else e

/-- The magnitude bits of the number nearest to `n / d`, for a positive `d`. The
significand of 53 bits may round up to `2 ^ 53`; the sum below then carries into
the exponent field, as it should. -/
def nearestBits (n d : Nat) : Nat :=
  if n = 0 then 0 else
    let q : Int := max (floorLog2 n d - 52) (-1074)
    let m := divNearest (n * Nat.pow 2 (-q).toNat) (d * Nat.pow 2 q.toNat)
    min ((q + 1074).toNat * Nat.pow 2 52 + m) infinityBits

/-- The number nearest to the quotient with the given sign. -/
def ofRatio (negative : Bool) (n d : Nat) : Binary64 :=
  ofMagnitudeBits negative (nearestBits n d)

/-- The number nearest to a natural number. -/
def ofNat (n : Nat) : Binary64 :=
  ofRatio false n 1

/-- The number nearest to a whole number. -/
def ofInt (i : Int) : Binary64 :=
  ofRatio (i < 0) i.natAbs 1

/-- The rounded product of two finite magnitudes. -/
def mulMagnitudes (x y : Binary64) : Binary64 :=
  ofRatio false (x.ratio.1 * y.ratio.1) (x.ratio.2 * y.ratio.2)

/-- The rounded quotient of two finite magnitudes, the second not zero. -/
def divMagnitudes (x y : Binary64) : Binary64 :=
  ofRatio false (x.ratio.1 * y.ratio.2) (x.ratio.2 * y.ratio.1)

example : ofRatio false 1 10 = ⟨0x3FB999999999999A⟩ := by decide +kernel
example : ofRatio true 1 (Nat.pow 2 1075) = ⟨0x8000000000000000⟩ := by decide +kernel
example : ofRatio false 3 (Nat.pow 2 1076) = ⟨1⟩ := by decide +kernel
example : ofNat (Nat.pow 2 1024 - Nat.pow 2 970) = ⟨0x7FF0000000000000⟩ := by decide +kernel
example : ofNat (Nat.pow 2 1024 - Nat.pow 2 970 - 1) = ⟨0x7FEFFFFFFFFFFFFF⟩ := by decide +kernel

end Dialogue.Binary64
