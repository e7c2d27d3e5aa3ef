/-!
# Binary64 numbers

Double-precision numbers by their 64 bits: a sign, an eleven-bit field and a
52-bit fraction. A finite number is `significand · 2 ^ exponent` with its sign;
a field of 2047 means an infinity or, with a fraction, no number at all.

Equality of this type is equality of bits. The order of the numbers themselves,
in which both zeros are equal and a NaN stands nowhere, is `compare?`.
-/

namespace Dialogue

/-- A double-precision number, by its bits. -/
structure Binary64 where
  bits : UInt64
  deriving DecidableEq, Repr, Inhabited

namespace Binary64

/-! ## Fields -/

/-- The sign bit. -/
def negative (x : Binary64) : Bool :=
  x.bits.toNat / Nat.pow 2 63 % 2 == 1

/-- All bits but the sign, as a number. -/
def magnitudeBits (x : Binary64) : Nat :=
  x.bits.toNat % Nat.pow 2 63

/-- The eleven bits that fix the exponent. -/
def field (x : Binary64) : Nat :=
  x.magnitudeBits / Nat.pow 2 52

/-- The 52 trailing bits of the significand. -/
def fraction (x : Binary64) : Nat :=
  x.magnitudeBits % Nat.pow 2 52

/-- Neither an infinity nor a NaN. -/
def isFinite (x : Binary64) : Bool :=
  x.field != 2047

/-- Not a number. -/
def isNaN (x : Binary64) : Bool :=
  x.field == 2047 && x.fraction != 0

theorem isNaN_of_isFinite {x : Binary64} (h : x.isFinite = true) : x.isNaN = false := by
  rw [isFinite, bne_iff_ne] at h
  rw [isNaN, beq_false_of_ne h, Bool.false_and]

/-- The integer significand of a finite number. -/
def significand (x : Binary64) : Nat :=
  if x.field = 0 then x.fraction else Nat.pow 2 52 + x.fraction

/-- The binary exponent that goes with the significand. -/
def exponent (x : Binary64) : Int :=
  (max x.field 1 : Nat) - 1075

/-- The magnitude of a finite number as numerator and denominator. -/
def ratio (x : Binary64) : Nat × Nat :=
  (x.significand * Nat.pow 2 x.exponent.toNat, Nat.pow 2 (-x.exponent).toNat)

/-! ## Building -/

/-- The number with the given sign and magnitude bits below `2 ^ 63`. -/
def ofMagnitudeBits (negative : Bool) (bits : Nat) : Binary64 :=
  ⟨UInt64.ofNat (if negative then Nat.pow 2 63 + bits else bits)⟩

/-- The magnitude bits of an infinity. -/
def infinityBits : Nat := 2047 * Nat.pow 2 52

/-- The number with the other sign. -/
def neg (x : Binary64) : Binary64 :=
  ofMagnitudeBits (!x.negative) x.magnitudeBits

/-- The zero with a plus sign. -/
def zero : Binary64 := ⟨0⟩

/-- The magnitude is zero. -/
def isZero (x : Binary64) : Bool :=
  x.magnitudeBits == 0

/-! ## Order -/

/-- A whole number that grows with the number, and is zero for both zeros. -/
def rank (x : Binary64) : Int :=
  if x.negative then -(x.magnitudeBits : Int) else x.magnitudeBits

/-- The order of two numbers, infinities included; none with a NaN. -/
def compare? (x y : Binary64) : Option Ordering :=
  if x.isNaN || y.isNaN then none else some (compare x.rank y.rank)

/-! ## Whole numbers -/

/-- The value of a finite number without a fractional part. -/
def toInt? (x : Binary64) : Option Int :=
  let (n, d) := x.ratio
  if x.isFinite && n % d == 0 then
    some (if x.negative then -((n / d : Nat) : Int) else (n / d : Nat))
  else
    none

end Binary64

end Dialogue
