import Mathlib.Algebra.Order.Field.Power
import Mathlib.Algebra.Order.Ring.Rat
import Mathlib.Order.WithBot
import Mathlib.Tactic.Ring
import Dialogue.Binary64.Basic

/-!
# The order of numbers

A binary64 number that is no NaN stands for a rational number or for one of the infinities, its
`value`. Comparing two numbers by their ranks, that is by their bits, compares what they stand
for (`value_lt_iff_rank`), so `compare?` is the order of values: it tells apart all numbers but
the two zeros, and it has no answer exactly where a NaN is involved.

The reason is that finite magnitudes are multiples of the smallest positive number, and that the
multiples grow with the bits (`strictMono_unitsOf`), also from one exponent to the next.
-/

namespace Dialogue.Binary64

variable {x y : Binary64}

/-! ## Values -/

/-- The rational number that a finite number stands for. -/
def toRat (x : Binary64) : ℚ :=
  (if x.negative then -1 else 1) * x.significand * 2 ^ x.exponent

/-- What a number stands for, unless it is a NaN. -/
def value (x : Binary64) : WithBot (WithTop ℚ) :=
  if x.isFinite then ((x.toRat : WithTop ℚ) : WithBot (WithTop ℚ))
  else if x.negative then ⊥ else ⊤

/-! ## Magnitudes in units -/

/-- The finite magnitude with these bits as a multiple of `2 ^ -1074`. -/
def unitsOf (bits : Nat) : Nat :=
  (if bits / Nat.pow 2 52 = 0 then bits % Nat.pow 2 52
    else Nat.pow 2 52 + bits % Nat.pow 2 52) * 2 ^ (max (bits / Nat.pow 2 52) 1 - 1)

/-- The value of a finite number in units, with its sign. -/
def units (x : Binary64) : Int :=
  if x.negative then -(unitsOf x.magnitudeBits : Int) else unitsOf x.magnitudeBits

theorem unitsOf_zero : unitsOf 0 = 0 := by
  decide

/-- Where the fraction is full, the next magnitude begins the next exponent. -/
theorem unitsOf_lt_carry (field : Nat) {fraction : Nat} (h : fraction + 1 = Nat.pow 2 52) :
    (if field = 0 then fraction else Nat.pow 2 52 + fraction) * 2 ^ (max field 1 - 1) <
      Nat.pow 2 52 * 2 ^ (max (field + 1) 1 - 1) := by
  rcases field with _ | field
  · have hlt : fraction < Nat.pow 2 52 := by omega
    simpa using hlt
  · have hdouble : 2 ^ (field + 1) = 2 * 2 ^ field := Nat.pow_succ'
    rw [if_neg (Nat.succ_ne_zero field), show max (field + 1) 1 - 1 = field by omega,
      show max (field + 1 + 1) 1 - 1 = field + 1 by omega, hdouble, ← Nat.mul_assoc]
    exact Nat.mul_lt_mul_of_pos_right (by omega) (Nat.two_pow_pos field)

theorem unitsOf_lt_succ (bits : Nat) : unitsOf bits < unitsOf (bits + 1) := by
  have hunit : Nat.pow 2 52 = 4503599627370496 := rfl
  unfold unitsOf
  by_cases hlast : bits % Nat.pow 2 52 + 1 = Nat.pow 2 52
  · have hdiv : (bits + 1) / Nat.pow 2 52 = bits / Nat.pow 2 52 + 1 := by
      rw [hunit] at *
      omega
    have hmod : (bits + 1) % Nat.pow 2 52 = 0 := by
      rw [hunit] at *
      omega
    rw [hdiv, hmod, if_neg (Nat.succ_ne_zero _), Nat.add_zero]
    exact unitsOf_lt_carry _ hlast
  · have hdiv : (bits + 1) / Nat.pow 2 52 = bits / Nat.pow 2 52 := by
      rw [hunit] at *
      omega
    have hmod : (bits + 1) % Nat.pow 2 52 = bits % Nat.pow 2 52 + 1 := by
      rw [hunit] at *
      omega
    rw [hdiv, hmod]
    refine Nat.mul_lt_mul_of_pos_right ?_ (Nat.two_pow_pos _)
    split <;> omega

theorem strictMono_unitsOf : StrictMono unitsOf :=
  strictMono_nat_of_lt_succ unitsOf_lt_succ

theorem toRat_eq (x : Binary64) : x.toRat = x.units * 2 ^ (-1074 : ℤ) := by
  have hunits : (unitsOf x.magnitudeBits : ℚ) = x.significand * 2 ^ (max x.field 1 - 1) := by
    rw [unitsOf, ← field, ← fraction, ← significand]
    push_cast
    rfl
  have hexponent : (2 : ℚ) ^ x.exponent = 2 ^ (max x.field 1 - 1) * 2 ^ (-1074 : ℤ) := by
    rw [← zpow_natCast, ← zpow_add₀ two_ne_zero]
    congr 1
    unfold exponent
    omega
  unfold toRat units
  rw [hexponent]
  generalize (2 : ℚ) ^ (-1074 : ℤ) = unit
  split
  · push_cast
    rw [hunits]
    ring
  · push_cast
    rw [hunits]
    ring

/-- The signed units are ordered as the signed bits are. -/
theorem units_lt_iff (x y : Binary64) : x.units < y.units ↔ x.rank < y.rank := by
  have hlt : unitsOf x.magnitudeBits < unitsOf y.magnitudeBits ↔
      x.magnitudeBits < y.magnitudeBits := strictMono_unitsOf.lt_iff_lt
  have hgt : unitsOf y.magnitudeBits < unitsOf x.magnitudeBits ↔
      y.magnitudeBits < x.magnitudeBits := strictMono_unitsOf.lt_iff_lt
  have hx : unitsOf 0 < unitsOf x.magnitudeBits ↔ 0 < x.magnitudeBits :=
    strictMono_unitsOf.lt_iff_lt
  have hy : unitsOf 0 < unitsOf y.magnitudeBits ↔ 0 < y.magnitudeBits :=
    strictMono_unitsOf.lt_iff_lt
  rw [unitsOf_zero] at hx hy
  unfold units rank
  cases x.negative <;> cases y.negative <;> simp only [if_true, if_false, Bool.false_eq_true] <;>
    omega

theorem toRat_lt_iff (x y : Binary64) : x.toRat < y.toRat ↔ x.rank < y.rank := by
  rw [toRat_eq, toRat_eq, ← units_lt_iff]
  have hpos : (0 : ℚ) < 2 ^ (-1074 : ℤ) := zpow_pos two_pos _
  rw [mul_lt_mul_iff_left₀ hpos, Int.cast_lt]

/-! ## Infinities -/

theorem magnitudeBits_lt (x : Binary64) : x.magnitudeBits < Nat.pow 2 63 :=
  Nat.mod_lt _ (by decide)

theorem lt_infinityBits (hx : x.isFinite = true) : x.magnitudeBits < infinityBits := by
  have hlt := x.magnitudeBits_lt
  have hne : x.magnitudeBits / Nat.pow 2 52 ≠ 2047 := by simpa [isFinite, field] using hx
  have hunit : Nat.pow 2 52 = 4503599627370496 := rfl
  have hsign : Nat.pow 2 63 = 9223372036854775808 := rfl
  rw [hsign] at hlt
  rw [hunit] at hne
  unfold infinityBits
  rw [hunit]
  omega

theorem eq_infinityBits (hx : x.isFinite = false) (hnan : x.isNaN = false) :
    x.magnitudeBits = infinityBits := by
  have hfield : x.field = 2047 := by simpa [isFinite] using hx
  have hfraction : x.fraction = 0 := by simpa [isNaN, hfield] using hnan
  calc x.magnitudeBits
      = Nat.pow 2 52 * x.field + x.fraction := (Nat.div_add_mod ..).symm
    _ = infinityBits := by rw [hfield, hfraction, infinityBits, Nat.add_zero, Nat.mul_comm]

theorem coe_lt_top (q : ℚ) : ((q : WithTop ℚ) : WithBot (WithTop ℚ)) < ⊤ :=
  WithBot.coe_lt_coe.mpr (WithTop.coe_lt_top q)

/-- **The order of the bits is the order of the values.** -/
theorem value_lt_iff_rank (hx : x.isNaN = false) (hy : y.isNaN = false) :
    x.value < y.value ↔ x.rank < y.rank := by
  have hinfinity : 0 < infinityBits := by decide
  unfold value
  rcases hfx : x.isFinite with _ | _ <;> rcases hfy : y.isFinite with _ | _
  · -- Two infinities differ by their signs.
    have hbx := eq_infinityBits hfx hx
    have hby := eq_infinityBits hfy hy
    unfold rank
    rw [hbx, hby]
    cases x.negative <;> cases y.negative <;> simp
    omega
  · have hbx := eq_infinityBits hfx hx
    have hby := lt_infinityBits hfy
    unfold rank
    rw [hbx]
    cases x.negative <;> cases y.negative <;> simp <;> omega
  · have hbx := lt_infinityBits hfx
    have hby := eq_infinityBits hfy hy
    unfold rank
    rw [hby]
    cases x.negative <;> cases y.negative <;> simp [coe_lt_top] <;> omega
  · rw [if_pos rfl, if_pos rfl, WithBot.coe_lt_coe, WithTop.coe_lt_coe, toRat_lt_iff]

theorem value_eq_iff_rank (hx : x.isNaN = false) (hy : y.isNaN = false) :
    x.value = y.value ↔ x.rank = y.rank := by
  rw [eq_iff_le_not_lt, eq_iff_le_not_lt, ← not_lt, ← not_lt, value_lt_iff_rank hx hy,
    value_lt_iff_rank hy hx]

/-! ## Comparing -/

theorem compare?_of_nan (h : x.isNaN = true ∨ y.isNaN = true) : x.compare? y = none := by
  rcases h with h | h <;> simp [compare?, h]

theorem compare?_of_lt (hx : x.isNaN = false) (hy : y.isNaN = false) (h : x.value < y.value) :
    x.compare? y = some .lt := by
  rw [value_lt_iff_rank hx hy] at h
  simp [compare?, hx, hy, compare_lt_iff_lt, h]

theorem compare?_of_eq (hx : x.isNaN = false) (hy : y.isNaN = false) (h : x.value = y.value) :
    x.compare? y = some .eq := by
  rw [value_eq_iff_rank hx hy] at h
  simp [compare?, hx, hy, h]

theorem compare?_of_gt (hx : x.isNaN = false) (hy : y.isNaN = false) (h : y.value < x.value) :
    x.compare? y = some .gt := by
  rw [value_lt_iff_rank hy hx] at h
  simp [compare?, hx, hy, compare_gt_iff_gt, h]

end Dialogue.Binary64
