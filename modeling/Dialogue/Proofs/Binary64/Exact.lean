import Mathlib.Data.Nat.Cast.Field
import Dialogue.Proofs.Binary64.Order
import Dialogue.Proofs.Binary64.Overflow

/-!
# Rounding what needs no rounding

A quotient that is the magnitude of a finite number is rounded to this number (`toRat_ofRatio`),
however its numerator and denominator are chosen. For a significand fills its 53 bits, or it is at
the least exponent and has to do with fewer (`Canonical`); so the value alone tells the place at
which the quotient is rounded (`place_eq`), and at this place the quotient is the significand.

Whole numbers are a case of this. They need not be short: also of those with more than 53 bits every
one that some number stands for is exact (`toRat_ofInt`).
-/

namespace Dialogue.Binary64

variable {x : Binary64} {n d : Nat}

/-! ## The magnitude of a number -/

/-- The significand and the exponent in which a magnitude is kept. -/
structure Canonical (m : Nat) (q : Int) : Prop where
  exponent : -1074 ≤ q
  lt : m < 2 ^ 53
  full : 2 ^ 52 ≤ m ∨ q = -1074

theorem fraction_lt (x : Binary64) : x.fraction < 2 ^ 52 :=
  Nat.mod_lt _ (by decide)

theorem canonical (x : Binary64) : Canonical x.significand x.exponent := by
  have hfraction := x.fraction_lt
  have hunit : Nat.pow 2 52 = 2 ^ 52 := rfl
  unfold significand exponent
  rw [hunit]
  by_cases hfield : x.field = 0
  · rw [if_pos hfield, hfield]
    exact ⟨by decide, by omega, .inr (by decide)⟩
  · rw [if_neg hfield]
    exact ⟨by omega, by omega, .inl (by omega)⟩

/-- The bits of the significand carry into the exponent field, as rounding has it. -/
theorem magnitudeBits_eq (x : Binary64) :
    (x.exponent + 1074).toNat * Nat.pow 2 52 + x.significand = x.magnitudeBits := by
  have hsplit : Nat.pow 2 52 * x.field + x.fraction = x.magnitudeBits := Nat.div_add_mod ..
  have hunit : Nat.pow 2 52 = 4503599627370496 := rfl
  rw [hunit] at hsplit ⊢
  unfold significand exponent
  split <;> omega

theorem abs_toRat (x : Binary64) : |x.toRat| = x.significand * 2 ^ x.exponent := by
  have hnonneg : (0 : ℚ) ≤ x.significand * 2 ^ x.exponent := by positivity
  rw [toRat, mul_assoc]
  split
  · rw [neg_one_mul, abs_neg, abs_of_nonneg hnonneg]
  · rw [one_mul, abs_of_nonneg hnonneg]

theorem toRat_nonpos (h : x.negative = true) : x.toRat ≤ 0 := by
  rw [toRat, if_pos h, mul_assoc, neg_one_mul, neg_nonpos]
  positivity

theorem toRat_nonneg (h : x.negative = false) : 0 ≤ x.toRat := by
  rw [toRat, h, if_neg Bool.false_ne_true]
  positivity

theorem toRat_ofMagnitudeBits (negative : Bool) (x : Binary64) :
    (ofMagnitudeBits negative x.magnitudeBits).toRat =
      (if negative then -1 else 1) * |x.toRat| := by
  have hbits := magnitudeBits_ofMagnitudeBits negative x.magnitudeBits_lt
  have hsignificand : (ofMagnitudeBits negative x.magnitudeBits).significand = x.significand := by
    unfold significand field fraction
    rw [hbits]
  have hexponent : (ofMagnitudeBits negative x.magnitudeBits).exponent = x.exponent := by
    unfold exponent field
    rw [hbits]
  rw [toRat, hsignificand, hexponent, negative_ofMagnitudeBits negative x.magnitudeBits_lt,
    mul_assoc, ← abs_toRat]

theorem isFinite_ofMagnitudeBits (negative : Bool) (x : Binary64) :
    (ofMagnitudeBits negative x.magnitudeBits).isFinite = x.isFinite := by
  unfold isFinite field
  rw [magnitudeBits_ofMagnitudeBits negative x.magnitudeBits_lt]

/-! ## Rounding at the right place -/

theorem divNearest_of_quotient_eq {k : Nat} (hd : 0 < d) (h : (n : ℚ) / d = k) :
    divNearest n d = k := by
  rw [div_eq_iff (by exact_mod_cast hd.ne')] at h
  obtain rfl : n = k * d := by exact_mod_cast h
  exact divNearest_mul k hd

theorem place_eq {m : Nat} {q : Int} (hcanonical : Canonical m q) (hn : 0 < n) (hd : 0 < d)
    (h : (n : ℚ) / d = m * 2 ^ q) : max (floorLog2 n d - 52) (-1074) = q := by
  obtain ⟨hlow, hhigh⟩ := floorLog2_bounds hn hd
  rw [h] at hlow hhigh
  have hunit : (0 : ℚ) < 2 ^ q := zpow_pos two_pos q
  have habove : floorLog2 n d < 53 + q := by
    refine (zpow_lt_zpow_iff_right₀ (one_lt_two (α := ℚ))).mp (lt_of_le_of_lt hlow ?_)
    rw [zpow_add₀ two_ne_zero]
    exact mul_lt_mul_of_pos_right (by exact_mod_cast hcanonical.lt) hunit
  rcases hcanonical.full with hfull | hleast
  · have hbelow : 52 + q < floorLog2 n d + 1 := by
      refine (zpow_lt_zpow_iff_right₀ (one_lt_two (α := ℚ))).mp (lt_of_le_of_lt ?_ hhigh)
      rw [zpow_add₀ two_ne_zero]
      exact mul_le_mul_of_nonneg_right (by exact_mod_cast hfull) hunit.le
    have hexponent := hcanonical.exponent
    omega
  · omega

/-- **A quotient that is a magnitude has its bits.** -/
theorem nearestBits_exact (hx : x.isFinite = true) (hd : 0 < d) (h : (n : ℚ) / d = |x.toRat|) :
    nearestBits n d = x.magnitudeBits := by
  have hbits := x.magnitudeBits_eq
  rw [abs_toRat] at h
  rcases Nat.eq_zero_or_pos n with rfl | hn
  · have hunit : (2 : ℚ) ^ x.exponent ≠ 0 := zpow_ne_zero _ two_ne_zero
    have hzero : x.significand = 0 := by
      rw [Nat.cast_zero, zero_div, eq_comm, mul_eq_zero, or_iff_left hunit] at h
      exact_mod_cast h
    have hleast := x.canonical.full
    rw [hzero] at hbits hleast
    rw [nearestBits, if_pos rfl, ← hbits, hleast.resolve_left (by decide)]
    rfl
  · have hsignificand : ((n * Nat.pow 2 (-x.exponent).toNat : Nat) : ℚ) /
        (d * Nat.pow 2 x.exponent.toNat : Nat) = x.significand := by
      have hquotient := shifted_quotient two_pos n d (-x.exponent)
      rw [neg_neg] at hquotient
      refine hquotient.trans ?_
      rw [h, Nat.cast_ofNat, mul_assoc, ← zpow_add₀ two_ne_zero, add_neg_cancel, zpow_zero,
        mul_one]
    have hden : 0 < d * Nat.pow 2 x.exponent.toNat := Nat.mul_pos hd (Nat.two_pow_pos _)
    rw [nearestBits, if_neg hn.ne']
    dsimp only
    rw [place_eq x.canonical hn hd h, divNearest_of_quotient_eq hden hsignificand, hbits]
    exact Nat.min_eq_left (lt_infinityBits hx).le

/-- **Rounding the magnitude of a finite number changes nothing.** -/
theorem toRat_ofRatio (negative : Bool) (hx : x.isFinite = true) (hd : 0 < d)
    (h : (n : ℚ) / d = |x.toRat|) :
    (ofRatio negative n d).isFinite = true
      ∧ (ofRatio negative n d).toRat = (if negative then -1 else 1) * |x.toRat| := by
  rw [ofRatio, nearestBits_exact hx hd h, isFinite_ofMagnitudeBits, toRat_ofMagnitudeBits]
  exact ⟨hx, rfl⟩

/-! ## Whole numbers -/

theorem ratio_pos (x : Binary64) : 0 < x.ratio.2 :=
  Nat.two_pow_pos _

theorem ratio_quotient (x : Binary64) : (x.ratio.1 : ℚ) / x.ratio.2 = |x.toRat| := by
  have hquotient := shifted_quotient two_pos x.significand 1 x.exponent
  rw [Nat.one_mul, Nat.cast_one, div_one, Nat.cast_ofNat, ← abs_toRat] at hquotient
  exact hquotient

/-- The sign and the magnitude of a whole number make the number. -/
theorem toRat_eq_natCast_iff (k : Nat) :
    |x.toRat| = k ↔ x.toRat = ((if x.negative then -(k : Int) else k : Int) : ℚ) := by
  cases hsign : x.negative with
  | true => simp [abs_of_nonpos (toRat_nonpos hsign), neg_eq_iff_eq_neg]
  | false => simp [abs_of_nonneg (toRat_nonneg hsign)]

theorem abs_toRat_of_eq {v : Int} (hv : x.toRat = v) : |x.toRat| = v.natAbs := by
  rw [hv, ← Int.cast_abs, Int.abs_eq_natAbs, Int.cast_natCast]

/-- **A number is read as a whole number if it is finite and stands for it.** -/
theorem toInt?_eq_some_iff {v : Int} :
    x.toInt? = some v ↔ x.isFinite = true ∧ x.toRat = v := by
  have hquotient := x.ratio_quotient
  have hpos : (x.ratio.2 : ℚ) ≠ 0 := by exact_mod_cast x.ratio_pos.ne'
  rw [toInt?]
  dsimp only
  constructor
  · intro h
    split at h
    · next hwhole =>
      obtain ⟨hfinite, hmod⟩ : x.isFinite = true ∧ x.ratio.1 % x.ratio.2 = 0 := by
        simpa using hwhole
      obtain rfl := Option.some.inj h
      refine ⟨hfinite, (toRat_eq_natCast_iff _).mp ?_⟩
      rw [← hquotient, Nat.cast_div (Nat.dvd_of_mod_eq_zero hmod) hpos]
    · cases h
  · rintro ⟨hfinite, hv⟩
    have hmagnitude : x.ratio.1 = v.natAbs * x.ratio.2 := by
      rw [abs_toRat_of_eq hv, div_eq_iff hpos] at hquotient
      exact_mod_cast hquotient
    have hsigned : v = if x.negative then -(v.natAbs : Int) else v.natAbs := by
      have hrat := (toRat_eq_natCast_iff _).mp (abs_toRat_of_eq hv)
      rw [hv] at hrat
      exact_mod_cast hrat
    rw [hmagnitude, Nat.mul_mod_left, Nat.mul_div_cancel _ x.ratio_pos, hfinite]
    exact congrArg some hsigned.symm

/-- **A whole number that some number stands for is not rounded.** -/
theorem toRat_ofInt {v : Int} (hx : x.isFinite = true) (hv : x.toRat = v) :
    (ofInt v).isFinite = true ∧ (ofInt v).toRat = v := by
  have hquotient : (v.natAbs : ℚ) / (1 : Nat) = |x.toRat| := by
    rw [Nat.cast_one, div_one, abs_toRat_of_eq hv]
  obtain ⟨hfinite, hrat⟩ := toRat_ofRatio (decide (v < 0)) hx one_pos hquotient
  refine ⟨hfinite, hrat.trans ?_⟩
  rw [hv]
  by_cases hneg : v < 0
  · have hcast : (v : ℚ) < 0 := Int.cast_lt_zero.mpr hneg
    rw [decide_eq_true hneg, if_pos rfl, abs_of_neg hcast, neg_one_mul, neg_neg]
  · have hcast : (0 : ℚ) ≤ v := Int.cast_nonneg (not_lt.mp hneg)
    rw [decide_eq_false hneg, if_neg Bool.false_ne_true, abs_of_nonneg hcast, one_mul]

end Dialogue.Binary64
