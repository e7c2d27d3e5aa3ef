import Mathlib.Algebra.Order.Field.Power
import Mathlib.Algebra.Order.Ring.Rat
import Mathlib.Tactic.FieldSimp
import Mathlib.Tactic.Linarith
import Mathlib.Tactic.NormNum
import Mathlib.Tactic.Positivity
import Mathlib.Tactic.Ring
import Dialogue.Proofs.Binary64.Whole

/-!
# Where numbers become infinite

Rounding gives an infinity where the quotient is too large for 53 bits below the greatest exponent.
The greatest finite number is `2 ^ 1024 - 2 ^ 971`, and half a place above it the quotients begin
that are rounded up out of the range, for at the half the even neighbour is the one that is too
large. So a quotient has a finite nearest number just below `2 ^ 1024 - 2 ^ 970`
(`isFinite_ofRatio_iff`).
-/

namespace Dialogue.Binary64

variable {n d : Nat}

/-- The least magnitude that is rounded to an infinity. -/
def overflowBound : ℚ :=
  2 ^ 1024 - 2 ^ 970

/-! ## Quotients -/

/-- Moving a power between numerator and denominator multiplies the quotient by it. -/
theorem shifted_quotient {base : Nat} (hbase : 0 < base) (n d : Nat) (e : Int) :
    ((n * base ^ e.toNat : Nat) : ℚ) / (d * base ^ (-e).toNat : Nat) = n / d * (base : ℚ) ^ e := by
  have hne : (base : ℚ) ≠ 0 := Nat.cast_ne_zero.mpr hbase.ne'
  rcases Int.eq_nat_or_neg e with ⟨k, rfl | rfl⟩
  · rw [Int.toNat_natCast, Int.toNat_neg_natCast, zpow_natCast]
    push_cast
    ring
  · rw [Int.toNat_neg_natCast, neg_neg, Int.toNat_natCast, zpow_neg, zpow_natCast]
    push_cast
    field_simp

theorem lt_iff_quotient_lt_one (hd : 0 < d) : n < d ↔ (n : ℚ) / d < 1 := by
  rw [div_lt_one (by exact_mod_cast hd), Nat.cast_lt]

/-- The logarithm of a quotient lies between those of its numerator and its denominator. -/
theorem floorLog2_bounds (hn : 0 < n) (hd : 0 < d) :
    (2 : ℚ) ^ floorLog2 n d ≤ n / d ∧ (n : ℚ) / d < 2 ^ (floorLog2 n d + 1) := by
  have hdpos : (0 : ℚ) < d := by exact_mod_cast hd
  have hnlow : (2 : ℚ) ^ n.log2 ≤ n := by exact_mod_cast Nat.log2_self_le hn.ne'
  have hnhigh : (n : ℚ) < 2 ^ (n.log2 + 1) := by exact_mod_cast Nat.lt_log2_self
  have hdlow : (2 : ℚ) ^ d.log2 ≤ d := by exact_mod_cast Nat.log2_self_le hd.ne'
  have hdhigh : (d : ℚ) < 2 ^ (d.log2 + 1) := by exact_mod_cast Nat.lt_log2_self
  have hlow : (2 : ℚ) ^ ((n.log2 : ℤ) - d.log2 - 1) < n / d := by
    rw [lt_div_iff₀ hdpos]
    calc (2 : ℚ) ^ ((n.log2 : ℤ) - d.log2 - 1) * d
        < 2 ^ ((n.log2 : ℤ) - d.log2 - 1) * 2 ^ (d.log2 + 1) := by gcongr
      _ = 2 ^ n.log2 := by
          rw [← zpow_natCast, ← zpow_natCast, ← zpow_add₀ two_ne_zero]
          congr 1
          push_cast
          ring
      _ ≤ n := hnlow
  have hhigh : (n : ℚ) / d < 2 ^ ((n.log2 : ℤ) - d.log2 + 1) := by
    rw [div_lt_iff₀ hdpos]
    calc (n : ℚ) < 2 ^ (n.log2 + 1) := hnhigh
      _ = 2 ^ ((n.log2 : ℤ) - d.log2 + 1) * 2 ^ d.log2 := by
          rw [← zpow_natCast, ← zpow_natCast, ← zpow_add₀ two_ne_zero]
          congr 1
          push_cast
          ring
      _ ≤ 2 ^ ((n.log2 : ℤ) - d.log2 + 1) * d := by gcongr
  unfold floorLog2
  dsimp only
  generalize (n.log2 : ℤ) - d.log2 = e at *
  -- The guess is right or one too high, and one comparison tells which.
  have hguess : n * Nat.pow 2 (-e).toNat < d * Nat.pow 2 e.toNat ↔ (n : ℚ) / d < 2 ^ e := by
    have hquotient := shifted_quotient two_pos n d (-e)
    rw [neg_neg] at hquotient
    show n * 2 ^ (-e).toNat < d * 2 ^ e.toNat ↔ _
    rw [lt_iff_quotient_lt_one (Nat.mul_pos hd (Nat.two_pow_pos _)), hquotient, Nat.cast_ofNat,
      zpow_neg, ← div_eq_mul_inv, div_lt_one (by positivity)]
  by_cases h : n * Nat.pow 2 (-e).toNat < d * Nat.pow 2 e.toNat
  · rw [if_pos h, sub_add_cancel]
    exact ⟨hlow.le, hguess.mp h⟩
  · rw [if_neg h]
    exact ⟨not_lt.mp (mt hguess.mpr h), hhigh⟩

/-! ## Rounding -/

theorem le_divNearest {k : Nat} (hd : 0 < d) (h : k * d ≤ n) : k ≤ divNearest n d := by
  have hk : k ≤ n / d := (Nat.le_div_iff_mul_le hd).mpr h
  unfold divNearest
  dsimp only
  split <;> omega

theorem divNearest_le {k : Nat} (hd : 0 < d) (h : n < k * d) : divNearest n d ≤ k := by
  have hk : n / d < k := (Nat.div_lt_iff_lt_mul hd).mpr h
  unfold divNearest
  dsimp only
  split <;> omega

/-- Rounding stays at an odd number up to half a place above it; the half itself goes up. -/
theorem divNearest_le_iff {k : Nat} (hd : 0 < d) (hodd : k % 2 = 1) :
    divNearest n d ≤ k ↔ 2 * n < (2 * k + 1) * d := by
  have hsplit : d * (n / d) + n % d = n := Nat.div_add_mod n d
  have hrest : n % d < d := Nat.mod_lt n hd
  rcases Nat.lt_trichotomy (n / d) k with hlt | heq | hgt
  · have hn : n < k * d := (Nat.div_lt_iff_lt_mul hd).mp hlt
    refine iff_of_true (divNearest_le hd hn) ?_
    have hbound : (2 * k + 1) * d = 2 * (k * d) + d := by ring
    omega
  · rw [heq, Nat.mul_comm d k] at hsplit
    have hbound : (2 * k + 1) * d = 2 * (k * d) + d := by ring
    unfold divNearest
    dsimp only
    rw [heq, hbound]
    simp only [Bool.or_eq_true, Bool.and_eq_true, decide_eq_true_eq, beq_iff_eq]
    split <;> omega
  · have hn : (k + 1) * d ≤ n := (Nat.le_div_iff_mul_le hd).mp hgt
    have hbound : (2 * k + 1) * d + d = 2 * ((k + 1) * d) := by ring
    have hnearest := le_divNearest hd hn
    exact iff_of_false (by omega) (by omega)

/-! ## Bits -/

theorem nearestBits_le : nearestBits n d ≤ infinityBits := by
  unfold nearestBits
  split
  · exact Nat.zero_le _
  · exact Nat.min_le_right _ _

/-- A quotient that is moved to a binary place, against a whole number of these places. -/
theorem scaled_lt_iff (hd : 0 < d) (k : Nat) (q : Int) :
    n * Nat.pow 2 (-q).toNat < k * (d * Nat.pow 2 q.toNat) ↔ (n : ℚ) / d < k * 2 ^ q := by
  have hden : (0 : ℚ) < (d * 2 ^ q.toNat : Nat) := by
    exact_mod_cast Nat.mul_pos hd (Nat.two_pow_pos _)
  have hquotient := shifted_quotient two_pos n d (-q)
  rw [neg_neg, Nat.cast_ofNat, zpow_neg, ← div_eq_mul_inv] at hquotient
  show n * 2 ^ (-q).toNat < k * (d * 2 ^ q.toNat) ↔ _
  rw [← div_lt_iff₀ (by positivity : (0 : ℚ) < 2 ^ q), ← hquotient, div_lt_iff₀ hden]
  exact_mod_cast Iff.rfl

theorem overflowBound_eq : overflowBound = (2 ^ 54 - 1) * 2 ^ (970 : ℤ) := by
  have hpow : (2 : ℚ) ^ 1024 = 2 ^ 54 * 2 ^ 970 := pow_add 2 54 970
  rw [overflowBound, hpow, sub_mul, one_mul, zpow_ofNat]

theorem overflowBound_bounds :
    (2 : ℚ) ^ (1023 : ℤ) ≤ overflowBound ∧ overflowBound < 2 ^ (1024 : ℤ) := by
  have hhalf : (2 : ℚ) ^ (1023 : ℤ) = 2 ^ (53 : ℤ) * 2 ^ (970 : ℤ) := zpow_add₀ two_ne_zero 53 970
  have hwhole : (2 : ℚ) ^ (1024 : ℤ) = 2 ^ (54 : ℤ) * 2 ^ (970 : ℤ) := zpow_add₀ two_ne_zero 54 970
  have hunit : (0 : ℚ) < 2 ^ (970 : ℤ) := zpow_pos two_pos _
  rw [overflowBound_eq, hhalf, hwhole]
  generalize (2 : ℚ) ^ (970 : ℤ) = unit at hunit
  exact ⟨by gcongr; norm_num, by gcongr; norm_num⟩

/-- **The nearest number is finite up to half a place above the greatest finite one.** -/
theorem nearestBits_lt_iff (hd : 0 < d) :
    nearestBits n d < infinityBits ↔ (n : ℚ) / d < overflowBound := by
  obtain ⟨hfinite, hinfinite⟩ := overflowBound_bounds
  have hlimit : infinityBits = 2047 * 2 ^ 52 := rfl
  rcases Nat.eq_zero_or_pos n with rfl | hn
  · refine iff_of_true ?_ ?_
    · rw [nearestBits, if_pos rfl]
      decide
    · rw [Nat.cast_zero, zero_div]
      exact lt_of_lt_of_le (by positivity) hfinite
  obtain ⟨hlow, hhigh⟩ := floorLog2_bounds hn hd
  have hmonotone {a b : ℤ} (h : a ≤ b) : (2 : ℚ) ^ a ≤ 2 ^ b := zpow_le_zpow_right₀ one_le_two h
  have hplaces (k : ℕ) (q : ℤ) : ((2 ^ k : ℕ) : ℚ) * 2 ^ q = 2 ^ (k + q) := by
    rw [Nat.cast_pow, Nat.cast_ofNat, ← zpow_natCast, zpow_add₀ two_ne_zero]
  rw [nearestBits, if_neg hn.ne']
  dsimp only
  generalize floorLog2 n d = e at *
  generalize hq : max (e - 52) (-1074) = q
  have hden : 0 < d * Nat.pow 2 q.toNat := Nat.mul_pos hd (Nat.two_pow_pos _)
  have hunit : Nat.pow 2 52 = 2 ^ 52 := rfl
  have hdouble : (2 : ℕ) ^ 53 = 2 * 2 ^ 52 := rfl
  have hmost : divNearest (n * Nat.pow 2 (-q).toNat) (d * Nat.pow 2 q.toNat) ≤ 2 ^ 53 := by
    refine divNearest_le hden ((scaled_lt_iff hd _ q).mpr ?_)
    rw [hplaces]
    exact lt_of_lt_of_le hhigh (hmonotone (by omega))
  have hleast (h : q = e - 52) :
      2 ^ 52 ≤ divNearest (n * Nat.pow 2 (-q).toNat) (d * Nat.pow 2 q.toNat) := by
    refine le_divNearest hden (not_lt.mp (mt (scaled_lt_iff hd _ q).mp (not_lt.mpr ?_)))
    rw [hplaces]
    exact le_trans (hmonotone (by omega)) hlow
  have htop : divNearest (n * Nat.pow 2 (-q).toNat) (d * Nat.pow 2 q.toNat) ≤ 2 ^ 53 - 1 ↔
      (n : ℚ) / d < (2 ^ 54 - 1) * 2 ^ (q - 1) := by
    have htwice := scaled_lt_iff (n := 2 * n) hd (2 * (2 ^ 53 - 1) + 1) q
    rw [Nat.mul_assoc, Nat.cast_mul, Nat.cast_ofNat, mul_div_assoc,
      ← lt_div_iff₀' two_pos] at htwice
    rw [divNearest_le_iff hden (by decide), htwice, zpow_sub_one₀ two_ne_zero, ← mul_assoc]
    norm_num [div_eq_mul_inv]
  generalize divNearest (n * Nat.pow 2 (-q).toNat) (d * Nat.pow 2 q.toNat) = m at *
  rw [hunit, hlimit]
  rcases lt_trichotomy e 1023 with hsmall | rfl | hlarge
  · -- There is room for the greatest significand, and for one more.
    refine iff_of_true (lt_of_le_of_lt (Nat.min_le_left _ _) (by omega)) ?_
    exact lt_of_lt_of_le hhigh (le_trans (hmonotone (by omega)) hfinite)
  · obtain rfl : q = 971 := by omega
    rw [overflowBound_eq]
    refine Iff.trans ?_ htop
    omega
  · refine iff_of_false (not_lt.mpr (Nat.le_min.mpr ⟨by omega, Nat.le_refl _⟩)) (not_lt.mpr ?_)
    exact le_trans hinfinite.le (le_trans (hmonotone (by omega)) hlow)

/-- **A quotient has a finite nearest number just below the bound.** -/
theorem isFinite_ofRatio_iff (negative : Bool) (hd : 0 < d) :
    (ofRatio negative n d).isFinite = true ↔ (n : ℚ) / d < overflowBound := by
  have hle : nearestBits n d ≤ infinityBits := nearestBits_le
  have hlimit : infinityBits = 2047 * 4503599627370496 := rfl
  have hunit : Nat.pow 2 52 = 4503599627370496 := rfl
  have hsign : Nat.pow 2 63 = 9223372036854775808 := rfl
  rw [← nearestBits_lt_iff hd, ofRatio, isFinite, field,
    magnitudeBits_ofMagnitudeBits negative (by omega), bne_iff_ne]
  rw [hlimit] at hle ⊢
  rw [hunit]
  omega

end Dialogue.Binary64
