import Dialogue.Binary64.Rounding

/-!
# Whole numbers that are exact

A double has 53 bits for its significand. So the whole numbers of at most that many bits, and the
next one, are doubles themselves: nothing is lost by rounding (`toInt?_ofInt`).
-/

namespace Dialogue.Binary64

theorem divNearest_mul (k : Nat) {d : Nat} (hd : 0 < d) : divNearest (k * d) d = k := by
  have hzero : ¬ (d < 0 ∨ 0 = d ∧ k % 2 = 1) := by omega
  rw [divNearest, Nat.mul_div_cancel k hd, Nat.mul_mod_left]
  simpa using hzero

theorem divNearest_one (n : Nat) : divNearest n 1 = n := by
  have hone := divNearest_mul n Nat.one_pos
  rwa [Nat.mul_one] at hone

theorem floorLog2_one {n : Nat} (hn : n ≠ 0) : floorLog2 n 1 = n.log2 := by
  have hlog : Nat.log2 1 = 0 := by decide
  have hle : ¬ n < Nat.pow 2 n.log2 := Nat.not_lt.mpr (Nat.log2_self_le hn)
  rw [floorLog2, hlog, if_neg]
  · omega
  · simpa using hle

/-- A significand, moved up to 53 bits. -/
theorem significand_bounds {n : Nat} (hn : n ≠ 0) (hlog : n.log2 ≤ 52) :
    Nat.pow 2 52 ≤ n * Nat.pow 2 (52 - n.log2) ∧ n * Nat.pow 2 (52 - n.log2) < Nat.pow 2 53 := by
  have hlow : Nat.pow 2 n.log2 ≤ n := Nat.log2_self_le hn
  have hhigh : n < Nat.pow 2 (n.log2 + 1) := Nat.lt_log2_self
  have hpos : 0 < Nat.pow 2 (52 - n.log2) := Nat.two_pow_pos _
  have hsum : n.log2 + (52 - n.log2) = 52 := by omega
  have hsum' : n.log2 + 1 + (52 - n.log2) = 53 := by omega
  constructor
  · calc Nat.pow 2 52 = Nat.pow 2 n.log2 * Nat.pow 2 (52 - n.log2) :=
          (congrArg (Nat.pow 2) hsum.symm).trans (Nat.pow_add 2 n.log2 _)
      _ ≤ n * Nat.pow 2 (52 - n.log2) := Nat.mul_le_mul_right _ hlow
  · calc n * Nat.pow 2 (52 - n.log2) < Nat.pow 2 (n.log2 + 1) * Nat.pow 2 (52 - n.log2) :=
          Nat.mul_lt_mul_of_pos_right hhigh hpos
      _ = Nat.pow 2 53 :=
          (Nat.pow_add 2 (n.log2 + 1) _).symm.trans (congrArg (Nat.pow 2) hsum')

/-- The bits of a number of at most 53 bits: the place of its leading bit, and its significand. -/
theorem nearestBits_eq {n : Nat} (hn : n ≠ 0) (hlog : n.log2 ≤ 52) :
    nearestBits n 1 = (n.log2 + 1022) * Nat.pow 2 52 + n * Nat.pow 2 (52 - n.log2) := by
  have hbound := (significand_bounds hn hlog).2
  have hq : max ((n.log2 : Int) - 52) (-1074) = (n.log2 : Int) - 52 := by omega
  have hdown : (-((n.log2 : Int) - 52)).toNat = 52 - n.log2 := by omega
  have hup : ((n.log2 : Int) - 52).toNat = 0 := by omega
  have hplace : ((n.log2 : Int) - 52 + 1074).toNat = n.log2 + 1022 := by omega
  have hone : (1 : Nat) * Nat.pow 2 0 = 1 := rfl
  rw [nearestBits, if_neg hn, floorLog2_one hn]
  dsimp only
  rw [hq, hdown, hup, hplace, hone, divNearest_one, Nat.min_eq_left]
  have hlimit : infinityBits = 9218868437227405312 := rfl
  have hunit : Nat.pow 2 52 = 4503599627370496 := rfl
  have hdouble : Nat.pow 2 53 = 9007199254740992 := rfl
  rw [hdouble] at hbound
  rw [hlimit, hunit]
  omega

theorem toNat_ofMagnitudeBits (negative : Bool) {bits : Nat} (h : bits < Nat.pow 2 63) :
    (ofMagnitudeBits negative bits).bits.toNat =
      (if negative then Nat.pow 2 63 else 0) + bits := by
  have hsign : Nat.pow 2 63 = 9223372036854775808 := rfl
  rw [hsign] at h ⊢
  cases negative with
  | false => exact (UInt64.toNat_ofNat_of_lt' (Nat.lt_trans h (by decide))).trans (by simp)
  | true =>
      refine UInt64.toNat_ofNat_of_lt' ?_
      have hsize : UInt64.size = 18446744073709551616 := rfl
      rw [if_pos rfl, hsign, hsize]
      omega

theorem negative_ofMagnitudeBits (negative : Bool) {bits : Nat} (h : bits < Nat.pow 2 63) :
    (ofMagnitudeBits negative bits).negative = negative := by
  rw [Binary64.negative, toNat_ofMagnitudeBits negative h]
  have hsign : Nat.pow 2 63 = 9223372036854775808 := rfl
  rw [hsign] at h ⊢
  cases negative <;> simp <;> omega

theorem magnitudeBits_ofMagnitudeBits (negative : Bool) {bits : Nat} (h : bits < Nat.pow 2 63) :
    (ofMagnitudeBits negative bits).magnitudeBits = bits := by
  rw [magnitudeBits, toNat_ofMagnitudeBits negative h]
  cases negative with
  | false => rw [if_neg Bool.false_ne_true, Nat.zero_add, Nat.mod_eq_of_lt h]
  | true => rw [if_pos rfl, Nat.add_mod_left, Nat.mod_eq_of_lt h]

/-- A normal number has the value of its significand at its place. -/
theorem toInt?_ofMagnitudeBits (negative : Bool) {shift significand n : Nat} (hshift : shift ≤ 52)
    (hlow : Nat.pow 2 52 ≤ significand) (hhigh : significand < Nat.pow 2 53)
    (hn : significand = n * Nat.pow 2 shift) :
    (ofMagnitudeBits negative ((1074 - shift) * Nat.pow 2 52 + significand)).toInt? =
      some (if negative then -(n : Int) else n) := by
  have hunit : Nat.pow 2 52 = 4503599627370496 := rfl
  have hdouble : Nat.pow 2 53 = 9007199254740992 := rfl
  have hsign : Nat.pow 2 63 = 9223372036854775808 := rfl
  have hbits : (1074 - shift) * Nat.pow 2 52 + significand < Nat.pow 2 63 := by
    rw [hdouble] at hhigh
    rw [hunit, hsign]
    omega
  have hnegative := negative_ofMagnitudeBits negative hbits
  have hmagnitude := magnitudeBits_ofMagnitudeBits negative hbits
  generalize ofMagnitudeBits negative ((1074 - shift) * Nat.pow 2 52 + significand) = x at *
  have hfield : x.field = 1075 - shift := by
    rw [field, hmagnitude, hunit]
    rw [hunit] at hlow
    rw [hdouble] at hhigh
    omega
  have hfraction : Nat.pow 2 52 + x.fraction = significand := by
    rw [fraction, hmagnitude, hunit]
    rw [hunit] at hlow
    rw [hdouble] at hhigh
    omega
  have hsignificand : x.significand = significand := by
    rw [Binary64.significand, if_neg (by omega), hfraction]
  have hexponent : x.exponent = -(shift : Int) := by
    rw [exponent, hfield]
    omega
  have hratio : x.ratio = (significand, Nat.pow 2 shift) := by
    have hup : (-(shift : Int)).toNat = 0 := by omega
    have hdown : (- -(shift : Int)).toNat = shift := by omega
    rw [ratio, hsignificand, hexponent, hup, hdown]
    exact congrArg (·, _) (Nat.mul_one _)
  have hfinite : x.isFinite = true := by
    rw [isFinite, hfield, bne_iff_ne]
    omega
  have hpos : 0 < Nat.pow 2 shift := Nat.two_pow_pos shift
  rw [toInt?, hratio]
  dsimp only
  rw [hfinite, hn, Nat.mul_mod_left, Nat.mul_div_cancel n hpos, hnegative]
  rfl

/-- **A whole number of magnitude up to `2 ^ 53` is a double itself.** -/
theorem toInt?_ofInt {i : Int} (hi : i.natAbs ≤ Nat.pow 2 53) : (ofInt i).toInt? = some i := by
  have hsign (i : Int) : (if decide (i < 0) = true then -(i.natAbs : Int) else i.natAbs) = i := by
    by_cases hneg : i < 0
    · rw [if_pos (decide_eq_true hneg)]
      omega
    · rw [if_neg (fun h => hneg (of_decide_eq_true h))]
      omega
  by_cases hzero : i.natAbs = 0
  · obtain rfl := Int.natAbs_eq_zero.mp hzero
    decide +kernel
  by_cases htop : i.natAbs = Nat.pow 2 53
  · rcases Int.natAbs_eq i with h | h <;> rw [h, htop] <;> decide +kernel
  have hlog : i.natAbs.log2 ≤ 52 :=
    Nat.le_of_lt_succ ((Nat.log2_lt hzero).mpr (Nat.lt_of_le_of_ne hi htop))
  obtain ⟨hlow, hhigh⟩ := significand_bounds hzero hlog
  have hplace : i.natAbs.log2 + 1022 = 1074 - (52 - i.natAbs.log2) := by omega
  rw [ofInt, ofRatio, nearestBits_eq hzero hlog, hplace,
    toInt?_ofMagnitudeBits _ (Nat.sub_le ..) hlow hhigh rfl, hsign]

end Dialogue.Binary64
