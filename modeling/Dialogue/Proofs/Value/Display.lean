import Dialogue.Proofs.Binary64.Exact
import Dialogue.Proofs.Condition.Comparison
import Dialogue.Proofs.Value.Reading

/-!
# Whole numbers, shown and typed back

A number that stands for a whole number is shown as this number is written (`whole_number_shown`),
and not as a decimal fraction, as long as its magnitude is below `2 ^ 63`. A user who types what was
shown gives a text and not a number. But the text reads as the whole number, with all of its digits,
although most whole numbers of this size are not numbers of 53 bits: this one is, for it was a
number before, and so rounding gives it back (`Binary64.toRat_ofInt`). Both zeros are shown as one,
which reads as the zero with a plus sign, and that is equal to either.
-/

namespace Dialogue

namespace Numeral

variable {i : Int} {digits : Text}

/-- A whole number, as a numeral without point and exponent. -/
def Parts.ofInt (i : Int) : Parts :=
  ⟨decide (i < 0), Text.ofNat i.natAbs, [], false, []⟩

theorem spells_ofInt (i : Int) : (Parts.ofInt i).Spells (Text.ofInt i) := by
  obtain ⟨hne, hdigits, -, -⟩ := Text.writesNat_ofNat i.natAbs
  refine ⟨by simpa [Parts.ofInt] using hne, hdigits, nofun, nofun, ?_⟩
  refine ⟨if i < 0 then ['-'] else [], Text.ofNat i.natAbs, [], ?_, .inr ⟨rfl, rfl⟩,
    .inr ⟨rfl, rfl, rfl⟩, ?_⟩
  · by_cases hneg : i < 0 <;> simp [IsSign, Parts.ofInt, hneg]
  · by_cases hneg : i < 0 <;> simp [Text.ofInt, hneg]

theorem nearest_ofInt (i : Int) : (Parts.ofInt i).numeral.nearest = Binary64.ofInt i := by
  have hmantissa : Text.toNat (Text.ofNat i.natAbs ++ []) = i.natAbs := by
    rw [List.append_nil, Text.toNat_ofNat]
  show Binary64.ofRatio (decide (i < 0)) (Text.toNat (Text.ofNat i.natAbs ++ []) * 1) 1 = _
  rw [hmantissa, Nat.mul_one, Binary64.ofInt]

end Numeral

namespace Value

variable {x : Binary64} {v : Int}

theorem display_whole (hx : x.isFinite = true) (hv : x.toRat = v) (hrange : |v| < 2 ^ 63) :
    display (.number x) = Text.ofInt v := by
  have hsmall : v.natAbs < Nat.pow 2 63 := by
    have hlimit : Nat.pow 2 63 = 9223372036854775808 := rfl
    rw [Int.abs_eq_natAbs] at hrange
    omega
  rw [display, displayNumber, Binary64.toInt?_eq_some_iff.mpr ⟨hx, hv⟩]
  exact if_pos hsmall

theorem chars_ofInt {c : Char} (hc : c ∈ Text.ofInt v) : c = '-' ∨ c.isDigit = true := by
  obtain ⟨digits, hdigits, hs⟩ := Text.writesInt_iff.mpr (rfl : Text.ofInt v = Text.ofInt v)
  rw [hs] at hc
  split at hc
  · exact (List.mem_cons.mp hc).imp id fun hc => hdigits.digits c hc
  · exact .inr (hdigits.digits c hc)

theorem trim_ofInt (v : Int) : Text.trim (Text.ofInt v) = Text.ofInt v := by
  refine Text.trim_of_not_blank fun c hc => ?_
  rcases chars_ofInt hc with rfl | hdigit
  · rfl
  · exact Text.isBlank_of_isDigit hdigit

theorem asNumber_ofInt (hx : x.isFinite = true) (hv : x.toRat = v) :
    (text (Text.ofInt v)).asNumber = some (Binary64.ofInt v) := by
  refine asNumber_text_eq_some_iff.mpr
    ⟨.ofInt v, ?_, Numeral.nearest_ofInt v, (Binary64.toRat_ofInt hx hv).1⟩
  rw [trim_ofInt]
  exact Numeral.spells_ofInt v

/-- **A whole number is shown as it is written, and read back as itself.** What is shown has no
leading zeros, no point and no exponent, and a minus sign only below zero. As a text it has a
reading, and the reading stands for the same whole number; so it is equal to the number that was
shown. -/
theorem whole_number_shown (x : Binary64) (v : Int) (hx : x.isFinite = true) (hv : x.toRat = v)
    (hrange : |v| < 2 ^ 63) :
    (∀ s, Text.WritesInt v s ↔ s = display (.number x))
      ∧ (v = 0 → display (.number x) = ['0'])
      ∧ (∀ c ∈ ['.', 'e', 'E'], c ∉ display (.number x))
      ∧ (∃ y, (text (display (.number x))).asNumber = some y ∧ y.isFinite = true ∧ y.toRat = v)
      ∧ Operator.equal.holds (some (text (display (.number x)))) (.number x) = true
      ∧ Operator.equal.holds (some (.number x)) (text (display (.number x))) = true := by
  obtain ⟨hfinite, hexact⟩ := Binary64.toRat_ofInt hx hv
  have hread := asNumber_ofInt hx hv
  rw [display_whole hx hv hrange]
  have hlevel : Level (text (Text.ofInt v)) (.number x) := by
    refine .numbers ⟨hread, rfl, Binary64.isNaN_of_isFinite hfinite,
      Binary64.isNaN_of_isFinite hx⟩ ?_
    rw [Binary64.value, Binary64.value, if_pos hfinite, if_pos hx, hexact, hv]
  refine ⟨fun s => Text.writesInt_iff, fun hzero => ?_, fun c hc hmem => ?_,
    ⟨_, hread, hfinite, hexact⟩,
    holds_equal_iff.mpr hlevel, holds_equal_iff.mpr hlevel.symm⟩
  · rw [hzero]
    rfl
  · simp only [List.mem_cons, List.not_mem_nil, or_false] at hc
    rcases hc with rfl | rfl | rfl <;> exact absurd (chars_ofInt hmem) (by decide)

/-- The least of the whole numbers in the range, and the zero with a minus sign. -/
theorem edges_shown :
    ((⟨0xC3DFFFFFFFFFFFFF⟩ : Binary64).toRat = (-9223372036854774784 : Int)
        ∧ display (.number ⟨0xC3DFFFFFFFFFFFFF⟩) = "-9223372036854774784".toList
        ∧ ∃ y, (text "-9223372036854774784".toList).asNumber = some y ∧ y.isFinite = true
          ∧ y.toRat = (-9223372036854774784 : Int))
      ∧ (⟨0x8000000000000000⟩ : Binary64).toRat = (0 : Int)
      ∧ display (.number ⟨0x8000000000000000⟩) = ['0']
      ∧ Operator.equal.holds (some (text ['0'])) (.number ⟨0x8000000000000000⟩) = true := by
  obtain ⟨hleast, hleastRat⟩ := Binary64.toInt?_eq_some_iff.mp
    (by decide +kernel : (⟨0xC3DFFFFFFFFFFFFF⟩ : Binary64).toInt? = some (-9223372036854774784))
  obtain ⟨hzero, hzeroRat⟩ := Binary64.toInt?_eq_some_iff.mp
    (by decide +kernel : (⟨0x8000000000000000⟩ : Binary64).toInt? = some 0)
  have hshown : display (.number ⟨0xC3DFFFFFFFFFFFFF⟩) = "-9223372036854774784".toList := by
    decide +kernel
  obtain ⟨-, -, -, hread, -⟩ := whole_number_shown _ _ hleast hleastRat (by decide)
  obtain ⟨-, hnoSign, -, -, hequal, -⟩ := whole_number_shown _ _ hzero hzeroRat (by decide)
  rw [hshown] at hread
  rw [hnoSign rfl] at hequal
  exact ⟨⟨hleastRat, hshown, hread⟩, hzeroRat, hnoSign rfl, hequal⟩

end Value

end Dialogue
