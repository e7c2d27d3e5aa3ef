import Mathlib.Data.List.TakeWhile
import Mathlib.Data.Nat.Digits.Defs
import Dialogue.Text.Blank
import Dialogue.Text.Decimal

/-!
# What is written in digits

Two pieces of text work on which numbers rest. The value of a run of digits is the sum of its digits
by their places (`decimalValue`); reading the run from the left, ten times over and a digit more,
comes to the same (`toNat_eq_decimalValue`). Without leading zeros there is one run for every
number, and it is how numbers are written (`writesInt_iff`). And what is left of a text without the
blank characters at its ends is told by the text around it (`trim_eq_iff`).
-/

namespace Dialogue.Text

variable {s core : Text}

/-! ## Places -/

/-- The sum of the digits by their places, the last of them being the ones. -/
def decimalValue (digits : Text) : Nat :=
  Nat.ofDigits 10 (digits.map digitValue).reverse

theorem decimalValue_cons (c : Char) (digits : Text) :
    decimalValue (c :: digits) = decimalValue digits + 10 ^ digits.length * digitValue c := by
  rw [decimalValue, List.map_cons, Nat.ofDigits_reverse_cons, List.length_map, decimalValue]

theorem ofDigitChars_eq (digits : Text) (n : Nat) :
    Nat.ofDigitChars 10 digits n = 10 ^ digits.length * n + decimalValue digits := by
  induction digits generalizing n with
  | nil => simp [decimalValue]
  | cons c digits ih =>
      rw [Nat.ofDigitChars_cons, ih, decimalValue_cons, List.length_cons, digitValue]
      ring

/-- **Reading a run of digits from the left gives its value by places.** -/
theorem toNat_eq_decimalValue (digits : Text) : toNat digits = decimalValue digits := by
  rw [toNat, ofDigitChars_eq, Nat.mul_zero, Nat.zero_add]

theorem toNat_of_isDigit {c : Char} (h : c.isDigit = true) : 48 ≤ c.toNat ∧ c.toNat ≤ 57 := by
  simp only [Char.isDigit, Bool.and_eq_true, decide_eq_true_eq, UInt32.le_iff_toNat_le, ge_iff_le]
    at h
  exact h

theorem digitValue_lt {c : Char} (h : c.isDigit = true) : digitValue c < 10 := by
  have hrange := toNat_of_isDigit h
  have hzero : '0'.toNat = 48 := rfl
  rw [digitValue, hzero]
  omega

theorem decimalValue_lt {digits : Text} (h : ∀ c ∈ digits, c.isDigit = true) :
    decimalValue digits < 10 ^ digits.length := by
  have hlt : ∀ d ∈ (digits.map digitValue).reverse, d < 10 := by
    intro d hd
    obtain ⟨c, hc, rfl⟩ := List.mem_map.mp (List.mem_reverse.mp hd)
    exact digitValue_lt (h c hc)
  have hbound := Nat.ofDigits_lt_base_pow_length (by decide) hlt
  rwa [List.length_reverse, List.length_map] at hbound

/-! ## Whole numbers -/

/-- The number in digits, without leading zeros. -/
structure WritesNat (n : Nat) (s : Text) : Prop where
  ne_nil : s ≠ []
  digits : ∀ c ∈ s, c.isDigit = true
  value : decimalValue s = n
  head : s.head? = some '0' → s = ['0']

/-- The number in digits, behind a minus sign if it is negative. -/
def WritesInt (i : Int) (s : Text) : Prop :=
  ∃ digits, WritesNat i.natAbs digits ∧ s = if i < 0 then '-' :: digits else digits

theorem head_ofNat {n : Nat} (hn : n ≠ 0) : (ofNat n).head? ≠ some '0' := by
  have hdigit : ∀ n < 10, n ≠ 0 → [Nat.digitChar n].head? ≠ some '0' := by decide
  induction n using Nat.strongRecOn with
  | ind n ih =>
      rw [ofNat, Nat.toDigits_eq_if (by decide)]
      split
      · next hsmall => exact hdigit n hsmall hn
      · next hlarge =>
        have hhead := ih (n / 10) (by omega) (by omega)
        rw [List.head?_append, ← ofNat]
        cases hdigits : ofNat (n / 10) with
        | nil => exact absurd hdigits Nat.toDigits_ne_nil
        | cons c digits =>
            rw [hdigits] at hhead
            exact hhead

theorem writesNat_ofNat (n : Nat) : WritesNat n (ofNat n) := by
  refine ⟨Nat.toDigits_ne_nil, fun c hc => isDigit_of_mem_ofNat hc, ?_, fun hzero => ?_⟩
  · rw [← toNat_eq_decimalValue, toNat_ofNat]
  · by_cases hn : n = 0
    · rw [hn]
      rfl
    · exact absurd hzero (head_ofNat hn)

theorem digitChar_digitValue {c : Char} (h : c.isDigit = true) :
    Nat.digitChar (digitValue c) = c := by
  have hdigits : ∀ n < 10, (Nat.digitChar n).toNat = 48 + n := by decide
  have hzero : '0'.toNat = 48 := rfl
  have hrange := toNat_of_isDigit h
  have hchar := hdigits _ (digitValue_lt h)
  rw [digitValue, hzero] at hchar ⊢
  exact Char.toNat_inj.mp (by omega)

/-- Only zero begins with a zero. -/
theorem WritesNat.head_iff {n : Nat} (h : WritesNat n s) : s.head? = some '0' ↔ n = 0 := by
  constructor
  · intro hzero
    rw [← h.value, h.head hzero]
    rfl
  · rintro rfl
    obtain ⟨c, rest, rfl⟩ := List.exists_cons_of_ne_nil h.ne_nil
    have hvalue := h.value
    rw [decimalValue_cons, Nat.add_eq_zero_iff, Nat.mul_eq_zero,
      or_iff_right (by positivity)] at hvalue
    rw [List.head?_cons, ← digitChar_digitValue (h.digits c List.mem_cons_self), hvalue.2]
    rfl

/-- A number that is not zero is written in its digits, beginning with the highest place. -/
theorem WritesNat.eq_digits {n : Nat} (h : WritesNat n s) (hn : n ≠ 0) :
    s = (Nat.digits 10 n).reverse.map Nat.digitChar := by
  have hplaces : Nat.digits 10 n = (s.map digitValue).reverse := by
    rw [← h.value, decimalValue]
    refine Nat.digits_ofDigits 10 (by decide) _ (fun d hd => ?_) (fun hne hlast => ?_)
    · obtain ⟨c, hc, rfl⟩ := List.mem_map.mp (List.mem_reverse.mp hd)
      exact digitValue_lt (h.digits c hc)
    · obtain ⟨c, rest, rfl⟩ := List.exists_cons_of_ne_nil h.ne_nil
      simp only [List.map_cons, List.reverse_cons, List.getLast_concat] at hlast
      have hfirst := digitChar_digitValue (h.digits c List.mem_cons_self)
      rw [hlast] at hfirst
      exact hn (h.head_iff.mp (congrArg some hfirst.symm))
  have hback : s.map (Nat.digitChar ∘ digitValue) = s.map id :=
    List.map_congr_left fun c hc => digitChar_digitValue (h.digits c hc)
  rw [hplaces, List.reverse_reverse, List.map_map, hback, List.map_id]

/-- **A number is written in one way.** -/
theorem writesNat_iff {n : Nat} : WritesNat n s ↔ s = ofNat n := by
  refine ⟨fun h => ?_, fun h => h ▸ writesNat_ofNat n⟩
  by_cases hn : n = 0
  · rw [h.head (h.head_iff.mpr hn), hn]
    rfl
  · rw [h.eq_digits hn, ← (writesNat_ofNat n).eq_digits hn]

theorem writesInt_iff {i : Int} : WritesInt i s ↔ s = ofInt i := by
  simp only [WritesInt, writesNat_iff, exists_eq_left, ofInt]

/-! ## Blank characters at the ends -/

/-- The text is this core with blank characters around it, and the core has none at its ends. -/
structure Trims (s core : Text) : Prop where
  around : ∃ front back, s = front ++ (core ++ back)
    ∧ (∀ c ∈ front, isBlank c = true) ∧ ∀ c ∈ back, isBlank c = true
  first : ∀ c ∈ core.head?, isBlank c = false
  last : ∀ c ∈ core.getLast?, isBlank c = false

theorem dropWhile_of_head {p : Char → Bool} (h : ∀ c ∈ s.head?, p c = false) :
    s.dropWhile p = s := by
  cases s with
  | nil => rfl
  | cons c s => exact List.dropWhile_cons_of_neg (by simp [h c rfl])

theorem dropEndWhile_of_getLast {p : Char → Bool} (h : ∀ c ∈ s.getLast?, p c = false) :
    dropEndWhile p s = s := by
  rw [dropEndWhile, dropWhile_of_head (by simpa using h), List.reverse_reverse]

theorem dropEndWhile_append {p : Char → Bool} {back : Text} (h : ∀ c ∈ back, p c = true) :
    dropEndWhile p (s ++ back) = dropEndWhile p s := by
  rw [dropEndWhile, List.reverse_append, List.dropWhile_append_of_pos (by simpa using h),
    dropEndWhile]

theorem exists_dropEndWhile (p : Char → Bool) (s : Text) :
    ∃ back, s = dropEndWhile p s ++ back ∧ ∀ c ∈ back, p c = true := by
  refine ⟨(s.reverse.takeWhile p).reverse, ?_, fun c hc => ?_⟩
  · rw [dropEndWhile, ← List.reverse_append, List.takeWhile_append_dropWhile, List.reverse_reverse]
  · exact (List.mem_takeWhile_imp (List.mem_reverse.mp hc) :)

theorem not_of_head_dropWhile {p : Char → Bool} : ∀ c ∈ (s.dropWhile p).head?, p c = false := by
  intro c hc
  have hnot := List.head?_dropWhile_not p s
  rw [Option.mem_def.mp hc] at hnot
  exact hnot

/-- **What is left by trimming is told by what stands around it.** -/
theorem trim_eq_iff : trim s = core ↔ Trims s core := by
  constructor
  · rintro rfl
    obtain ⟨back, hback, hblank⟩ := exists_dropEndWhile isBlank (s.dropWhile isBlank)
    refine ⟨⟨s.takeWhile isBlank, back, ?_, fun c hc => List.mem_takeWhile_imp hc, hblank⟩, ?_, ?_⟩
    · rw [trim, ← hback, List.takeWhile_append_dropWhile]
    · -- The core begins what is left after the front, unless there is no core.
      intro c hc
      refine not_of_head_dropWhile (s := s) c ?_
      rw [hback]
      rw [trim] at hc
      rw [Option.mem_def, List.head?_append, Option.mem_def.mp hc, Option.some_or]
    · intro c hc
      rw [trim, dropEndWhile, List.getLast?_reverse] at hc
      exact not_of_head_dropWhile c hc
  · rintro ⟨⟨front, back, rfl, hfront, hback⟩, hfirst, hlast⟩
    rw [trim, List.dropWhile_append_of_pos hfront]
    cases core with
    | nil =>
        rw [List.nil_append, List.dropWhile_eq_nil_iff.mpr hback]
        rfl
    | cons c core =>
        rw [dropWhile_of_head (by simpa using hfirst c rfl), dropEndWhile_append hback,
          dropEndWhile_of_getLast hlast]

theorem trim_of_not_blank (h : ∀ c ∈ s, isBlank c = false) : trim s = s := by
  have haround : s = [] ++ (s ++ []) := (List.append_nil s).symm
  exact trim_eq_iff.mpr ⟨⟨[], [], haround, nofun, nofun⟩,
    fun c hc => h c (List.mem_of_mem_head? hc), fun c hc => h c (List.mem_of_mem_getLast? hc)⟩

theorem isBlank_of_isDigit {c : Char} (h : c.isDigit = true) : isBlank c = false := by
  have hrange := toNat_of_isDigit h
  simp only [isBlank, Bool.or_eq_false_iff, Bool.and_eq_false_iff, decide_eq_false_iff_not,
    beq_eq_false_iff_ne]
  omega

end Dialogue.Text
