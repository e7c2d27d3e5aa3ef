import Dialogue.Binary64.Numeral
import Dialogue.Proofs.Binary64.Overflow
import Dialogue.Proofs.Text.Digits

/-!
# Which texts are numerals

The decimal numerals, told by what they are made of and how it is put together (`Numeral.Parts`,
`Numeral.Parts.Spells`), and the rational number that each of them stands for
(`Numeral.Parts.value`). Reading accepts these texts and no others (`parse?_eq_some_iff`).

What is read is not always this number: an exponent far out of range is cut short. Then the text
would have to be very long for the number to come back into the range, so for texts of ordinary
length the nearest number is finite exactly if the numeral stands for a magnitude below the bound
(`isFinite_numeral_iff`).
-/

namespace Dialogue.Numeral

/-- What a numeral is made of. Without an exponent there are no digits of one. -/
structure Parts where
  negative : Bool
  whole : Text
  places : Text
  exponentNegative : Bool
  exponentDigits : Text

variable {p : Parts} {s rest : Text} {n : Numeral}

/-! ## The grammar -/

/-- The ways to write a sign. A plus sign may be left out. -/
def IsSign (negative : Bool) (t : Text) : Prop :=
  if negative then t = ['-'] else t = [] ∨ t = ['+']

/-- The digits before and behind the point. There may be no point if there are none behind it. -/
def IsMantissa (whole places t : Text) : Prop :=
  t = whole ++ '.' :: places ∨ places = [] ∧ t = whole

/-- An exponent, or nothing. -/
def IsExponent (negative : Bool) (digits t : Text) : Prop :=
  (∃ letter sign, letter ∈ ['e', 'E'] ∧ IsSign negative sign ∧ digits ≠ []
      ∧ t = letter :: (sign ++ digits))
    ∨ negative = false ∧ digits = [] ∧ t = []

/-- A text that writes a numeral of these parts, of which the mantissa has a digit at least. -/
structure Parts.Spells (p : Parts) (s : Text) : Prop where
  some_digit : p.whole ++ p.places ≠ []
  whole : ∀ c ∈ p.whole, c.isDigit = true
  places : ∀ c ∈ p.places, c.isDigit = true
  exponentDigits : ∀ c ∈ p.exponentDigits, c.isDigit = true
  text : ∃ sign mantissa exponent, IsSign p.negative sign
    ∧ IsMantissa p.whole p.places mantissa
    ∧ IsExponent p.exponentNegative p.exponentDigits exponent
    ∧ s = sign ++ (mantissa ++ exponent)

/-- A whole number from its sign and its magnitude. -/
def signed (negative : Bool) (n : Nat) : Int :=
  if negative then -n else n

/-- The rational number that a numeral stands for. -/
def Parts.value (p : Parts) : ℚ :=
  (if p.negative then -1 else 1)
    * (Text.decimalValue p.whole + Text.decimalValue p.places / 10 ^ p.places.length)
    * 10 ^ signed p.exponentNegative (Text.decimalValue p.exponentDigits)

/-! ## Reading -/

/-- What is read of a numeral of these parts. -/
def Parts.numeral (p : Parts) : Numeral :=
  ⟨p.negative, Text.toNat (p.whole ++ p.places),
    signed p.exponentNegative (exponentValue p.exponentDigits) - p.places.length⟩

theorem takeSign_sign {negative : Bool} {sign : Text} (h : IsSign negative sign)
    (hrest : ∀ c ∈ rest.head?, c ≠ '+' ∧ c ≠ '-') :
    takeSign (sign ++ rest) = (negative, rest) := by
  cases negative with
  | true =>
      obtain rfl : sign = ['-'] := h
      rfl
  | false =>
      rcases h with rfl | rfl
      · rw [List.nil_append, takeSign]
        · rintro rest' rfl
          exact (hrest _ rfl).2 rfl
        · rintro rest' rfl
          exact (hrest _ rfl).1 rfl
      · rfl

theorem exists_sign (s : Text) :
    ∃ sign, IsSign (takeSign s).1 sign ∧ s = sign ++ (takeSign s).2 := by
  unfold takeSign
  split
  · exact ⟨['-'], rfl, rfl⟩
  · exact ⟨['+'], .inr rfl, rfl⟩
  · exact ⟨[], .inl rfl, rfl⟩

theorem not_sign_of_isDigit {c : Char} (h : c.isDigit = true) : c ≠ '+' ∧ c ≠ '-' := by
  constructor <;> (rintro rfl; exact absurd h (by decide))

theorem IsExponent.head {negative : Bool} {digits t : Text} (h : IsExponent negative digits t) :
    ∀ c ∈ t.head?, c = 'e' ∨ c = 'E' := by
  rcases h with ⟨letter, sign, hletter, -, -, rfl⟩ | ⟨-, -, rfl⟩
  · rintro c ⟨⟩
    simpa using hletter
  · nofun

theorem splitMantissa_mantissa {whole places mantissa : Text} (h : IsMantissa whole places mantissa)
    (hwhole : ∀ c ∈ whole, c.isDigit = true) (hplaces : ∀ c ∈ places, c.isDigit = true)
    (hrest : ∀ c ∈ rest.head?, c = 'e' ∨ c = 'E') :
    splitMantissa (mantissa ++ rest) = (whole, places, rest) := by
  have hdigit : ∀ c ∈ rest.head?, c.isDigit = false := by
    intro c hc
    rcases hrest c hc with rfl | rfl <;> rfl
  rcases h with rfl | ⟨rfl, rfl⟩
  · rw [List.append_assoc, splitMantissa, Text.spanDigits_digits hwhole (by rintro c ⟨⟩; rfl)]
    simp only [List.cons_append, Text.spanDigits_digits hplaces hdigit]
  · rw [splitMantissa, Text.spanDigits_digits hwhole hdigit]
    dsimp only
    split
    · exact absurd (hrest '.' rfl) (by decide)
    · rfl

theorem exponent?_exponent {negative : Bool} {digits t : Text} (h : IsExponent negative digits t)
    (hdigits : ∀ c ∈ digits, c.isDigit = true) :
    exponent? t = some (signed negative (exponentValue digits)) := by
  rcases h with ⟨letter, sign, hletter, hsign, hne, rfl⟩ | ⟨rfl, rfl, rfl⟩
  · have hhead : ∀ c ∈ digits.head?, c ≠ '+' ∧ c ≠ '-' := fun c hc =>
      not_sign_of_isDigit (hdigits c (List.mem_of_head? hc))
    rw [exponent?, if_pos (by simpa using hletter), takeSign_sign hsign hhead]
    dsimp only
    rw [if_pos ⟨hne, List.all_eq_true.mpr hdigits⟩]
    rfl
  · rfl

theorem exists_exponent {e : Int} (h : exponent? s = some e) :
    ∃ negative digits, IsExponent negative digits s ∧ (∀ c ∈ digits, c.isDigit = true)
      ∧ e = signed negative (exponentValue digits) := by
  cases s with
  | nil => exact ⟨false, [], .inr ⟨rfl, rfl, rfl⟩, nofun, (Option.some.inj h).symm⟩
  | cons letter rest =>
      rw [exponent?] at h
      split at h
      · next hletter =>
        obtain ⟨sign, hsign, hrest⟩ := exists_sign rest
        dsimp only at h
        split at h
        · next hdigits =>
          refine ⟨_, _, .inl ⟨letter, sign, by simpa using hletter, hsign, hdigits.1, ?_⟩,
            List.all_eq_true.mp hdigits.2, (Option.some.inj h).symm⟩
          exact congrArg _ hrest
        · cases h
      · cases h

theorem exists_mantissa (s : Text) :
    let (whole, places, rest) := splitMantissa s
    ∃ mantissa, IsMantissa whole places mantissa ∧ (∀ c ∈ whole, c.isDigit = true)
      ∧ (∀ c ∈ places, c.isDigit = true) ∧ s = mantissa ++ rest := by
  have hdigits (t : Text) : ∀ c ∈ (Text.spanDigits t).1, c.isDigit = true := fun c hc =>
    List.mem_takeWhile_imp hc
  have hwhole := Text.spanDigits_append s
  unfold splitMantissa
  dsimp only
  split
  · next rest hrest =>
    have hplaces := Text.spanDigits_append rest
    refine ⟨_, .inl rfl, hdigits s, hdigits rest, ?_⟩
    rw [List.append_assoc, List.cons_append, hplaces, ← hrest, hwhole]
  · exact ⟨_, .inr ⟨rfl, rfl⟩, hdigits s, nofun, hwhole.symm⟩

/-- A mantissa begins with a digit or a point, so the sign ends where it should. -/
theorem Parts.Spells.head (h : p.Spells s) {mantissa exponent : Text}
    (hmantissa : IsMantissa p.whole p.places mantissa) :
    ∀ c ∈ (mantissa ++ exponent).head?, c ≠ '+' ∧ c ≠ '-' := by
  intro c hc
  have hsome := h.some_digit
  have hdigits := h.whole
  cases hwhole : p.whole with
  | cons c' digits =>
      rw [hwhole] at hdigits hmantissa
      have hc' := not_sign_of_isDigit (hdigits c' List.mem_cons_self)
      rcases hmantissa with rfl | ⟨-, rfl⟩ <;> (obtain rfl := Option.some.inj hc; exact hc')
  | nil =>
      rw [hwhole] at hmantissa hsome
      rcases hmantissa with rfl | ⟨hnone, -⟩
      · obtain rfl := Option.some.inj hc
        decide
      · exact absurd hnone hsome

/-- The parts of a numeral, as reading takes them one by one. -/
theorem Parts.Spells.taken (h : p.Spells s) :
    ∃ rest exponent, takeSign s = (p.negative, rest)
      ∧ splitMantissa rest = (p.whole, p.places, exponent)
      ∧ IsExponent p.exponentNegative p.exponentDigits exponent := by
  obtain ⟨sign, mantissa, exponent, hsign, hmantissa, hexponent, rfl⟩ := h.text
  exact ⟨_, exponent, takeSign_sign hsign (h.head hmantissa),
    splitMantissa_mantissa hmantissa h.whole h.places hexponent.head, hexponent⟩

/-- **Exactly the numerals are read.** -/
theorem parse?_eq_some_iff : parse? s = some n ↔ ∃ p : Parts, p.Spells s ∧ n = p.numeral := by
  constructor
  · intro h
    obtain ⟨sign, hsign, hs⟩ := exists_sign s
    obtain ⟨mantissa, hmantissa, hwhole, hplaces, hrest⟩ := exists_mantissa (takeSign s).2
    unfold parse? at h
    dsimp only at h
    split at h
    · cases h
    · next hsome =>
      obtain ⟨e, he, rfl⟩ := Option.map_eq_some_iff.mp h
      obtain ⟨negative, digits, hexponent, hdigits, rfl⟩ := exists_exponent he
      refine ⟨⟨(takeSign s).1, _, _, negative, digits⟩,
        ⟨hsome, hwhole, hplaces, hdigits, sign, mantissa, _, hsign, hmantissa, hexponent, ?_⟩, rfl⟩
      exact hs.trans (congrArg _ hrest)
  · rintro ⟨p, hp, rfl⟩
    obtain ⟨rest, exponent, hsign, hmantissa, hexponent⟩ := hp.taken
    rw [parse?, hsign]
    dsimp only
    rw [hmantissa]
    dsimp only
    rw [if_neg hp.some_digit, exponent?_exponent hexponent hp.exponentDigits]
    rfl

theorem IsExponent.unique {negative negative' : Bool} {digits digits' t : Text}
    (h : IsExponent negative digits t) (hdigits : ∀ c ∈ digits, c.isDigit = true)
    (h' : IsExponent negative' digits' t) (hdigits' : ∀ c ∈ digits', c.isDigit = true) :
    negative = negative' ∧ digits = digits' := by
  have hhead {digits : Text} (hdigits : ∀ c ∈ digits, c.isDigit = true) :
      ∀ c ∈ digits.head?, c ≠ '+' ∧ c ≠ '-' := fun c hc =>
    not_sign_of_isDigit (hdigits c (List.mem_of_head? hc))
  rcases h with ⟨letter, sign, -, hsign, -, rfl⟩ | ⟨rfl, rfl, rfl⟩
  · rcases h' with ⟨letter', sign', -, hsign', -, heq⟩ | ⟨-, -, heq⟩
    · obtain ⟨-, heq⟩ := List.cons.inj heq
      have htaken := takeSign_sign hsign (hhead hdigits)
      rw [heq, takeSign_sign hsign' (hhead hdigits')] at htaken
      exact ⟨(congrArg Prod.fst htaken).symm, (congrArg Prod.snd htaken).symm⟩
    · cases heq
  · rcases h' with ⟨letter', sign', -, -, -, heq⟩ | ⟨rfl, rfl, -⟩
    · cases heq
    · exact ⟨rfl, rfl⟩

/-- **A text has the parts of one numeral at most.** -/
theorem Parts.Spells.unique {q : Parts} (hp : p.Spells s) (hq : q.Spells s) : p = q := by
  obtain ⟨rest, exponent, hsign, hmantissa, hexponent⟩ := hp.taken
  obtain ⟨rest', exponent', hsign', hmantissa', hexponent'⟩ := hq.taken
  obtain ⟨hnegative, rfl⟩ := Prod.mk.inj (hsign.symm.trans hsign')
  obtain ⟨hwhole, hrest⟩ := Prod.mk.inj (hmantissa.symm.trans hmantissa')
  obtain ⟨hplaces, rfl⟩ := Prod.mk.inj hrest
  obtain ⟨hexponentNegative, hexponentDigits⟩ :=
    hexponent.unique hp.exponentDigits hexponent' hq.exponentDigits
  cases p
  cases q
  simp only at *
  subst hnegative hwhole hplaces hexponentNegative hexponentDigits
  rfl

/-- The characters of numerals. -/
theorem Parts.Spells.chars (h : p.Spells s) :
    ∀ c ∈ s, c.isDigit = true ∨ c ∈ ['+', '-', '.', 'e', 'E'] := by
  have hsigns {negative : Bool} {sign : Text} (hsign : IsSign negative sign) :
      ∀ c ∈ sign, c ∈ ['+', '-', '.', 'e', 'E'] := by
    cases negative with
    | true =>
        obtain rfl : sign = ['-'] := hsign
        simp
    | false => rcases hsign with rfl | rfl <;> simp
  obtain ⟨sign, mantissa, exponent, hsign, hmantissa, hexponent, rfl⟩ := h.text
  intro c hc
  rcases List.mem_append.mp hc with hc | hc
  · exact .inr (hsigns hsign c hc)
  rcases List.mem_append.mp hc with hc | hc
  · rcases hmantissa with rfl | ⟨-, rfl⟩
    · rcases List.mem_append.mp hc with hc | hc
      · exact .inl (h.whole c hc)
      · rcases List.mem_cons.mp hc with rfl | hc
        · exact .inr (by decide)
        · exact .inl (h.places c hc)
    · exact .inl (h.whole c hc)
  · rcases hexponent with ⟨letter, sign', hletter, hsign', -, rfl⟩ | ⟨-, -, rfl⟩
    · rcases List.mem_cons.mp hc with rfl | hc
      · exact .inr (List.mem_append_right ['+', '-', '.'] hletter)
      · rcases List.mem_append.mp hc with hc | hc
        · exact .inr (hsigns hsign' c hc)
        · exact .inl (h.exponentDigits c hc)
    · cases hc

/-! ## Exponents out of range -/

theorem exponentValue_stops {digits : Text} {n : Nat} (h : 65536 ≤ n) :
    digits.foldl (fun n c => if n < 0x10000 then 10 * n + Text.digitValue c else n) n = n := by
  induction digits with
  | nil => rfl
  | cons c digits ih => rw [List.foldl_cons, if_neg (Nat.not_lt.mpr h), ih]

/-- An exponent is read as its value, unless both are far out of range. -/
theorem exponentValue_cases (digits : Text) :
    exponentValue digits = Text.decimalValue digits
      ∨ 65536 ≤ exponentValue digits ∧ 65536 ≤ Text.decimalValue digits := by
  rw [← Text.toNat_eq_decimalValue, exponentValue, Text.toNat]
  generalize 0 = n
  induction digits generalizing n with
  | nil => exact .inl rfl
  | cons c digits ih =>
      by_cases h : n < 0x10000
      · rw [List.foldl_cons, if_pos h]
        exact ih _
      · have hgrows : 65536 ≤ Nat.ofDigitChars 10 (c :: digits) n := by
          rw [Text.ofDigitChars_eq]
          exact Nat.le_add_right_of_le (le_trans (Nat.not_lt.mp h)
            (Nat.le_mul_of_pos_left _ (Nat.pow_pos (by decide))))
        rw [exponentValue_stops (Nat.not_lt.mp h)]
        exact .inr ⟨Nat.not_lt.mp h, hgrows⟩

/-! ## Magnitudes -/

/-- The nearest number is finite if the numeral's magnitude is below the bound. -/
theorem isFinite_nearest_iff (n : Numeral) :
    n.nearest.isFinite = true ↔ (n.coefficient : ℚ) * 10 ^ n.exponent < Binary64.overflowBound := by
  have hquotient := Binary64.shifted_quotient (show 0 < 10 by decide) n.coefficient 1 n.exponent
  rw [Nat.one_mul, Nat.cast_one, div_one, Nat.cast_ofNat] at hquotient
  rw [← hquotient]
  exact Binary64.isFinite_ofRatio_iff n.negative (Nat.pow_pos (by decide))

theorem one_le_overflowBound : 1 ≤ Binary64.overflowBound :=
  le_trans (one_le_zpow₀ one_le_two (by decide)) Binary64.overflowBound_bounds.1

/-- A magnitude of at least `10 ^ 1024` is too large. -/
theorem not_lt_of_large {c : Nat} {e : Int} (hc : c ≠ 0) (he : 1024 ≤ e) :
    ¬ (c : ℚ) * 10 ^ e < Binary64.overflowBound := by
  have hc' : (1 : ℚ) ≤ c := by exact_mod_cast Nat.pos_of_ne_zero hc
  rw [not_lt]
  calc Binary64.overflowBound ≤ 2 ^ (1024 : ℤ) := Binary64.overflowBound_bounds.2.le
    _ ≤ 10 ^ (1024 : ℤ) := zpow_le_zpow_left₀ (by decide) (by norm_num) (by norm_num)
    _ ≤ 10 ^ e := zpow_le_zpow_right₀ (by norm_num) he
    _ ≤ c * 10 ^ e := le_mul_of_one_le_left (by positivity) hc'

/-- A coefficient of so many digits is moved behind the point by as many places. -/
theorem lt_of_small {c k : Nat} {e : Int} (hc : c < 10 ^ k) (he : e ≤ -k) :
    (c : ℚ) * 10 ^ e < Binary64.overflowBound := by
  have hc' : (c : ℚ) < 10 ^ k := by exact_mod_cast hc
  refine lt_of_lt_of_le ?_ one_le_overflowBound
  calc (c : ℚ) * 10 ^ e < 10 ^ k * 10 ^ e := by gcongr
    _ ≤ 10 ^ k * 10 ^ (-k : ℤ) := by gcongr; norm_num
    _ = 1 := by rw [zpow_neg, zpow_natCast, mul_inv_cancel₀ (by positivity)]

theorem abs_value (p : Parts) :
    |p.value| = (Text.toNat (p.whole ++ p.places) : ℚ)
      * 10 ^ (signed p.exponentNegative (Text.decimalValue p.exponentDigits)
        - p.places.length) := by
  have hsign : |(if p.negative then -1 else 1 : ℚ)| = 1 := by split <;> norm_num
  have hmantissa : (Text.toNat (p.whole ++ p.places) : ℚ) =
      (Text.decimalValue p.whole + Text.decimalValue p.places / 10 ^ p.places.length)
        * 10 ^ p.places.length := by
    rw [Text.toNat, Nat.ofDigitChars_append, Text.ofDigitChars_eq, ← Text.toNat,
      Text.toNat_eq_decimalValue]
    push_cast
    field_simp
  rw [Parts.value, mul_assoc, abs_mul, hsign, one_mul, abs_of_nonneg (by positivity), hmantissa,
    zpow_sub₀ (by norm_num), zpow_natCast]
  field_simp

/-- **In texts that are not very long, a numeral has a finite nearest number if its value is below
the bound.** -/
theorem isFinite_numeral_iff (hp : p.Spells s) (hs : s.length < 10000) :
    p.numeral.nearest.isFinite = true ↔ |p.value| < Binary64.overflowBound := by
  have hdigits : ∀ c ∈ p.whole ++ p.places, c.isDigit = true := fun c hc =>
    (List.mem_append.mp hc).elim (hp.whole c) (hp.places c)
  have hcoefficient := Text.decimalValue_lt hdigits
  have hlength : (p.whole ++ p.places).length < 10000 := by
    obtain ⟨sign, mantissa, exponent, -, hmantissa, -, rfl⟩ := hp.text
    rcases hmantissa with rfl | ⟨hnone, rfl⟩
    · simp only [List.length_append, List.length_cons] at hs ⊢
      omega
    · simp only [hnone, List.length_append, List.length_nil] at hs ⊢
      omega
  rw [isFinite_nearest_iff, abs_value, Parts.numeral]
  dsimp only
  rw [← Text.toNat_eq_decimalValue] at hcoefficient
  generalize Text.toNat (p.whole ++ p.places) = c at *
  rw [List.length_append] at hcoefficient hlength
  rcases exponentValue_cases p.exponentDigits with heq | ⟨hread, hwritten⟩
  · rw [heq]
  rcases eq_or_ne c 0 with rfl | hc
  · rw [Nat.cast_zero, zero_mul, zero_mul]
  -- Both exponents are out of range, so it does not matter that they differ.
  rw [signed, signed]
  cases p.exponentNegative with
  | true =>
      rw [if_pos rfl, if_pos rfl]
      exact iff_of_true (lt_of_small hcoefficient (by omega)) (lt_of_small hcoefficient (by omega))
  | false =>
      rw [if_neg Bool.false_ne_true, if_neg Bool.false_ne_true]
      exact iff_of_false (not_lt_of_large hc (by omega)) (not_lt_of_large hc (by omega))

end Dialogue.Numeral
