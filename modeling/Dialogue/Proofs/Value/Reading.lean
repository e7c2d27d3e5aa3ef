import Dialogue.Proofs.Binary64.Numerals
import Dialogue.Value

/-!
# Which texts read as numbers

A comparison takes a text for a number if the text has a reading. That is so for the decimal
numerals of finite size and for nothing else, blank characters around them aside (`text_reads_iff`).
Names of infinities, hexadecimal digits or separators between digits are no numerals, and numerals
that are too large have no reading either, so a reading is always finite.
-/

namespace Dialogue.Value

open Numeral (Parts)

variable {s : Text}

/-- Below the bound, a text is read as the number nearest to its numeral. -/
theorem asNumber_text_eq_some_iff {x : Binary64} :
    (text s).asNumber = some x ↔
      ∃ p : Parts, p.Spells (Text.trim s) ∧ p.numeral.nearest = x ∧ x.isFinite = true := by
  have hread : (text s).asNumber = some x ↔
      (∃ n, Numeral.parse? (Text.trim s) = some n ∧ n.nearest = x) ∧ x.isFinite = true := by
    rw [asNumber, Option.filter_eq_some_iff, Option.map_eq_some_iff]
  rw [hread]
  constructor
  · rintro ⟨⟨n, hparse, hx⟩, hfinite⟩
    obtain ⟨p, hp, rfl⟩ := Numeral.parse?_eq_some_iff.mp hparse
    exact ⟨p, hp, hx, hfinite⟩
  · rintro ⟨p, hp, hx, hfinite⟩
    exact ⟨⟨_, Numeral.parse?_eq_some_iff.mpr ⟨p, hp, rfl⟩, hx⟩, hfinite⟩

theorem length_trim_le (s : Text) : (Text.trim s).length ≤ s.length := by
  obtain ⟨⟨front, back, hs, -⟩, -⟩ := Text.trim_eq_iff.mp (rfl : Text.trim s = Text.trim s)
  have hlength := congrArg List.length hs
  simp only [List.length_append] at hlength
  omega

/-- **A text has a reading if it is a numeral whose value has a finite nearest number.** The value
of a numeral is exact, and only in very long texts its exponent is beyond what is looked at. -/
theorem text_reads_iff (s : Text) :
    (s.length < 10000 →
      ((text s).asNumber.isSome = true ↔
        ∃ core, Text.Trims s core ∧ ∃! p : Parts, p.Spells core ∧ |p.value| < 2 ^ 1024 - 2 ^ 970))
      ∧ (∀ x, (text s).asNumber = some x → x.isFinite = true ∧ x.isNaN = false)
      ∧ ∀ core, Text.Trims s core →
          (∃ c ∈ core, c.isDigit = false ∧ c ∉ ['+', '-', '.', 'e', 'E']) →
          (text s).asNumber = none := by
  refine ⟨fun hs => ?_, fun x hx => ?_, fun core hcore ⟨c, hc, hdigit, hother⟩ => ?_⟩
  · have hlength : (Text.trim s).length < 10000 := lt_of_le_of_lt (length_trim_le s) hs
    rw [Option.isSome_iff_exists]
    constructor
    · rintro ⟨x, hx⟩
      obtain ⟨p, hp, rfl, hfinite⟩ := asNumber_text_eq_some_iff.mp hx
      exact ⟨_, Text.trim_eq_iff.mp rfl, p,
        ⟨hp, (Numeral.isFinite_numeral_iff hp hlength).mp hfinite⟩,
        fun q hq => hq.1.unique hp⟩
    · rintro ⟨core, hcore, p, ⟨hp, hvalue⟩, -⟩
      obtain rfl := Text.trim_eq_iff.mpr hcore
      have hfinite := (Numeral.isFinite_numeral_iff hp hlength).mpr hvalue
      exact ⟨_, asNumber_text_eq_some_iff.mpr ⟨p, hp, rfl, hfinite⟩⟩
  · obtain ⟨-, -, -, hfinite⟩ := asNumber_text_eq_some_iff.mp hx
    exact ⟨hfinite, Binary64.isNaN_of_isFinite hfinite⟩
  · rw [Option.eq_none_iff_forall_ne_some]
    intro x hx
    obtain ⟨p, hp, -⟩ := asNumber_text_eq_some_iff.mp hx
    rw [Text.trim_eq_iff.mpr hcore] at hp
    rcases hp.chars c hc with hc | hc
    · rw [hdigit] at hc
      cases hc
    · exact hother hc

/-- The least whole number without a finite nearest number. -/
def border : Text :=
  Text.ofNat (Nat.pow 2 1024 - Nat.pow 2 970)

/-- The whole number before it, with a sign and blanks around it. -/
def belowBorder : Text :=
  ' ' :: '-' :: Text.ofNat (Nat.pow 2 1024 - Nat.pow 2 970 - 1) ++ ['\n']

theorem border_reads :
    (∃ core, Text.Trims belowBorder core ∧
        ∃! p : Parts, p.Spells core ∧ |p.value| < 2 ^ 1024 - 2 ^ 970)
      ∧ ¬ (∃ core, Text.Trims border core ∧
        ∃! p : Parts, p.Spells core ∧ |p.value| < 2 ^ 1024 - 2 ^ 970)
      ∧ (∀ x, (text belowBorder).asNumber = some x → x.isFinite = true ∧ x.isNaN = false)
      ∧ (text ['0', 'x', '1']).asNumber = none := by
  have hbelow : belowBorder.length < 10000 ∧ (text belowBorder).asNumber.isSome = true := by
    decide +kernel
  have hborder : border.length < 10000 ∧ (text border).asNumber.isSome = false := by
    decide +kernel
  obtain ⟨hreads, hfinite, -⟩ := text_reads_iff belowBorder
  obtain ⟨hreadsBorder, -⟩ := text_reads_iff border
  obtain ⟨-, -, hother⟩ := text_reads_iff ['0', 'x', '1']
  refine ⟨(hreads hbelow.1).mp hbelow.2, fun h => ?_, hfinite,
    hother _ (Text.trim_eq_iff.mp rfl) ⟨'x', by decide, by decide⟩⟩
  have hsome := (hreadsBorder hborder.1).mpr h
  rw [hborder.2] at hsome
  cases hsome

end Dialogue.Value
