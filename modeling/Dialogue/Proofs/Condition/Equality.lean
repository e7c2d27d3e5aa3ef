import Dialogue.Proofs.Condition.Comparison

/-!
# Equal values

Two values are equal if their readings stand for the same number, or if they are the same value
and it has no reading (`level_iff`). So a value with a reading is never equal to one without, and
a chain of equal values is compared in the same way at each of its links. That makes equality
transitive across kinds and spellings, although not every two values have an order
(`equal_equivalence`).
-/

namespace Dialogue.Value

variable {a b c : Value}

/-- The value is a number, but a NaN. -/
def IsNaN (v : Value) : Prop :=
  ∃ x, v = .number x ∧ x.isNaN = true

theorem level_iff :
    Level a b ↔ (∃ x y, Readings a b x y ∧ x.value = y.value) ∨ (a.asNumber = none ∧ a = b) := by
  constructor
  · intro h
    cases h with
    | numbers h heq => exact Or.inl ⟨_, _, h, heq⟩
    | texts hword => exact Or.inr ⟨hword, rfl⟩
    | bools t => exact Or.inr ⟨rfl, rfl⟩
  · rintro (⟨x, y, h, heq⟩ | ⟨hword, rfl⟩)
    · exact .numbers h heq
    · cases a with
      | text s => exact .texts hword
      | number x => cases hword
      | bool t => exact .bools t

/-- Equal values have both a reading, or both have none. -/
theorem Level.asNumber_eq_none_iff (h : Level a b) : a.asNumber = none ↔ b.asNumber = none := by
  rcases level_iff.mp h with ⟨x, y, hread, -⟩ | ⟨-, rfl⟩
  · simp [hread.left, hread.right]
  · rfl

theorem level_self (h : ¬ a.IsNaN) : Level a a := by
  rcases ha : a.asNumber with _ | x
  · exact level_iff.mpr (Or.inr ⟨ha, rfl⟩)
  have hdefined : x.isNaN = false := by
    cases a with
    | text s => exact not_nan_of_text ha
    | number y =>
        obtain rfl := Option.some.inj ha
        exact eq_false_of_ne_true fun hnan => h ⟨y, rfl, hnan⟩
    | bool t => cases ha
  exact .numbers ⟨ha, ha, hdefined, hdefined⟩ rfl

theorem Level.trans (hab : Level a b) (hbc : Level b c) : Level a c := by
  rcases level_iff.mp hab with ⟨x, y, hxy, hvalue⟩ | ⟨-, rfl⟩
  · rcases level_iff.mp hbc with ⟨y', z, hyz, hvalue'⟩ | ⟨-, rfl⟩
    · obtain rfl := Option.some.inj (hxy.right.symm.trans hyz.left)
      exact .numbers ⟨hxy.left, hyz.right, hxy.leftDefined, hyz.rightDefined⟩
        (hvalue.trans hvalue')
    · exact hab
  · exact hbc

/-- Three ways to write seven. -/
def sevens : List Value :=
  [.text [' ', '7', ' '], .text ['7', '.', '0'], .number ⟨0x401C000000000000⟩]

/-- **Comparisons from both sides, and equality.** A comparison by a known operator comes out as
the comparison by the swapped operator from the other side. Equality is an equivalence on the
values other than NaNs. Values with a reading are equal if the readings are, so all ways to write
a number are in one class, and a text without a reading is equal to no value that has one. -/
theorem equal_equivalence :
    (∀ (o : Operator) (a b : Value), o.isKnown = true →
        o.holds (some a) b = o.swapped.holds (some b) a)
      ∧ Equivalence (fun a b : {v : Value // ¬ v.IsNaN} =>
          Operator.equal.holds (some a.1) b.1 = true)
      ∧ (∀ (a b : Value) (x y : Binary64), Readings a b x y →
          (Operator.equal.holds (some a) b = true ↔ x.value = y.value))
      ∧ (∀ a ∈ sevens, ∀ b ∈ sevens, Operator.equal.holds (some a) b = true)
      ∧ ∀ (s : Text) (b : Value), (text s).asNumber = none → b.asNumber.isSome = true →
          Operator.equal.holds (some (.text s)) b = false
            ∧ Operator.equal.holds (some b) (.text s) = false := by
  refine ⟨fun o a b _ => holds_swapped a b o, ⟨fun a => ?_, fun {a b} h => ?_,
    fun {a b c} hab hbc => ?_⟩, fun a b x y hread => ?_, by decide +kernel,
    fun s b hword hreading => ?_⟩
  · exact holds_equal_iff.mpr (level_self a.2)
  · exact holds_equal_iff.mpr (holds_equal_iff.mp h).symm
  · exact holds_equal_iff.mpr ((holds_equal_iff.mp hab).trans (holds_equal_iff.mp hbc))
  · rw [holds_equal_iff, level_iff]
    constructor
    · rintro (⟨x', y', hread', hvalue⟩ | ⟨hword, -⟩)
      · obtain rfl := Option.some.inj (hread.left.symm.trans hread'.left)
        obtain rfl := Option.some.inj (hread.right.symm.trans hread'.right)
        exact hvalue
      · cases hread.left.symm.trans hword
    · exact fun hvalue => Or.inl ⟨x, y, hread, hvalue⟩
  · have hnone : b.asNumber ≠ none := Option.isSome_iff_ne_none.mp hreading
    refine ⟨eq_false_of_ne_true fun hholds => ?_, eq_false_of_ne_true fun hholds => ?_⟩
    · exact hnone ((holds_equal_iff.mp hholds).asNumber_eq_none_iff.mp hword)
    · exact hnone ((holds_equal_iff.mp hholds).asNumber_eq_none_iff.mpr hword)

/-- Seven is equal to itself by way of another spelling, it is not equal to its name, and it is
less than the name from neither side. -/
theorem seven_equivalence :
    let seven : Value := .number ⟨0x401C000000000000⟩
    let name : Value := .text ['s', 'e', 'v', 'e', 'n']
    Operator.equal.holds (some (.text [' ', '7', ' '])) seven = true
      ∧ Operator.equal.holds (some name) seven = false
      ∧ Operator.less.holds (some name) seven = Operator.greater.holds (some seven) name := by
  intro seven name
  obtain ⟨hswapped, hequal, -, hsevens, hwords⟩ := equal_equivalence
  have htext (s : Text) : ¬ (Value.text s).IsNaN := by
    rintro ⟨x, hx, -⟩
    cases hx
  have hseven : ¬ seven.IsNaN := by
    rintro ⟨x, hx, hnan⟩
    obtain rfl := Value.number.inj hx
    exact absurd hnan (by decide)
  have hfirst := hsevens (.text [' ', '7', ' ']) (by decide) (.text ['7', '.', '0']) (by decide)
  have hsecond := hsevens (.text ['7', '.', '0']) (by decide) seven (by decide)
  have hclass := hequal.trans (x := ⟨_, htext _⟩) (y := ⟨_, htext _⟩) (z := ⟨seven, hseven⟩)
    hfirst hsecond
  exact ⟨hclass, (hwords _ seven (by decide +kernel) rfl).1, hswapped .less name seven rfl⟩

end Dialogue.Value
