import Dialogue.Condition
import Dialogue.Proofs.Binary64.Order

/-!
# How values compare

Two values have an order if both have a numeric reading, or if they are of one kind: numbers are
ordered by what they stand for, texts by code points, truth values with false first. `Before` and
`Level` say so without reference to operators. Values that have an order stand to each other in
one of the three orderings (`Comparable.stands`), and a comparison comes out accordingly
(`Stands.holds`). Where a reading is a NaN no operator holds (`Undefined.holds`), and values
without an order are just different (`holds_of_mixed`).

No other case is left (`cases_of_pair`), so what is claimed of all pairs of values is settled by
these lemmas (`operators_follow_order`).
-/

namespace Dialogue

/-- Texts are ordered by the code points of their characters. -/
theorem Text.order_eq_lt_iff {s t : Text} : order s t = .lt ↔ s < t := by
  induction s generalizing t with
  | nil => cases t <;> simp [order]
  | cons c s ih =>
      rcases t with _ | ⟨d, t⟩
      · simp [order]
      · rw [order, List.cons_lt_cons_iff]
        by_cases hlt : c < d
        · simp [hlt]
        · by_cases hgt : d < c
          · have hne : c ≠ d := fun e => Char.lt_irrefl d (e ▸ hgt)
            simp [hlt, hgt, hne]
          · have heq : c = d := Char.le_antisymm (Char.not_lt.1 hgt) (Char.not_lt.1 hlt)
            simp [heq, ih]

namespace Operator

/-- The operator that says the same from the other side. -/
def swapped : Operator → Operator
  | .atLeast => .atMost
  | .atMost => .atLeast
  | .greater => .less
  | .less => .greater
  | o => o

theorem accepts_swapped (o : Operator) (ordering : Ordering) :
    o.swapped.accepts ordering.swap = o.accepts ordering := by
  cases o <;> cases ordering <;> rfl

/-- The strict operator that tells an ordering. -/
def ofOrdering : Ordering → Operator
  | .lt => .less
  | .eq => .equal
  | .gt => .greater

theorem accepts_ofOrdering {ordering other : Ordering} :
    (ofOrdering ordering).accepts other = true ↔ ordering = other := by
  cases ordering <;> cases other <;> simp [ofOrdering, accepts]

theorem existsUnique_accepts (ordering : Ordering) :
    ∃! o, o ∈ [less, equal, greater] ∧ o.accepts ordering = true := by
  refine ⟨ofOrdering ordering, ⟨by cases ordering <;> simp [ofOrdering],
    accepts_ofOrdering.mpr rfl⟩, ?_⟩
  rintro o ⟨ho, haccepts⟩
  obtain ⟨other, rfl⟩ : ∃ other, o = ofOrdering other := by
    simp only [List.mem_cons, List.not_mem_nil, or_false] at ho
    rcases ho with rfl | rfl | rfl
    · exact ⟨.lt, rfl⟩
    · exact ⟨.eq, rfl⟩
    · exact ⟨.gt, rfl⟩
  rw [accepts_ofOrdering.mp haccepts]

end Operator

namespace Value

variable {a a' b b' : Value} {x x' y y' : Binary64} {s t : Text}

/-! ## The order of values -/

/-- The values have these numeric readings, of which none is a NaN. -/
structure Readings (a b : Value) (x y : Binary64) : Prop where
  left : a.asNumber = some x
  right : b.asNumber = some y
  leftDefined : x.isNaN = false
  rightDefined : y.isNaN = false

/-- The first value comes before the second one. Texts are compared as texts only if one of
them has no numeric reading. -/
inductive Before : Value → Value → Prop
  | numbers {a b : Value} {x y : Binary64} (h : Readings a b x y) (hlt : x.value < y.value) :
      Before a b
  | texts {s t : Text} (hwords : (text s).asNumber = none ∨ (text t).asNumber = none)
      (hlt : s < t) : Before (.text s) (.text t)
  | bools : Before (.bool false) (.bool true)

/-- Neither value comes before the other one. -/
inductive Level : Value → Value → Prop
  | numbers {a b : Value} {x y : Binary64} (h : Readings a b x y) (heq : x.value = y.value) :
      Level a b
  | texts {s : Text} (hword : (text s).asNumber = none) : Level (.text s) (.text s)
  | bools (t : Bool) : Level (.bool t) (.bool t)

/-- How the first value stands to the second one. -/
def Stands (a b : Value) : Ordering → Prop
  | .lt => Before a b
  | .eq => Level a b
  | .gt => Before b a

/-- Values that have an order. -/
inductive Comparable : Value → Value → Prop
  | numbers {a b : Value} {x y : Binary64} (h : Readings a b x y) : Comparable a b
  | texts (s t : Text) : Comparable (.text s) (.text t)
  | bools (s t : Bool) : Comparable (.bool s) (.bool t)

/-- Both values have a numeric reading, and one of these is a NaN. -/
def Undefined (a b : Value) : Prop :=
  ∃ x y, a.asNumber = some x ∧ b.asNumber = some y ∧ (x.isNaN = true ∨ y.isNaN = true)

/-- Both values have a numeric reading, and the readings stand for the same number, or for
none. -/
def SameReading (a a' : Value) : Prop :=
  ∃ x x', a.asNumber = some x ∧ a'.asNumber = some x'
    ∧ (x.isNaN = true ∧ x'.isNaN = true
      ∨ x.isNaN = false ∧ x'.isNaN = false ∧ x.value = x'.value)

theorem Readings.symm (h : Readings a b x y) : Readings b a y x :=
  ⟨h.right, h.left, h.rightDefined, h.leftDefined⟩

theorem Level.symm (h : Level a b) : Level b a := by
  cases h with
  | numbers h heq => exact .numbers h.symm heq.symm
  | texts hword => exact .texts hword
  | bools t => exact .bools t

theorem Stands.swap {ordering : Ordering} (h : Stands a b ordering) :
    Stands b a ordering.swap := by
  cases ordering with
  | lt => exact h
  | eq => exact Level.symm h
  | gt => exact h

theorem Comparable.symm (h : Comparable a b) : Comparable b a := by
  cases h with
  | numbers h => exact .numbers h.symm
  | texts s t => exact .texts t s
  | bools s t => exact .bools t s

theorem Undefined.symm (h : Undefined a b) : Undefined b a := by
  obtain ⟨x, y, ha, hb, hnan⟩ := h
  exact ⟨y, x, hb, ha, hnan.symm⟩

/-- The reading of a text is finite. -/
theorem not_nan_of_text (h : (text s).asNumber = some x) : x.isNaN = false := by
  rw [asNumber, Option.filter_eq_some_iff] at h
  exact Binary64.isNaN_of_isFinite h.2

theorem Readings.stands (h : Readings a b x y) : ∃ ordering, Stands a b ordering := by
  rcases lt_trichotomy x.value y.value with hlt | heq | hgt
  · exact ⟨.lt, .numbers h hlt⟩
  · exact ⟨.eq, .numbers h heq⟩
  · exact ⟨.gt, .numbers h.symm hgt⟩

/-- Texts that are not both numbers stand to each other as texts. -/
theorem stands_of_words (h : (text s).asNumber = none ∨ (text t).asNumber = none) :
    Stands (.text s) (.text t) (Text.order s t) := by
  rcases horder : Text.order s t with _ | _ | _
  · exact .texts h (Text.order_eq_lt_iff.mp horder)
  · obtain rfl := Text.order_eq_iff.mp horder
    exact .texts (h.elim id id)
  · exact .texts h.symm (Text.order_eq_lt_iff.mp (Text.order_gt_iff.mp horder))

theorem Comparable.stands (h : Comparable a b) : ∃ ordering, Stands a b ordering := by
  cases h with
  | numbers h => exact h.stands
  | texts s t =>
      rcases hs : (text s).asNumber with _ | x
      · exact ⟨_, stands_of_words (Or.inl hs)⟩
      rcases ht : (text t).asNumber with _ | y
      · exact ⟨_, stands_of_words (Or.inr ht)⟩
      have hread : Readings (text s) (text t) x y :=
        ⟨hs, ht, not_nan_of_text hs, not_nan_of_text ht⟩
      exact hread.stands
  | bools s t =>
      cases s <;> cases t
      · exact ⟨.eq, .bools false⟩
      · exact ⟨.lt, .bools⟩
      · exact ⟨.gt, .bools⟩
      · exact ⟨.eq, .bools true⟩

/-- The ways in which two values can stand to each other. -/
theorem cases_of_pair (a b : Value) :
    Undefined a b ∨ (∃ ordering, Stands a b ordering) ∨ (¬ Undefined a b ∧ ¬ Comparable a b) := by
  by_cases hundefined : Undefined a b
  · exact Or.inl hundefined
  by_cases hcomparable : Comparable a b
  · exact Or.inr (Or.inl hcomparable.stands)
  · exact Or.inr (Or.inr ⟨hundefined, hcomparable⟩)

/-! ## How comparisons come out -/

theorem holds_of_readings (o : Operator) (ha : a.asNumber = some x) (hb : b.asNumber = some y) :
    o.holds (some a) b = (x.compare? y).any o.accepts := by
  unfold Operator.holds
  simp only [ha, hb]

theorem holds_of_words (o : Operator) (h : a.asNumber = none ∨ b.asNumber = none) :
    o.holds (some a) b =
      match a.orderNative b with
      | some ordering => o.accepts ordering
      | none => o == .notEqual := by
  unfold Operator.holds
  dsimp only
  split
  · next x y ha hb => simp [ha, hb] at h
  · rfl

theorem Undefined.holds (h : Undefined a b) (o : Operator) : o.holds (some a) b = false := by
  obtain ⟨x, y, ha, hb, hnan⟩ := h
  rw [holds_of_readings o ha hb, Binary64.compare?_of_nan hnan, Option.any_none]

theorem Before.holds (h : Before a b) (o : Operator) : o.holds (some a) b = o.accepts .lt := by
  cases h with
  | numbers h hlt =>
      rw [holds_of_readings o h.left h.right,
        Binary64.compare?_of_lt h.leftDefined h.rightDefined hlt, Option.any_some]
  | texts hwords hlt =>
      rw [holds_of_words o hwords, orderNative, Text.order_eq_lt_iff.mpr hlt]
  | bools => rfl

theorem Before.holds_behind (h : Before b a) (o : Operator) :
    o.holds (some a) b = o.accepts .gt := by
  cases h with
  | numbers h hlt =>
      rw [holds_of_readings o h.right h.left,
        Binary64.compare?_of_gt h.rightDefined h.leftDefined hlt, Option.any_some]
  | texts hwords hlt =>
      rw [holds_of_words o hwords.symm, orderNative,
        Text.order_gt_iff.mpr (Text.order_eq_lt_iff.mpr hlt)]
  | bools => rfl

theorem Level.holds (h : Level a b) (o : Operator) : o.holds (some a) b = o.accepts .eq := by
  cases h with
  | numbers h heq =>
      rw [holds_of_readings o h.left h.right,
        Binary64.compare?_of_eq h.leftDefined h.rightDefined heq, Option.any_some]
  | texts hword => rw [holds_of_words o (Or.inl hword), orderNative, Text.order_self]
  | bools t => cases t <;> rfl

theorem Stands.holds {ordering : Ordering} (h : Stands a b ordering) (o : Operator) :
    o.holds (some a) b = o.accepts ordering := by
  cases ordering with
  | lt => exact Before.holds h o
  | eq => exact Level.holds h o
  | gt => exact Before.holds_behind h o

/-- Values of different kinds, not both with a reading, are different and nothing else. -/
theorem holds_of_mixed (hundefined : ¬ Undefined a b) (hcomparable : ¬ Comparable a b)
    (o : Operator) : o.holds (some a) b = (o == .notEqual) := by
  have hwords : a.asNumber = none ∨ b.asNumber = none := by
    by_contra hboth
    obtain ⟨hane, hbne⟩ := not_or.mp hboth
    obtain ⟨x, ha⟩ := Option.ne_none_iff_exists'.mp hane
    obtain ⟨y, hb⟩ := Option.ne_none_iff_exists'.mp hbne
    by_cases hnan : x.isNaN = true ∨ y.isNaN = true
    · exact hundefined ⟨x, y, ha, hb, hnan⟩
    · obtain ⟨hx, hy⟩ := not_or.mp hnan
      exact hcomparable (.numbers ⟨ha, hb, eq_false_of_ne_true hx, eq_false_of_ne_true hy⟩)
  have hnative : a.orderNative b = none := by
    cases a <;> cases b
    case text.text s t => exact absurd (.texts s t) hcomparable
    case bool.bool s t => exact absurd (.bools s t) hcomparable
    all_goals rfl
  rw [holds_of_words o hwords, hnative]

/-- A comparison can be read from the other side. -/
theorem holds_swapped (a b : Value) (o : Operator) :
    o.holds (some a) b = o.swapped.holds (some b) a := by
  rcases cases_of_pair a b with h | ⟨ordering, h⟩ | ⟨hundefined, hcomparable⟩
  · rw [h.holds, h.symm.holds]
  · rw [h.holds, h.swap.holds, o.accepts_swapped]
  · rw [holds_of_mixed hundefined hcomparable,
      holds_of_mixed (fun h => hundefined h.symm) (fun h => hcomparable h.symm)]
    cases o <;> rfl

theorem holds_ofOrdering_iff (ordering : Ordering) :
    (Operator.ofOrdering ordering).holds (some a) b = true ↔ Stands a b ordering := by
  constructor
  · intro hholds
    rcases cases_of_pair a b with h | ⟨other, h⟩ | ⟨hundefined, hcomparable⟩
    · simp [h.holds] at hholds
    · rw [h.holds] at hholds
      rwa [Operator.accepts_ofOrdering.mp hholds]
    · rw [holds_of_mixed hundefined hcomparable] at hholds
      cases ordering <;> simp [Operator.ofOrdering] at hholds
  · intro h
    rw [h.holds]
    exact Operator.accepts_ofOrdering.mpr rfl

theorem holds_less_iff : Operator.less.holds (some a) b = true ↔ Before a b :=
  holds_ofOrdering_iff .lt

theorem holds_equal_iff : Operator.equal.holds (some a) b = true ↔ Level a b :=
  holds_ofOrdering_iff .eq

theorem holds_greater_iff : Operator.greater.holds (some a) b = true ↔ Before b a :=
  holds_ofOrdering_iff .gt

theorem holds_of_sameReading (ha : SameReading a a') (hb : SameReading b b') (o : Operator) :
    o.holds (some a) b = o.holds (some a') b' := by
  obtain ⟨x, x', hx, hx', hxx'⟩ := ha
  obtain ⟨y, y', hy, hy', hyy'⟩ := hb
  rw [holds_of_readings o hx hy, holds_of_readings o hx' hy']
  congr 1
  rcases hxx' with ⟨hnan, hnan'⟩ | ⟨hdef, hdef', hvalue⟩
  · rw [Binary64.compare?_of_nan (Or.inl hnan), Binary64.compare?_of_nan (Or.inl hnan')]
  rcases hyy' with ⟨hnan, hnan'⟩ | ⟨hdefy, hdefy', hvaluey⟩
  · rw [Binary64.compare?_of_nan (Or.inr hnan), Binary64.compare?_of_nan (Or.inr hnan')]
  rw [Binary64.value_eq_iff_rank hdef hdef'] at hvalue
  rw [Binary64.value_eq_iff_rank hdefy hdefy'] at hvaluey
  unfold Binary64.compare?
  rw [hdef, hdef', hdefy, hdefy', hvalue, hvaluey]

/-- **How the operators compare.** With a NaN no operator holds. Of values that have an order
exactly one of less, equal and greater holds, and the other three follow from these; less and
greater are the order of the values, in one direction and in the other, and equal is neither of
them. Of values without an order the only operator that holds is that they are different. What
counts of values with numeric readings is the readings. Where the variable is not set, and with
an unknown operator, nothing holds. -/
theorem operators_follow_order (a b : Value) :
    (Undefined a b → ∀ o ∈ Operator.known, o.holds (some a) b = false)
      ∧ (Comparable a b →
          (∃! o, o ∈ [Operator.less, .equal, .greater] ∧ o.holds (some a) b = true)
          ∧ (Operator.atMost.holds (some a) b = true ↔
              Operator.less.holds (some a) b = true ∨ Operator.equal.holds (some a) b = true)
          ∧ (Operator.atLeast.holds (some a) b = true ↔
              Operator.greater.holds (some a) b = true ∨ Operator.equal.holds (some a) b = true)
          ∧ (Operator.notEqual.holds (some a) b = true ↔ Operator.equal.holds (some a) b = false)
          ∧ (Operator.less.holds (some a) b = true ↔ Before a b)
          ∧ (Operator.equal.holds (some a) b = true ↔ Level a b)
          ∧ (Operator.greater.holds (some a) b = true ↔ Before b a))
      ∧ (¬ Undefined a b → ¬ Comparable a b →
          ∀ o ∈ Operator.known, o.holds (some a) b = true ↔ o = .notEqual)
      ∧ (∀ a' b', SameReading a a' → SameReading b b' →
          ∀ o : Operator, o.holds (some a) b = o.holds (some a') b')
      ∧ (∀ o : Operator, o.holds none b = false)
      ∧ ∀ symbol, (Operator.unknown symbol).holds (some a) b = false := by
  refine ⟨fun h o _ => h.holds o, fun h => ?_, fun hundefined hcomparable o _ => ?_,
    fun a' b' ha hb o => holds_of_sameReading ha hb o, fun o => rfl, fun symbol => ?_⟩
  · obtain ⟨ordering, hstands⟩ := h.stands
    have hholds := hstands.holds
    refine ⟨?_, ?_, ?_, ?_, holds_less_iff, holds_equal_iff, holds_greater_iff⟩
    · simp only [hholds]
      exact Operator.existsUnique_accepts ordering
    all_goals
      simp only [hholds]
      cases ordering <;> decide
  · rw [holds_of_mixed hundefined hcomparable, beq_iff_eq]
  · rcases cases_of_pair a b with h | ⟨ordering, h⟩ | ⟨hundefined, hcomparable⟩
    · exact h.holds _
    · exact h.holds _
    · exact holds_of_mixed hundefined hcomparable _

/-- Ten is greater than nine also as a text, it is the same written with an exponent, nothing
holds of it and a NaN, and it is just different from a truth value. -/
theorem ten_follows_order :
    let ten : Value := .text ['1', '0']
    let nine : Value := .text [' ', '9', ' ']
    let nan : Value := .number ⟨0x7FF8000000000000⟩
    (Comparable ten nine ∧ Operator.greater.holds (some ten) nine = true ∧ Before nine ten)
      ∧ (SameReading ten (.text ['1', 'e', '1'])
        ∧ Operator.greater.holds (some (.text ['1', 'e', '1'])) nine = true)
      ∧ (Undefined ten nan ∧ Operator.notEqual.holds (some ten) nan = false)
      ∧ (¬ Undefined ten (.bool true) ∧ ¬ Comparable ten (.bool true)
        ∧ Operator.notEqual.holds (some ten) (.bool true) = true) := by
  intro ten nine nan
  have hten : ten.asNumber = some ⟨0x4024000000000000⟩ := by decide +kernel
  have hnine : nine.asNumber = some ⟨0x4022000000000000⟩ := by decide +kernel
  have hsame : SameReading ten (.text ['1', 'e', '1']) :=
    ⟨_, _, hten, by decide +kernel, Or.inr ⟨rfl, rfl, rfl⟩⟩
  have hnines : SameReading nine nine := ⟨_, _, hnine, hnine, Or.inr ⟨rfl, rfl, rfl⟩⟩
  have hcomparable : Comparable ten nine := .texts _ _
  have hundefined : Undefined ten nan := ⟨_, _, hten, rfl, Or.inr rfl⟩
  have hgreater : Operator.greater.holds (some ten) nine = true := by decide +kernel
  have hdefined : ¬ Undefined ten (.bool true) := by
    rintro ⟨x, y, -, hy, -⟩
    cases hy
  have hmixed : ¬ Comparable (.text ['1', '0']) (.bool true) := by
    rintro ⟨h⟩
    cases h.right
  obtain ⟨-, hcompare, -, hreplace, -⟩ := operators_follow_order ten nine
  obtain ⟨hnothing, -⟩ := operators_follow_order ten nan
  obtain ⟨-, -, hdifferent, -⟩ := operators_follow_order ten (.bool true)
  obtain ⟨-, -, -, -, -, -, hbefore⟩ := hcompare hcomparable
  exact ⟨⟨hcomparable, hgreater, hbefore.mp hgreater⟩,
    ⟨hsame, (hreplace _ _ hsame hnines .greater).symm.trans hgreater⟩,
    ⟨hundefined, hnothing hundefined .notEqual (by decide)⟩, hdefined, hmixed,
    (hdifferent hdefined hmixed .notEqual (by decide)).mpr rfl⟩

end Value

end Dialogue
