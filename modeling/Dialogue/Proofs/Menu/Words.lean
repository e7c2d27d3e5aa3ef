import Dialogue.Proofs.Menu.Numbering

/-!
# Menu numbers of any length

A reply may have any number of digits, and menus have at most as many entries as 64 bits can count.
Which replies pick an entry is told here by the value of their digits by places (`Writes`), and so
is the reading that stops where 64 bits do not suffice: a number beyond 64 bits is beyond every
menu, and zeros in front take no room. So it comes to the same whether there are limits to the
reading or not (`pick?_by_value`).
-/

namespace Dialogue.Menu

variable {reply digits : Text} {i number : Nat}

/-- The reply is a run of ASCII digits of this value, with blank characters around it. -/
def Writes (reply : Text) (number : Nat) : Prop :=
  ∃ digits, Text.Trims reply digits ∧ digits ≠ [] ∧ (∀ c ∈ digits, c.isDigit = true)
    ∧ Text.decimalValue digits = number

theorem writes_iff : Writes reply number ↔ Numbers reply number := by
  constructor
  · rintro ⟨digits, htrims, hne, hall, hvalue⟩
    obtain rfl := Text.trim_eq_iff.mpr htrims
    exact ⟨hne, hall, (Text.toNat_eq_decimalValue _).trans hvalue⟩
  · rintro ⟨hne, hall, hvalue⟩
    exact ⟨_, Text.trim_eq_iff.mp rfl, hne, hall, (Text.toNat_eq_decimalValue _).symm.trans hvalue⟩

/-! ## Arithmetic in 64 bits -/

/-- The product, unless it takes more than 64 bits. -/
def mulWord? (a b : UInt64) : Option UInt64 :=
  if a.toNat * b.toNat < UInt64.size then some (a * b) else none

/-- The sum, unless it takes more than 64 bits. -/
def addWord? (a b : UInt64) : Option UInt64 :=
  if a.toNat + b.toNat < UInt64.size then some (a + b) else none

/-- Ten times what has been read, and the next digit more. -/
def readDigit? (n : UInt64) (c : Char) : Option UInt64 := do
  addWord? (← mulWord? n 10) (UInt64.ofNat (Text.digitValue c))

/-- Reads a run of digits, and gives up as soon as it takes more than 64 bits. -/
def readWord? (digits : Text) : Option UInt64 :=
  digits.foldlM readDigit? 0

/-- What a reply picks, with all numbers in 64 bits. -/
def pickWord? (reply : Text) (size : UInt64) : Option UInt64 :=
  let digits := Text.trim reply
  if digits = [] ∨ !digits.all Char.isDigit then
    none
  else do
    let number ← readWord? digits
    if 1 ≤ number ∧ number ≤ size then some (number - 1) else none

/-- A number as a word, if it is one. -/
def toWord? (n : Nat) : Option UInt64 :=
  if n < UInt64.size then some (UInt64.ofNat n) else none

theorem toWord?_toNat (n : UInt64) : toWord? n.toNat = some n := by
  rw [toWord?, if_pos n.toNat_lt, UInt64.ofNat_toNat]

theorem mulWord?_eq (a b : UInt64) : mulWord? a b = toWord? (a.toNat * b.toNat) := by
  rw [mulWord?, toWord?, UInt64.ofNat_mul, UInt64.ofNat_toNat, UInt64.ofNat_toNat]

theorem addWord?_eq (a b : UInt64) : addWord? a b = toWord? (a.toNat + b.toNat) := by
  rw [addWord?, toWord?, UInt64.ofNat_add, UInt64.ofNat_toNat, UInt64.ofNat_toNat]

theorem readDigit?_eq (n : UInt64) {c : Char} (hc : c.isDigit = true) :
    readDigit? n c = toWord? (10 * n.toNat + Text.digitValue c) := by
  have hdigit : (UInt64.ofNat (Text.digitValue c)).toNat = Text.digitValue c :=
    UInt64.toNat_ofNat_of_lt' (Nat.lt_trans (Text.digitValue_lt hc) (by decide))
  have hten : (10 : UInt64).toNat = 10 := rfl
  rw [readDigit?, mulWord?_eq, hten, Nat.mul_comm]
  by_cases hfits : 10 * n.toNat < UInt64.size
  · have htens : (UInt64.ofNat (10 * n.toNat)).toNat = 10 * n.toNat :=
      UInt64.toNat_ofNat_of_lt' hfits
    rw [toWord?, if_pos hfits]
    show addWord? _ _ = _
    rw [addWord?_eq, htens, hdigit]
  · rw [toWord?, if_neg hfits, toWord?, if_neg (by omega)]
    rfl

/-- What has been read is carried along as a word exactly while it is one: it only ever grows. -/
theorem foldlM_readDigit? (hdigits : ∀ c ∈ digits, c.isDigit = true) (n : UInt64) :
    digits.foldlM readDigit? n = toWord? (Nat.ofDigitChars 10 digits n.toNat) := by
  induction digits generalizing n with
  | nil => exact (toWord?_toNat n).symm
  | cons c digits ih =>
      obtain ⟨hc, hdigits⟩ := List.forall_mem_cons.mp hdigits
      rw [List.foldlM_cons, readDigit?_eq n hc, Nat.ofDigitChars_cons, ← Text.digitValue]
      generalize 10 * n.toNat + Text.digitValue c = next
      by_cases hfits : next < UInt64.size
      · rw [toWord?, if_pos hfits]
        show List.foldlM readDigit? (UInt64.ofNat next) digits = _
        rw [ih hdigits, UInt64.toNat_ofNat_of_lt' hfits]
      · have hgrows : next ≤ Nat.ofDigitChars 10 digits next := by
          rw [Text.ofDigitChars_eq]
          exact Nat.le_add_right_of_le (Nat.le_mul_of_pos_left _ (Nat.pow_pos (by decide)))
        rw [toWord?, if_neg hfits, toWord?, if_neg (by omega)]
        rfl

/-- **Reading in 64 bits fails just on the numbers that do not fit.** -/
theorem readWord?_eq (hdigits : ∀ c ∈ digits, c.isDigit = true) :
    readWord? digits = toWord? (Text.toNat digits) :=
  foldlM_readDigit? hdigits 0

theorem pickWord?_eq (reply : Text) (size : UInt64) :
    (pickWord? reply size).map UInt64.toNat = pick? reply size.toNat := by
  have hsize : size.toNat < UInt64.size := size.toNat_lt
  unfold pickWord? pick?
  dsimp only
  by_cases hdigits : Text.trim reply = [] ∨ (!(Text.trim reply).all Char.isDigit) = true
  · rw [if_pos hdigits, if_pos hdigits]
    rfl
  · rw [if_neg hdigits, if_neg hdigits]
    obtain ⟨-, hall⟩ := not_or.mp hdigits
    rw [readWord?_eq (by simpa using hall)]
    generalize Text.toNat (Text.trim reply) = number
    by_cases hfits : number < UInt64.size
    · have hword : (UInt64.ofNat number).toNat = number := UInt64.toNat_ofNat_of_lt' hfits
      rw [toWord?, if_pos hfits]
      have hrange : 1 ≤ UInt64.ofNat number ∧ UInt64.ofNat number ≤ size ↔
          1 ≤ number ∧ number ≤ size.toNat := by
        rw [UInt64.le_iff_toNat_le, UInt64.le_iff_toNat_le, hword, UInt64.toNat_one]
      show Option.map UInt64.toNat (if _ then _ else _) = _
      by_cases hin : 1 ≤ number ∧ number ≤ size.toNat
      · have hsub := UInt64.toNat_sub_of_le _ _ (hrange.mpr hin).1
        rw [hword, UInt64.toNat_one] at hsub
        rw [if_pos (hrange.mpr hin), if_pos hin, Option.map_some, hsub]
      · rw [if_neg (fun h => hin (hrange.mp h)), if_neg hin, Option.map_none]
    · rw [toWord?, if_neg hfits, if_neg (by omega)]
      rfl

/-! ## What is picked -/

/-- **A reply picks the entry whose number its digits write, and nothing else.** The position is one
of the menu's, so that there is an entry there, and 64 bits are enough to find it. -/
theorem pick?_by_value (reply : Text) (size : UInt64) :
    (∀ i, pick? reply size.toNat = some i ↔ i < size.toNat ∧ Writes reply (i + 1))
      ∧ (pick? reply size.toNat = none ↔ ∀ i < size.toNat, ¬ Writes reply (i + 1))
      ∧ (∀ {α : Type} (entries : List α) (i : Nat), pick? reply entries.length = some i →
          ∃ entry, entries[i]? = some entry)
      ∧ (pickWord? reply size).map UInt64.toNat = pick? reply size.toNat := by
  have hsome (i : Nat) :
      pick? reply size.toNat = some i ↔ i < size.toNat ∧ Writes reply (i + 1) := by
    rw [pick?_eq_some_iff, writes_iff]
  refine ⟨hsome, ?_, fun entries i hpick => ?_, pickWord?_eq reply size⟩
  · rw [Option.eq_none_iff_forall_ne_some]
    exact forall_congr' fun i => by rw [ne_eq, hsome, not_and]
  · exact ⟨_, List.getElem?_eq_getElem (pick?_eq_some_iff.mp hpick).1⟩

/-- The seventh of seven entries, with zeros in front of its number and a line feed behind it. One
more than the numbers of 64 bits picks nothing, although it would be one if it went round. -/
theorem seventh_by_value :
    Writes [' ', '0', '0', '7', '\n'] 7
      ∧ ¬ Writes "18446744073709551617".toList 1
      ∧ ∃ entry, [0, 1, 2, 3, 4, 5, 6][6]? = some entry := by
  obtain ⟨hpick, -, hentry, -⟩ := pick?_by_value [' ', '0', '0', '7', '\n'] 7
  obtain ⟨-, hnone, -⟩ := pick?_by_value "18446744073709551617".toList 2
  exact ⟨((hpick 6).mp (by decide +kernel)).2, hnone.mp (by decide +kernel) 0 (by decide),
    hentry [0, 1, 2, 3, 4, 5, 6] 6 (by decide +kernel)⟩

end Dialogue.Menu
