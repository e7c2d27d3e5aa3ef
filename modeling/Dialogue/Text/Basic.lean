/-!
# Texts

A text is the list of its characters. This file holds their order, the
replacement of a fixed phrase, the cutting into parts and the look-up of a
character in a table of ranges; blank characters, byte encodings and quoting have
files of their own.
-/

namespace Dialogue

/-- A text, as the list of its characters. -/
abbrev Text := List Char

/-- A string of bytes. -/
abbrev Bytes := List UInt8

namespace Text

/-! ## Order -/

/-- The first difference decides, by code point; a text comes before its own
extensions. UTF-8 keeps this order, so it is also the order of the bytes. -/
def order : Text → Text → Ordering
  | [], [] => .eq
  | [], _ :: _ => .lt
  | _ :: _, [] => .gt
  | a :: s, b :: t => if a < b then .lt else if b < a then .gt else order s t

@[simp] theorem order_self (s : Text) : order s s = .eq := by
  induction s with
  | nil => rfl
  | cons a s ih => simp [order, ih]

theorem order_eq_iff {s t : Text} : order s t = .eq ↔ s = t := by
  induction s generalizing t with
  | nil => cases t <;> simp [order]
  | cons a s ih =>
    cases t with
    | nil => simp [order]
    | cons b t =>
      simp only [order]
      by_cases h : a < b
      · have ne : a ≠ b := fun e => Char.lt_irrefl b (e ▸ h)
        simp [h, ne]
      · by_cases h' : b < a
        · have ne : a ≠ b := fun e => Char.lt_irrefl a (e ▸ h')
          simp [h, h', ne]
        · have e : a = b := Char.le_antisymm (Char.not_lt.1 h') (Char.not_lt.1 h)
          simp [ih, e]

theorem order_swap (s t : Text) : (order s t).swap = order t s := by
  induction s generalizing t with
  | nil => cases t <;> rfl
  | cons a s ih =>
    cases t with
    | nil => rfl
    | cons b t =>
      simp only [order]
      by_cases h : a < b
      · have h' : ¬ b < a := fun h' => Char.lt_irrefl a (Char.lt_trans h h')
        simp [h, h']
      · by_cases h' : b < a <;> simp [h, h', ih]

theorem order_gt_iff {s t : Text} : order s t = .gt ↔ order t s = .lt := by
  rw [← order_swap t s]
  cases order t s <;> simp

theorem order_trans {s t u : Text} (h : order s t = .lt) (h' : order t u = .lt) :
    order s u = .lt := by
  induction s generalizing t u with
  | nil =>
    cases u with
    | nil => cases t <;> simp [order] at h'
    | cons c u => rfl
  | cons a s ih =>
    cases t with
    | nil => simp [order] at h
    | cons b t =>
      cases u with
      | nil => simp [order] at h'
      | cons c u =>
        simp only [order] at h h' ⊢
        by_cases ab : a < b
        · by_cases bc : b < c
          · simp [Char.lt_trans ab bc]
          · by_cases cb : c < b
            · simp [bc, cb] at h'
            · have e : b = c := Char.le_antisymm (Char.not_lt.1 cb) (Char.not_lt.1 bc)
              simp [← e, ab]
        · by_cases ba : b < a
          · simp [ab, ba] at h
          · have e : a = b := Char.le_antisymm (Char.not_lt.1 ba) (Char.not_lt.1 ab)
            subst e
            by_cases ac : a < c
            · simp [ac]
            · by_cases ca : c < a
              · simp [ac, ca] at h'
              · simp only [ac, ca, if_false] at h' ⊢
                simp only [Char.lt_irrefl, if_false] at h
                exact ih h h'

/-! ## Replacement -/

/-- Replaces from left to right, after passing over `skip` characters. -/
def replaceFrom (phrase substitute : Text) : Nat → Text → Text
  | _, [] => []
  | skip + 1, _ :: rest => replaceFrom phrase substitute skip rest
  | 0, c :: rest =>
    if phrase.isPrefixOf (c :: rest) then
      substitute ++ replaceFrom phrase substitute (phrase.length - 1) rest
    else
      c :: replaceFrom phrase substitute 0 rest

/-- Every occurrence of a non-empty phrase, found from left to right without
overlap, gives way to the substitute; inserted text is not searched again. -/
def replace (phrase substitute text : Text) : Text :=
  replaceFrom phrase substitute 0 text

/-! ## Parts -/

/-- The parts between separators, one more than there are separators. -/
def fields (isSeparator : Char → Bool) : Text → List Text
  | [] => [[]]
  | c :: rest =>
    if isSeparator c then [] :: fields isSeparator rest
    else
      match fields isSeparator rest with
      | part :: parts => (c :: part) :: parts
      | [] => [[c]]

theorem fields_ne_nil (isSeparator : Char → Bool) (s : Text) :
    fields isSeparator s ≠ [] := by
  cases s with
  | nil => simp [fields]
  | cons c rest =>
    simp only [fields]
    split
    · simp
    · split <;> simp

/-- A text without separators is one part. -/
theorem fields_of_forall {isSeparator : Char → Bool} {s : Text}
    (h : ∀ c ∈ s, isSeparator c = false) : fields isSeparator s = [s] := by
  induction s with
  | nil => rfl
  | cons c rest ih =>
    simp [fields, h c, ih fun d hd => h d (List.mem_cons_of_mem c hd)]

/-- The rest of a text behind a fixed beginning. -/
def after? (beginning s : Text) : Option Text :=
  if beginning.isPrefixOf s then some (s.drop beginning.length) else none

/-! ## Classes of characters -/

/-- The characters of ASCII. -/
def isAscii (c : Char) : Bool :=
  c.toNat < 0x80

/-- Some range holds the number, its ends included. -/
def inRanges (ranges : List (Nat × Nat)) (n : Nat) : Bool :=
  ranges.any fun r => r.1 ≤ n && n ≤ r.2

/-! ## Lines -/

/-- One line feed between neighbours, none at the ends. -/
def joinLines (lines : List Text) : Text :=
  List.intercalate ['\n'] lines

end Text

end Dialogue
