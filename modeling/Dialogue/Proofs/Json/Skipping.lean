import Dialogue.Json.Skip
import Dialogue.Proofs.Json.Grammar

/-!
# Every value is passed over

`skipValue` checks the form of a value and no more than the form. So it passes over all that the
grammar allows, nested to any depth, and stops behind it (`skipValue_value`).
-/

namespace Dialogue.Json

/-! ## Where values begin and end -/

/-- A value or a key: not a blank, nor the end of a list or an object. -/
def Begins (t : Text) : Prop :=
  ∃ c s, t = c :: s ∧ isBlank c = false ∧ c ≠ ']' ∧ c ≠ '}'

/-- What may follow a value. -/
def Ends (s : Text) : Prop :=
  ∀ c ∈ s.head?, isBlank c = true ∨ c ∈ [',', ']', '}']

theorem blanks_nil : Blanks [] :=
  fun _ hc => absurd hc List.not_mem_nil

theorem padded_self (core : Text) : Padded core core :=
  ⟨[], [], blanks_nil, blanks_nil, (List.append_nil core).symm⟩

theorem labelled_self (key value : Text) : Labelled (key, value) (key ++ ':' :: value) :=
  ⟨key, value, padded_self key, padded_self value, rfl⟩

/-- An object of two members, without blanks. -/
theorem isValueObject_pair {key value key' value' : Text} (hkey : IsQuoted key)
    (hvalue : IsValue value) (hkey' : IsQuoted key') (hvalue' : IsValue value') {t : Text}
    (ht : t = '{' :: ((key ++ ':' :: value) ++ ',' :: (key' ++ ':' :: value') ++ ['}'])) :
    IsValueObject [(key, value), (key', value')] t where
  object := ⟨_, .parts (.cons (labelled_self key value) (.last (labelled_self key' value'))), ht⟩
  keys := List.forall_mem_cons.mpr ⟨hkey, List.forall_mem_singleton.mpr hkey'⟩
  values := List.forall_mem_cons.mpr ⟨hvalue, List.forall_mem_singleton.mpr hvalue'⟩

theorem skipBlanks_blanks {gap : Text} (h : Blanks gap) (s : Text) :
    skipBlanks (gap ++ s) = skipBlanks s := by
  induction gap with
  | nil => rfl
  | cons c gap ih =>
      obtain ⟨hc, hgap⟩ := List.forall_mem_cons.mp h
      rw [skipBlanks, List.cons_append, List.dropWhile_cons_of_pos hc]
      exact ih hgap

theorem Begins.append {t : Text} (h : Begins t) (s : Text) : Begins (t ++ s) := by
  obtain ⟨c, t, rfl, hc⟩ := h
  exact ⟨c, t ++ s, rfl, hc⟩

theorem Begins.skipBlanks {t : Text} (h : Begins t) : skipBlanks t = t := by
  obtain ⟨c, t, rfl, hc, -⟩ := h
  exact List.dropWhile_cons_of_neg (by rw [hc]; exact Bool.false_ne_true)

theorem ends_cons {c : Char} (s : Text) (h : isBlank c = true ∨ c ∈ [',', ']', '}']) :
    Ends (c :: s) := by
  intro c' hc'
  obtain rfl : c = c' := Option.some.inj hc'
  exact h

theorem Ends.blanks {gap rest : Text} (h : Ends rest) (hgap : Blanks gap) : Ends (gap ++ rest) := by
  cases gap with
  | nil => exact h
  | cons c gap => exact ends_cons _ (.inl (hgap c List.mem_cons_self))

theorem Blanks.ends {s : Text} (h : Blanks s) : Ends s :=
  fun c hc => .inl (h c (List.mem_of_mem_head? hc))

/-! ## Digits -/

theorem hexValue?_lower : ∀ n < 16, hexValue? n.digitChar = some n := by
  decide

theorem hexValue?_upper : ∀ n < 16, hexValue? n.digitChar.toUpper = some n := by
  decide

theorem SpellsDigit.hexValue? {n : Nat} {c : Char} (h : SpellsDigit n c) :
    hexValue? c = some n := by
  obtain ⟨hn, rfl | rfl⟩ := h
  · exact hexValue?_lower n hn
  · exact hexValue?_upper n hn

theorem SpellsHex.readHex {n : Nat} {digits : Text} (h : SpellsHex n digits) (rest : Text) :
    readHex (digits ++ rest) = .ok (n, rest) := by
  obtain ⟨a, b, c, d, a', b', c', d', ha, hb, hc, hd, rfl, rfl⟩ := h
  have hnumber : hexNumber? [a', b', c', d'] = some (((a * 16 + b) * 16 + c) * 16 + d) := by
    simp [hexNumber?, ha.hexValue?, hb.hexValue?, hc.hexValue?, hd.hexValue?]
  simp only [List.cons_append, List.nil_append, Json.readHex, hnumber]

/-! ## Scalars -/

theorem skipOpening_blanks {gap : Text} (h : Blanks gap) (s : Text) :
    skipOpening (gap ++ s) = skipOpening s := by
  rw [skipOpening, skipBlanks_blanks h, ← skipOpening]

theorem IsPiece.skipCharsFrom {p : Text} (h : IsPiece p) (steps : Nat) (rest : Text) :
    skipCharsFrom (steps + 1) (p ++ rest) = skipCharsFrom steps rest := by
  cases h with
  | plain hquote hslash hcontrol =>
      rw [List.singleton_append, Json.skipCharsFrom, if_neg hquote, if_neg hslash,
        if_neg (Nat.not_lt.mpr hcontrol)]
  | short h =>
      simp only [shortEscapes, List.mem_cons, Prod.mk.injEq, List.not_mem_nil, or_false] at h
      rcases h with h | h | h | h | h | h | h | h <;> obtain ⟨rfl, -⟩ := h <;> rfl
  | hex h =>
      have hhex : skipEscape ('u' :: (_ ++ rest)) = .ok rest :=
        congrArg (Except.map Prod.snd) (h.readHex rest)
      rw [List.cons_append, List.cons_append, Json.skipCharsFrom, if_neg (by decide), if_pos rfl,
        hhex]
      rfl

theorem skipCharsFrom_pieces {pieces : List Text} (h : ∀ p ∈ pieces, IsPiece p) {steps : Nat}
    (hsteps : pieces.length < steps) (rest : Text) :
    skipCharsFrom steps (pieces.flatten ++ '"' :: rest) = .ok rest := by
  induction pieces generalizing steps with
  | nil =>
      obtain ⟨n, rfl⟩ := Nat.exists_eq_add_of_lt hsteps
      rfl
  | cons p pieces ih =>
      obtain ⟨hp, hpieces⟩ := List.forall_mem_cons.mp h
      obtain ⟨n, rfl⟩ := Nat.exists_eq_add_of_lt hsteps
      rw [List.flatten_cons, List.append_assoc, hp.skipCharsFrom]
      exact ih hpieces (by rw [List.length_cons]; omega)

theorem IsPiece.length_pos {p : Text} (h : IsPiece p) : 0 < p.length := by
  cases h <;> exact Nat.succ_pos _

theorem length_le_flatten {pieces : List Text} (h : ∀ p ∈ pieces, 0 < p.length) :
    pieces.length ≤ pieces.flatten.length := by
  induction pieces with
  | nil => exact Nat.le_refl 0
  | cons p pieces ih =>
      obtain ⟨hp, hpieces⟩ := List.forall_mem_cons.mp h
      have hle := ih hpieces
      rw [List.flatten_cons, List.length_append, List.length_cons]
      omega

/-- What is in quotes is passed over, from behind the first of them. -/
theorem IsQuoted.skipQuoted {t : Text} (h : IsQuoted t) :
    ∃ body, t = '"' :: body ∧ ∀ rest, skipQuoted (body ++ rest) = .ok rest := by
  obtain ⟨pieces, hpieces, rfl⟩ := h
  refine ⟨_, rfl, fun rest => ?_⟩
  have hlength := length_le_flatten fun p hp => (hpieces p hp).length_pos
  rw [Json.skipQuoted, List.append_assoc]
  refine skipCharsFrom_pieces hpieces ?_ rest
  rw [List.length_append]
  omega

/-- Nothing that would belong to a number, if it stood behind one. -/
def NoDigit (s : Text) : Prop :=
  ∀ c ∈ s.head?, c.isDigit = false

theorem Ends.head {c : Char} {s : Text} (h : Ends (c :: s)) :
    c.isDigit = false ∧ c ≠ '.' ∧ c ≠ 'e' ∧ c ≠ 'E' := by
  rcases h c rfl with hblank | hmem
  · simp only [isBlank, Bool.or_eq_true, beq_iff_eq] at hblank
    rcases hblank with ((rfl | rfl) | rfl) | rfl <;> decide
  · simp only [List.mem_cons, List.not_mem_nil, or_false] at hmem
    rcases hmem with rfl | rfl | rfl <;> decide

theorem Ends.noDigit {s : Text} (h : Ends s) : NoDigit s := by
  intro c hc
  cases s with
  | nil => cases hc
  | cons c' s =>
      obtain rfl : c' = c := Option.some.inj hc
      exact h.head.1

theorem IsDigits.skipDigits {digits rest : Text} (h : IsDigits digits) (hrest : NoDigit rest) :
    skipDigits (digits ++ rest) = .ok rest := by
  rw [Json.skipDigits, Text.spanDigits_digits h.2 hrest]
  exact if_neg h.1

/-- The first of some digits. -/
theorem IsDigits.head {c : Char} {digits s rest : Text} (h : IsDigits digits)
    (hs : digits ++ rest = c :: s) : c.isDigit = true := by
  obtain ⟨c', digits, rfl⟩ := List.exists_cons_of_ne_nil h.1
  obtain ⟨rfl, -⟩ := List.cons.inj hs
  exact h.2 c' List.mem_cons_self

theorem IsExponent.skipExponent {s rest : Text} (h : IsExponent s) (hrest : Ends rest) :
    skipExponent (s ++ rest) = .ok rest := by
  rcases h with rfl | ⟨letter, sign, digits, hletter, hsign, hdigits, rfl⟩
  · cases rest with
    | nil => rfl
    | cons c rest =>
        obtain ⟨-, -, he, hE⟩ := hrest.head
        exact if_neg (not_or.mpr ⟨he, hE⟩)
  · have hskip := hdigits.skipDigits hrest.noDigit
    have hletter' : letter = 'e' ∨ letter = 'E' := by simpa using hletter
    unfold Json.skipExponent
    rw [List.cons_append, List.append_assoc]
    dsimp only
    rw [if_pos hletter']
    simp only [List.mem_cons, List.not_mem_nil, or_false] at hsign
    rcases hsign with rfl | rfl | rfl
    · rw [List.nil_append]
      split
      · next hs => exact absurd (hdigits.head hs) (by decide)
      · next hs => exact absurd (hdigits.head hs) (by decide)
      · exact hskip
    · exact hskip
    · exact hskip

theorem IsExponent.noDigit {s rest : Text} (h : IsExponent s) (hrest : Ends rest) :
    NoDigit (s ++ rest) := by
  rcases h with rfl | ⟨letter, sign, digits, hletter, -, -, rfl⟩
  · exact hrest.noDigit
  · intro c hc
    obtain rfl : letter = c := Option.some.inj hc
    simp only [List.mem_cons, List.not_mem_nil, or_false] at hletter
    rcases hletter with rfl | rfl <;> rfl

theorem IsExponent.ne_point {t rest : Text} (h : IsExponent t) (hrest : Ends rest) (s : Text) :
    t ++ rest ≠ '.' :: s := by
  intro hs
  rcases h with rfl | ⟨letter, sign, digits, hletter, -, -, rfl⟩
  · rw [List.nil_append] at hs
    rw [hs] at hrest
    exact absurd rfl hrest.head.2.1
  · obtain ⟨rfl, -⟩ := List.cons.inj hs
    exact absurd hletter (by decide)

theorem IsPlaces.noDigit {places exponent rest : Text} (h : IsPlaces places)
    (hexponent : IsExponent exponent) (hrest : Ends rest) :
    NoDigit (places ++ (exponent ++ rest)) := by
  rcases h with rfl | ⟨digits, -, rfl⟩
  · exact hexponent.noDigit hrest
  · rintro c ⟨⟩
    rfl

/-- What follows a number's digits before the point: the point, or else an exponent. -/
theorem skipPlaces {places exponent rest : Text} (hplaces : IsPlaces places)
    (hexponent : IsExponent exponent) (hrest : Ends rest) :
    (match places ++ (exponent ++ rest) with
      | '.' :: rest => do skipExponent (← skipDigits rest)
      | rest => skipExponent rest) = .ok rest := by
  have hskip := hexponent.skipExponent hrest
  rcases hplaces with rfl | ⟨digits, hdigits, rfl⟩
  · rw [List.nil_append]
    split
    · next hs => exact absurd hs (hexponent.ne_point hrest _)
    · exact hskip
  · show (skipDigits (digits ++ (exponent ++ rest)) >>= skipExponent) = _
    rw [hdigits.skipDigits (hexponent.noDigit hrest)]
    exact hskip

theorem skipMagnitude_numeral {whole places exponent rest : Text} (hwhole : IsWhole whole)
    (hplaces : IsPlaces places) (hexponent : IsExponent exponent) (hrest : Ends rest) :
    skipMagnitude (whole ++ (places ++ (exponent ++ rest))) = .ok rest := by
  have htail := skipPlaces hplaces hexponent hrest
  have hnoDigit := hplaces.noDigit hexponent hrest
  unfold skipMagnitude
  generalize places ++ (exponent ++ rest) = tail at *
  rcases hwhole with rfl | ⟨hdigits, hzero⟩
  · have hnone : tail.head?.any Char.isDigit = false := by
      cases tail with
      | nil => rfl
      | cons c tail => exact hnoDigit c rfl
    show (if tail.head?.any Char.isDigit = true then _ else _) = _
    rw [hnone, if_neg Bool.false_ne_true]
    exact htail
  · split
    · next hs =>
      obtain ⟨c, digits, rfl⟩ := List.exists_cons_of_ne_nil hdigits.1
      obtain ⟨rfl, -⟩ := List.cons.inj hs
      exact absurd rfl hzero
    · rw [hdigits.skipDigits hnoDigit]
      exact htail

/-- Passed over in one move, with blanks before it. -/
def SkipsAtOnce (t : Text) : Prop :=
  ∀ rest, Ends rest → skipOpening (t ++ rest) = .ok (none, rest)

theorem IsWhole.ne_nil {whole : Text} (h : IsWhole whole) : whole ≠ [] := by
  rcases h with rfl | ⟨hdigits, -⟩
  · exact List.cons_ne_nil _ _
  · exact hdigits.1

theorem IsWhole.head {c : Char} {digits : Text} (h : IsWhole (c :: digits)) :
    c.isDigit = true := by
  rcases h with h | ⟨hdigits, -⟩
  · obtain ⟨rfl, -⟩ := List.cons.inj h
    rfl
  · exact hdigits.2 c List.mem_cons_self

theorem begins_digit {c : Char} (h : c.isDigit = true) (s : Text) : Begins (c :: s) := by
  refine ⟨c, s, rfl, ?_, ?_, ?_⟩
  · have hends : ¬ Ends (c :: s) := fun hends => by simp [hends.head.1] at h
    exact Bool.eq_false_iff.mpr fun hblank => hends (ends_cons s (.inl hblank))
  · rintro rfl
    exact absurd h (by decide)
  · rintro rfl
    exact absurd h (by decide)

theorem skipOpening_digit {c : Char} (h : c.isDigit = true) (s : Text) :
    skipOpening (c :: s) = do return (none, ← skipMagnitude (c :: s)) := by
  rw [skipOpening, (begins_digit h s).skipBlanks]
  dsimp only
  split
  case h_8 => exact if_pos h
  all_goals exact absurd h (by decide)

theorem IsNumeral.skipsAtOnce {t : Text} (h : IsNumeral t) : SkipsAtOnce t := by
  intro rest hrest
  obtain ⟨sign, whole, places, exponent, hsign, hwhole, hplaces, hexponent, rfl⟩ := h
  have hskip := skipMagnitude_numeral hwhole hplaces hexponent hrest
  simp only [List.mem_cons, List.not_mem_nil, or_false] at hsign
  simp only [List.append_assoc]
  rcases hsign with rfl | rfl
  · obtain ⟨c, digits, rfl⟩ := List.exists_cons_of_ne_nil hwhole.ne_nil
    rw [List.nil_append, List.cons_append, skipOpening_digit hwhole.head,
      ← List.cons_append, hskip]
    rfl
  · show (do return (none, ← skipMagnitude (whole ++ (places ++ (exponent ++ rest))))) = _
    rw [hskip]
    rfl

theorem IsNumeral.begins {t : Text} (h : IsNumeral t) : Begins t := by
  obtain ⟨sign, whole, places, exponent, hsign, hwhole, -, -, rfl⟩ := h
  simp only [List.mem_cons, List.not_mem_nil, or_false] at hsign
  rcases hsign with rfl | rfl
  · obtain ⟨c, digits, rfl⟩ := List.exists_cons_of_ne_nil hwhole.ne_nil
    exact begins_digit hwhole.head _
  · exact ⟨'-', _, rfl, by decide⟩

theorem IsQuoted.begins {t : Text} (h : IsQuoted t) : Begins t := by
  obtain ⟨pieces, -, rfl⟩ := h
  exact ⟨'"', _, rfl, by decide⟩

theorem IsQuoted.skipsAtOnce {t : Text} (h : IsQuoted t) : SkipsAtOnce t := by
  intro rest _
  obtain ⟨body, rfl, hskip⟩ := h.skipQuoted
  show (do return (none, ← Json.skipQuoted (body ++ rest))) = _
  rw [hskip]
  rfl

/-! ## Lists and objects -/

/-- A value is passed over in so many moves that there are enough of them. -/
def Skips (t : Text) : Prop :=
  Begins t ∧ ∃ k ≤ 2 * t.length, ∀ moves brackets gap rest, Blanks gap → Ends rest →
    skipFrom (moves + k) brackets .value (gap ++ (t ++ rest)) =
      skipFrom moves brackets .afterValue rest

theorem SkipsAtOnce.skips {t : Text} (h : SkipsAtOnce t) (hbegins : Begins t) : Skips t := by
  obtain ⟨c, s, rfl, -⟩ := id hbegins
  refine ⟨hbegins, 1, by rw [List.length_cons]; omega, ?_⟩
  intro moves brackets gap rest hgap hrest
  rw [skipFrom, skipOpening_blanks hgap, h rest hrest]
  rfl

/-- A part of a list or an object, from behind the bracket or the comma before it. -/
def SkipsPart (b : Bracket) (s : Text) : Prop :=
  ∃ front core, s = front ++ core ∧ Blanks front ∧ Begins core ∧ ∃ k ≤ 2 * s.length,
    ∀ moves brackets gap rest, Blanks gap → Ends rest →
      (skipLabel b (gap ++ (core ++ rest)) >>= skipFrom (moves + k) (b :: brackets) .value) =
        skipFrom moves (b :: brackets) .afterValue rest

theorem skipFrom_blanks {gap : Text} (hgap : Blanks gap) (moves : Nat) (b : Bracket)
    (brackets : List Bracket) (s : Text) :
    skipFrom moves (b :: brackets) .afterValue (gap ++ s) =
      skipFrom moves (b :: brackets) .afterValue s := by
  cases moves with
  | zero => rfl
  | succ moves => simp only [skipFrom, skipBlanks_blanks hgap]

theorem skipsPart_padded {v s : Text} (hv : Skips v) (h : Padded v s) : SkipsPart .list s := by
  obtain ⟨front, back, hfront, hback, rfl⟩ := h
  obtain ⟨hbegins, k, hk, hskip⟩ := hv
  refine ⟨front, v ++ back, rfl, hfront, hbegins.append back, k, ?_, ?_⟩
  · simp only [List.length_append]
    omega
  · intro moves brackets gap rest hgap hrest
    rw [List.append_assoc]
    show skipFrom (moves + k) (.list :: brackets) .value (gap ++ (v ++ (back ++ rest))) = _
    rw [hskip _ _ _ _ hgap (hrest.blanks hback), skipFrom_blanks hback]

theorem readColon_blanks {gap : Text} (h : Blanks gap) (s : Text) :
    readColon (gap ++ ':' :: s) = .ok s := by
  rw [readColon, skipBlanks_blanks h]
  rfl

theorem skipsPart_labelled {key value s : Text} (hkey : IsQuoted key) (hvalue : Skips value)
    (h : Labelled (key, value) s) : SkipsPart .object s := by
  obtain ⟨_, _, ⟨front, back, hfront, hback, rfl⟩, ⟨front', back', hfront', hback', rfl⟩, rfl⟩ := h
  obtain ⟨-, k, hk, hskip⟩ := hvalue
  obtain ⟨body, rfl, hbody⟩ := hkey.skipQuoted
  refine ⟨front, '"' :: body ++ (back ++ ':' :: (front' ++ (value ++ back'))), ?_, hfront,
    ⟨'"', _, rfl, by decide⟩, k, ?_, ?_⟩
  · simp only [List.append_assoc]
  · simp only [List.length_append, List.length_cons] at hk ⊢
    omega
  · intro moves brackets gap rest hgap hrest
    have hlabel : skipLabel .object (gap ++ ('"' :: body ++ (back ++ ':' :: (front' ++
        (value ++ back'))) ++ rest)) = .ok (front' ++ (value ++ (back' ++ rest))) := by
      simp only [List.append_assoc, List.cons_append]
      rw [skipLabel, skipBlanks_blanks hgap]
      show (skipQuoted (body ++ (back ++ ':' :: (front' ++ (value ++ (back' ++ rest))))) >>=
        readColon) = _
      rw [hbody]
      exact readColon_blanks hback _
    rw [hlabel]
    show skipFrom (moves + k) (.object :: brackets) .value _ = _
    rw [hskip _ _ _ _ hfront' (hrest.blanks hback'), skipFrom_blanks hback']

theorem skipFrom_closing {gap : Text} (hgap : Blanks gap) (moves : Nat) (b : Bracket)
    (brackets : List Bracket) {expecting : Expecting} (hexpecting : expecting ≠ .value)
    (rest : Text) :
    skipFrom (moves + 1) (b :: brackets) expecting (gap ++ b.closing :: rest) =
      skipFrom moves brackets .afterValue rest := by
  have hclosing : skipBlanks (b.closing :: rest) = b.closing :: rest := by
    cases b <;> rfl
  cases expecting with
  | value => exact absurd rfl hexpecting
  | afterOpening => simp only [skipFrom, skipBlanks_blanks hgap, hclosing, if_pos]
  | afterValue => simp only [skipFrom, skipBlanks_blanks hgap, hclosing, if_pos]

/-- What stands before a part: nothing before the first, and a comma before another. -/
inductive Lead : Bool → Text → Prop where
  | first : Lead true []
  | later : Lead false [',']

/-- What can stand before a part while a value is passed over. -/
def expectingPart (first : Bool) : Expecting :=
  if first then .afterOpening else .afterValue

theorem Lead.skipFrom_part {first : Bool} {lead front core : Text} {b : Bracket}
    (h : Lead first lead) (hfront : Blanks front) (hcore : Begins core) :
    ∃ gap, Blanks gap ∧ ∀ moves brackets rest,
      skipFrom (moves + 1) (b :: brackets) (expectingPart first)
          (lead ++ (front ++ (core ++ rest))) =
        (skipLabel b (gap ++ (core ++ rest)) >>= skipFrom moves (b :: brackets) .value) := by
  cases h with
  | first =>
      refine ⟨[], blanks_nil, fun moves brackets rest => ?_⟩
      have hskip := (hcore.append rest).skipBlanks
      obtain ⟨c, s, rfl, -, hlist, hobject⟩ := hcore
      have hclosing : c ≠ b.closing := by cases b <;> assumption
      show skipFrom (moves + 1) (b :: brackets) .afterOpening (front ++ (c :: s ++ rest)) = _
      simp only [skipFrom, skipBlanks_blanks hfront, hskip]
      rw [List.cons_append]
      dsimp only
      rw [if_neg hclosing, if_pos trivial, List.nil_append]
  | later =>
      refine ⟨front, hfront, fun moves brackets rest => ?_⟩
      have hclosing : ',' ≠ b.closing := by cases b <;> decide
      show (if ',' = b.closing then _ else if Expecting.afterValue = .afterOpening then _ else
        if ',' = ',' then _ else _) = _
      rw [if_neg hclosing, if_neg (by decide), if_pos rfl]
      rfl

/-- The parts of a list or an object, and its closing bracket. -/
theorem skipFrom_commas {α : Type} {part : α → Text → Prop} {b : Bracket} {as : List α} {s : Text}
    (h : Commas part as s) (hparts : ∀ a ∈ as, ∀ s, part a s → SkipsPart b s)
    {first : Bool} {lead : Text} (hlead : Lead first lead) :
    ∃ k ≤ 2 * s.length + 2, ∀ moves brackets rest,
      skipFrom (moves + k) (b :: brackets) (expectingPart first)
          (lead ++ (s ++ b.closing :: rest)) =
        skipFrom moves brackets .afterValue rest := by
  have hends (rest : Text) : Ends (b.closing :: rest) :=
    ends_cons rest (.inr (by cases b <;> decide))
  -- On the parts. Each takes a move to its beginning and its own moves; the last one takes another
  -- to the closing bracket.
  induction h generalizing first lead with
  | last hpart =>
      obtain ⟨front, core, rfl, hfront, hcore, k, hk, hskip⟩ :=
        hparts _ List.mem_cons_self _ hpart
      obtain ⟨gap, hgap, hopen⟩ := hlead.skipFrom_part (b := b) hfront hcore
      refine ⟨1 + k + 1, by omega, fun moves brackets rest => ?_⟩
      rw [List.append_assoc, show moves + (1 + k + 1) = moves + 1 + k + 1 by omega, hopen,
        hskip _ _ _ _ hgap (hends rest)]
      exact skipFrom_closing blanks_nil moves b brackets (by decide) rest
  | cons hpart hrest ih =>
      obtain ⟨front, core, rfl, hfront, hcore, k, hk, hskip⟩ :=
        hparts _ List.mem_cons_self _ hpart
      obtain ⟨gap, hgap, hopen⟩ := hlead.skipFrom_part (b := b) hfront hcore
      obtain ⟨k', hk', htail⟩ := ih (fun a ha => hparts a (List.mem_cons_of_mem _ ha)) .later
      refine ⟨1 + k + k', ?_, fun moves brackets rest => ?_⟩
      · rw [List.length_append, List.length_cons]
        omega
      · have hcomma (s : Text) : Ends (',' :: s) := ends_cons s (.inr (by decide))
        simp only [List.append_assoc, List.cons_append]
        rw [show moves + (1 + k + k') = moves + k' + k + 1 by omega, hopen,
          hskip _ _ _ _ hgap (hcomma _)]
        exact htail moves brackets rest

theorem skipFrom_inside {α : Type} {part : α → Text → Prop} {b : Bracket} {as : List α} {s : Text}
    (h : Inside part as s) (hparts : ∀ a ∈ as, ∀ s, part a s → SkipsPart b s) :
    ∃ k ≤ 2 * s.length + 2, ∀ moves brackets rest,
      skipFrom (moves + k) (b :: brackets) .afterOpening (s ++ b.closing :: rest) =
        skipFrom moves brackets .afterValue rest := by
  cases h with
  | empty hgap =>
      exact ⟨1, by omega, fun moves brackets rest =>
        skipFrom_closing hgap moves b brackets (by decide) rest⟩
  | parts h => exact skipFrom_commas h hparts .first

theorem skips_list {items : List Text} {t : Text} (h : IsList items t)
    (hitems : ∀ v ∈ items, Skips v) : Skips t := by
  obtain ⟨s, hinside, rfl⟩ := h
  obtain ⟨k, hk, hskip⟩ := skipFrom_inside (b := .list) hinside
    fun v hv s hs => skipsPart_padded (hitems v hv) hs
  refine ⟨⟨'[', _, rfl, by decide⟩, k + 1, ?_, fun moves brackets gap rest hgap _ => ?_⟩
  · simp only [List.length_cons, List.length_append]
    omega
  · rw [← Nat.add_assoc, skipFrom, skipOpening_blanks hgap]
    show skipFrom (moves + k) (.list :: brackets) .afterOpening (s ++ [']'] ++ rest) = _
    rw [List.append_assoc]
    exact hskip moves brackets rest

theorem skips_object {entries : List (Text × Text)} {t : Text} (h : IsObject entries t)
    (hkeys : ∀ e ∈ entries, IsQuoted e.1) (hvalues : ∀ e ∈ entries, Skips e.2) : Skips t := by
  obtain ⟨s, hinside, rfl⟩ := h
  obtain ⟨k, hk, hskip⟩ := skipFrom_inside (b := .object) hinside
    fun e he s hs => skipsPart_labelled (hkeys e he) (hvalues e he) hs
  refine ⟨⟨'{', _, rfl, by decide⟩, k + 1, ?_, fun moves brackets gap rest hgap _ => ?_⟩
  · simp only [List.length_cons, List.length_append]
    omega
  · rw [← Nat.add_assoc, skipFrom, skipOpening_blanks hgap]
    show skipFrom (moves + k) (.object :: brackets) .afterOpening (s ++ ['}'] ++ rest) = _
    rw [List.append_assoc]
    exact hskip moves brackets rest

/-! ## Values -/

theorem skips_word {t : Text} (h : t ∈ ["null".toList, "true".toList, "false".toList]) :
    Skips t := by
  simp only [List.mem_cons, List.not_mem_nil, or_false] at h
  rcases h with rfl | rfl | rfl
  · exact SkipsAtOnce.skips (fun _ _ => rfl) ⟨'n', _, rfl, by decide⟩
  · exact SkipsAtOnce.skips (fun _ _ => rfl) ⟨'t', _, rfl, by decide⟩
  · exact SkipsAtOnce.skips (fun _ _ => rfl) ⟨'f', _, rfl, by decide⟩

theorem IsValue.skips {t : Text} (h : IsValue t) : Skips t := by
  induction h with
  | word h => exact skips_word h
  | number h => exact h.skipsAtOnce.skips h.begins
  | text h => exact h.skipsAtOnce.skips h.begins
  | list h _ ih => exact skips_list h ih
  | object h hkeys _ ih => exact skips_object h hkeys ih

/-- **Every value of the grammar is passed over**, with the blanks before it and no more. -/
theorem skipValue_value {t gap rest : Text} (h : IsValue t) (hgap : Blanks gap)
    (hrest : Ends rest) : skipValue (gap ++ (t ++ rest)) = .ok rest := by
  obtain ⟨-, k, hk, hskip⟩ := h.skips
  obtain ⟨moves, hmoves⟩ : ∃ moves, 2 * (gap ++ (t ++ rest)).length + 2 = moves + 1 + k := by
    refine ⟨2 * (gap ++ (t ++ rest)).length + 1 - k, ?_⟩
    simp only [List.length_append]
    omega
  rw [skipValue, hmoves, hskip _ _ _ _ hgap hrest]
  rfl

end Dialogue.Json
