import Dialogue.Json.Record
import Dialogue.Proofs.Json.Skipping
import Dialogue.Proofs.Text.Digits

/-!
# Values are read however they are written

`Reads reader t a` says that a reader takes the value written `t`, with any blanks before it, and
makes `a` of it, whatever follows the value. Texts are read through all their escapes
(`SpellsText.reads`), whole numbers in their shortest form (`reads_ofInt`), and lists as soon as
their items are (`reads_list`).
-/

namespace Dialogue.Json

variable {α β : Type}

/-- A reader takes just this value, and gives this result. -/
structure Reads (reader : Reader α) (t : Text) (a : α) : Prop where
  begins : Begins t
  eq : ∀ gap rest, Blanks gap → Ends rest → reader (gap ++ (t ++ rest)) = .ok (a, rest)

theorem Reads.bind {reader : Reader α} {t : Text} {a : α} {b : β}
    {next : α × Text → Except Fault (β × Text)} (h : Reads reader t a)
    (hnext : ∀ rest, next (a, rest) = .ok (b, rest)) :
    Reads (fun s => reader s >>= next) t b := by
  refine ⟨h.begins, fun gap rest hgap hrest => ?_⟩
  rw [h.eq gap rest hgap hrest]
  exact hnext rest

/-! ## Texts -/

theorem SpellsHex.lt {n : Nat} {digits : Text} (h : SpellsHex n digits) : n < 0x10000 := by
  obtain ⟨a, b, c, d, _, _, _, _, ha, hb, hc, hd, rfl, -⟩ := h
  have hlt := And.intro ha.1 (And.intro hb.1 (And.intro hc.1 hd.1))
  omega

/-- No character is half of a surrogate pair. -/
theorem not_surrogate (c : Char) : ¬ (0xD800 ≤ c.toNat ∧ c.toNat ≤ 0xDFFF) := by
  intro h
  rcases c.valid with hlow | hhigh
  · have hlow : c.toNat < 0xD800 := hlow
    omega
  · have hhigh : 0xDFFF < c.toNat := hhigh.1
    omega

theorem SpellsHex.readTrailing {trailing : Nat} {digits : Text} (h : SpellsHex trailing digits)
    (htrailing : 0xDC00 ≤ trailing ∧ trailing ≤ 0xDFFF) (leading : Nat) (rest : Text) :
    readTrailing leading ('\\' :: 'u' :: (digits ++ rest)) =
      .ok (joinSurrogates leading trailing, rest) := by
  show (Json.readHex (digits ++ rest) >>= _) = _
  rw [h.readHex]
  exact if_pos htrailing

theorem SpellsChar.readChars {c : Char} {s : Text} (h : SpellsChar c s) (steps : Nat)
    (rest : Text) :
    readChars (steps + 1) (s ++ rest) = do
      let (s, rest) ← readChars steps rest
      return (c :: s, rest) := by
  -- All escapes begin with the same character; they differ in what is read behind it.
  have escaped {tail : Text} (hread : readEscape (tail ++ rest) = .ok (c, rest)) :
      Json.readChars (steps + 1) ('\\' :: tail ++ rest) = do
        let (s, rest) ← Json.readChars steps rest
        return (c :: s, rest) := by
    rw [List.cons_append, Json.readChars, if_neg (by decide), if_pos rfl, hread]
    rfl
  cases h with
  | plain hquote hslash hcontrol =>
      rw [List.singleton_append, Json.readChars, if_neg hquote, if_neg hslash,
        if_neg (Nat.not_lt.mpr hcontrol)]
  | short h =>
      refine escaped ?_
      simp only [shortEscapes, List.mem_cons, Prod.mk.injEq, List.not_mem_nil, or_false] at h
      rcases h with h | h | h | h | h | h | h | h <;> obtain ⟨rfl, rfl⟩ := h <;> rfl
  | hex h =>
      refine escaped ?_
      -- The reader looks for halves of a pair first, but no character is one.
      have hchar := not_surrogate c
      show (readHex (_ ++ rest) >>= _) = _
      rw [h.readHex]
      show (if _ then _ else if _ then _ else _) = _
      rw [if_neg (by omega), if_neg (by omega), Char.ofNat_toNat]
      rfl
  | pair hdigits hdigits' hleading htrailing hc =>
      refine escaped ?_
      rw [List.cons_append, List.append_assoc]
      show (readHex (_ ++ _) >>= _) = _
      rw [hdigits.readHex]
      show (if _ then _ else if _ then _ else _) = _
      rw [if_neg (by omega), if_pos hleading, List.cons_append, List.cons_append,
        hdigits'.readTrailing htrailing, joinSurrogates, ← hc, Char.ofNat_toNat]

theorem readChars_pieces {a : Text} {pieces : List Text} (h : List.Forall₂ SpellsChar a pieces)
    {steps : Nat} (hsteps : pieces.length < steps) (rest : Text) :
    readChars steps (pieces.flatten ++ '"' :: rest) = .ok (a, rest) := by
  induction h generalizing steps with
  | nil =>
      obtain ⟨n, rfl⟩ := Nat.exists_eq_add_of_lt hsteps
      rfl
  | @cons c s a pieces hc _ ih =>
      obtain ⟨n, rfl⟩ := Nat.exists_eq_add_of_lt hsteps
      rw [List.flatten_cons, List.append_assoc, hc.readChars,
        ih (by rw [List.length_cons]; omega)]
      rfl

theorem SpellsChar.length_pos {c : Char} {s : Text} (h : SpellsChar c s) : 0 < s.length := by
  cases h <;> exact Nat.succ_pos _

theorem length_le_pieces {a : Text} {pieces : List Text} (h : List.Forall₂ SpellsChar a pieces) :
    pieces.length ≤ pieces.flatten.length := by
  refine length_le_flatten ?_
  induction h with
  | nil => exact fun p hp => absurd hp List.not_mem_nil
  | cons hc _ ih => exact List.forall_mem_cons.mpr ⟨hc.length_pos, ih⟩

/-- What is between quotes is read, from behind the first of them. -/
theorem SpellsText.readQuoted {a t : Text} (h : SpellsText a t) :
    ∃ body, t = '"' :: body ∧ ∀ rest, readQuoted (body ++ rest) = .ok (a, rest) := by
  obtain ⟨pieces, hpieces, rfl⟩ := h
  refine ⟨_, rfl, fun rest => ?_⟩
  have hlength := length_le_pieces hpieces
  rw [Json.readQuoted, List.append_assoc]
  refine readChars_pieces hpieces ?_ rest
  rw [List.length_append]
  omega

theorem SpellsText.begins {a t : Text} (h : SpellsText a t) : Begins t := by
  obtain ⟨body, rfl, -⟩ := h.readQuoted
  exact ⟨'"', body, rfl, by decide⟩

theorem SpellsText.reads {a t : Text} (h : SpellsText a t) : Reads readText t a := by
  refine ⟨h.begins, fun gap rest hgap _ => ?_⟩
  obtain ⟨body, rfl, hread⟩ := h.readQuoted
  rw [readText, skipBlanks_blanks hgap]
  exact hread rest

theorem spellsChar_escape (c : Char) : SpellsChar c (escape c) := by
  unfold escape
  split
  case h_8 hquote hslash _ _ _ _ _ =>
    split
    · next hcontrol =>
      have hhigh : SpellsDigit (c.toNat / 16) (c.toNat / 16).digitChar := ⟨by omega, .inl rfl⟩
      have hlow : SpellsDigit (c.toNat % 16) (c.toNat % 16).digitChar := ⟨by omega, .inl rfl⟩
      have hzero : SpellsDigit 0 '0' := ⟨by decide, .inl rfl⟩
      exact .hex ⟨0, 0, _, _, _, _, _, _, hzero, hzero, hhigh, hlow, by omega, rfl⟩
    · next hcontrol => exact .plain hquote hslash (Nat.not_lt.mp hcontrol)
  all_goals exact .short (by decide)

/-- A text as it is printed is one way to write it. -/
theorem spellsText_printText (s : Text) : SpellsText s (printText s) := by
  refine ⟨s.map escape, ?_, ?_⟩
  · exact List.forall₂_map_right_iff.mpr (List.forall₂_same.mpr fun c _ => spellsChar_escape c)
  · rw [printText, List.flatMap_def]
    rfl

/-! ## Printed objects -/

theorem commas_printMembers {members : List (Text × Json)} (h : members ≠ []) :
    ∃ s, Commas Labelled (members.map fun m => (printText m.1, m.2.print)) s
      ∧ printMembers members = s ++ ['}'] := by
  induction members with
  | nil => exact absurd rfl h
  | cons m members ih =>
      have hlabelled := labelled_self (printText m.1) m.2.print
      cases members with
      | nil => exact ⟨_, .last hlabelled, by simp [printMembers]⟩
      | cons m' members =>
          obtain ⟨s, hcommas, hprint⟩ := ih (List.cons_ne_nil _ _)
          refine ⟨_, .cons hlabelled hcommas, ?_⟩
          rw [printMembers, hprint]
          · simp
          · exact List.cons_ne_nil _ _

/-- A printed object is an object of its members. -/
theorem isObject_print (members : List (Text × Json)) :
    IsObject (members.map fun m => (printText m.1, m.2.print)) (print (.object members)) := by
  cases members with
  | nil => exact ⟨[], .empty blanks_nil, rfl⟩
  | cons m members =>
      obtain ⟨s, hcommas, hprint⟩ := commas_printMembers (List.cons_ne_nil m members)
      exact ⟨s, .parts hcommas, by rw [print, hprint]⟩

/-! ## Whole numbers -/

theorem isDigits_ofNat (n : Nat) : IsDigits (Text.ofNat n) :=
  ⟨Nat.toDigits_ne_nil, fun _ hc => Text.isDigit_of_mem_ofNat hc⟩

theorem le_ofDigitChars (digits : Text) (n : Nat) : n ≤ Nat.ofDigitChars 10 digits n := by
  induction digits generalizing n with
  | nil => exact Nat.le_refl n
  | cons c digits ih =>
      rw [Nat.ofDigitChars_cons]
      exact Nat.le_trans (by omega) (ih _)

theorem absorbDigits_eq {digits : Text} {n : Nat}
    (h : Nat.ofDigitChars 10 digits n ≤ significandLimit) :
    absorbDigits n digits = (Nat.ofDigitChars 10 digits n, []) := by
  induction digits generalizing n with
  | nil => rfl
  | cons c digits ih =>
      have hnext : n * 10 + Text.digitValue c = 10 * n + (c.toNat - '0'.toNat) := by
        rw [Text.digitValue, Nat.mul_comm]
      rw [Nat.ofDigitChars_cons] at h ⊢
      rw [absorbDigits, hnext]
      exact (if_pos (Nat.le_trans (le_ofDigitChars _ _) h)).trans (ih h)

theorem readMagnitude_ofNat {n : Nat} (hn : n ≤ significandLimit) (negative : Bool) {rest : Text}
    (hrest : Ends rest) :
    readMagnitude negative (Text.ofNat n ++ rest) = .ok (whole negative n, rest) := by
  have hdigits := isDigits_ofNat n
  have hspan : Text.spanDigits (Text.ofNat n ++ rest) = (Text.ofNat n, rest) :=
    Text.spanDigits_digits hdigits.2 hrest.noDigit
  have habsorb : absorbDigits 0 (Text.ofNat n) = (n, []) := by
    have hvalue : Nat.ofDigitChars 10 (Text.ofNat n) 0 = n := Text.toNat_ofNat n
    rw [absorbDigits_eq (by rw [hvalue]; exact hn), hvalue]
  obtain ⟨c, digits, hcons⟩ := List.exists_cons_of_ne_nil hdigits.1
  rw [hcons] at hdigits hspan habsorb ⊢
  have hc : c.isDigit = true := hdigits.2 c List.mem_cons_self
  -- A leading zero is the whole number, since it is written in its shortest form.
  have hzero : ¬ (c = '0' ∧ (digits ++ rest).head?.any Char.isDigit = true) := by
    rintro ⟨rfl, hany⟩
    obtain rfl : n = 0 := by
      by_contra hn
      exact Text.head_ofNat hn (by rw [hcons]; rfl)
    obtain rfl : digits = [] := (List.cons.inj hcons).2.symm
    cases rest with
    | nil => cases hany
    | cons c rest =>
        rw [List.nil_append, List.head?_cons, Option.any_some, hrest.head.1] at hany
        cases hany
  unfold readMagnitude
  rw [List.cons_append] at hspan ⊢
  dsimp only
  rw [hc, if_neg (by decide), if_neg hzero, hspan]
  dsimp only
  rw [habsorb]
  dsimp only
  split
  · exact absurd rfl hrest.head.2.1
  · next c rest _ => exact if_pos ⟨rfl, hrest.head.2.2⟩
  · rfl

/-- **A whole number of 64 bits is read as itself.** -/
theorem readNumber_ofInt {i : Int} (hi : FitsWord i) {rest : Text} (hrest : Ends rest) :
    readNumber (Text.ofInt i ++ rest) = .ok (.int i, rest) := by
  have hlow : -9223372036854775808 ≤ i := hi.1
  have hhigh : i < 18446744073709551616 := hi.2
  have hlimit : significandLimit = 18446744073709551615 := rfl
  have hread (negative : Bool) := readMagnitude_ofNat (n := i.natAbs) (by omega) negative hrest
  rw [Text.ofInt]
  by_cases hneg : i < 0
  · have hword : Nat.pow 2 63 = 9223372036854775808 := rfl
    rw [if_pos hneg]
    show readMagnitude true (Text.ofNat i.natAbs ++ rest) = _
    rw [hread, whole, if_neg (by decide), if_neg (by omega), show -(i.natAbs : Int) = i by omega]
  · rw [if_neg hneg]
    unfold readNumber
    split
    · next hs => exact absurd ((isDigits_ofNat i.natAbs).head hs) (by decide)
    · rw [hread, whole, if_pos (by decide), show (i.natAbs : Int) = i by omega]

theorem ofInt_cons (i : Int) : ∃ c s, Text.ofInt i = c :: s ∧ (c = '-' ∨ c.isDigit = true) := by
  rw [Text.ofInt]
  split
  · exact ⟨'-', _, rfl, .inl rfl⟩
  · have hdigits := isDigits_ofNat i.natAbs
    obtain ⟨c, digits, hcons⟩ := List.exists_cons_of_ne_nil hdigits.1
    rw [hcons] at hdigits ⊢
    exact ⟨c, digits, rfl, .inr (hdigits.2 c List.mem_cons_self)⟩

/-- Zero with a minus sign is a double. -/
theorem readNumber_minusZero {rest : Text} (hrest : Ends rest) :
    readNumber (['-', '0'] ++ rest) = .ok (.double Binary64.zero.neg, rest) := by
  have hzero : whole true 0 = .double Binary64.zero.neg := rfl
  show readMagnitude true (Text.ofNat 0 ++ rest) = _
  rw [readMagnitude_ofNat (Nat.zero_le _) true hrest, hzero]

/-! ## Scalars of any kind -/

theorem readScalarOr_number {c : Char} (hc : c = '-' ∨ c.isDigit = true)
    (openList openObject : Reader Json) (s : Text) :
    readScalarOr openList openObject (c :: s) = do
      let (n, rest) ← readNumber (c :: s)
      return (.number n, rest) := by
  have hbegins : Begins (c :: s) := by
    rcases hc with rfl | hdigit
    · exact ⟨'-', s, rfl, by decide⟩
    · exact begins_digit hdigit s
  rw [readScalarOr, hbegins.skipBlanks]
  dsimp only
  split
  case h_7 => exact if_pos hc
  all_goals exact absurd hc (by decide)

theorem readScalarOr_blanks {gap : Text} (hgap : Blanks gap) (openList openObject : Reader Json)
    (s : Text) :
    readScalarOr openList openObject (gap ++ s) = readScalarOr openList openObject s := by
  rw [readScalarOr, skipBlanks_blanks hgap, ← readScalarOr]

theorem readValue_blanks {gap : Text} (hgap : Blanks gap) (depth : Nat) (s : Text) :
    readValue depth (gap ++ s) = readValue depth s := by
  cases depth with
  | zero => exact readScalarOr_blanks hgap _ _ s
  | succ depth => exact readScalarOr_blanks hgap _ _ s

/-- A value that is no list and no object is read alike at every depth. -/
theorem reads_readValue {t : Text} {j : Json} (hbegins : Begins t)
    (h : ∀ openList openObject rest, Ends rest →
      readScalarOr openList openObject (t ++ rest) = .ok (j, rest)) (depth : Nat) :
    Reads (readValue depth) t j := by
  refine ⟨hbegins, fun gap rest hgap hrest => ?_⟩
  rw [readValue_blanks hgap]
  cases depth with
  | zero => exact h _ _ rest hrest
  | succ depth => exact h _ _ rest hrest

theorem SpellsText.reads_value {a t : Text} (h : SpellsText a t) (depth : Nat) :
    Reads (readValue depth) t (.text a) := by
  refine reads_readValue h.begins (fun openList openObject rest _ => ?_) depth
  obtain ⟨body, rfl, hread⟩ := h.readQuoted
  show (Json.readQuoted (body ++ rest) >>= _) = _
  rw [hread]
  rfl

theorem reads_bool (b : Bool) (depth : Nat) :
    Reads (readValue depth) (if b then "true" else "false").toList (.bool b) := by
  cases b with
  | false => exact reads_readValue ⟨'f', _, rfl, by decide⟩ (fun _ _ _ _ => rfl) depth
  | true => exact reads_readValue ⟨'t', _, rfl, by decide⟩ (fun _ _ _ _ => rfl) depth

theorem reads_null_value (depth : Nat) : Reads (readValue depth) "null".toList .null :=
  reads_readValue ⟨'n', _, rfl, by decide⟩ (fun _ _ _ _ => rfl) depth

theorem reads_number {t : Text} {n : Number}
    (hhead : ∃ c s, t = c :: s ∧ (c = '-' ∨ c.isDigit = true))
    (h : ∀ rest, Ends rest → readNumber (t ++ rest) = .ok (n, rest)) (depth : Nat) :
    Reads (readValue depth) t (.number n) := by
  obtain ⟨c, s, rfl, hc⟩ := hhead
  have hbegins : Begins (c :: s) := by
    rcases hc with rfl | hdigit
    · exact ⟨'-', s, rfl, by decide⟩
    · exact begins_digit hdigit s
  refine reads_readValue hbegins (fun openList openObject rest hrest => ?_) depth
  have hread := h rest hrest
  rw [List.cons_append] at hread ⊢
  rw [readScalarOr_number hc, hread]
  rfl

theorem reads_ofInt {i : Int} (hi : FitsWord i) (depth : Nat) :
    Reads (readValue depth) (Text.ofInt i) (.number (.int i)) :=
  reads_number (ofInt_cons i) (fun _ hrest => readNumber_ofInt hi hrest) depth

theorem reads_minusZero (depth : Nat) :
    Reads (readValue depth) ['-', '0'] (.number (.double Binary64.zero.neg)) :=
  reads_number ⟨'-', ['0'], rfl, .inl rfl⟩ (fun _ hrest => readNumber_minusZero hrest) depth

/-! ## Things that may be null -/

theorem reads_null (reader : Reader α) : Reads (readNullable reader) "null".toList none := by
  refine ⟨⟨'n', _, rfl, by decide⟩, fun gap rest hgap _ => ?_⟩
  rw [readNullable, skipBlanks_blanks hgap]
  rfl

theorem Reads.nullable {reader : Reader α} {t : Text} {a : α} (h : Reads reader t a)
    (hnull : t.head? ≠ some 'n') : Reads (readNullable reader) t (some a) := by
  refine ⟨h.begins, fun gap rest hgap hrest => ?_⟩
  have hread := h.eq [] rest blanks_nil hrest
  rw [readNullable, skipBlanks_blanks hgap, (h.begins.append rest).skipBlanks]
  obtain ⟨c, s, rfl, -⟩ := h.begins
  split
  · next hs =>
    obtain ⟨rfl, -⟩ := List.cons.inj hs
    exact absurd rfl hnull
  · rw [← List.nil_append (c :: s ++ rest), hread]
    rfl

/-! ## Lists -/

theorem nextItem_blanks {gap : Text} (hgap : Blanks gap) (first : Bool) (s : Text) :
    nextItem first (gap ++ s) = nextItem first s := by
  rw [nextItem, skipBlanks_blanks hgap, ← nextItem]

theorem Lead.nextItem {first : Bool} {lead front core : Text} (h : Lead first lead)
    (hfront : Blanks front) (hcore : Begins core) :
    nextItem first (lead ++ (front ++ core)) = .ok (true, core) := by
  have hskip := hcore.skipBlanks
  obtain ⟨c, s, rfl, -, hlist, -⟩ := hcore
  cases h with
  | first =>
      rw [List.nil_append, nextItem_blanks hfront, Json.nextItem, hskip]
      exact (if_neg hlist).trans (if_pos rfl)
  | later =>
      have hcomma : skipBlanks ([','] ++ (front ++ c :: s)) = ',' :: (front ++ c :: s) := rfl
      rw [Json.nextItem, hcomma]
      dsimp only
      rw [if_neg (by decide), if_neg (by decide), if_pos rfl, skipBlanks_blanks hfront, hskip]
      split
      · next hs => cases hs
      · next hs =>
        obtain ⟨rfl, -⟩ := List.cons.inj hs
        exact absurd rfl hlist
      · rfl

theorem readItemsFrom_blanks {gap : Text} (hgap : Blanks gap) (item : Reader α) (steps : Nat)
    (first : Bool) (s : Text) :
    readItemsFrom item steps first (gap ++ s) = readItemsFrom item steps first s := by
  cases steps with
  | zero => rfl
  | succ steps => rw [readItemsFrom, nextItem_blanks hgap, ← readItemsFrom]

theorem ends_bracket (rest : Text) : Ends (']' :: rest) :=
  ends_cons rest (.inr (by decide))

theorem ends_comma (rest : Text) : Ends (',' :: rest) :=
  ends_cons rest (.inr (by decide))

/-- One item, up to what ends it. -/
theorem readItemsFrom_padded {item : Reader α} {v s : Text} {a : α} (hv : Reads item v a)
    (h : Padded v s) {first : Bool} {lead : Text} (hlead : Lead first lead) {tail : Text}
    (htail : Ends tail) (steps : Nat) :
    readItemsFrom item (steps + 1) first (lead ++ (s ++ tail)) = do
      let (as, s) ← readItemsFrom item steps false tail
      return (a :: as, s) := by
  obtain ⟨front, back, hfront, hback, rfl⟩ := h
  have hnext := hlead.nextItem hfront (hv.begins.append (back ++ tail))
  have hitem : item (v ++ (back ++ tail)) = .ok (a, back ++ tail) :=
    hv.eq [] _ blanks_nil (htail.blanks hback)
  rw [List.append_assoc, List.append_assoc, readItemsFrom, hnext]
  show (item (v ++ (back ++ tail)) >>= _) = _
  rw [hitem]
  show (readItemsFrom item steps false (back ++ tail) >>= _) = _
  rw [readItemsFrom_blanks hback]

theorem readItemsFrom_commas {item : Reader α} {items : List Text} {s : Text}
    (h : Commas Padded items s) {as : List α} (hitems : List.Forall₂ (Reads item) items as)
    {first : Bool} {lead : Text} (hlead : Lead first lead) (steps : Nat) (rest : Text) :
    readItemsFrom item (items.length + steps + 1) first (lead ++ (s ++ ']' :: rest)) =
      .ok (as, rest) := by
  induction h generalizing as first lead with
  | last hpadded =>
      obtain ⟨a, _, hv, hnil, rfl⟩ := List.forall₂_cons_left_iff.mp hitems
      obtain rfl := List.forall₂_nil_left_iff.mp hnil
      rw [readItemsFrom_padded hv hpadded hlead (ends_bracket rest), List.length_singleton,
        Nat.add_comm 1]
      rfl
  | @cons v s items t hpadded _ ih =>
      obtain ⟨a, as, hv, htail, rfl⟩ := List.forall₂_cons_left_iff.mp hitems
      have hsteps : (v :: items).length + steps = items.length + steps + 1 := by
        rw [List.length_cons]
        omega
      have hrest := ih htail .later
      rw [List.singleton_append] at hrest
      rw [List.append_assoc, List.cons_append,
        readItemsFrom_padded hv hpadded hlead (ends_comma _), hsteps, hrest]
      rfl

/-- There is at least one character to every part, a comma or what stands behind them all. -/
theorem length_le_commas {part : β → Text → Prop} {as : List β} {s : Text}
    (h : Commas part as s) (c : Char) (rest : Text) : as.length ≤ (s ++ c :: rest).length := by
  induction h with
  | last =>
      rw [List.length_singleton, List.length_append, List.length_cons]
      omega
  | cons _ _ ih =>
      rw [List.append_assoc, List.length_append, List.cons_append, List.length_cons,
        List.length_cons]
      omega

theorem readItems_inside {item : Reader α} {items : List Text} {s : Text} {as : List α}
    (hinside : Inside Padded items s) (hitems : List.Forall₂ (Reads item) items as) (rest : Text) :
    readItems item (s ++ ']' :: rest) = .ok (as, rest) := by
  cases hinside with
  | empty hblanks =>
      obtain rfl := List.forall₂_nil_left_iff.mp hitems
      rw [readItems, readItemsFrom_blanks hblanks]
      rfl
  | parts hcommas =>
      obtain ⟨steps, hsteps⟩ := Nat.exists_eq_add_of_le (length_le_commas hcommas ']' rest)
      rw [readItems, hsteps]
      exact readItemsFrom_commas hcommas hitems .first steps rest

/-- **A list is read item by item,** wherever its blanks are. -/
theorem reads_list {item : Nat → Reader α} {depth : Nat} {items : List Text} {t : Text}
    {as : List α} (h : IsList items t) (hitems : List.Forall₂ (Reads (item depth)) items as) :
    Reads (readList (depth + 1) item) t as := by
  obtain ⟨s, hinside, rfl⟩ := h
  refine ⟨⟨'[', _, rfl, by decide⟩, fun gap rest hgap _ => ?_⟩
  rw [readList, skipBlanks_blanks hgap, List.cons_append, List.append_assoc]
  exact readItems_inside hinside hitems rest

/-! ## Whole texts -/

/-- **A text that holds a value and nothing else is read as the value,** whatever blanks stand
around it. -/
theorem Reads.parseWith {reader : Reader α} {core t : Text} {a : α} (h : Reads reader core a)
    (ht : Padded core t) : parseWith reader t = .ok a := by
  obtain ⟨front, back, hfront, hback, rfl⟩ := ht
  have hend : skipBlanks back = [] := by
    rw [← List.append_nil back, skipBlanks_blanks hback]
    rfl
  rw [Json.parseWith, h.eq front back hfront hback.ends]
  exact if_pos hend

end Dialogue.Json
