import Dialogue.Proofs.Json.Reading
import Dialogue.Proofs.Text.Utf8
import Dialogue.Proofs.Traversal

/-!
# Readers stop where values end

`Reads` says what becomes of a value that is of the right shape. Of a value of any shape less can be
said: a reader that gets through it stops right behind it, and what was read has some property. This
is `Yields`; a reader that gets through no value written so `Refuses` it. A text is read to the
quote that closes it, if it is read (`yields_readText`), and a number to its last digit, with the
same result whatever follows it (`IsNumeral.settles`). What a value is can be told by its first
character (`IsValue.opens`).
-/

namespace Dialogue.Json

variable {α β : Type}

/-! ## Results -/

theorem ok_inj {a b : α} {s s' : Text}
    (h : (.ok (a, s) : Except Fault (α × Text)) = .ok (b, s')) : b = a ∧ s' = s := by
  cases h
  exact ⟨rfl, rfl⟩

/-- A reader that gets through a value stops right behind it, and what it has read is as it should
be. -/
def Yields (reader : Reader α) (t : Text) (post : α → Prop) : Prop :=
  ∀ gap rest a s, Blanks gap → Ends rest → reader (gap ++ (t ++ rest)) = .ok (a, s) →
    s = rest ∧ post a

/-- A reader gets through no value that is written so. -/
def Refuses (reader : Reader α) (t : Text) : Prop :=
  Yields reader t fun _ => False

theorem Yields.mono {reader : Reader α} {t : Text} {post post' : α → Prop}
    (h : Yields reader t post) (himp : ∀ a, post a → post' a) : Yields reader t post' :=
  fun gap rest a s hgap hrest hread => (h gap rest a s hgap hrest hread).imp_right (himp a)

theorem Yields.bind {reader : Reader α} {t : Text} {post : α → Prop} {post' : β → Prop}
    {next : α × Text → Except Fault (β × Text)} (h : Yields reader t post)
    (hnext : ∀ a s b s', post a → next (a, s) = .ok (b, s') → s' = s ∧ post' b) :
    Yields (fun s => reader s >>= next) t post' := by
  intro gap rest b s' hgap hrest hread
  obtain ⟨⟨a, s⟩, hok, hnextok⟩ := ok_of_bind hread
  obtain ⟨rfl, ha⟩ := h gap rest a s hgap hrest hok
  exact hnext a s b s' ha hnextok

theorem Refuses.bind {reader : Reader α} {t : Text} {next : α × Text → Except Fault (β × Text)}
    (h : Refuses reader t) : Refuses (fun s => reader s >>= next) t :=
  Yields.bind h fun _ _ _ _ hfalse => hfalse.elim

/-- What is refused is refused as a whole text, too. -/
theorem Refuses.parseWith {reader : Reader α} {core t : Text} (h : Refuses reader core)
    (ht : Padded core t) : ∃ fault, parseWith reader t = .error fault := by
  obtain ⟨front, back, hfront, hback, rfl⟩ := ht
  cases hparse : Json.parseWith reader (front ++ (core ++ back)) with
  | error fault => exact ⟨fault, rfl⟩
  | ok a =>
      obtain ⟨⟨a, rest⟩, hread, -⟩ := ok_of_bind hparse
      exact (h front back a rest hfront hback.ends hread).2.elim

/-! ## Texts -/

theorem SpellsText.unique {a b t : Text} (h : SpellsText a t) (h' : SpellsText b t) : a = b := by
  obtain ⟨body, rfl, hread⟩ := h.readQuoted
  obtain ⟨_, hbody, hread'⟩ := h'.readQuoted
  obtain ⟨-, rfl⟩ := List.cons.inj hbody
  exact (ok_inj ((hread' []).symm.trans (hread []))).1

theorem SpellsChar.exists_pieces {c : Char} {s : Text} (h : SpellsChar c s) :
    ∃ pieces : List Text, (∀ p ∈ pieces, IsPiece p) ∧ pieces.flatten = s := by
  cases h with
  | plain hquote hslash hcontrol =>
      exact ⟨[_], List.forall_mem_singleton.mpr (.plain hquote hslash hcontrol), rfl⟩
  | short hletter => exact ⟨[_], List.forall_mem_singleton.mpr (.short hletter), rfl⟩
  | hex hdigits => exact ⟨[_], List.forall_mem_singleton.mpr (.hex hdigits), List.append_nil _⟩
  | pair hdigits hdigits' _ _ _ =>
      refine ⟨[_, _], List.forall_mem_cons.mpr ⟨.hex hdigits, List.forall_mem_singleton.mpr
        (.hex hdigits')⟩, ?_⟩
      simp only [List.flatten_cons, List.flatten_nil, List.append_nil, List.cons_append]

theorem SpellsText.isQuoted {a t : Text} (h : SpellsText a t) : IsQuoted t := by
  obtain ⟨spelled, hspelled, rfl⟩ := h
  have hpieces : ∃ pieces : List Text, (∀ p ∈ pieces, IsPiece p)
      ∧ pieces.flatten = spelled.flatten := by
    induction hspelled with
    | nil => exact ⟨[], nofun, rfl⟩
    | cons hc _ ih =>
        obtain ⟨first, hfirst, rfl⟩ := hc.exists_pieces
        obtain ⟨pieces, hpieces, hflat⟩ := ih
        refine ⟨first ++ pieces, fun p hp => ?_,
          by rw [List.flatten_append, hflat, List.flatten_cons]⟩
        exact (List.mem_append.mp hp).elim (hfirst p) (hpieces p)
  obtain ⟨pieces, hpieces, hflat⟩ := hpieces
  exact ⟨pieces, hpieces, by rw [hflat]⟩

theorem isQuoted_printText (s : Text) : IsQuoted (printText s) :=
  (spellsText_printText s).isQuoted

theorem SpellsChar.readChars_ok {c : Char} {p s a rest : Text} {steps : Nat} (h : SpellsChar c p)
    (hread : Json.readChars (steps + 1) (p ++ s) = .ok (a, rest)) :
    ∃ a', a = c :: a' ∧ Json.readChars steps s = .ok (a', rest) := by
  rw [h.readChars] at hread
  obtain ⟨⟨a', s'⟩, hok, hread⟩ := ok_of_bind hread
  obtain ⟨rfl, rfl⟩ := ok_inj hread
  exact ⟨a', rfl, hok⟩

theorem SpellsHex.readEscape {n : Nat} {digits : Text} (h : SpellsHex n digits) (s : Text) :
    Json.readEscape ('u' :: (digits ++ s)) =
      if 0xDC00 ≤ n ∧ n ≤ 0xDFFF then .error .loneLeadingSurrogate
      else if 0xD800 ≤ n ∧ n ≤ 0xDBFF then Json.readTrailing n s
      else .ok (Char.ofNat n, s) := by
  show (Json.readHex (digits ++ s) >>= _) = _
  rw [h.readHex]
  rfl

/-- The second half of a pair is a piece of its own. -/
theorem trailing_of_readTrailing {leading : Nat} {pieces : List Text} {rest s : Text} {c : Char}
    (h : ∀ p ∈ pieces, IsPiece p)
    (hread : readTrailing leading (pieces.flatten ++ '"' :: rest) = .ok (c, s)) :
    ∃ trailing digits pieces', pieces = ('\\' :: 'u' :: digits) :: pieces'
      ∧ SpellsHex trailing digits ∧ 0xDC00 ≤ trailing ∧ trailing ≤ 0xDFFF := by
  cases pieces with
  | nil => cases hread
  | cons p pieces =>
      obtain ⟨hp, -⟩ := List.forall_mem_cons.mp h
      cases hp with
      | @plain c _ hslash _ =>
          rw [List.flatten_cons, List.singleton_append, List.cons_append] at hread
          unfold readTrailing at hread
          split at hread
          · next hs => exact absurd (List.cons.inj hs).1 hslash
          · cases hread
          · cases hread
          · cases hread
      | short hletter =>
          simp only [shortEscapes, List.mem_cons, Prod.mk.injEq, List.not_mem_nil, or_false]
            at hletter
          rcases hletter with h | h | h | h | h | h | h | h <;> obtain ⟨rfl, -⟩ := h <;> cases hread
      | @hex n digits hdigits =>
          refine ⟨n, digits, pieces, rfl, hdigits, ?_⟩
          rw [List.flatten_cons, List.append_assoc] at hread
          have hread : (readHex (digits ++ (pieces.flatten ++ '"' :: rest)) >>= _) = .ok (c, s) :=
            hread
          rw [hdigits.readHex] at hread
          by_contra htrailing
          cases hread.symm.trans (if_neg htrailing)

/-- Where a text is read, one piece or a pair of them is its first character. -/
theorem exists_spellsChar {p a rest s : Text} {pieces : List Text} {steps : Nat}
    (h : ∀ q ∈ p :: pieces, IsPiece q)
    (hread : readChars (steps + 1) ((p :: pieces).flatten ++ '"' :: rest) = .ok (a, s)) :
    ∃ (c : Char) (q : Text) (pieces' : List Text), SpellsChar c q ∧ (∀ q ∈ pieces', IsPiece q)
      ∧ (p :: pieces).flatten = q ++ pieces'.flatten := by
  obtain ⟨hp, hpieces⟩ := List.forall_mem_cons.mp h
  cases hp with
  | plain hquote hslash hcontrol => exact ⟨_, _, _, .plain hquote hslash hcontrol, hpieces, rfl⟩
  | short hletter => exact ⟨_, _, _, .short hletter, hpieces, rfl⟩
  | @hex n digits hdigits =>
      have hlt := hdigits.lt
      rw [List.flatten_cons, List.append_assoc, List.cons_append, List.cons_append, readChars,
        if_neg (by decide), if_pos rfl] at hread
      obtain ⟨⟨c, s'⟩, hescape, -⟩ := ok_of_bind hread
      rw [hdigits.readEscape] at hescape
      split at hescape
      · cases hescape
      split at hescape
      · next hleading =>
        obtain ⟨trailing, digits', pieces', rfl, hdigits', htrailing⟩ :=
          trailing_of_readTrailing hpieces hescape
        have hpair := Utf8.toNat_ofNat
          (n := 0x10000 + (n - 0xD800) * 0x400 + (trailing - 0xDC00)) (.inr (by omega))
        refine ⟨_, _, pieces', .pair hdigits hdigits' hleading htrailing hpair,
          (List.forall_mem_cons.mp hpieces).2, ?_⟩
        simp only [List.flatten_cons, List.cons_append, List.append_assoc]
      · have hchar : (Char.ofNat n).toNat = n := Utf8.toNat_ofNat (by omega)
        exact ⟨_, _, pieces, .hex (hchar.symm ▸ hdigits), hpieces, rfl⟩

/-- What is between quotes may be no text, but if a text is read it is the one that is written. -/
theorem readChars_ok {pieces : List Text} {a rest s : Text} {steps : Nat}
    (h : ∀ p ∈ pieces, IsPiece p)
    (hread : readChars steps (pieces.flatten ++ '"' :: rest) = .ok (a, s)) :
    s = rest ∧ ∃ spelled, List.Forall₂ SpellsChar a spelled ∧ spelled.flatten = pieces.flatten := by
  -- On the steps and not on the pieces, for a pair of surrogates is read in one step.
  induction steps generalizing pieces a with
  | zero => cases hread
  | succ steps ih =>
      cases pieces with
      | nil =>
          obtain ⟨rfl, rfl⟩ := ok_inj hread
          exact ⟨rfl, [], .nil, rfl⟩
      | cons p pieces =>
          obtain ⟨c, q, pieces', hc, hpieces', hflat⟩ := exists_spellsChar h hread
          rw [hflat, List.append_assoc] at hread
          obtain ⟨a, rfl, htail⟩ := hc.readChars_ok hread
          obtain ⟨hs, spelled, hspelled, heq⟩ := ih hpieces' htail
          exact ⟨hs, q :: spelled, .cons hc hspelled, by rw [List.flatten_cons, heq, hflat]⟩

theorem IsQuoted.readQuoted_ok {t : Text} (h : IsQuoted t) :
    ∃ body, t = '"' :: body ∧ ∀ rest a s, readQuoted (body ++ rest) = .ok (a, s) →
      s = rest ∧ SpellsText a t := by
  obtain ⟨pieces, hpieces, rfl⟩ := h
  refine ⟨_, rfl, fun rest a s hread => ?_⟩
  rw [readQuoted, List.append_assoc] at hread
  obtain ⟨hs, spelled, hspelled, heq⟩ := readChars_ok hpieces hread
  exact ⟨hs, spelled, hspelled, by rw [heq]⟩

/-! ## Numbers -/

/-- What a reader makes of a value, a result or a fault, does not depend on what follows it. -/
def Settles (reader : Reader α) (t : Text) (follows : Text → Prop) : Prop :=
  ∃ outcome : Except Fault α, ∀ rest, follows rest →
    reader (t ++ rest) = outcome.map fun a => (a, rest)

theorem Settles.ok {reader : Reader α} {t rest s : Text} {follows : Text → Prop} {a : α}
    (h : Settles reader t follows) (hrest : follows rest)
    (hread : reader (t ++ rest) = .ok (a, s)) :
    s = rest ∧ ∀ rest', follows rest' → reader (t ++ rest') = .ok (a, rest') := by
  obtain ⟨outcome, houtcome⟩ := h
  rw [houtcome rest hrest] at hread
  cases outcome with
  | error fault => cases hread
  | ok b =>
      obtain ⟨rfl, rfl⟩ := ok_inj hread
      exact ⟨rfl, houtcome⟩

/-- The value of a number with an exponent, if it has one. -/
def exponentOutcome (negative : Bool) (n : Nat) (exponent : Int) (down : Bool) (digits : Text) :
    Except Fault Number :=
  match boundedExponent? digits with
  | some e => (scaled n (if down then exponent - e else exponent + e)).map (signed negative)
  | none =>
    if n ≠ 0 ∧ !down then .error .numberOutOfRange else .ok (signed negative Binary64.zero)

theorem settles_readExponent {sign digits : Text} (hsign : sign ∈ [[], ['+'], ['-']])
    (hdigits : IsDigits digits) (negative : Bool) (n : Nat) (exponent : Int) :
    Settles (readExponent negative n exponent) (sign ++ digits) NoDigit := by
  refine ⟨exponentOutcome negative n exponent (sign == ['-']) digits, fun rest hrest => ?_⟩
  rw [List.append_assoc]
  unfold readExponent
  split
  next _ down t hs =>
  -- The sign is taken off, for no digit is one.
  have hsigned : down = (sign == ['-']) ∧ t = digits ++ rest := by
    simp only [List.mem_cons, List.not_mem_nil, or_false] at hsign
    rcases hsign with rfl | rfl | rfl
    · split at hs
      · next hminus => exact absurd (hdigits.head hminus) (by decide)
      · next hplus => exact absurd (hdigits.head hplus) (by decide)
      · exact (Prod.mk.inj hs).imp Eq.symm Eq.symm
    · exact (Prod.mk.inj hs).imp Eq.symm Eq.symm
    · exact (Prod.mk.inj hs).imp Eq.symm Eq.symm
  obtain ⟨rfl, rfl⟩ := hsigned
  have hspan := Text.spanDigits_digits hdigits.2 hrest
  obtain ⟨c, digits, rfl⟩ := List.exists_cons_of_ne_nil hdigits.1
  have hc : c.isDigit = true := hdigits.2 c List.mem_cons_self
  dsimp only [List.cons_append] at hspan ⊢
  rw [hspan, hc, if_neg (by decide), exponentOutcome]
  cases boundedExponent? (c :: digits) with
  | some e =>
      dsimp only
      cases scaled n _ <;> rfl
  | none =>
      dsimp only
      split <;> rfl

theorem settles_readDouble {t : Text} (ht : IsExponent t) (negative : Bool) (n : Nat)
    (exponent : Int) : Settles (readDouble negative n exponent) t Ends := by
  rcases ht with rfl | ⟨letter, sign, digits, hletter, hsign, hdigits, rfl⟩
  · refine ⟨(scaled n exponent).map (signed negative), fun rest hrest => ?_⟩
    cases rest with
    | nil =>
        rw [List.append_nil, readDouble]
        cases scaled n exponent <;> rfl
    | cons c rest =>
        obtain ⟨-, -, he, hE⟩ := hrest.head
        rw [List.nil_append, readDouble, if_neg (not_or.mpr ⟨he, hE⟩)]
        cases scaled n exponent <;> rfl
  · have hletter : letter = 'e' ∨ letter = 'E' := by simpa using hletter
    obtain ⟨outcome, houtcome⟩ := settles_readExponent hsign hdigits negative n exponent
    refine ⟨outcome, fun rest hrest => ?_⟩
    rw [List.cons_append, readDouble, if_pos hletter]
    exact houtcome rest hrest.noDigit

theorem settles_readPlaces {digits t : Text} (hdigits : IsDigits digits) (ht : IsExponent t)
    (negative : Bool) (n : Nat) (exponent : Int) :
    Settles (readPlaces negative n exponent) (digits ++ t) Ends := by
  obtain ⟨outcome, houtcome⟩ := settles_readDouble ht negative (absorbDigits n digits).1
    (exponent - ((digits.length - (absorbDigits n digits).2.length : Nat) : Int))
  refine ⟨outcome, fun rest hrest => ?_⟩
  unfold readPlaces
  rw [List.append_assoc, Text.spanDigits_digits hdigits.2 (ht.noDigit hrest)]
  dsimp only
  rw [if_neg hdigits.1]
  exact houtcome rest hrest

theorem IsWhole.digits {t : Text} (h : IsWhole t) : IsDigits t := by
  rcases h with rfl | ⟨hdigits, -⟩
  · exact ⟨List.cons_ne_nil _ _, by simp⟩
  · exact hdigits

/-- No digit follows a leading zero. -/
theorem IsWhole.leadingZero {c : Char} {digits rest : Text} (h : IsWhole (c :: digits))
    (hrest : NoDigit rest) : ¬ (c = '0' ∧ (digits ++ rest).head?.any Char.isDigit = true) := by
  rintro ⟨rfl, hany⟩
  rcases h with hzero | ⟨-, hhead⟩
  · obtain ⟨-, rfl⟩ := List.cons.inj hzero
    cases rest with
    | nil => cases hany
    | cons d rest => cases (hrest d rfl).symm.trans hany
  · exact hhead rfl

/-- What `readMagnitude` does behind the digits before the point. -/
def readFraction (negative : Bool) (n : Nat) (left : Text) : Reader Number := fun s =>
  match s with
  | '.' :: rest => readPlaces negative n left.length rest
  | c :: _ =>
    if left = [] ∧ c ≠ 'e' ∧ c ≠ 'E' then return (whole negative n, s)
    else readDouble negative n left.length s
  | [] =>
    if left = [] then return (whole negative n, [])
    else readDouble negative n left.length []

theorem settles_readFraction {places exponent : Text} (hplaces : IsPlaces places)
    (hexponent : IsExponent exponent) (negative : Bool) (n : Nat) (left : Text) :
    Settles (readFraction negative n left) (places ++ exponent) Ends := by
  rcases hplaces with rfl | ⟨digits, hdigits, rfl⟩
  · obtain ⟨outcome, houtcome⟩ := settles_readDouble hexponent negative n left.length
    rcases id hexponent with rfl | ⟨letter, sign, digits, hletter, -, -, rfl⟩
    · -- A whole number, if its digits fit.
      refine ⟨if left = [] then .ok (whole negative n) else outcome, fun rest hrest => ?_⟩
      have hdouble := houtcome rest hrest
      rw [List.nil_append, List.nil_append]
      unfold readFraction
      split
      · exact absurd rfl hrest.head.2.1
      · next c s _ =>
        obtain ⟨-, -, he, hE⟩ := hrest.head
        by_cases hleft : left = []
        · rw [if_pos ⟨hleft, he, hE⟩, if_pos hleft]
          rfl
        · rw [if_neg fun h => hleft h.1, if_neg hleft]
          exact hdouble
      · split
        · rfl
        · exact hdouble
    · refine ⟨outcome, fun rest hrest => ?_⟩
      have hdouble := houtcome rest hrest
      rw [List.nil_append]
      unfold readFraction
      split
      · next hs => exact absurd hs (hexponent.ne_point hrest _)
      · next hs =>
        obtain ⟨rfl, -⟩ := List.cons.inj hs
        simp only [List.mem_cons, List.not_mem_nil, or_false] at hletter
        rw [if_neg (by tauto)]
        exact hdouble
      · next hs => cases hs
  · exact settles_readPlaces hdigits hexponent negative n left.length

theorem readMagnitude_whole {whole rest : Text} (hwhole : IsWhole whole) (hrest : NoDigit rest)
    (negative : Bool) : readMagnitude negative (whole ++ rest) =
      readFraction negative (absorbDigits 0 whole).1 (absorbDigits 0 whole).2 rest := by
  have hspan := Text.spanDigits_digits hwhole.digits.2 hrest
  obtain ⟨c, digits, rfl⟩ := List.exists_cons_of_ne_nil hwhole.ne_nil
  unfold readMagnitude
  dsimp only [List.cons_append] at hspan ⊢
  rw [hwhole.head, if_neg (by decide), if_neg (hwhole.leadingZero hrest), hspan]
  rfl

theorem settles_readMagnitude {whole places exponent : Text} (hwhole : IsWhole whole)
    (hplaces : IsPlaces places) (hexponent : IsExponent exponent) (negative : Bool) :
    Settles (readMagnitude negative) (whole ++ (places ++ exponent)) Ends := by
  obtain ⟨outcome, houtcome⟩ :=
    settles_readFraction hplaces hexponent negative (absorbDigits 0 whole).1
      (absorbDigits 0 whole).2
  refine ⟨outcome, fun rest hrest => ?_⟩
  rw [List.append_assoc, List.append_assoc, readMagnitude_whole hwhole
    (hplaces.noDigit hexponent hrest), ← houtcome rest hrest, List.append_assoc]

theorem IsNumeral.settles {t : Text} (h : IsNumeral t) : Settles readNumber t Ends := by
  obtain ⟨sign, whole, places, exponent, hsign, hwhole, hplaces, hexponent, rfl⟩ := h
  simp only [List.mem_cons, List.not_mem_nil, or_false] at hsign
  rcases hsign with rfl | rfl
  · obtain ⟨outcome, houtcome⟩ := settles_readMagnitude hwhole hplaces hexponent false
    refine ⟨outcome, fun rest hrest => ?_⟩
    rw [List.nil_append, ← houtcome rest hrest]
    unfold readNumber
    split
    · next hs =>
      rw [List.append_assoc] at hs
      exact absurd (hwhole.digits.head hs) (by decide)
    · rfl
  · exact settles_readMagnitude hwhole hplaces hexponent true

/-! ## First characters -/

/-- What the first character of a value tells of it. -/
structure Opens (c : Char) (t : Text) : Prop where
  null : c = 'n' → t = "null".toList
  text : c = '"' → IsQuoted t
  list : c = '[' → ∃ items, IsValueList items t
  object : c = '{' → ∃ entries, IsValueObject entries t

theorem IsNumeral.head {c : Char} {s : Text} (h : IsNumeral (c :: s)) :
    c = '-' ∨ c.isDigit = true := by
  obtain ⟨sign, whole, places, exponent, hsign, hwhole, -, -, ht⟩ := h
  simp only [List.mem_cons, List.not_mem_nil, or_false] at hsign
  rcases hsign with rfl | rfl
  · exact .inr (hwhole.digits.head ht.symm)
  · exact .inl (List.cons.inj ht).1

theorem IsValue.opens {c : Char} {s : Text} (h : IsValue (c :: s)) : Opens c (c :: s) := by
  generalize ht : c :: s = t at h
  cases h with
  | word h =>
      simp only [List.mem_cons, List.not_mem_nil, or_false] at h
      rcases h with rfl | rfl | rfl <;> obtain ⟨rfl, -⟩ := List.cons.inj ht
      · exact ⟨fun _ => rfl, nofun, nofun, nofun⟩
      · exact ⟨nofun, nofun, nofun, nofun⟩
      · exact ⟨nofun, nofun, nofun, nofun⟩
  | number h =>
      have hc := (ht ▸ h).head
      refine ⟨?_, ?_, ?_, ?_⟩ <;> rintro rfl <;> exact absurd hc (by decide)
  | text h =>
      obtain ⟨_, -, rfl⟩ := id h
      obtain ⟨rfl, -⟩ := List.cons.inj ht
      exact ⟨nofun, fun _ => h, nofun, nofun⟩
  | list h hitems =>
      obtain ⟨_, -, rfl⟩ := id h
      obtain ⟨rfl, -⟩ := List.cons.inj ht
      exact ⟨nofun, nofun, fun _ => ⟨_, h, hitems⟩, nofun⟩
  | object h hkeys hvalues =>
      obtain ⟨_, -, rfl⟩ := id h
      obtain ⟨rfl, -⟩ := List.cons.inj ht
      exact ⟨nofun, nofun, nofun, fun _ => ⟨_, h, hkeys, hvalues⟩⟩

theorem IsValue.begins {t : Text} (h : IsValue t) : Begins t :=
  h.skips.1

/-- Where blanks are of no account. -/
theorem yields_of_blanks {reader : Reader α} {t : Text} {post : α → Prop}
    (hblanks : ∀ gap s, Blanks gap → reader (gap ++ s) = reader s)
    (h : ∀ rest a s, Ends rest → reader (t ++ rest) = .ok (a, s) → s = rest ∧ post a) :
    Yields reader t post := by
  intro gap rest a s hgap hrest hread
  rw [hblanks gap _ hgap] at hread
  exact h rest a s hrest hread

theorem yields_readText {t : Text} (h : IsValue t) : Yields readText t fun a => SpellsText a t := by
  refine yields_of_blanks (fun gap s hgap => by rw [readText, skipBlanks_blanks hgap, ← readText])
    fun rest a s _ hread => ?_
  rw [readText, (h.begins.append rest).skipBlanks] at hread
  split at hread
  · next hs =>
    obtain ⟨c, t, rfl, -⟩ := h.begins
    obtain ⟨rfl, rfl⟩ := List.cons.inj hs
    obtain ⟨body, hbody, hok⟩ := (h.opens.text rfl).readQuoted_ok
    obtain ⟨-, rfl⟩ := List.cons.inj hbody
    exact hok rest a s hread
  · cases hread

theorem Yields.nullable {reader : Reader α} {t : Text} {post : α → Prop} (h : Yields reader t post)
    (ht : IsValue t) :
    Yields (readNullable reader) t fun o => (o = none → t = "null".toList) ∧ ∀ a ∈ o, post a := by
  refine yields_of_blanks
    (fun gap s hgap => by rw [readNullable, skipBlanks_blanks hgap, ← readNullable])
    fun rest o s hrest hread => ?_
  rw [readNullable, (ht.begins.append rest).skipBlanks] at hread
  split at hread
  · next hs =>
    obtain ⟨c, t, rfl, -⟩ := ht.begins
    obtain ⟨rfl, rfl⟩ := List.cons.inj hs
    have hnull := ht.opens.null rfl
    obtain ⟨-, rfl⟩ := List.cons.inj hnull
    obtain ⟨rfl, rfl⟩ := ok_inj hread
    exact ⟨rfl, fun _ => hnull, fun a ha => absurd ha (Option.not_mem_none a)⟩
  · obtain ⟨⟨a, s'⟩, hok, hread⟩ := ok_of_bind hread
    obtain ⟨rfl, rfl⟩ := ok_inj hread
    obtain ⟨hs, ha⟩ := h [] rest a s blanks_nil hrest hok
    exact ⟨hs, fun hnone => absurd hnone (Option.some_ne_none a), fun b hb =>
      Option.some.inj hb ▸ ha⟩

end Dialogue.Json
