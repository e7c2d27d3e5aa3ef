import Dialogue.Text.Utf8

/-!
# UTF-8 is read back as it was written

The bytes of a character are cut off as that character, whatever follows
(`scan_encodeChar`), so decoding gives back every text that was encoded
(`decode_encode`), and no other bytes decode to a text (`encode_of_decode`). The bytes of
a text hold an ASCII byte only if the text holds that ASCII character
(`mem_of_mem_encode`); so lines can be cut before they are decoded.
-/

namespace Dialogue.Utf8

/-! ## Bytes as numbers -/

theorem toNat_byte {n : Nat} (h : n < 256) : (UInt8.ofNat n).toNat = n :=
  UInt8.toNat_ofNat_of_lt' h

theorem byte_within (low high : UInt8) {n : Nat} (hlow : low.toNat ≤ n)
    (hhigh : n ≤ high.toNat) :
    (low ≤ UInt8.ofNat n && UInt8.ofNat n ≤ high) = true := by
  have hn : n < 256 := Nat.lt_of_le_of_lt hhigh high.toNat_lt
  simp only [Bool.and_eq_true, decide_eq_true_eq, UInt8.le_iff_toNat_le, toNat_byte hn]
  exact ⟨hlow, hhigh⟩

theorem byte_outside (low high : UInt8) {n : Nat} (hn : n < 256)
    (h : n < low.toNat ∨ high.toNat < n) :
    ¬ (low ≤ UInt8.ofNat n && UInt8.ofNat n ≤ high) = true := by
  simp only [Bool.and_eq_true, decide_eq_true_eq, UInt8.le_iff_toNat_le, toNat_byte hn]
  omega

theorem byte_not_ascii {n : Nat} (hn : n < 256) (h : 0x80 ≤ n) :
    ¬ UInt8.ofNat n < 0x80 := by
  rw [UInt8.lt_iff_toNat_lt, toNat_byte hn]
  show ¬ n < 0x80
  omega

theorem byte_ne {n : Nat} {b : UInt8} (hn : n < 256) (h : n ≠ b.toNat) :
    ¬ (UInt8.ofNat n == b) = true := by
  rw [beq_iff_eq]
  rintro rfl
  exact h (toNat_byte hn).symm

theorem isTail_byte (n : Nat) : isTail (UInt8.ofNat (0x80 + n % 0x40)) = true :=
  byte_within _ _ (by show 0x80 ≤ _; omega) (by show _ ≤ 0xBF; omega)

theorem toNat_tail (n : Nat) : (UInt8.ofNat (0x80 + n % 0x40)).toNat - 0x80 = n % 0x40 := by
  rw [toNat_byte (by omega)]
  omega

theorem toNat_cases (c : Char) :
    c.toNat < 0xD800 ∨ (0xDFFF < c.toNat ∧ c.toNat < 0x110000) := c.valid

theorem join_eq {lead n : Nat} {tails : Bytes}
    (h : tails.foldl (fun n b => n * 0x40 + (b.toNat - 0x80)) lead = n) :
    join lead tails = Char.ofNat n := by
  rw [join, h]

/-! ## Second bytes -/

/-- No three-byte character is overlong or a surrogate. -/
theorem isSecondOfThree_byte {n : Nat} (hlow : 0x800 ≤ n) (hhigh : n < 0x10000)
    (hchar : n < 0xD800 ∨ 0xDFFF < n) :
    isSecondOfThree (UInt8.ofNat (0xE0 + n / 0x1000))
      (UInt8.ofNat (0x80 + n / 0x40 % 0x40)) = true := by
  unfold isSecondOfThree
  by_cases h0 : n / 0x1000 = 0
  · rw [h0, if_pos (by rfl)]
    exact byte_within _ _ (by show 0xA0 ≤ _; omega) (by show _ ≤ 0xBF; omega)
  rw [if_neg (byte_ne (by omega) (by show _ ≠ 0xE0; omega))]
  by_cases hd : n / 0x1000 = 0xD
  · rw [hd, if_pos (by rfl)]
    exact byte_within _ _ (by show 0x80 ≤ _; omega) (by show _ ≤ 0x9F; omega)
  · rw [if_neg (byte_ne (by omega) (by show _ ≠ 0xED; omega))]
    exact isTail_byte (n / 0x40)

/-- No four-byte character is overlong or past the end of Unicode. -/
theorem isSecondOfFour_byte {n : Nat} (hlow : 0x10000 ≤ n) (hhigh : n < 0x110000) :
    isSecondOfFour (UInt8.ofNat (0xF0 + n / 0x40000))
      (UInt8.ofNat (0x80 + n / 0x1000 % 0x40)) = true := by
  unfold isSecondOfFour
  by_cases h0 : n / 0x40000 = 0
  · rw [h0, if_pos (by rfl)]
    exact byte_within _ _ (by show 0x90 ≤ _; omega) (by show _ ≤ 0xBF; omega)
  rw [if_neg (byte_ne (by omega) (by show _ ≠ 0xF0; omega))]
  by_cases h4 : n / 0x40000 = 4
  · rw [h4, if_pos (by rfl)]
    exact byte_within _ _ (by show 0x80 ≤ _; omega) (by show _ ≤ 0x8F; omega)
  · rw [if_neg (byte_ne (by omega) (by show _ ≠ 0xF4; omega))]
    exact isTail_byte (n / 0x1000)

/-! ## Reading back -/

theorem scan_one {n : Nat} (h : n < 0x80) (rest : Bytes) :
    scan (UInt8.ofNat n :: rest) = .char (Char.ofNat n) :: scan rest := by
  have hascii : UInt8.ofNat n < 0x80 := by
    rw [UInt8.lt_iff_toNat_lt, toNat_byte (by omega)]
    exact h
  rw [scan.eq_def]
  simp only [if_pos hascii, toNat_byte (show n < 256 by omega)]

theorem scan_two {n : Nat} (hlow : 0x80 ≤ n) (hhigh : n < 0x800) (rest : Bytes) :
    scan (UInt8.ofNat (0xC0 + n / 0x40) :: UInt8.ofNat (0x80 + n % 0x40) :: rest) =
      .char (Char.ofNat n) :: scan rest := by
  have hlead : 0xC0 + n / 0x40 < 256 := by omega
  rw [scan.eq_def]
  simp only [if_neg (byte_not_ascii hlead (by omega)),
    if_pos (byte_within 0xC2 0xDF (show 0xC2 ≤ 0xC0 + n / 0x40 by omega)
      (show 0xC0 + n / 0x40 ≤ 0xDF by omega)),
    if_pos (isTail_byte n)]
  rw [join_eq]
  simp only [List.foldl_cons, List.foldl_nil, toNat_tail, toNat_byte hlead]
  omega

theorem scan_three {n : Nat} (hlow : 0x800 ≤ n) (hhigh : n < 0x10000)
    (hchar : n < 0xD800 ∨ 0xDFFF < n) (rest : Bytes) :
    scan (UInt8.ofNat (0xE0 + n / 0x1000) :: UInt8.ofNat (0x80 + n / 0x40 % 0x40) ::
      UInt8.ofNat (0x80 + n % 0x40) :: rest) = .char (Char.ofNat n) :: scan rest := by
  have hlead : 0xE0 + n / 0x1000 < 256 := by omega
  rw [scan.eq_def]
  simp only [if_neg (byte_not_ascii hlead (by omega)),
    if_neg (byte_outside 0xC2 0xDF hlead (by show _ < 0xC2 ∨ 0xDF < _; omega)),
    if_pos (byte_within 0xE0 0xEF (show 0xE0 ≤ 0xE0 + n / 0x1000 by omega)
      (show 0xE0 + n / 0x1000 ≤ 0xEF by omega)),
    if_pos (isSecondOfThree_byte hlow hhigh hchar), if_pos (isTail_byte n)]
  rw [join_eq]
  simp only [List.foldl_cons, List.foldl_nil, toNat_tail, toNat_byte hlead]
  omega

theorem scan_four {n : Nat} (hlow : 0x10000 ≤ n) (hhigh : n < 0x110000) (rest : Bytes) :
    scan (UInt8.ofNat (0xF0 + n / 0x40000) :: UInt8.ofNat (0x80 + n / 0x1000 % 0x40) ::
      UInt8.ofNat (0x80 + n / 0x40 % 0x40) :: UInt8.ofNat (0x80 + n % 0x40) :: rest) =
      .char (Char.ofNat n) :: scan rest := by
  have hlead : 0xF0 + n / 0x40000 < 256 := by omega
  rw [scan.eq_def]
  simp only [if_neg (byte_not_ascii hlead (by omega)),
    if_neg (byte_outside 0xC2 0xDF hlead (by show _ < 0xC2 ∨ 0xDF < _; omega)),
    if_neg (byte_outside 0xE0 0xEF hlead (by show _ < 0xE0 ∨ 0xEF < _; omega)),
    if_pos (byte_within 0xF0 0xF4 (show 0xF0 ≤ 0xF0 + n / 0x40000 by omega)
      (show 0xF0 + n / 0x40000 ≤ 0xF4 by omega)),
    if_pos (isSecondOfFour_byte hlow hhigh), if_pos (isTail_byte (n / 0x40)),
    if_pos (isTail_byte n)]
  rw [join_eq]
  simp only [List.foldl_cons, List.foldl_nil, toNat_tail, toNat_byte hlead]
  omega

theorem scan_encodeChar (c : Char) (rest : Bytes) :
    scan (encodeChar c ++ rest) = .char c :: scan rest := by
  have hc := toNat_cases c
  have hself := Char.ofNat_toNat c
  simp only [encodeChar]
  generalize c.toNat = n at hc hself ⊢
  rw [← hself]
  by_cases h1 : n < 0x80
  · rw [if_pos h1]
    exact scan_one h1 rest
  rw [if_neg h1]
  by_cases h2 : n < 0x800
  · rw [if_pos h2]
    exact scan_two (by omega) h2 rest
  rw [if_neg h2]
  by_cases h3 : n < 0x10000
  · rw [if_pos h3]
    exact scan_three (by omega) h3 (by omega) rest
  · rw [if_neg h3]
    exact scan_four (by omega) (by omega) rest

theorem scan_encode (s : Text) : scan (encode s) = s.map Piece.char := by
  induction s with
  | nil => rfl
  | cons c s ih => rw [encode_cons, scan_encodeChar, ih, List.map_cons]

theorem assemble_chars (good : Nat) (s : Text) :
    assemble good (s.map Piece.char) = .ok s := by
  induction s generalizing good with
  | nil => rfl
  | cons c s ih =>
    rw [List.map_cons, assemble, ih]
    rfl

/-- **What was encoded decodes to itself.** -/
theorem decode_encode (s : Text) : decode (encode s) = .ok s := by
  rw [decode, scan_encode, assemble_chars]

/-! ## ASCII bytes -/

/-- The bytes of a character hold an ASCII byte only if they are that byte. -/
theorem mem_encodeChar_ascii {c : Char} {n : Nat} (hn : n < 0x80)
    (h : UInt8.ofNat n ∈ encodeChar c) : c.toNat = n := by
  have hc := toNat_cases c
  have heq {m : Nat} (hm : m < 256) (h : UInt8.ofNat n = UInt8.ofNat m) : n = m := by
    rw [← toNat_byte (show n < 256 by omega), h, toNat_byte hm]
  simp only [encodeChar] at h
  generalize c.toNat = k at hc h ⊢
  by_cases h1 : k < 0x80
  · rw [if_pos h1, List.mem_singleton] at h
    exact (heq (by omega) h).symm
  rw [if_neg h1] at h
  by_cases h2 : k < 0x800
  · simp only [if_pos h2, List.mem_cons, List.not_mem_nil, or_false] at h
    rcases h with h | h <;> have := heq (by omega) h <;> omega
  rw [if_neg h2] at h
  by_cases h3 : k < 0x10000
  · simp only [if_pos h3, List.mem_cons, List.not_mem_nil, or_false] at h
    rcases h with h | h | h <;> have := heq (by omega) h <;> omega
  · simp only [if_neg h3, List.mem_cons, List.not_mem_nil, or_false] at h
    rcases h with h | h | h | h <;> have := heq (by omega) h <;> omega

/-- The bytes of a text hold an ASCII byte only if the text holds its character. -/
theorem mem_of_mem_encode {s : Text} {a : Char} (ha : a.toNat < 0x80)
    (h : UInt8.ofNat a.toNat ∈ encode s) : a ∈ s := by
  rw [encode, List.mem_flatMap] at h
  obtain ⟨c, hc, hbyte⟩ := h
  have hnat := mem_encodeChar_ascii ha hbyte
  have : c = a := by rw [← Char.ofNat_toNat c, hnat, Char.ofNat_toNat]
  exact this ▸ hc

/-! ## What is read was written so

The bytes that `scan` takes for a character are the bytes of that character, for it takes
neither overlong forms nor surrogates. -/

theorem toNat_within {low high b : UInt8} (h : (low ≤ b && b ≤ high) = true) :
    low.toNat ≤ b.toNat ∧ b.toNat ≤ high.toNat := by
  simpa only [Bool.and_eq_true, decide_eq_true_eq, UInt8.le_iff_toNat_le] using h

theorem toNat_ofNat {n : Nat} (h : n < 0xD800 ∨ (0xDFFF < n ∧ n < 0x110000)) :
    (Char.ofNat n).toNat = n := by
  rw [Char.ofNat, dif_pos (show n.isValidChar from h)]
  rfl

theorem byte_eq {n : Nat} {b : UInt8} (h : n = b.toNat) : UInt8.ofNat n = b := by
  rw [h, UInt8.ofNat_toNat]

theorem toNat_isTail {b : UInt8} (h : isTail b = true) : 0x80 ≤ b.toNat ∧ b.toNat ≤ 0xBF :=
  toNat_within h

/-- Second bytes exclude overlong forms and surrogates. -/
theorem toNat_isSecondOfThree {a b : UInt8} (h : isSecondOfThree a b = true) :
    0x80 ≤ b.toNat ∧ b.toNat ≤ 0xBF ∧ (a.toNat = 0xE0 → 0xA0 ≤ b.toNat)
      ∧ (a.toNat = 0xED → b.toNat ≤ 0x9F) := by
  unfold isSecondOfThree at h
  split at h
  · next ha =>
    obtain rfl := beq_iff_eq.mp ha
    obtain ⟨hlow, hhigh⟩ : 0xA0 ≤ b.toNat ∧ b.toNat ≤ 0xBF := toNat_within h
    exact ⟨by omega, hhigh, fun _ => hlow, fun ha => absurd ha (by decide)⟩
  · next ha =>
    have hne : a.toNat ≠ 0xE0 := fun h => ha (beq_iff_eq.mpr (UInt8.toNat_inj.mp h))
    split at h
    · obtain ⟨hlow, hhigh⟩ : 0x80 ≤ b.toNat ∧ b.toNat ≤ 0x9F := toNat_within h
      exact ⟨hlow, by omega, fun h => absurd h hne, fun _ => hhigh⟩
    · next hd =>
      obtain ⟨hlow, hhigh⟩ := toNat_isTail h
      exact ⟨hlow, hhigh, fun h => absurd h hne,
        fun h => absurd (beq_iff_eq.mpr (UInt8.toNat_inj.mp h)) hd⟩

/-- Second bytes exclude overlong forms and what is past the end of Unicode. -/
theorem toNat_isSecondOfFour {a b : UInt8} (h : isSecondOfFour a b = true) :
    0x80 ≤ b.toNat ∧ b.toNat ≤ 0xBF ∧ (a.toNat = 0xF0 → 0x90 ≤ b.toNat)
      ∧ (a.toNat = 0xF4 → b.toNat ≤ 0x8F) := by
  unfold isSecondOfFour at h
  split at h
  · next ha =>
    obtain rfl := beq_iff_eq.mp ha
    obtain ⟨hlow, hhigh⟩ : 0x90 ≤ b.toNat ∧ b.toNat ≤ 0xBF := toNat_within h
    exact ⟨by omega, hhigh, fun _ => hlow, fun ha => absurd ha (by decide)⟩
  · next ha =>
    have hne : a.toNat ≠ 0xF0 := fun h => ha (beq_iff_eq.mpr (UInt8.toNat_inj.mp h))
    split at h
    · obtain ⟨hlow, hhigh⟩ : 0x80 ≤ b.toNat ∧ b.toNat ≤ 0x8F := toNat_within h
      exact ⟨hlow, by omega, fun h => absurd h hne, fun _ => hhigh⟩
    · next hd =>
      obtain ⟨hlow, hhigh⟩ := toNat_isTail h
      exact ⟨hlow, hhigh, fun h => absurd h hne,
        fun h => absurd (beq_iff_eq.mpr (UInt8.toNat_inj.mp h)) hd⟩

theorem encodeChar_ofNat {n : Nat} (h : n < 0xD800 ∨ (0xDFFF < n ∧ n < 0x110000)) :
    encodeChar (Char.ofNat n) =
      if n < 0x80 then [UInt8.ofNat n]
      else if n < 0x800 then
        [UInt8.ofNat (0xC0 + n / 0x40), UInt8.ofNat (0x80 + n % 0x40)]
      else if n < 0x10000 then
        [UInt8.ofNat (0xE0 + n / 0x1000), UInt8.ofNat (0x80 + n / 0x40 % 0x40),
          UInt8.ofNat (0x80 + n % 0x40)]
      else
        [UInt8.ofNat (0xF0 + n / 0x40000), UInt8.ofNat (0x80 + n / 0x1000 % 0x40),
          UInt8.ofNat (0x80 + n / 0x40 % 0x40), UInt8.ofNat (0x80 + n % 0x40)] := by
  rw [encodeChar, toNat_ofNat h]

theorem encodeChar_one {a : UInt8} (ha : a < 0x80) :
    encodeChar (Char.ofNat a.toNat) = [a] := by
  have hlow : a.toNat < 0x80 := UInt8.lt_iff_toNat_lt.mp ha
  rw [encodeChar_ofNat (by omega), if_pos hlow, byte_eq rfl]

theorem encodeChar_two {a b : UInt8} (ha : (0xC2 ≤ a && a ≤ 0xDF) = true)
    (hb : isTail b = true) : encodeChar (join (a.toNat - 0xC0) [b]) = [a, b] := by
  obtain ⟨halow, hahigh⟩ : 0xC2 ≤ a.toNat ∧ a.toNat ≤ 0xDF := toNat_within ha
  obtain ⟨hblow, hbhigh⟩ := toNat_isTail hb
  rw [join_eq rfl]
  dsimp only [List.foldl]
  rw [encodeChar_ofNat (by omega)]
  rw [if_neg (by omega), if_pos (by omega), byte_eq (b := a) (by omega),
    byte_eq (b := b) (by omega)]

theorem encodeChar_three {a b c : UInt8} (ha : (0xE0 ≤ a && a ≤ 0xEF) = true)
    (hb : isSecondOfThree a b = true) (hc : isTail c = true) :
    encodeChar (join (a.toNat - 0xE0) [b, c]) = [a, b, c] := by
  obtain ⟨halow, hahigh⟩ : 0xE0 ≤ a.toNat ∧ a.toNat ≤ 0xEF := toNat_within ha
  obtain ⟨hblow, hbhigh, hoverlong, hsurrogate⟩ := toNat_isSecondOfThree hb
  obtain ⟨hclow, hchigh⟩ := toNat_isTail hc
  rw [join_eq rfl]
  dsimp only [List.foldl]
  rw [encodeChar_ofNat (by omega)]
  rw [if_neg (by omega), if_neg (by omega), if_pos (by omega), byte_eq (b := a) (by omega),
    byte_eq (b := b) (by omega), byte_eq (b := c) (by omega)]

theorem encodeChar_four {a b c d : UInt8} (ha : (0xF0 ≤ a && a ≤ 0xF4) = true)
    (hb : isSecondOfFour a b = true) (hc : isTail c = true) (hd : isTail d = true) :
    encodeChar (join (a.toNat - 0xF0) [b, c, d]) = [a, b, c, d] := by
  obtain ⟨halow, hahigh⟩ : 0xF0 ≤ a.toNat ∧ a.toNat ≤ 0xF4 := toNat_within ha
  obtain ⟨hblow, hbhigh, hoverlong, hlast⟩ := toNat_isSecondOfFour hb
  obtain ⟨hclow, hchigh⟩ := toNat_isTail hc
  obtain ⟨hdlow, hdhigh⟩ := toNat_isTail hd
  rw [join_eq rfl]
  dsimp only [List.foldl]
  rw [encodeChar_ofNat (by omega)]
  rw [if_neg (by omega), if_neg (by omega), if_neg (by omega), byte_eq (b := a) (by omega),
    byte_eq (b := b) (by omega), byte_eq (b := c) (by omega), byte_eq (b := d) (by omega)]

theorem chars_of_assemble {good : Nat} {pieces : List Piece} {s : Text}
    (h : assemble good pieces = .ok s) : pieces = s.map Piece.char := by
  induction pieces generalizing good s with
  | nil =>
    cases h
    rfl
  | cons piece pieces ih =>
    cases piece with
    | illFormed n => cases h
    | cut => cases h
    | char c =>
      rw [assemble] at h
      cases hrest : assemble (good + (encodeChar c).length) pieces with
      | error fault =>
        rw [hrest] at h
        cases h
      | ok rest =>
        rw [hrest] at h
        cases h
        rw [ih hrest, List.map_cons]

theorem encode_of_chars {bytes : Bytes} {s : Text} (h : scan bytes = s.map Piece.char) :
    encode s = bytes := by
  have char {c : Char} {own rest : Bytes} {s : Text} (hc : encodeChar c = own)
      (ih : ∀ {s}, scan rest = s.map Piece.char → encode s = rest)
      (h : .char c :: scan rest = s.map Piece.char) : encode s = own ++ rest := by
    cases s with
    | nil => cases h
    | cons c' s =>
      obtain ⟨hsame, hrest⟩ := List.cons_eq_cons.mp h
      obtain rfl := Piece.char.inj hsame
      rw [encode_cons, hc, ih hrest]
  have bad {piece : Piece} {pieces : List Piece} {s : Text} (hpiece : ∀ c, piece ≠ .char c)
      (h : piece :: pieces = s.map Piece.char) : False := by
    cases s with
    | nil => cases h
    | cons c s => exact hpiece c (List.cons_eq_cons.mp h).1
  fun_induction scan bytes generalizing s with
  | case1 =>
    rw [List.map_eq_nil_iff.mp h.symm]
    rfl
  | case2 a rest ha ih => exact char (encodeChar_one ha) ih h
  | case4 a _ ha b rest hb ih => exact char (encodeChar_two ha hb) ih h
  | case8 a _ _ ha b hb c rest hc ih => exact char (encodeChar_three ha hb hc) ih h
  | case14 a _ _ _ ha b hb c hc d rest hd ih => exact char (encodeChar_four ha hb hc hd) ih h
  | _ => exact (bad (fun _ => Piece.noConfusion) h).elim

/-- **Only the bytes of a text decode to it.** -/
theorem encode_of_decode {bytes : Bytes} {s : Text} (h : decode bytes = .ok s) :
    encode s = bytes :=
  encode_of_chars (chars_of_assemble h)

end Dialogue.Utf8
