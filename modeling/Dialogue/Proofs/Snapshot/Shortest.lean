import Dialogue.Proofs.Snapshot.RoundTrip
import Dialogue.Proofs.Traversal

/-!
# Snapshots are the shortest bytes that decode

The reader accepts numbers in wider forms than they need, and bytes behind the definition; both
make the bytes longer. All else that it accepts is written as it would write it. So what it takes
for a part is that part's own bytes or more bytes than these (`Shortest`), and the snapshot of a
definition is the one shortest byte string that decodes to it (`encode_shortest`).
-/

namespace Dialogue.Snapshot

variable {α β : Type}

/-! ## Bytes that were taken -/

/-- These bytes have been taken from the head of others, or more bytes than these. -/
def Covered (own bytes rest : Bytes) : Prop :=
  ∃ taken, bytes = taken ++ rest ∧ (taken = own ∨ own.length < taken.length)

theorem covered_self (own rest : Bytes) : Covered own (own ++ rest) rest :=
  ⟨own, rfl, .inl rfl⟩

theorem Covered.append {own own' bytes bytes' rest : Bytes} (h : Covered own bytes bytes')
    (h' : Covered own' bytes' rest) : Covered (own ++ own') bytes rest := by
  obtain ⟨taken, rfl, htaken⟩ := h
  obtain ⟨taken', rfl, htaken'⟩ := h'
  refine ⟨taken ++ taken', (List.append_assoc ..).symm, ?_⟩
  rw [List.length_append, List.length_append]
  rcases htaken with rfl | hlonger <;> rcases htaken' with rfl | hlonger'
  · exact .inl rfl
  · exact .inr (by omega)
  · exact .inr (by omega)
  · exact .inr (by omega)

theorem Covered.cons {b : UInt8} {own bytes rest : Bytes} (h : Covered own bytes rest) :
    Covered (b :: own) (b :: bytes) rest :=
  (covered_self [b] bytes).append h

/-- Whatever a reader makes of bytes can be written, in the bytes that it took or in fewer. -/
def Shortest (read : Reader α) (put : α → Bytes) (fits : α → Prop) : Prop :=
  ∀ ⦃bytes a rest⦄, read bytes = .ok (a, rest) → fits a ∧ Covered (put a) bytes rest

/-! ## Numbers -/

theorem littleEndian_ofLittleEndian (digits : Bytes) :
    littleEndian digits.length (ofLittleEndian digits) = digits := by
  induction digits with
  | nil => rfl
  | cons b digits ih =>
      have hb := b.toNat_lt
      have hlow : (b.toNat + 256 * ofLittleEndian digits) % 256 = b.toNat := by omega
      have hhigh : (b.toNat + 256 * ofLittleEndian digits) / 256 = ofLittleEndian digits := by
        omega
      rw [List.length_cons, ofLittleEndian, littleEndian, hlow, hhigh, ih, UInt8.ofNat_toNat]

theorem ofLittleEndian_lt (digits : Bytes) :
    ofLittleEndian digits < Nat.pow 256 digits.length := by
  induction digits with
  | nil => exact Nat.one_pos
  | cons b digits ih =>
      have hb := b.toNat_lt
      show b.toNat + 256 * ofLittleEndian digits < Nat.pow 256 digits.length * 256
      omega

theorem take_eq_ok {count : Nat} {bytes content rest : Bytes}
    (h : take count bytes = .ok (content, rest)) :
    content.length = count ∧ bytes = content ++ rest := by
  rw [take] at h
  split at h
  · cases h
  · next henough =>
    cases h
    exact ⟨List.length_take_of_le (by omega), (List.take_append_drop count bytes).symm⟩

theorem readByte_eq_ok {b : UInt8} {bytes rest : Bytes} (h : readByte bytes = .ok (b, rest)) :
    bytes = b :: rest := by
  cases bytes with
  | nil => cases h
  | cons b' bytes =>
      cases h
      rfl

/-- A number of a fixed width is written in one way. -/
theorem readWide_eq_ok {count n : Nat} {bytes rest : Bytes}
    (h : readWide count bytes = .ok (n, rest)) :
    n < Nat.pow 256 count ∧ bytes = littleEndian count n ++ rest := by
  obtain ⟨⟨digits, bytes'⟩, htake, hdone⟩ := ok_of_bind h
  obtain ⟨rfl, rfl⟩ := take_eq_ok htake
  cases hdone
  exact ⟨ofLittleEndian_lt digits, by rw [littleEndian_ofLittleEndian]⟩

/-- A wide form is the form of the length, or a narrower one is. -/
theorem covered_wide {count n : Nat} {marker : UInt8} (rest : Bytes)
    (h : putLength n = marker :: littleEndian count n ∨ (putLength n).length ≤ count) :
    Covered (putLength n) (marker :: (littleEndian count n ++ rest)) rest := by
  refine ⟨marker :: littleEndian count n, rfl, h.imp Eq.symm fun hshort => ?_⟩
  rw [List.length_cons, length_littleEndian]
  exact Nat.lt_succ_of_le hshort

theorem putLength_two {n : Nat} (h : n < Nat.pow 2 16) :
    putLength n = wideMarker :: littleEndian 2 n ∨ (putLength n).length ≤ 2 := by
  rw [putLength]
  split
  · exact .inr (by simp)
  · exact .inl rfl

theorem putLength_four {n : Nat} (h : n < Nat.pow 2 32) :
    putLength n = (wideMarker + 1) :: littleEndian 4 n ∨ (putLength n).length ≤ 4 := by
  rw [putLength]
  split
  · exact .inr (by simp)
  · split
    · exact .inr (by simp [length_littleEndian])
    · exact .inl rfl

theorem putLength_eight (n : Nat) :
    putLength n = (wideMarker + 2) :: littleEndian 8 n ∨ (putLength n).length ≤ 8 := by
  rw [putLength]
  split
  · exact .inr (by simp)
  · split
    · exact .inr (by simp [length_littleEndian])
    · split
      · exact .inr (by simp [length_littleEndian])
      · exact .inl rfl

theorem shortest_readNumber (role : Role) :
    Shortest (readNumber role) putLength (· < Nat.pow 2 64) := by
  intro bytes n rest h
  obtain ⟨⟨b, bytes'⟩, hbyte, hform⟩ := ok_of_bind h
  obtain rfl := readByte_eq_ok hbyte
  dsimp only at hform
  split at hform
  · next hsmall =>
    cases hform
    have hb : b.toNat < 251 := UInt8.lt_iff_toNat_lt.mp hsmall
    refine ⟨Nat.lt_trans hb (by decide), ?_⟩
    rw [putLength, if_pos hb, UInt8.ofNat_toNat]
    exact covered_self [b] rest
  · split at hform
    · next hmarker =>
      obtain ⟨hn, rfl⟩ := readWide_eq_ok hform
      exact ⟨Nat.lt_trans hn (by decide), hmarker ▸ covered_wide rest (putLength_two hn)⟩
    · split at hform
      · next hmarker =>
        obtain ⟨hn, rfl⟩ := readWide_eq_ok hform
        exact ⟨Nat.lt_trans hn (by decide), hmarker ▸ covered_wide rest (putLength_four hn)⟩
      · split at hform
        · next hmarker =>
          split at hform
          · cases hform
          · obtain ⟨hn, rfl⟩ := readWide_eq_ok hform
            exact ⟨hn, hmarker ▸ covered_wide rest (putLength_eight n)⟩
        · split at hform <;> cases hform

/-! ## Texts, optional things and lists -/

theorem shortest_readText : Shortest readText putText TextFits := by
  intro bytes s rest h
  obtain ⟨⟨length, bytes'⟩, hlength, htail⟩ := ok_of_bind h
  obtain ⟨⟨content, bytes''⟩, htake, hchars⟩ := ok_of_bind htail
  obtain ⟨hfits, hnumber⟩ := shortest_readNumber .textLength hlength
  clear htail
  obtain ⟨rfl, rfl⟩ := take_eq_ok htake
  dsimp only at hchars
  split at hchars
  · next hdecode =>
    cases hchars
    obtain rfl := Utf8.encode_of_decode hdecode
    exact ⟨hfits, hnumber.append (covered_self _ _)⟩
  · cases hchars

section Containers

variable {read : Reader α} {put : α → Bytes} {fits : α → Prop}

theorem Shortest.option (hread : Shortest read put fits) :
    Shortest (readOption read) (putOption put) (OptionFits fits) := by
  intro bytes o rest h
  obtain ⟨⟨b, bytes'⟩, hbyte, hcase⟩ := ok_of_bind h
  obtain rfl := readByte_eq_ok hbyte
  dsimp only at hcase
  split at hcase
  · next hnone =>
    cases hcase
    obtain rfl := hnone
    exact ⟨nofun, covered_self [0] _⟩
  · split at hcase
    · next hsome =>
      obtain ⟨⟨a, bytes''⟩, ha, hdone⟩ := ok_of_bind hcase
      cases hdone
      obtain rfl := hsome
      obtain ⟨hfits, hown⟩ := hread ha
      exact ⟨fun _ hmem => Option.some.inj hmem ▸ hfits, hown.cons⟩
    · cases hcase

theorem Shortest.times (hread : Shortest read put fits) {count : Nat} {bytes rest : Bytes}
    {items : List α} (h : readTimes read count bytes = .ok (items, rest)) :
    items.length = count ∧ (∀ a ∈ items, fits a) ∧ Covered (items.flatMap put) bytes rest := by
  induction count generalizing bytes items with
  | zero =>
      cases h
      exact ⟨rfl, fun _ ha => absurd ha List.not_mem_nil, covered_self [] _⟩
  | succ count ih =>
      obtain ⟨⟨a, bytes'⟩, ha, h⟩ := ok_of_bind h
      obtain ⟨⟨items', bytes''⟩, hitems, h⟩ := ok_of_bind h
      cases h
      obtain ⟨hfits, hown⟩ := hread ha
      obtain ⟨hlength, hall, hrest⟩ := ih hitems
      exact ⟨congrArg Nat.succ hlength, List.forall_mem_cons.mpr ⟨hfits, hall⟩, hown.append hrest⟩

theorem Shortest.list (hread : Shortest read put fits) :
    Shortest (readList read) (putList put) (ListFits fits) := by
  intro bytes items rest h
  obtain ⟨⟨length, bytes'⟩, hlength, h⟩ := ok_of_bind h
  obtain ⟨hfits, hnumber⟩ := shortest_readNumber .listLength hlength
  obtain ⟨rfl, hall, hitems⟩ := hread.times h
  exact ⟨⟨hfits, hall⟩, hnumber.append hitems⟩

end Containers

/-! ## Values -/

theorem shortest_readBool {bytes rest : Bytes} {b : Bool} (h : readBool bytes = .ok (b, rest)) :
    bytes = (if b then 1 else 0) :: rest := by
  obtain ⟨⟨byte, bytes'⟩, hbyte, hcase⟩ := ok_of_bind h
  obtain rfl := readByte_eq_ok hbyte
  dsimp only at hcase
  split at hcase
  · next hfalse =>
    cases hcase
    exact congrArg (· :: rest) hfalse
  · split at hcase
    · next htrue =>
      cases hcase
      exact congrArg (· :: rest) htrue
    · cases hcase

theorem shortest_readValue : Shortest readValue putValue ValueFits := by
  intro bytes v rest h
  obtain ⟨⟨kind, bytes'⟩, hkind, h⟩ := ok_of_bind h
  obtain ⟨-, hnumber⟩ := shortest_readNumber .kind hkind
  dsimp only at h
  -- The byte of the kind is written as a length is.
  split at h
  · obtain ⟨⟨s, bytes''⟩, hs, h⟩ := ok_of_bind h
    cases h
    obtain ⟨hfits, htext⟩ := shortest_readText hs
    exact ⟨hfits, hnumber.append htext⟩
  · obtain ⟨⟨n, bytes''⟩, hn, h⟩ := ok_of_bind h
    cases h
    obtain ⟨hlt, rfl⟩ := readWide_eq_ok hn
    have hbits : (UInt64.ofNat n).toNat = n := UInt64.toNat_ofNat_of_lt' hlt
    refine ⟨trivial, hnumber.append ?_⟩
    rw [hbits]
    exact covered_self _ _
  · obtain ⟨⟨b, bytes''⟩, hb, h⟩ := ok_of_bind h
    cases h
    obtain rfl := shortest_readBool hb
    exact ⟨trivial, hnumber.append (covered_self [_] _)⟩
  · cases h

/-! ## Records -/

theorem shortest_readCondition : Shortest readCondition putCondition ConditionFits := by
  intro bytes c rest h
  obtain ⟨⟨variableName, _⟩, hname, h⟩ := ok_of_bind h
  obtain ⟨⟨operator, _⟩, hoperator, h⟩ := ok_of_bind h
  obtain ⟨⟨comparand, _⟩, hcomparand, h⟩ := ok_of_bind h
  obtain ⟨⟨port, _⟩, hport, h⟩ := ok_of_bind h
  cases h
  obtain ⟨hname, hname'⟩ := shortest_readText hname
  obtain ⟨hoperator, hoperator'⟩ := shortest_readText hoperator
  obtain ⟨hcomparand, hcomparand'⟩ := shortest_readValue hcomparand
  obtain ⟨hport, hport'⟩ := shortest_readText hport
  exact ⟨⟨hname, hoperator, hcomparand, hport⟩,
    ((hname'.append hoperator').append hcomparand').append hport'⟩

theorem shortest_readChoice : Shortest readChoice putChoice ChoiceFits := by
  intro bytes c rest h
  obtain ⟨⟨label, _⟩, hlabel, h⟩ := ok_of_bind h
  obtain ⟨⟨port, _⟩, hport, h⟩ := ok_of_bind h
  cases h
  obtain ⟨hlabel, hlabel'⟩ := shortest_readText hlabel
  obtain ⟨hport, hport'⟩ := shortest_readText hport
  exact ⟨⟨hlabel, hport⟩, hlabel'.append hport'⟩

theorem shortest_readBlock : Shortest readBlock putBlock BlockFits := by
  intro bytes b rest h
  obtain ⟨⟨id, _⟩, hid, h⟩ := ok_of_bind h
  obtain ⟨⟨typeName, _⟩, htype, h⟩ := ok_of_bind h
  obtain ⟨⟨text, _⟩, htext, h⟩ := ok_of_bind h
  obtain ⟨⟨variableName, _⟩, hname, h⟩ := ok_of_bind h
  obtain ⟨⟨conditions, _⟩, hconditions, h⟩ := ok_of_bind h
  obtain ⟨⟨choices, _⟩, hchoices, h⟩ := ok_of_bind h
  obtain ⟨⟨url, _⟩, hurl, h⟩ := ok_of_bind h
  cases h
  obtain ⟨hid, hid'⟩ := shortest_readText hid
  obtain ⟨htype, htype'⟩ := shortest_readText htype
  obtain ⟨htext, htext'⟩ := shortest_readText.option htext
  obtain ⟨hname, hname'⟩ := shortest_readText.option hname
  obtain ⟨hconditions, hconditions'⟩ := shortest_readCondition.list.option hconditions
  obtain ⟨hchoices, hchoices'⟩ := shortest_readChoice.list.option hchoices
  obtain ⟨hurl, hurl'⟩ := shortest_readText.option hurl
  exact ⟨⟨hid, htype, htext, hname, hconditions, hchoices, hurl⟩,
    (((((hid'.append htype').append htext').append hname').append hconditions').append
      hchoices').append hurl'⟩

theorem shortest_readLink : Shortest readLink putLink LinkFits := by
  intro bytes l rest h
  obtain ⟨⟨source, _⟩, hsource, h⟩ := ok_of_bind h
  obtain ⟨⟨target, _⟩, htarget, h⟩ := ok_of_bind h
  obtain ⟨⟨sourcePort, _⟩, hsourcePort, h⟩ := ok_of_bind h
  obtain ⟨⟨targetPort, _⟩, htargetPort, h⟩ := ok_of_bind h
  cases h
  obtain ⟨hsource, hsource'⟩ := shortest_readText hsource
  obtain ⟨htarget, htarget'⟩ := shortest_readText htarget
  obtain ⟨hsourcePort, hsourcePort'⟩ := shortest_readText.option hsourcePort
  obtain ⟨htargetPort, htargetPort'⟩ := shortest_readText.option htargetPort
  exact ⟨⟨hsource, htarget, hsourcePort, htargetPort⟩,
    ((hsource'.append htarget').append hsourcePort').append htargetPort'⟩

/-! ## Definitions -/

theorem covered_decode {bytes : Bytes} {d : Definition} (h : decode bytes = .ok d) :
    Fits d ∧ ∃ junk, Covered (encode d) bytes junk := by
  obtain ⟨⟨blocks, _⟩, hblocks, h⟩ := ok_of_bind h
  obtain ⟨⟨links, junk⟩, hlinks, h⟩ := ok_of_bind h
  cases h
  obtain ⟨hblocks, hblocks'⟩ := shortest_readBlock.list hblocks
  obtain ⟨hlinks, hlinks'⟩ := shortest_readLink.list hlinks
  exact ⟨⟨hblocks, hlinks⟩, junk, hblocks'.append hlinks'⟩

/-- **The snapshot of a definition is the shortest byte string that decodes to it.** Whatever bytes
decode to a definition, its snapshot decodes to it as well and is not longer; if it is as long, it
is these bytes. -/
theorem encode_shortest {bytes : Bytes} {d : Definition} (h : decode bytes = .ok d) :
    decode (encode d) = .ok d ∧ (encode d).length ≤ bytes.length
      ∧ ((encode d).length = bytes.length → encode d = bytes) := by
  obtain ⟨hfits, junk, taken, rfl, htaken⟩ := covered_decode h
  have hdecode := decode_encode_append hfits []
  rw [List.append_nil] at hdecode
  refine ⟨hdecode, ?_, fun hlength => ?_⟩ <;> rw [List.length_append] at *
  · rcases htaken with rfl | hlonger <;> omega
  · rcases htaken with rfl | hlonger
    · obtain rfl := List.length_eq_zero_iff.mp (by omega : junk.length = 0)
      exact (List.append_nil _).symm
    · omega

/-- A snapshot with lengths in all wider forms, with a wide kind of value in a condition, and with
a byte behind the definition. -/
def wideSnapshot : Bytes :=
  [253, 1, 0, 0, 0, 0, 0, 0, 0, 251, 1, 0, 115, 1, 63, 0, 0, 1, 252, 1, 0, 0, 0, 1, 110, 0,
    252, 2, 0, 0, 0, 1, 0, 0, 0, 0, 7]

/-- The definition in it. -/
def wideDefinition : Definition where
  blocks := [⟨['s'], ['?'], none, none, some [⟨['n'], [], .bool true, []⟩], none, none⟩]
  links := []

theorem wide_encode_shortest :
    decode wideSnapshot = .ok wideDefinition
      ∧ decode (encode wideDefinition) = .ok wideDefinition
      ∧ (encode wideDefinition).length ≤ wideSnapshot.length := by
  have hdecode : decode wideSnapshot = .ok wideDefinition := rfl
  have hshortest := encode_shortest hdecode
  exact ⟨hdecode, hshortest.1, hshortest.2.1⟩

end Dialogue.Snapshot
