import Dialogue.Proofs.Snapshot.Parts

/-!
# Snapshots are read back

A definition whose texts and lists are shorter than `2 ^ 64` is what its snapshot decodes to,
whatever bytes follow the snapshot (`decode_encode_append`). A number is read back by its
bits, so NaNs and the sign of zero come back as they were.
-/

namespace Dialogue.Snapshot

/-! ## Values -/

/-- A value that can be written; only texts have a length. -/
def ValueFits : Value → Prop
  | .text s => TextFits s
  | .number _ => True
  | .bool _ => True

instance : DecidablePred ValueFits := fun v =>
  match v with
  | .text s => inferInstanceAs (Decidable (TextFits s))
  | .number _ => .isTrue trivial
  | .bool _ => .isTrue trivial

theorem reads_putBool (b : Bool) : Reads readBool [if b then 1 else 0] b := by
  intro rest
  cases b <;> rfl

theorem reads_putValue {v : Value} (h : ValueFits v) : Reads readValue (putValue v) v := by
  intro rest
  -- The byte of the kind chooses the reader of the contents.
  cases v with
  | text s =>
      have hkind : Reads (readNumber .kind) [0] 0 := reads_small .kind (by decide)
      rw [putValue, ← List.singleton_append, List.append_assoc, readValue, hkind.bind]
      dsimp only
      rw [(reads_putText h).bind]
      rfl
  | number x =>
      have hkind : Reads (readNumber .kind) [1] 1 := reads_small .kind (by decide)
      have hbits := reads_readWide 8 x.bits.toNat_lt
      rw [putValue, ← List.singleton_append, List.append_assoc, readValue, hkind.bind]
      dsimp only
      rw [hbits.bind]
      dsimp only
      rw [UInt64.ofNat_toNat]
      rfl
  | bool b =>
      have hkind : Reads (readNumber .kind) [2] 2 := reads_small .kind (by decide)
      rw [putValue, ← List.singleton_append, List.append_assoc, readValue, hkind.bind]
      dsimp only
      rw [(reads_putBool b).bind]
      rfl

/-! ## Records -/

def ConditionFits (c : ConditionDefinition) : Prop :=
  TextFits c.variableName ∧ TextFits c.operator ∧ ValueFits c.comparand ∧ TextFits c.port

def ChoiceFits (c : ChoiceDefinition) : Prop :=
  TextFits c.label ∧ TextFits c.port

def BlockFits (b : BlockDefinition) : Prop :=
  TextFits b.id ∧ TextFits b.typeName ∧ OptionFits TextFits b.text
    ∧ OptionFits TextFits b.variableName ∧ OptionFits (ListFits ConditionFits) b.conditions
    ∧ OptionFits (ListFits ChoiceFits) b.choices ∧ OptionFits TextFits b.url

def LinkFits (l : LinkDefinition) : Prop :=
  TextFits l.source ∧ TextFits l.target ∧ OptionFits TextFits l.sourcePort
    ∧ OptionFits TextFits l.targetPort

/-- A definition that can be written: all its texts and lists are shorter than `2 ^ 64`. -/
def Fits (d : Definition) : Prop :=
  ListFits BlockFits d.blocks ∧ ListFits LinkFits d.links

instance : DecidablePred ConditionFits := fun _ => inferInstanceAs (Decidable (_ ∧ _))

instance : DecidablePred ChoiceFits := fun _ => inferInstanceAs (Decidable (_ ∧ _))

instance : DecidablePred BlockFits := fun _ => inferInstanceAs (Decidable (_ ∧ _))

instance : DecidablePred LinkFits := fun _ => inferInstanceAs (Decidable (_ ∧ _))

instance : DecidablePred Fits := fun _ => inferInstanceAs (Decidable (_ ∧ _))

theorem reads_putCondition {c : ConditionDefinition} (h : ConditionFits c) :
    Reads readCondition (putCondition c) c := by
  intro rest
  obtain ⟨hname, hoperator, hcomparand, hport⟩ := h
  simp only [putCondition, readCondition, List.append_assoc, (reads_putText hname).bind,
    (reads_putText hoperator).bind, (reads_putValue hcomparand).bind, (reads_putText hport).bind]
  rfl

theorem reads_putChoice {c : ChoiceDefinition} (h : ChoiceFits c) :
    Reads readChoice (putChoice c) c := by
  intro rest
  obtain ⟨hlabel, hport⟩ := h
  simp only [putChoice, readChoice, List.append_assoc, (reads_putText hlabel).bind,
    (reads_putText hport).bind]
  rfl

theorem reads_putBlock {b : BlockDefinition} (h : BlockFits b) :
    Reads readBlock (putBlock b) b := by
  intro rest
  obtain ⟨hid, htype, htext, hname, hconditions, hchoices, hurl⟩ := h
  have hrows := Reads.option (Reads.list reads_putCondition) hconditions
  have hoptions := Reads.option (Reads.list reads_putChoice) hchoices
  simp only [putBlock, readBlock, List.append_assoc, (reads_putText hid).bind,
    (reads_putText htype).bind, (Reads.option reads_putText htext).bind,
    (Reads.option reads_putText hname).bind, hrows.bind, hoptions.bind,
    (Reads.option reads_putText hurl).bind]
  rfl

theorem reads_putLink {l : LinkDefinition} (h : LinkFits l) :
    Reads readLink (putLink l) l := by
  intro rest
  obtain ⟨hsource, htarget, hsourcePort, htargetPort⟩ := h
  simp only [putLink, readLink, List.append_assoc, (reads_putText hsource).bind,
    (reads_putText htarget).bind, (Reads.option reads_putText hsourcePort).bind,
    (Reads.option reads_putText htargetPort).bind]
  rfl

/-! ## Definitions -/

/-- **A snapshot decodes to the definition that it was made of,** whatever follows it. -/
theorem decode_encode_append {d : Definition} (h : Fits d) (junk : Bytes) :
    decode (encode d ++ junk) = .ok d := by
  have hblocks := Reads.list reads_putBlock h.1
  have hlinks := Reads.list reads_putLink h.2
  simp only [encode, decode, List.append_assoc, hblocks.bind, hlinks.bind]
  rfl

/-- A definition with a text whose length takes a marker, an empty list beside an absent one,
a NaN with a payload, and a negative zero. -/
def oddDefinition : Definition where
  blocks := [
    ⟨['s'], ['?'], some (List.replicate 251 'a'), none, some [], none, some []⟩,
    ⟨[], [], none, some ['é'], some [
      ⟨['n'], ['=', '='], .number ⟨0x7FF8000000000001⟩, ['A']⟩,
      ⟨['n'], ['='], .number ⟨0x8000000000000000⟩, []⟩,
      ⟨[], [], .bool true, ['B']⟩], some [⟨['x'], ['y']⟩], none⟩]
  links := [⟨['s'], ['z'], some [], none⟩]

theorem odd_decode_encode_append :
    Fits oddDefinition
      ∧ decode (encode oddDefinition ++ [0xFF, 0x00]) = .ok oddDefinition := by
  have hfits : Fits oddDefinition := by decide +kernel
  exact ⟨hfits, decode_encode_append hfits [0xFF, 0x00]⟩

end Dialogue.Snapshot
