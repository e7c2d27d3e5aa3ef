import Dialogue.Proofs.Snapshot.RoundTrip

/-!
# Snapshots that are cut off

A reader that is given only the beginning of what was written for a part asks for more bytes, and
for no more than are missing (`Starves`). That is so for the parts that are read in one piece,
and it is kept when parts follow one another: the cut falls into the first part, or the first part
is read back as it was written and the cut falls behind it (`Starves.bind`). So no beginning of a
snapshot is taken for another definition or for damage of another kind (`decode_cut_off`).
-/

namespace Dialogue.Snapshot

variable {α β : Type}

/-- Of these bytes, whatever beginning it is given, a reader asks for more. -/
def Starves (read : Bytes → Except Fault α) (bytes : Bytes) : Prop :=
  ∀ taken missing, bytes = taken ++ missing → missing ≠ [] →
    ∃ additional, 0 < additional ∧ additional ≤ missing.length
      ∧ read taken = .error (.unexpectedEnd additional)

theorem starves_nil (read : Bytes → Except Fault α) : Starves read [] := by
  intro taken missing hbytes hmissing
  obtain ⟨-, rfl⟩ := List.append_eq_nil_iff.mp hbytes.symm
  exact absurd rfl hmissing

/-- Nothing is read behind a part that is cut off. -/
theorem Starves.last {read : Bytes → Except Fault α} {bytes : Bytes} (h : Starves read bytes)
    (next : α → Except Fault β) : Starves (fun given => read given >>= next) bytes := by
  intro taken missing hbytes hmissing
  obtain ⟨additional, hpos, hle, hread⟩ := h taken missing hbytes hmissing
  refine ⟨additional, hpos, hle, ?_⟩
  dsimp only
  rw [hread]
  rfl

/-- The cut falls into the first part or behind it. -/
theorem Starves.bind {read : Reader α} {bytes bytes' : Bytes} {a : α} (h : Starves read bytes)
    (hread : Reads read bytes a) {next : α × Bytes → Except Fault β}
    (hnext : Starves (fun given => next (a, given)) bytes') :
    Starves (fun given => read given >>= next) (bytes ++ bytes') := by
  intro taken missing hbytes hmissing
  dsimp only
  rcases List.append_eq_append_iff.mp hbytes with
    ⟨behind, rfl, hbehind⟩ | ⟨within, hwithin, rfl⟩
  · rw [hread.bind]
    exact hnext behind missing hbehind hmissing
  by_cases hwhole : within = []
  · -- The cut is where the second part begins.
    subst hwhole
    rw [List.append_nil] at hwithin
    rw [← hwithin, ← List.append_nil bytes, hread.bind]
    exact hnext [] bytes' rfl hmissing
  · obtain ⟨additional, hpos, hle, hfault⟩ := h.last next taken within hwithin hwhole
    refine ⟨additional, hpos, ?_, hfault⟩
    rw [List.length_append]
    exact Nat.le_add_right_of_le hle

/-- A part that begins with a byte, without which nothing is read. -/
theorem Starves.cons {read : Bytes → Except Fault α} {b : UInt8} {bytes : Bytes}
    (hnil : read [] = .error (.unexpectedEnd 1))
    (hcons : Starves (fun given => read (b :: given)) bytes) : Starves read (b :: bytes) := by
  intro taken missing hbytes hmissing
  cases taken with
  | nil => exact ⟨1, Nat.one_pos, List.length_pos_iff.mpr hmissing, hnil⟩
  | cons b' taken =>
      obtain ⟨rfl, hrest⟩ := List.cons_eq_cons.mp hbytes
      exact hcons taken missing hrest hmissing

/-! ## Numbers and texts -/

theorem starves_take (bytes : Bytes) : Starves (take bytes.length) bytes := by
  intro taken missing hbytes hmissing
  have hlength : bytes.length = taken.length + missing.length := by
    rw [hbytes, List.length_append]
  have hpos : 0 < missing.length := List.length_pos_iff.mpr hmissing
  refine ⟨missing.length, hpos, Nat.le_refl _, ?_⟩
  rw [take, if_pos (by omega), hlength, Nat.add_sub_cancel_left]

theorem starves_readWide (count n : Nat) :
    Starves (readWide count) (littleEndian count n) := by
  have htake := starves_take (littleEndian count n)
  rw [length_littleEndian] at htake
  exact htake.last _

theorem starves_small (role : Role) (b : UInt8) : Starves (readNumber role) [b] :=
  .cons rfl (starves_nil _)

theorem starves_putLength (role : Role) (hrole : role ≠ .kind) (n : Nat) :
    Starves (readNumber role) (putLength n) := by
  rw [putLength]
  split
  · exact starves_small role _
  · split
    · exact .cons rfl (starves_readWide 2 n)
    · split
      · exact .cons rfl (starves_readWide 4 n)
      · refine .cons rfl ?_
        show Starves (fun given => if role = .kind then _ else readWide 8 given) _
        simp only [if_neg hrole]
        exact starves_readWide 8 n

theorem starves_putText {s : Text} (h : TextFits s) : Starves readText (putText s) :=
  (starves_putLength .textLength nofun _).bind (reads_putLength .textLength nofun h)
    ((starves_take _).last _)

/-! ## Optional things and lists -/

section Containers

variable {read : Reader α} {put : α → Bytes} {fits : α → Prop}

theorem Starves.option (hput : ∀ {a}, fits a → Starves read (put a)) {o : Option α}
    (h : OptionFits fits o) : Starves (readOption read) (putOption put o) := by
  cases o with
  | none => exact .cons rfl (starves_nil _)
  | some a => exact .cons rfl ((hput (h a rfl)).last _)

theorem Starves.times (hput : ∀ {a}, fits a → Starves read (put a))
    (hread : ∀ {a}, fits a → Reads read (put a) a) {items : List α} (h : ∀ a ∈ items, fits a) :
    Starves (readTimes read items.length) (items.flatMap put) := by
  induction items with
  | nil => exact starves_nil _
  | cons a items ih =>
      obtain ⟨ha, hitems⟩ := List.forall_mem_cons.mp h
      exact (hput ha).bind (hread ha) ((ih hitems).last _)

theorem Starves.list (hput : ∀ {a}, fits a → Starves read (put a))
    (hread : ∀ {a}, fits a → Reads read (put a) a) {items : List α} (h : ListFits fits items) :
    Starves (readList read) (putList put items) :=
  (starves_putLength .listLength nofun _).bind (reads_putLength .listLength nofun h.1)
    (Starves.times hput hread h.2)

end Containers

/-! ## Values and records -/

theorem starves_putBool (b : Bool) : Starves readBool [if b then 1 else 0] :=
  .cons rfl (starves_nil _)

theorem starves_putValue {v : Value} (h : ValueFits v) : Starves readValue (putValue v) := by
  cases v with
  | text s =>
      exact (starves_small .kind 0).bind (reads_small .kind (by decide))
        ((starves_putText h).last _)
  | number x =>
      exact (starves_small .kind 1).bind (reads_small .kind (by decide))
        ((starves_readWide 8 _).last _)
  | bool b =>
      exact (starves_small .kind 2).bind (reads_small .kind (by decide))
        ((starves_putBool b).last _)

theorem starves_putCondition {c : ConditionDefinition} (h : ConditionFits c) :
    Starves readCondition (putCondition c) := by
  obtain ⟨hname, hoperator, hcomparand, hport⟩ := h
  simp only [putCondition, List.append_assoc]
  refine (starves_putText hname).bind (reads_putText hname) ?_
  refine (starves_putText hoperator).bind (reads_putText hoperator) ?_
  refine (starves_putValue hcomparand).bind (reads_putValue hcomparand) ?_
  exact (starves_putText hport).last _

theorem starves_putChoice {c : ChoiceDefinition} (h : ChoiceFits c) :
    Starves readChoice (putChoice c) :=
  (starves_putText h.1).bind (reads_putText h.1) ((starves_putText h.2).last _)

theorem starves_putBlock {b : BlockDefinition} (h : BlockFits b) :
    Starves readBlock (putBlock b) := by
  obtain ⟨hid, htype, htext, hname, hconditions, hchoices, hurl⟩ := h
  have hrows := Starves.option (Starves.list starves_putCondition reads_putCondition) hconditions
  have hoptions := Starves.option (Starves.list starves_putChoice reads_putChoice) hchoices
  simp only [putBlock, List.append_assoc]
  refine (starves_putText hid).bind (reads_putText hid) ?_
  refine (starves_putText htype).bind (reads_putText htype) ?_
  refine (Starves.option starves_putText htext).bind (Reads.option reads_putText htext) ?_
  refine (Starves.option starves_putText hname).bind (Reads.option reads_putText hname) ?_
  refine hrows.bind (Reads.option (Reads.list reads_putCondition) hconditions) ?_
  refine hoptions.bind (Reads.option (Reads.list reads_putChoice) hchoices) ?_
  exact (Starves.option starves_putText hurl).last _

theorem starves_putLink {l : LinkDefinition} (h : LinkFits l) :
    Starves readLink (putLink l) := by
  obtain ⟨hsource, htarget, hsourcePort, htargetPort⟩ := h
  simp only [putLink, List.append_assoc]
  refine (starves_putText hsource).bind (reads_putText hsource) ?_
  refine (starves_putText htarget).bind (reads_putText htarget) ?_
  refine (Starves.option starves_putText hsourcePort).bind
    (Reads.option reads_putText hsourcePort) ?_
  exact (Starves.option starves_putText htargetPort).last _

/-! ## Definitions -/

theorem starves_encode {d : Definition} (h : Fits d) : Starves decode (encode d) :=
  (Starves.list starves_putBlock reads_putBlock h.1).bind (Reads.list reads_putBlock h.1)
    ((Starves.list starves_putLink reads_putLink h.2).last _)

/-- **A snapshot that is cut off asks for more bytes.** Of every beginning of a snapshot but the
whole of it, decoding says that the end came unexpectedly, and how many more bytes it needs for
the part that it was at; so many have been cut off. -/
theorem decode_cut_off {d : Definition} (h : Fits d) {p : Bytes}
    (hbegins : p <+: encode d) (hcut : p ≠ encode d) :
    ∃ additional, 0 < additional ∧ p.length + additional ≤ (encode d).length
      ∧ decode p = .error (.unexpectedEnd additional) := by
  obtain ⟨missing, hmissing⟩ := hbegins
  have hne : missing ≠ [] := by
    rintro rfl
    exact hcut ((List.append_nil p).symm.trans hmissing)
  obtain ⟨additional, hpos, hle, hfault⟩ := starves_encode h p missing hmissing.symm hne
  refine ⟨additional, hpos, ?_, hfault⟩
  rw [← hmissing, List.length_append]
  exact Nat.add_le_add_left hle p.length

/-- The cut falls between the two bytes of a character. -/
theorem odd_decode_cut_off :
    Fits oddDefinition ∧ (encode oddDefinition)[272]? = some 0xA9
      ∧ ∃ additional, 0 < additional ∧ 272 + additional ≤ (encode oddDefinition).length
          ∧ decode ((encode oddDefinition).take 272) = .error (.unexpectedEnd additional) := by
  have hfits : Fits oddDefinition := by decide +kernel
  have hcut : (encode oddDefinition).take 272 ≠ encode oddDefinition := by decide +kernel
  have hlength : ((encode oddDefinition).take 272).length = 272 := by decide +kernel
  obtain ⟨additional, hpos, hle, hfault⟩ :=
    decode_cut_off hfits (List.take_prefix 272 (encode oddDefinition)) hcut
  rw [hlength] at hle
  exact ⟨hfits, by decide +kernel, additional, hpos, hle, hfault⟩

end Dialogue.Snapshot
