import Dialogue.Proofs.Text.Utf8
import Dialogue.Snapshot.Reader
import Dialogue.Snapshot.Writer

/-!
# Parts of snapshots are read back

`Reads read bytes a` says that a reader takes exactly the given bytes off whatever begins
with them, and makes `a` of them. Every part that is written is read so: bytes and numbers,
lengths (`reads_putLength`) in each of their four forms, texts, and optional things and
lists as soon as their contents are (`Reads.option`, `Reads.list`).
-/

namespace Dialogue.Snapshot

variable {α β : Type}

/-- A reader takes these bytes, whatever follows them, and gives this result. -/
def Reads (read : Reader α) (bytes : Bytes) (a : α) : Prop :=
  ∀ rest, read (bytes ++ rest) = .ok (a, rest)

/-- What is read goes to what comes next, with the bytes behind it. -/
theorem Reads.bind {read : Reader α} {bytes : Bytes} {a : α} (h : Reads read bytes a)
    (rest : Bytes) (next : α × Bytes → Except Fault β) :
    (read (bytes ++ rest) >>= next) = next (a, rest) := by
  rw [h rest]
  rfl

/-! ## Numbers -/

theorem length_littleEndian (count n : Nat) : (littleEndian count n).length = count := by
  induction count generalizing n with
  | zero => rfl
  | succ count ih => rw [littleEndian, List.length_cons, ih]

theorem ofLittleEndian_littleEndian {count n : Nat} (h : n < Nat.pow 256 count) :
    ofLittleEndian (littleEndian count n) = n := by
  induction count generalizing n with
  | zero =>
      obtain rfl := Nat.lt_one_iff.mp h
      rfl
  | succ count ih =>
      have hhigh : n / 256 < Nat.pow 256 count :=
        Nat.div_lt_of_lt_mul (Nat.mul_comm .. ▸ h)
      have hlow : (UInt8.ofNat (n % 256)).toNat = n % 256 :=
        Utf8.toNat_byte (Nat.mod_lt _ (by decide))
      rw [littleEndian, ofLittleEndian, hlow, ih hhigh]
      omega

theorem reads_take (bytes : Bytes) : Reads (take bytes.length) bytes bytes := by
  intro rest
  have hlength : ¬ (bytes ++ rest).length < bytes.length := by simp
  rw [take, if_neg hlength, List.take_left, List.drop_left]

theorem reads_readWide (count : Nat) {n : Nat} (h : n < Nat.pow 256 count) :
    Reads (readWide count) (littleEndian count n) n := by
  intro rest
  have htake := reads_take (littleEndian count n)
  rw [length_littleEndian] at htake
  rw [readWide, htake.bind]
  dsimp only
  rw [ofLittleEndian_littleEndian h]
  rfl

/-- A small number is a byte of its own. -/
theorem reads_small (role : Role) {b : UInt8} (h : b < 251) :
    Reads (readNumber role) [b] b.toNat := by
  intro rest
  show (if b < 251 then Except.ok (b.toNat, rest) else _) = _
  rw [if_pos h]

/-- Every length below `2 ^ 64` is read back, in whichever form it was written. -/
theorem reads_putLength (role : Role) (hrole : role ≠ .kind) {n : Nat}
    (h : n < Nat.pow 2 64) : Reads (readNumber role) (putLength n) n := by
  rw [putLength]
  by_cases h1 : n < 251
  · rw [if_pos h1]
    have hbyte : (UInt8.ofNat n).toNat = n := Utf8.toNat_byte (by omega)
    have hsmall : UInt8.ofNat n < 251 := by
      rw [UInt8.lt_iff_toNat_lt, hbyte]
      exact h1
    have hread := reads_small role hsmall
    rwa [hbyte] at hread
  rw [if_neg h1]
  by_cases h2 : n < Nat.pow 2 16
  · rw [if_pos h2]
    exact reads_readWide 2 h2
  rw [if_neg h2]
  by_cases h4 : n < Nat.pow 2 32
  · rw [if_pos h4]
    exact reads_readWide 4 h4
  · rw [if_neg h4]
    intro rest
    -- The marker of eight bytes is the one that no kind may have.
    show (if role = .kind then _ else readWide 8 (littleEndian 8 n ++ rest)) = _
    rw [if_neg hrole]
    exact reads_readWide 8 h rest

/-! ## Texts -/

/-- A text whose length can be written. -/
def TextFits (s : Text) : Prop :=
  Utf8.size s < Nat.pow 2 64

instance (s : Text) : Decidable (TextFits s) :=
  inferInstanceAs (Decidable (_ < _))

theorem reads_putText {s : Text} (h : TextFits s) : Reads readText (putText s) s := by
  intro rest
  have hlength : Reads (readNumber .textLength) (putLength (Utf8.encode s).length) _ :=
    reads_putLength .textLength nofun h
  have hcontent := reads_take (Utf8.encode s)
  simp only [putText, readText, List.append_assoc, hlength.bind, hcontent.bind,
    Utf8.decode_encode]
  rfl

/-! ## Optional things and lists -/

/-- What is there, if anything, can be written. -/
def OptionFits (fits : α → Prop) (o : Option α) : Prop :=
  ∀ a ∈ o, fits a

/-- The items, and how many they are, can be written. -/
def ListFits (fits : α → Prop) (items : List α) : Prop :=
  items.length < Nat.pow 2 64 ∧ ∀ a ∈ items, fits a

section Containers

variable {read : Reader α} {put : α → Bytes} {fits : α → Prop}

instance [DecidablePred fits] : DecidablePred (OptionFits fits) := fun o =>
  match o with
  | none => .isTrue fun _ h => nomatch h
  | some a => decidable_of_iff (fits a) ⟨fun h _ ha => Option.some.inj ha ▸ h, fun h => h a rfl⟩

instance [DecidablePred fits] : DecidablePred (ListFits fits) := fun _ =>
  inferInstanceAs (Decidable (_ ∧ _))

theorem Reads.option (hput : ∀ {a}, fits a → Reads read (put a) a) {o : Option α}
    (h : OptionFits fits o) : Reads (readOption read) (putOption put o) o := by
  intro rest
  cases o with
  | none => rfl
  | some a =>
      show (read (put a ++ rest) >>= _) = _
      rw [(hput (h a rfl)).bind]
      rfl

theorem Reads.times (hput : ∀ {a}, fits a → Reads read (put a) a) {items : List α}
    (h : ∀ a ∈ items, fits a) :
    Reads (readTimes read items.length) (items.flatMap put) items := by
  induction items with
  | nil => exact fun _ => rfl
  | cons a items ih =>
      obtain ⟨ha, hitems⟩ := List.forall_mem_cons.mp h
      intro rest
      simp only [List.flatMap_cons, List.append_assoc, List.length_cons, readTimes,
        (hput ha).bind, (ih hitems).bind]
      rfl

theorem Reads.list (hput : ∀ {a}, fits a → Reads read (put a) a) {items : List α}
    (h : ListFits fits items) : Reads (readList read) (putList put items) items := by
  intro rest
  have hlength := reads_putLength .listLength nofun h.1
  rw [readList, putList, List.append_assoc, hlength.bind]
  exact Reads.times hput h.2 rest

end Containers

end Dialogue.Snapshot
