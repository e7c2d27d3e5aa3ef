import Dialogue.Text.Basic

/-!
# Entries by name

Finite maps from names to values, kept as lists of entries in ascending order of
their names (`Text.order`), one entry a name. `put` writes and keeps the order
(`Sorted.put`), `get?` reads; what is read after a write is `get?_put_self` for the
name that was written and `get?_put_of_ne` for any other.
-/

namespace Dialogue

/-- Names with their values. -/
abbrev Entries (α : Type) := List (Text × α)

namespace Entries

variable {α : Type}

/-- The entries with the value under the name, in place of what the name had. -/
def put (name : Text) (value : α) : Entries α → Entries α
  | [] => [(name, value)]
  | (n, v) :: rest =>
    match Text.order name n with
    | .lt => (name, value) :: (n, v) :: rest
    | .eq => (name, value) :: rest
    | .gt => (n, v) :: put name value rest

/-- The value under a name. -/
def get? (name : Text) : Entries α → Option α
  | [] => none
  | (n, v) :: rest => if n = name then some v else get? name rest

/-- The entries that a list of writes leaves, the last write to a name winning. -/
def ofList (writes : List (Text × α)) : Entries α :=
  writes.foldl (fun entries w => put w.1 w.2 entries) []

/-! ## Order -/

/-- The entries stand in ascending order of their names. -/
def Sorted (entries : Entries α) : Prop :=
  entries.Pairwise fun a b => Text.order a.1 b.1 = .lt

theorem sorted_nil : Sorted ([] : Entries α) :=
  List.Pairwise.nil

/-- The names after a write are those before it and the one written. -/
theorem mem_put {name : Text} {value : α} {entries : Entries α} {e : Text × α}
    (h : e ∈ put name value entries) : e = (name, value) ∨ e ∈ entries := by
  induction entries with
  | nil => simpa [put] using h
  | cons first rest ih =>
    obtain ⟨n, v⟩ := first
    simp only [put] at h
    split at h
    · simpa using h
    · rcases List.mem_cons.1 h with rfl | h
      · exact .inl rfl
      · exact .inr (List.mem_cons_of_mem _ h)
    · rcases List.mem_cons.1 h with rfl | h
      · exact .inr List.mem_cons_self
      · exact (ih h).imp_right (List.mem_cons_of_mem _)

/-- A write keeps the order. -/
theorem Sorted.put {entries : Entries α} (h : entries.Sorted) (name : Text) (value : α) :
    (Entries.put name value entries).Sorted := by
  induction entries with
  | nil => simp [Entries.put, Sorted]
  | cons first rest ih =>
    obtain ⟨n, v⟩ := first
    obtain ⟨above, sorted⟩ := List.pairwise_cons.1 h
    simp only [Entries.put]
    split
    · next lt =>
      refine List.pairwise_cons.2 ⟨fun e he => ?_, h⟩
      rcases List.mem_cons.1 he with rfl | he
      · exact lt
      · exact Text.order_trans lt (above e he)
    · next eq =>
      obtain rfl := Text.order_eq_iff.1 eq
      exact List.pairwise_cons.2 ⟨above, sorted⟩
    · next gt =>
      refine List.pairwise_cons.2 ⟨fun e he => ?_, ih sorted⟩
      rcases mem_put he with rfl | he
      · exact Text.order_gt_iff.1 gt
      · exact above e he

theorem sorted_ofList (writes : List (Text × α)) : (ofList writes).Sorted := by
  suffices h : ∀ entries : Entries α, entries.Sorted →
      Sorted (writes.foldl (fun entries w => Entries.put w.1 w.2 entries) entries) from
    h [] sorted_nil
  induction writes with
  | nil => exact fun _ h => h
  | cons w writes ih => exact fun entries h => ih _ (h.put w.1 w.2)

/-! ## Reading after a write -/

@[simp] theorem get?_put_self (name : Text) (value : α) (entries : Entries α) :
    get? name (put name value entries) = some value := by
  induction entries with
  | nil => simp [put, get?]
  | cons first rest ih =>
    obtain ⟨n, v⟩ := first
    simp only [put]
    split
    · simp [get?]
    · simp [get?]
    · next gt =>
      have ne : n ≠ name := fun e => by
        rw [e, Text.order_self] at gt
        cases gt
      simp [get?, ne, ih]

theorem get?_put_of_ne {name other : Text} (ne : other ≠ name) (value : α)
    (entries : Entries α) : get? other (put name value entries) = get? other entries := by
  induction entries with
  | nil => simp [put, get?, ne.symm]
  | cons first rest ih =>
    obtain ⟨n, v⟩ := first
    simp only [put]
    split
    · simp [get?, ne.symm]
    · next eq =>
      obtain rfl := Text.order_eq_iff.1 eq
      simp [get?, ne.symm]
    · simp [get?, ih]

end Entries

end Dialogue
