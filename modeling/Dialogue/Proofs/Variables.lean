import Dialogue.Proofs.Entries
import Dialogue.Variables

/-!
# Variables are a finite map

A conversation sets its variables one after another, and each of them any number of times. What
comes of this is the map from names to the values that they were given last (`ofWrites_is_map`):
looking up a name, counting the names and going through all of them tell the same of this map, in
whatever order the values were set.

The reason is that a store has one entry a name, in the order of the names, whatever is set
(`Entries.Sorted`). So it can be told by what it gives for every name, and this is followed along
the writes in `Entries.get?_ofList`.
-/

namespace Dialogue.Variables

open Entries (WrittenLast)

variable {writes writes' : List (Text × Value)} {name : Text} {value : Value}

/-- The variables after some writes, where none was set before. -/
def ofWrites (writes : List (Text × Value)) : Variables :=
  writes.foldl (fun vars w => vars.set w.1 w.2) empty

theorem entries_ofWrites (writes : List (Text × Value)) :
    (ofWrites writes).entries = Entries.ofList writes :=
  (List.foldl_hom entries fun _ _ => rfl).symm

theorem get?_ofWrites :
    (ofWrites writes).get? name = some value ↔ WrittenLast writes name value := by
  rw [get?, entries_ofWrites, Entries.get?_ofList_eq_some_iff]

theorem size_ofWrites (writes : List (Text × Value)) :
    (ofWrites writes).size = (writes.map Prod.fst).toFinset.card := by
  rw [size, entries_ofWrites, Entries.length_ofList]

theorem isEmpty_ofWrites : (ofWrites writes).isEmpty = true ↔ writes = [] := by
  rw [isEmpty, List.isEmpty_iff_length_eq_zero, ← size, size_ofWrites, Finset.card_eq_zero,
    List.toFinset_eq_empty_iff, List.map_eq_nil_iff]

theorem mem_toList (vars : Variables) :
    (name, value) ∈ vars.toList ↔ vars.get? name = some value :=
  vars.sorted.mem_iff

theorem nodup_toList (vars : Variables) : (vars.toList.map Prod.fst).Nodup :=
  vars.sorted.nodup_names

theorem mem_names_toList (vars : Variables) :
    name ∈ vars.toList.map Prod.fst ↔ ∃ value, vars.get? name = some value :=
  vars.sorted.mem_names_iff

/-- **Variables are a finite map,** whatever has been set and in whatever order. A name has the
value that it was given last, and none if it was given none; setting it changes what it has and
nothing else. There are as many variables as names that were set, and going through the variables,
by their names, comes to each of these once and gives its value. Two stores can be told apart, by
one of these or by the other, just if some name was given different values last. -/
theorem ofWrites_is_map (writes : List (Text × Value)) :
    (∀ name value, (ofWrites writes).get? name = some value ↔ WrittenLast writes name value)
      ∧ (∀ name, (ofWrites writes).get? name = none ↔ name ∉ writes.map Prod.fst)
      ∧ (∀ name value other, ((ofWrites writes).set name value).get? other =
          if other = name then some value else (ofWrites writes).get? other)
      ∧ (ofWrites writes).size = (writes.map Prod.fst).toFinset.card
      ∧ ((ofWrites writes).isEmpty = true ↔ writes = [])
      ∧ ((ofWrites writes).toList.map Prod.fst).Nodup
      ∧ (∀ name, name ∈ (ofWrites writes).toList.map Prod.fst ↔ name ∈ writes.map Prod.fst)
      ∧ (∀ name value, (name, value) ∈ (ofWrites writes).toList ↔ WrittenLast writes name value)
      ∧ Entries.Sorted (ofWrites writes).toList
      ∧ ∀ writes',
          (∀ name value, WrittenLast writes name value ↔ WrittenLast writes' name value) ↔
            (∀ name, (ofWrites writes).get? name = (ofWrites writes').get? name)
              ∧ (ofWrites writes).size = (ofWrites writes').size
              ∧ (ofWrites writes).toList = (ofWrites writes').toList := by
  have hnames (name : Text) :
      name ∈ (ofWrites writes).toList.map Prod.fst ↔ name ∈ writes.map Prod.fst := by
    rw [toList, entries_ofWrites, Entries.mem_names_ofList]
  refine ⟨fun _ _ => get?_ofWrites, fun name => ?_, fun name value other => ?_,
    size_ofWrites writes,
    isEmpty_ofWrites, nodup_toList _, hnames, fun name value => ?_, (ofWrites writes).sorted,
    fun writes' => ⟨fun h => ?_, fun ⟨hget, _⟩ name value => ?_⟩⟩
  · rw [← hnames, mem_names_toList, ← Option.ne_none_iff_exists', not_not]
  · by_cases hname : other = name
    · rw [if_pos hname, hname, get?_set_self]
    · rw [if_neg hname, get?_set_of_ne hname]
  · rw [mem_toList, get?_ofWrites]
  · have hsame : (ofWrites writes).entries = (ofWrites writes').entries := by
      rw [entries_ofWrites, entries_ofWrites, Entries.ofList_eq_iff]
      exact h
    refine ⟨fun name => ?_, ?_, hsame⟩
    · rw [get?, get?, hsame]
    · rw [size, size, hsame]
  · rw [← get?_ofWrites, ← get?_ofWrites, hget]

/-- Two names, one of them set again. -/
example : (ofWrites [(['a'], .bool true), (['b'], .bool true), (['a'], .bool false)]).toList =
    [(['a'], .bool false), (['b'], .bool true)] := by
  decide

end Dialogue.Variables
