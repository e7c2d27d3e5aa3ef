import Dialogue.Proofs.Json.Grammar

/-!
# Faults in the records of exports

Which members the records of an export have: under which names, which of them must be there, and
where there are records within records. A record is faulty if it lacks a member that it must have or
has two members for one field, under the same name or under two of its names; and it is faulty if a
record within it is. `Faulty` says this of texts, without a word about how exports are read.
-/

namespace Dialogue.Editor

open Json (IsValueList IsValueObject SpellsText)

/-! ## Fields -/

/-- The records of an export. -/
inductive Kind where
  | graph
  | node
  | link
  | condition
  | choice

/-- A field as the format has it: its names, whether it must be there, and what kind of records it
lists, if it does. -/
structure FieldRule where
  names : List String
  required : Bool
  lists : Option Kind

/-- The fields of a record, in the order they have in a list. -/
def Kind.rules : Kind → List FieldRule
  | .graph => [
    ⟨["node_data_array", "nodeDataArray", "nodes"], true, some .node⟩,
    ⟨["link_data_array", "linkDataArray", "links"], false, some .link⟩]
  | .node => [
    ⟨["id", "key"], true, none⟩,
    ⟨["type", "category"], true, none⟩,
    ⟨["text"], false, none⟩,
    ⟨["variable_name", "variableName"], false, none⟩,
    ⟨["conditions"], false, some .condition⟩,
    ⟨["choices", "choises"], false, some .choice⟩,
    ⟨["url"], false, none⟩]
  | .link => [
    ⟨["from"], true, none⟩,
    ⟨["to"], true, none⟩,
    ⟨["from_port", "fromPort"], false, none⟩,
    ⟨["to_port", "toPort"], false, none⟩]
  | .condition => [
    ⟨["variable_name", "variableName"], true, none⟩,
    ⟨["condition"], true, none⟩,
    ⟨["condition_value", "conditionValue"], true, none⟩,
    ⟨["port_id", "portId"], true, none⟩]
  | .choice => [
    ⟨["text"], true, none⟩,
    ⟨["port_id", "portId"], true, none⟩]

/-- A key that stands for a field, under any of its names and however they are escaped. -/
def FieldRule.Keyed (f : FieldRule) (key : Text) : Prop :=
  ∃ name ∈ f.names, SpellsText name.toList key

/-! ## Faults -/

/-- A member is missing that must be there, or two members are of one field. -/
inductive Defective (rules : List FieldRule) (entries : List (Text × Text)) : Prop
  | lacks (f : FieldRule) (hf : f ∈ rules) (hrequired : f.required = true)
      (hnone : ∀ e ∈ entries, ¬ f.Keyed e.1)
  | repeats (f : FieldRule) (hf : f ∈ rules) (e e' : Text × Text) (htwo : [e, e'].Sublist entries)
      (he : f.Keyed e.1) (he' : f.Keyed e'.1)

/-- A record, written as an object, that is defective or has a faulty record in one of its lists; or
a record that is written as a list of its fields and has a faulty record in one of their lists. -/
inductive Faulty : Kind → Text → Prop
  | here {k : Kind} {entries : List (Text × Text)} {t : Text} (h : IsValueObject entries t)
      (hdefective : Defective k.rules entries) : Faulty k t
  | member {k k' : Kind} {entries : List (Text × Text)} {t : Text} (h : IsValueObject entries t)
      {f : FieldRule} (hf : f ∈ k.rules) (hlists : f.lists = some k') {e : Text × Text}
      (he : e ∈ entries) (hkey : f.Keyed e.1) {items : List Text} (hitems : IsValueList items e.2)
      {v : Text} (hv : v ∈ items) (hfaulty : Faulty k' v) : Faulty k t
  | position {k k' : Kind} {values : List Text} {t : Text} (h : IsValueList values t)
      {i : Nat} {f : FieldRule} (hf : k.rules[i]? = some f) (hlists : f.lists = some k') {u : Text}
      (hu : values[i]? = some u) {items : List Text} (hitems : IsValueList items u)
      {v : Text} (hv : v ∈ items) (hfaulty : Faulty k' v) : Faulty k t

end Dialogue.Editor
