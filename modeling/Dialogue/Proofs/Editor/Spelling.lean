import Dialogue.Binary64.Rounding
import Dialogue.Definition
import Dialogue.Proofs.Json.Grammar

/-!
# How exports spell a definition

The texts that the diagram editor, or someone who writes a graph by hand, may use for a definition.
The members of every record stand in any order and under any of their names, among members of any
other names; what is absent is left out or null; an identifier that is a whole number may be
written as one. `Spells` says all of this without a word about how exports are read.
-/

namespace Dialogue.Editor

open Json (FieldSpelling FitsWord Padded SpellsList SpellsNullable SpellsRecord SpellsText)

/-- An identifier: a text or, if it is a whole number of 64 bits, this number. -/
def SpellsId (id t : Text) : Prop :=
  SpellsText id t ∨ ∃ i, FitsWord i ∧ id = Text.ofInt i ∧ t = Text.ofInt i

/-- A comparand: a text, a truth value, or a whole number that is a double itself. Zero may have a
minus sign; then it is the other zero of the doubles. -/
def SpellsComparand (v : Value) (t : Text) : Prop :=
  match v with
  | .text s => SpellsText s t
  | .bool b => t = (if b then "true" else "false").toList
  | .number x =>
    (∃ i : Int, i.natAbs ≤ Nat.pow 2 53 ∧ x = Binary64.ofInt i ∧ t = Text.ofInt i)
      ∨ x = Binary64.zero.neg ∧ t = ['-', '0']

/-- The fields of a condition row. -/
def conditionFields (c : ConditionDefinition) : List FieldSpelling := [
  ⟨["variable_name", "variableName"], SpellsText c.variableName, False⟩,
  ⟨["condition"], SpellsText c.operator, False⟩,
  ⟨["condition_value", "conditionValue"], SpellsComparand c.comparand, False⟩,
  ⟨["port_id", "portId"], SpellsText c.port, False⟩]

/-- The fields of an option row. -/
def choiceFields (c : ChoiceDefinition) : List FieldSpelling := [
  ⟨["text"], SpellsText c.label, False⟩,
  ⟨["port_id", "portId"], SpellsText c.port, False⟩]

/-- A condition row. -/
def SpellsCondition (c : ConditionDefinition) (t : Text) : Prop :=
  SpellsRecord (conditionFields c) t

/-- An option row. -/
def SpellsChoice (c : ChoiceDefinition) (t : Text) : Prop :=
  SpellsRecord (choiceFields c) t

/-- The fields of a node. -/
def nodeFields (b : BlockDefinition) : List FieldSpelling := [
  ⟨["id", "key"], SpellsId b.id, False⟩,
  ⟨["type", "category"], SpellsText b.typeName, False⟩,
  ⟨["text"], SpellsNullable SpellsText b.text, b.text = none⟩,
  ⟨["variable_name", "variableName"], SpellsNullable SpellsText b.variableName,
    b.variableName = none⟩,
  ⟨["conditions"], SpellsNullable (SpellsList SpellsCondition) b.conditions,
    b.conditions = none⟩,
  ⟨["choices", "choises"], SpellsNullable (SpellsList SpellsChoice) b.choices, b.choices = none⟩,
  ⟨["url"], SpellsNullable SpellsText b.url, b.url = none⟩]

/-- The fields of a link. -/
def linkFields (l : LinkDefinition) : List FieldSpelling := [
  ⟨["from"], SpellsId l.source, False⟩,
  ⟨["to"], SpellsId l.target, False⟩,
  ⟨["from_port", "fromPort"], SpellsNullable SpellsText l.sourcePort, l.sourcePort = none⟩,
  ⟨["to_port", "toPort"], SpellsNullable SpellsText l.targetPort, l.targetPort = none⟩]

/-- A node. -/
def SpellsNode (b : BlockDefinition) (t : Text) : Prop :=
  SpellsRecord (nodeFields b) t

/-- A link. -/
def SpellsLink (l : LinkDefinition) (t : Text) : Prop :=
  SpellsRecord (linkFields l) t

/-- The fields of a graph. An empty list of links may be left out, but no other. -/
def graphFields (d : Definition) : List FieldSpelling := [
  ⟨["node_data_array", "nodeDataArray", "nodes"], SpellsList SpellsNode d.blocks, False⟩,
  ⟨["link_data_array", "linkDataArray", "links"], SpellsList SpellsLink d.links, d.links = []⟩]

/-- A text that holds a definition and nothing else. -/
def Spells (d : Definition) (t : Text) : Prop :=
  ∃ graph, SpellsRecord (graphFields d) graph ∧ Padded graph t

end Dialogue.Editor
