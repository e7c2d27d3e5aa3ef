import Dialogue.Editor.Graph
import Dialogue.Json.Record

/-!
# Reading exports of the diagram editor

The shapes of an export's records: which fields they have, under which names
these are accepted, and which of them must be there. A record that is being read
is a draft, with every field still open; `Shape.read` makes sure that a finished
draft has the fields that must be there.

An identifier may be written as a text or as a number.
-/

namespace Dialogue.Editor

open Json (Fault RecordField Shape Reader Absence readText readValue readNullable readList
  parseWith depthLimit)

/-- Reads an identifier. A number stands for its JSON text. -/
def readId (depth : Nat) : Reader Text := fun s => do
  let (value, s) ← readValue depth s
  match value with
  | .text id => return (id, s)
  | .number n => return (n.print, s)
  | found => throw (.notAnId found)

/-- A field whose value is kept as it is read. -/
def field {σ α : Type} (name : String) (aliases : List String) (absence : Absence)
    (get : σ → Option α) (set : σ → α → σ) (read : Nat → Reader α) : RecordField σ where
  name := name.toList
  aliases := aliases.map String.toList
  absence := absence
  isSet state := (get state).isSome
  read depth state s := do
    let (a, s) ← read depth s
    return (set state a, s)

/-- Reads a text at any depth. -/
def textAt (_ : Nat) : Reader Text := readText

/-- Reads a text or null. -/
def nullableTextAt (_ : Nat) : Reader (Option Text) := readNullable readText

/-- A finished draft has every field that is refused if absent. -/
def require {α : Type} (name : String) : Option α → Except Fault α
  | some a => .ok a
  | none => .error (.missingField name.toList)

/-! ## Conditions -/

/-- A condition row that is being read. -/
structure ConditionDraft where
  variableName : Option Text := none
  operator : Option Text := none
  comparand : Option Json := none
  port : Option Text := none

/-- The fields of a condition row. -/
def conditionShape : Shape ConditionDraft where
  name := "struct EditorCondition".toList
  fields := [
    field "variable_name" ["variableName"] .refused
      ConditionDraft.variableName (fun d a => { d with variableName := some a }) textAt,
    field "condition" [] .refused
      ConditionDraft.operator (fun d a => { d with operator := some a }) textAt,
    field "condition_value" ["conditionValue"] .refused
      ConditionDraft.comparand (fun d a => { d with comparand := some a }) readValue,
    field "port_id" ["portId"] .refused
      ConditionDraft.port (fun d a => { d with port := some a }) textAt]

/-- Reads a condition row. -/
def readCondition (depth : Nat) : Reader Condition := fun s => do
  let (d, s) ← conditionShape.read {} depth s
  return (⟨← require "variable_name" d.variableName, ← require "condition" d.operator,
    ← require "condition_value" d.comparand, ← require "port_id" d.port⟩, s)

/-! ## Choices -/

/-- An option row that is being read. -/
structure ChoiceDraft where
  label : Option Text := none
  port : Option Text := none

/-- The fields of an option row. -/
def choiceShape : Shape ChoiceDraft where
  name := "struct EditorChoice".toList
  fields := [
    field "text" [] .refused
      ChoiceDraft.label (fun d a => { d with label := some a }) textAt,
    field "port_id" ["portId"] .refused
      ChoiceDraft.port (fun d a => { d with port := some a }) textAt]

/-- Reads an option row. -/
def readChoice (depth : Nat) : Reader Choice := fun s => do
  let (d, s) ← choiceShape.read {} depth s
  return (⟨← require "text" d.label, ← require "port_id" d.port⟩, s)

/-! ## Nodes -/

/-- A node that is being read. -/
structure NodeDraft where
  id : Option Text := none
  typeName : Option Text := none
  text : Option (Option Text) := none
  variableName : Option (Option Text) := none
  conditions : Option (Option (List Condition)) := none
  choices : Option (Option (List Choice)) := none
  url : Option (Option Text) := none

/-- The fields of a node. -/
def nodeShape : Shape NodeDraft where
  name := "struct EditorNode".toList
  fields := [
    field "id" ["key"] .refused
      NodeDraft.id (fun d a => { d with id := some a }) readId,
    field "type" ["category"] .refused
      NodeDraft.typeName (fun d a => { d with typeName := some a }) textAt,
    field "text" [] .null
      NodeDraft.text (fun d a => { d with text := some a }) nullableTextAt,
    field "variable_name" ["variableName"] .null
      NodeDraft.variableName (fun d a => { d with variableName := some a }) nullableTextAt,
    field "conditions" [] .null
      NodeDraft.conditions (fun d a => { d with conditions := some a })
      (fun depth => readNullable (readList depth readCondition)),
    field "choices" ["choises"] .null
      NodeDraft.choices (fun d a => { d with choices := some a })
      (fun depth => readNullable (readList depth readChoice)),
    field "url" [] .null
      NodeDraft.url (fun d a => { d with url := some a }) nullableTextAt]

/-- Reads a node. -/
def readNode (depth : Nat) : Reader Node := fun s => do
  let (d, s) ← nodeShape.read {} depth s
  return (⟨← require "id" d.id, ← require "type" d.typeName, d.text.join,
    d.variableName.join, d.conditions.join, d.choices.join, d.url.join⟩, s)

/-! ## Links -/

/-- A link that is being read. -/
structure LinkDraft where
  source : Option Text := none
  target : Option Text := none
  sourcePort : Option (Option Text) := none
  targetPort : Option (Option Text) := none

/-- The fields of a link. -/
def linkShape : Shape LinkDraft where
  name := "struct EditorLink".toList
  fields := [
    field "from" [] .refused
      LinkDraft.source (fun d a => { d with source := some a }) readId,
    field "to" [] .refused
      LinkDraft.target (fun d a => { d with target := some a }) readId,
    field "from_port" ["fromPort"] .null
      LinkDraft.sourcePort (fun d a => { d with sourcePort := some a }) nullableTextAt,
    field "to_port" ["toPort"] .null
      LinkDraft.targetPort (fun d a => { d with targetPort := some a }) nullableTextAt]

/-- Reads a link. -/
def readLink (depth : Nat) : Reader Link := fun s => do
  let (d, s) ← linkShape.read {} depth s
  return (⟨← require "from" d.source, ← require "to" d.target,
    d.sourcePort.join, d.targetPort.join⟩, s)

/-! ## Graphs -/

/-- A graph that is being read. -/
structure GraphDraft where
  nodes : Option (List Node) := none
  links : Option (List Link) := none

/-- The fields of a graph. -/
def graphShape : Shape GraphDraft where
  name := "struct EditorGraph".toList
  fields := [
    field "node_data_array" ["nodeDataArray", "nodes"] .refused
      GraphDraft.nodes (fun d a => { d with nodes := some a })
      (fun depth => readList depth readNode),
    field "link_data_array" ["linkDataArray", "links"] .default
      GraphDraft.links (fun d a => { d with links := some a })
      (fun depth => readList depth readLink)]

/-- Reads a graph. -/
def readGraph (depth : Nat) : Reader Graph := fun s => do
  let (d, s) ← graphShape.read {} depth s
  return (⟨← require "node_data_array" d.nodes, d.links.getD []⟩, s)

/-- The graph that an export holds. -/
def Graph.parse (s : Text) : Except ImportError Graph :=
  (parseWith (readGraph depthLimit) s).mapError .unreadable

/-- The definition that an export holds. -/
def importDefinition (s : Text) : Except ImportError Definition := do
  (← Graph.parse s).toDefinition

end Dialogue.Editor
