import Dialogue.Definition
import Dialogue.Json.Fault

/-!
# Graphs of the diagram editor

The editor's own form of a graph, as it exports it, and its conversion into a
definition. The comparand of a condition may be any JSON value in an export; a
definition has only texts, numbers and truth values. The conversion fails at the
first condition, in the order of the export, whose comparand is none of these,
and keeps everything else as it is.
-/

namespace Dialogue.Editor

/-- A condition row of an export. -/
structure Condition where
  variableName : Text
  operator : Text
  comparand : Json
  port : Text
  deriving Repr

/-- An option row of an export. -/
structure Choice where
  label : Text
  port : Text
  deriving DecidableEq, Repr

/-- A node of an export. -/
structure Node where
  id : Text
  typeName : Text
  text : Option Text
  variableName : Option Text
  conditions : Option (List Condition)
  choices : Option (List Choice)
  url : Option Text
  deriving Repr

/-- A link of an export. -/
structure Link where
  source : Text
  target : Text
  sourcePort : Option Text
  targetPort : Option Text
  deriving DecidableEq, Repr

/-- An exported graph. -/
structure Graph where
  nodes : List Node
  links : List Link
  deriving Repr

/-- Why an export is no definition. -/
inductive ImportError where
  | unreadable (fault : Json.Fault)
  | badComparand (node : Text) (found : Json)
  deriving Repr

/-- The sentence for a failed import. -/
def ImportError.message : ImportError → Text
  | .unreadable fault => "Failed to parse graph JSON: ".toList ++ fault.message
  | .badComparand node found =>
    "Invalid graph data: condition value in node '".toList ++ node ++
      "' must be a string, number or boolean, found ".toList ++ found.print

/-! ## Conversion -/

/-- The comparand of a condition in the given node. -/
def comparandOf (node : Text) : Json → Except ImportError Value
  | .text s => .ok (.text s)
  | .bool b => .ok (.bool b)
  | .number n => .ok (.number n.nearest)
  | found => .error (.badComparand node found)

/-- A condition row as part of the given node. -/
def Condition.toDefinition (node : Text) (c : Condition) :
    Except ImportError ConditionDefinition := do
  return ⟨c.variableName, c.operator, ← comparandOf node c.comparand, c.port⟩

/-- An option row. -/
def Choice.toDefinition (c : Choice) : ChoiceDefinition :=
  ⟨c.label, c.port⟩

/-- The rows of an optional list, converted one by one. -/
def convertRows {α β ε : Type} (f : α → Except ε β) :
    Option (List α) → Except ε (Option (List β))
  | none => .ok none
  | some rows => do return some (← rows.mapM f)

/-- A node with its rows. -/
def Node.toDefinition (n : Node) : Except ImportError BlockDefinition := do
  let conditions ← convertRows (Condition.toDefinition n.id) n.conditions
  return ⟨n.id, n.typeName, n.text, n.variableName, conditions,
    n.choices.map (·.map Choice.toDefinition), n.url⟩

/-- A link. -/
def Link.toDefinition (l : Link) : LinkDefinition :=
  ⟨l.source, l.target, l.sourcePort, l.targetPort⟩

/-- The definition that an export stands for. -/
def Graph.toDefinition (g : Graph) : Except ImportError Definition := do
  return ⟨← g.nodes.mapM Node.toDefinition, g.links.map Link.toDefinition⟩

end Dialogue.Editor
