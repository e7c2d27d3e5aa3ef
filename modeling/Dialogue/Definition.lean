import Dialogue.Value

/-!
# Definitions of conversation graphs

A definition is what an author writes down: blocks of named types, each with
whatever its type may need, and links between them. Nothing is checked here; a
definition may name blocks twice and link blocks that do not exist.
-/

namespace Dialogue

/-- One row of a conditional block. -/
structure ConditionDefinition where
  variableName : Text
  operator : Text
  comparand : Value
  port : Text
  deriving DecidableEq, Repr

/-- One option of a choice block. -/
structure ChoiceDefinition where
  label : Text
  port : Text
  deriving DecidableEq, Repr

/-- A block. Which of the optional parts matter depends on its type. -/
structure BlockDefinition where
  id : Text
  typeName : Text
  text : Option Text
  variableName : Option Text
  conditions : Option (List ConditionDefinition)
  choices : Option (List ChoiceDefinition)
  url : Option Text
  deriving DecidableEq, Repr

/-- A link from one block to another. -/
structure LinkDefinition where
  source : Text
  target : Text
  sourcePort : Option Text
  targetPort : Option Text
  deriving DecidableEq, Repr

/-- A conversation graph as written down. -/
structure Definition where
  blocks : List BlockDefinition
  links : List LinkDefinition
  deriving DecidableEq, Repr

end Dialogue
