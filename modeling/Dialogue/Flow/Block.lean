import Dialogue.Condition
import Dialogue.Definition

/-!
# Blocks

A block of a runnable graph: what its type makes of the parts that its
definition gives. A type that nobody knows makes a block too; it fails when it
is reached.
-/

namespace Dialogue

/-- The types that a definition may name. -/
inductive BlockType where
  | start
  | message
  | save
  | conditional
  | options
  | api
  | finish
  deriving DecidableEq, Repr

namespace BlockType

/-- The name of a type in definitions. -/
def tag : BlockType → Text
  | .start => "startBlock".toList
  | .message => "messageBlock".toList
  | .save => "saveBlock".toList
  | .conditional => "conditionalBlock".toList
  | .options => "optionsBlock".toList
  | .api => "apiBlock".toList
  | .finish => "endBlock".toList

/-- Every type. -/
def all : List BlockType :=
  [.start, .message, .save, .conditional, .options, .api, .finish]

/-- The type with a name. -/
def ofTag? (tag : Text) : Option BlockType :=
  all.find? fun t => t.tag = tag

end BlockType

/-- A condition and the port that it leads to. -/
structure Condition where
  variableName : Text
  operator : Operator
  comparand : Value
  port : Text
  deriving DecidableEq, Repr

/-- An option and the port that it leads to. -/
structure Choice where
  label : Text
  port : Text
  deriving DecidableEq, Repr

/-- What a block does. -/
inductive BlockKind where
  | start
  /-- Says its text. -/
  | message
  /-- Asks for a reply and keeps it in a variable. -/
  | save (variableName : Option Text)
  /-- Goes on at the first condition that holds. -/
  | conditional (conditions : List Condition)
  /-- Lets the user choose. -/
  | choice (choices : List Choice)
  /-- Keeps the summary of a response in a variable. -/
  | externalCall (url variableName : Option Text)
  /-- Ends the conversation. -/
  | finish
  | unknown (typeName : Text)
  deriving DecidableEq, Repr

/-- A block of a runnable graph. Its text is what a message says, and for every
block its label in menus. -/
structure Block where
  id : Text
  text : Option Text
  kind : BlockKind
  deriving DecidableEq, Repr

/-- The name of the type that a kind of block comes from. -/
def BlockKind.tag : BlockKind → Text
  | .start => BlockType.start.tag
  | .message => BlockType.message.tag
  | .save _ => BlockType.save.tag
  | .conditional _ => BlockType.conditional.tag
  | .choice _ => BlockType.options.tag
  | .externalCall _ _ => BlockType.api.tag
  | .finish => BlockType.finish.tag
  | .unknown typeName => typeName

/-- The condition of a row. -/
def Condition.ofDefinition (c : ConditionDefinition) : Condition :=
  ⟨c.variableName, Operator.ofSymbol c.operator, c.comparand, c.port⟩

/-- The option of a row. -/
def Choice.ofDefinition (c : ChoiceDefinition) : Choice :=
  ⟨c.label, c.port⟩

/-- What a definition with the given type makes of its parts. -/
def BlockKind.ofDefinition (b : BlockDefinition) : Option BlockType → BlockKind
  | some .start => .start
  | some .message => .message
  | some .save => .save b.variableName
  | some .conditional =>
    .conditional ((b.conditions.getD []).map Condition.ofDefinition)
  | some .options => .choice ((b.choices.getD []).map Choice.ofDefinition)
  | some .api => .externalCall b.url b.variableName
  | some .finish => .finish
  | none => .unknown b.typeName

namespace Block

/-- The block of a definition whose type name stands for the given type. -/
def ofDefinition (type? : Option BlockType) (b : BlockDefinition) : Block :=
  ⟨b.id, b.text, BlockKind.ofDefinition b type?⟩

/-- Whether conversations start here. -/
def isStart (b : Block) : Bool :=
  b.kind = .start

end Block

end Dialogue
