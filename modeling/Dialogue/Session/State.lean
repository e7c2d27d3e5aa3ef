import Dialogue.Channel.Basic
import Dialogue.Fetch
import Dialogue.Flow.Basic
import Dialogue.Prompts
import Dialogue.Variables

/-!
# The state of a conversation

Where a conversation stands, how it can end, and what it knows besides.
-/

namespace Dialogue

/-! ## Endings -/

/-- A part that a block cannot do without. -/
inductive Part where
  | variableName
  | url
  deriving DecidableEq, Repr

/-- How messages name a part. -/
def Part.name : Part → Text
  | .variableName => "variable name".toList
  | .url => "url".toList

/-- Why a conversation fails. -/
inductive Failure where
  /-- There is not exactly one start block. -/
  | startBlocks (count : Nat)
  | blockNotFound (id : Text)
  | noDefaultLink (block : Text)
  | invalidChoice (block reply : Text)
  | noChoices (block : Text)
  | missingPart (block : Text) (part : Part)
  | externalCall (url : Text) (error : FetchError)
  | unknownBlockType (block typeName : Text)
  | channel (error : ChannelError)
  deriving DecidableEq, Repr

namespace Failure

/-- The sentence that reports a failure. -/
def message : Failure → Text
  | .startBlocks count =>
    "Start block not found or more than one start block (".toList ++
      Text.ofNat count ++ " found)".toList
  | .blockNotFound id => "Block not found: ".toList ++ id
  | .noDefaultLink block => "No default link from conditional block ".toList ++ block
  | .invalidChoice _ _ => "Invalid choice".toList
  | .noChoices block => "No options to choose from in block ".toList ++ block
  | .missingPart block part =>
    "Block ".toList ++ block ++ " is missing its ".toList ++ part.name
  | .externalCall url error =>
    "External call to '".toList ++ url ++ "' failed: ".toList ++ error.message
  | .unknownBlockType block typeName =>
    "Unknown block type '".toList ++ typeName ++ "' in block ".toList ++ block
  | .channel error => "Transport error: ".toList ++ error.message

/-- Failures that the outside world causes are reported as errors, all others as
messages. -/
def isExternal : Failure → Bool
  | .externalCall _ _ => true
  | .channel _ => true
  | _ => false

end Failure

/-- How a conversation ends well. -/
inductive Completion where
  /-- No link leads on from the last block. -/
  | noFurtherLinks
  /-- An end block was reached. -/
  | endBlock
  deriving DecidableEq, Repr

/-- How a conversation ends. -/
inductive Termination where
  | completed (completion : Completion)
  | failed (failure : Failure)
  deriving DecidableEq, Repr

/-- Whether a conversation ended well. -/
def Termination.isCompleted : Termination → Bool
  | .completed _ => true
  | .failed _ => false

/-! ## Standing -/

/-- What the awaited reply is for. -/
inductive Purpose where
  /-- It is kept in a variable. -/
  | capture (variableName : Text)
  /-- It picks one of so many options. -/
  | choice (options : Nat)
  /-- It picks one of so many links. -/
  | advance (targets : Nat)
  deriving DecidableEq, Repr

/-- Where a conversation stands. -/
inductive Standing where
  | running (block : Text)
  | awaiting (block : Text) (purpose : Purpose)
  | terminated (termination : Termination)
  deriving DecidableEq, Repr

/-- What is fixed for a conversation besides its flow. -/
structure Settings where
  prompts : Prompts := Prompts.standard
  /-- Where a conditional block leads if none of its conditions does. -/
  defaultPort : Text := "OUT0".toList
  /-- Whether external calls can be made. -/
  canFetch : Bool := true
  deriving DecidableEq, Repr

/-- A conversation at some moment. -/
structure Session where
  flow : Flow
  settings : Settings
  store : Variables
  standing : Standing
  /-- The blocks in the order in which they were entered. -/
  visited : List Text
  /-- The ending has been reported and the channel closed. -/
  closed : Bool
  deriving DecidableEq, Repr

namespace Session

/-- Where a conversation over a flow begins. -/
def firstStanding (flow : Flow) : Standing :=
  match flow.startBlocks with
  | [start] => .running start.id
  | starts => .terminated (.failed (.startBlocks starts.length))

/-- A conversation that has not begun. -/
def start (flow : Flow) (settings : Settings) : Session where
  flow := flow
  settings := settings
  store := Variables.empty
  standing := firstStanding flow
  visited := []
  closed := false

end Session

end Dialogue
