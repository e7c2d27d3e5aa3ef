import Dialogue.Json.Tagged

/-!
# Frames

What travels over a byte stream, one frame a line: messages, errors and prompts
to the client, and from the client the replies to prompts and, once, the project
that it wants.
-/

namespace Dialogue

/-- One line of a conversation over a byte stream. -/
inductive Frame where
  | message (text : Text)
  | error (text : Text)
  | prompt (text : Text)
  | input (text : Text)
  | start (project : Text)
  deriving DecidableEq, Repr

namespace Frame

open Json (Fault Tagging printTagged parseWith depthLimit)

/-- The tag of a frame. -/
def tag : Frame → Text
  | .message _ => "message".toList
  | .error _ => "error".toList
  | .prompt _ => "prompt".toList
  | .input _ => "input".toList
  | .start _ => "start".toList

/-- The text that a frame carries. -/
def content : Frame → Text
  | .message text => text
  | .error text => text
  | .prompt text => text
  | .input text => text
  | .start project => project

/-- The notation of frames. -/
def tagging : Tagging Frame where
  name := "adjacently tagged enum Frame".toList
  tagKey := "type".toList
  contentKey := "content".toList
  variants := [
    ⟨"message".toList, .text .message⟩,
    ⟨"error".toList, .text .error⟩,
    ⟨"prompt".toList, .text .prompt⟩,
    ⟨"input".toList, .text .input⟩,
    ⟨"start".toList, .text .start⟩]

/-- The compact text of a frame, its tag first. -/
def print (f : Frame) : Text :=
  printTagged tagging.tagKey f.tag tagging.contentKey (some f.content)

/-- The frame that a text holds. -/
def parse (s : Text) : Except Fault Frame :=
  parseWith (tagging.read depthLimit) s

end Frame

end Dialogue
