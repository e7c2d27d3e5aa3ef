import Dialogue.Json.Tagged

/-!
# Events

What passes between a conversation and a client that exchange named events: the
server's messages, requests, errors and farewell, and the client's replies.
-/

namespace Dialogue

open Json (Fault Tagging printTagged parseWith depthLimit)

/-- What a conversation tells its client. -/
inductive ServerEvent where
  | message (text : Text)
  | requestInput (prompt : Text)
  | error (text : Text)
  | disconnect
  deriving DecidableEq, Repr

/-- What a client tells the conversation. -/
inductive ClientEvent where
  | inputResponse (reply : Text)
  deriving DecidableEq, Repr

namespace ServerEvent

/-- The name of an event. -/
def tag : ServerEvent → Text
  | .message _ => "message".toList
  | .requestInput _ => "requestInput".toList
  | .error _ => "error".toList
  | .disconnect => "disconnect".toList

/-- The text that an event carries. -/
def content? : ServerEvent → Option Text
  | .message text => some text
  | .requestInput prompt => some prompt
  | .error text => some text
  | .disconnect => none

/-- The notation of server events. -/
def tagging : Tagging ServerEvent where
  name := "adjacently tagged enum ServerEvent".toList
  tagKey := "event".toList
  contentKey := "data".toList
  variants := [
    ⟨"message".toList, .text .message⟩,
    ⟨"requestInput".toList, .text .requestInput⟩,
    ⟨"error".toList, .text .error⟩,
    ⟨"disconnect".toList, .nothing .disconnect "ServerEvent::Disconnect".toList⟩]

/-- The compact text of an event, its name first. -/
def print (e : ServerEvent) : Text :=
  printTagged tagging.tagKey e.tag tagging.contentKey e.content?

/-- The event that a text holds. -/
def parse (s : Text) : Except Fault ServerEvent :=
  parseWith (tagging.read depthLimit) s

end ServerEvent

namespace ClientEvent

/-- The notation of client events. -/
def tagging : Tagging ClientEvent where
  name := "adjacently tagged enum ClientEvent".toList
  tagKey := "event".toList
  contentKey := "data".toList
  variants := [⟨"inputResponse".toList, .text .inputResponse⟩]

/-- The compact text of an event, its name first. -/
def print : ClientEvent → Text
  | .inputResponse reply =>
    printTagged tagging.tagKey "inputResponse".toList tagging.contentKey (some reply)

/-- The event that a text holds. -/
def parse (s : Text) : Except Fault ClientEvent :=
  parseWith (tagging.read depthLimit) s

end ClientEvent

end Dialogue
