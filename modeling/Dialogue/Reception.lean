import Dialogue.Channel.Duplex
import Dialogue.Projects
import Dialogue.Session.Run

/-!
# Receptions

A client that connects over a byte stream names the project that it wants. If there is
one, the conversation over its graph is held on the stream; if not, the client is told
why, and the stream is closed.
-/

namespace Dialogue

/-- What comes of waiting for a project and looking it up. -/
inductive Opening where
  /-- No project has been named yet. -/
  | pending
  | failed (error : ChannelError)
  | unresolved (project : Text) (error : ProjectError)
  | resolved (project : Text) (definition : Definition)
  deriving Repr

/-- What comes of receiving a client, with the stream and the client as the opening leaves
them. -/
structure Reception (φ : Type) where
  opening : Opening
  stream : Duplex
  client : Client Bytes
  /-- The conversation, if one was held. -/
  run : Option (Run ((Duplex × Client Bytes) × φ))

namespace Duplex

/-- Waits for the client to name a project and looks it up. A client that names none of
the projects is told so, and nothing more. -/
def welcome (resolve : Text → Except ProjectError Definition)
    (state : Duplex × Client Bytes) : (Duplex × Client Bytes) × Opening :=
  match awaitStart state with
  | (state, none) => (state, .pending)
  | (state, some (.error e)) => (state, .failed e)
  | (state, some (.ok project)) =>
    match resolve project with
    | .ok definition => (state, .resolved project definition)
    | .error e =>
      let state := (channel.error e.message state).1
      ((channel.close state).1, .unresolved project e)

/-- Receives a client: welcomes it and, if its project is there, holds the conversation. -/
def host {φ : Type} (resolve : Text → Except ProjectError Definition) (settings : Settings)
    (fetch : Text → φ → φ × Option Response) (blocks : Nat)
    (state : Duplex × Client Bytes) (fetcher : φ) : Reception φ :=
  let ((stream, client), opening) := welcome resolve state
  { opening, stream, client,
    run :=
      match opening with
      | .resolved _ definition =>
        some ((Session.start (Flow.ofDefinition definition) settings).run
          (channel.environmentWith fetch) blocks ((stream, client), fetcher))
      | _ => none }

end Duplex

end Dialogue
