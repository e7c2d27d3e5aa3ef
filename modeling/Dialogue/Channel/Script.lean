import Dialogue.Channel.Basic

/-!
# Scripted channels

A channel whose replies are written down beforehand and which keeps a log of what
it was asked to do. It serves to rehearse a conversation.
-/

namespace Dialogue

/-- An answer to one request for input. -/
inductive Cue where
  | reply (text : Text)
  | failure (cause : Text)
  /-- The request is never answered. -/
  | silence
  deriving DecidableEq, Repr

/-- What a scripted channel was asked to do. -/
inductive Action where
  | message (text : Text)
  | error (text : Text)
  | prompt (text : Text)
  | closed
  /-- A message was never taken. -/
  | stuck
  deriving DecidableEq, Repr

/-- A channel with its script. -/
structure Script where
  cues : List Cue := []
  /-- After so many messages the next one is never taken, once. -/
  messageLimit : Option Nat := none
  /-- What has been asked since the last look. -/
  log : List Action := []
  deriving DecidableEq, Repr

namespace Script

/-- Adds to the log. -/
def record (action : Action) (s : Script) : Script :=
  { s with log := s.log ++ [action] }

/-- Takes a message. -/
def message (text : Text) (s : Script) : Script × Option Unit :=
  match s.messageLimit with
  | some 0 => ({ s with messageLimit := none }.record .stuck, none)
  | some (n + 1) => completed ({ s with messageLimit := some n }.record (.message text))
  | none => completed (s.record (.message text))

/-- Answers a request by the next cue; after the last one the channel is closed. -/
def request (prompt : Text) (s : Script) : Script × Option Reply :=
  let s := s.record (.prompt prompt)
  match s.cues with
  | [] => (s, some (.error .closed))
  | .reply text :: cues => ({ s with cues }, some (.ok text))
  | .failure cause :: cues => ({ s with cues }, some (.error (.io cause)))
  | .silence :: cues => ({ s with cues }, none)

/-- What has been asked since the last look. -/
def collect (s : Script) : List Action × Script :=
  (s.log, { s with log := [] })

/-- The script as a channel. -/
def channel : Channel Script where
  message := message
  error text s := completed (s.record (.error text))
  input := request
  close s := completed (s.record .closed)

end Script

end Dialogue
