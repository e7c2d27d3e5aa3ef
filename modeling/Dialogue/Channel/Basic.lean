import Dialogue.Text.Basic

/-!
# Channels

A channel connects a conversation with its user. It takes messages and errors,
asks for input, and can be closed. Each operation may stay without an answer: the
user says nothing, or the far side does not take what is sent. The operations
are functions on the channel's state, and no answer is `none`.
-/

namespace Dialogue

/-- Why a channel has no reply to give. -/
inductive ChannelError where
  | closed
  | io (cause : Text)
  deriving DecidableEq, Repr

/-- The sentence for an error. -/
def ChannelError.message : ChannelError → Text
  | .closed => "Channel closed".toList
  | .io cause => "I/O failure: ".toList ++ cause

/-- A reply from the user, or why there is none. -/
abbrev Reply := Except ChannelError Text

/-- The operations of a channel with states of type `τ`. -/
structure Channel (τ : Type) where
  message : Text → τ → τ × Option Unit
  error : Text → τ → τ × Option Unit
  input : Text → τ → τ × Option Reply
  close : τ → τ × Option Unit

/-- An operation that is always answered. -/
def answered {τ α : Type} (r : τ × α) : τ × Option α :=
  (r.1, some r.2)

/-- An operation that never fails and never waits. -/
def completed {τ : Type} (state : τ) : τ × Option Unit :=
  (state, some ())

end Dialogue
