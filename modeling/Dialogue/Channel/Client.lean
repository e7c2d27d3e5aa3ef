import Dialogue.Channel.Basic

/-!
# Clients

The far side of a channel whose replies arrive over time. A client has batches to
deliver and delivers the next one whenever the channel waits for input. After the
last batch it ends its stream, unless it holds on: then the channel waits in
vain.
-/

namespace Dialogue

/-- A client, with what it still has to say. -/
structure Client (β : Type) where
  batches : List β
  holds : Bool
  deriving DecidableEq, Repr

/-- What a waiting channel can do: take what has arrived, be given a batch, and
learn that no more will come. -/
structure Waiting (τ β α : Type) where
  receive : τ → τ × Option α
  deliver : β → τ → τ
  finish : τ → τ

namespace Waiting

variable {τ β α : Type}

/-- Waits for something to receive while a client delivers its batches. Gives the
batches that are left. -/
def wait (w : Waiting τ β α) (holds : Bool) :
    List β → τ → (τ × List β) × Option α
  | [], state =>
    match w.receive state with
    | (state, some a) => ((state, []), some a)
    | (state, none) =>
      if holds then ((state, []), none)
      else
        let (state, a) := w.receive (w.finish state)
        ((state, []), a)
  | batch :: rest, state =>
    match w.receive state with
    | (state, some a) => ((state, batch :: rest), some a)
    | (state, none) => w.wait holds rest (w.deliver batch state)

/-- Waits with the given client. -/
def waitFor (w : Waiting τ β α) (state : τ × Client β) :
    (τ × Client β) × Option α :=
  let ((channel, batches), a) := w.wait state.2.holds state.2.batches state.1
  ((channel, { state.2 with batches }), a)

end Waiting

end Dialogue
