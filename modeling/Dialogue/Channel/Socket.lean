import Dialogue.Channel.Client
import Dialogue.Wire.Event

/-!
# Event sockets

A channel that emits events and is sent events. Replies that arrive while nobody
asks wait in a queue and are thrown away by the next request, so a request is
answered by the first reply that comes after it.
-/

namespace Dialogue

/-- An event channel. -/
structure Socket where
  /-- Replies that have arrived and not been taken. -/
  queue : List Text := []
  /-- The client may still send. -/
  clientOpen : Bool := true
  /-- Nobody receives the events any more. -/
  peerGone : Bool := false
  /-- The events that went out since the last look. -/
  emitted : List ServerEvent := []
  closed : Bool := false
  deriving DecidableEq, Repr

namespace Socket

/-! ## The client's side -/

/-- Replies arrive. -/
def deliver (replies : List Text) (s : Socket) : Socket :=
  if s.clientOpen && !s.closed then { s with queue := s.queue ++ replies } else s

/-- The client sends no more. -/
def finish (s : Socket) : Socket :=
  { s with clientOpen := false }

/-- Nobody receives events from now on. -/
def dropPeer (s : Socket) : Socket :=
  { s with peerGone := true }

/-- The events since the last look. -/
def collect (s : Socket) : List ServerEvent × Socket :=
  (s.emitted, { s with emitted := [] })

/-! ## The conversation's side -/

/-- Sends an event, if there is somebody to receive it. -/
def send (event : ServerEvent) (s : Socket) : Socket × Except ChannelError Unit :=
  if s.peerGone then (s, .error .closed)
  else ({ s with emitted := s.emitted ++ [event] }, .ok ())

/-- Sends an event unless the channel is closed; failures are passed over. -/
def emit (event : ServerEvent) (s : Socket) : Socket :=
  if s.closed then s else (s.send event).1

/-- Throws away the replies that nobody asked for, and asks. -/
def ask (prompt : Text) (s : Socket) : Socket × Except ChannelError Unit :=
  if s.closed then (s, .error .closed)
  else { s with queue := [] }.send (.requestInput prompt)

/-- Takes the next reply; without one there is none as long as the client may
still send. -/
def receive (s : Socket) : Socket × Option Reply :=
  match s.queue with
  | reply :: queue => ({ s with queue }, some (.ok reply))
  | [] => (s, if s.clientOpen && !s.closed then none else some (.error .closed))

/-- Says farewell and closes the channel. -/
def close (s : Socket) : Socket :=
  { s.emit .disconnect with closed := true }

/-- How the channel waits. -/
def waiting : Waiting Socket (List Text) Reply where
  receive := receive
  deliver := deliver
  finish := finish

/-- Asks for a reply and waits for it. -/
def request (prompt : Text) (state : Socket × Client (List Text)) :
    (Socket × Client (List Text)) × Option Reply :=
  match state.1.ask prompt with
  | (s, .error e) => ((s, state.2), some (.error e))
  | (s, .ok ()) => waiting.waitFor (s, state.2)

/-- The socket and its client as a channel. -/
def channel : Channel (Socket × Client (List Text)) where
  message text state := completed (state.1.emit (.message text), state.2)
  error text state := completed (state.1.emit (.error text), state.2)
  input := request
  close state := completed (state.1.close, state.2)

end Socket

end Dialogue
