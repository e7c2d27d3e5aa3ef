import Dialogue.Channel.Client
import Dialogue.Channel.Console
import Dialogue.Wire.Frame

/-!
# Byte streams

A channel over a stream of bytes each way, one frame a line. Lines are read as
soon as they are complete and wait in a queue. A request throws away what is
queued before it writes its prompt, so that it is answered by an input frame
that comes after it; other frames are passed over.

A line that is no frame is answered with an error frame when it is taken from the
queue, blank lines aside. A line that is not UTF-8 makes the request fail that
takes it, and nothing is read after it.
-/

namespace Dialogue

/-- What a line holds. -/
inductive Inbound where
  | frame (frame : Frame)
  | malformed
  | failed (error : ChannelError)
  deriving DecidableEq, Repr

/-- A channel over byte streams. -/
structure Duplex where
  /-- Lines that have been read and not been taken. -/
  queue : List Inbound := []
  /-- The beginning of a line that is not complete yet. -/
  pending : Bytes := []
  /-- Lines are still being read. -/
  reading : Bool := true
  output : Sink := {}
  closed : Bool := false
  deriving DecidableEq, Repr

namespace Duplex

/-- What the client is told about a line that is no frame. -/
def rejection : Frame :=
  .error "Invalid message format".toList

/-! ## Reading lines -/

/-- What a line holds; nothing if it is blank. -/
def inboundOf (line : Bytes) : Option Inbound :=
  match Utf8.decode line with
  | .error fault => some (.failed (.io fault.message))
  | .ok text =>
    let text := Text.trim text
    if text = [] then none
    else
      match Frame.parse text with
      | .ok frame => some (.frame frame)
      | .error _ => some .malformed

/-- A line arrives. -/
def readLine (line : Bytes) (d : Duplex) : Duplex :=
  if !d.reading then d
  else
    match inboundOf line with
    | none => d
    | some (.failed e) => { d with queue := d.queue ++ [.failed e], reading := false }
    | some inbound => { d with queue := d.queue ++ [inbound] }

/-- Bytes arrive. Complete lines are read at once. -/
def deliver : Bytes → Duplex → Duplex
  | [], d => d
  | b :: rest, d =>
    if b = Console.lineFeed then
      deliver rest ({ d with pending := [] }.readLine (d.pending ++ [b]))
    else
      deliver rest { d with pending := d.pending ++ [b] }

/-- The stream ends, and with it a line that was not complete. -/
def finish (d : Duplex) : Duplex :=
  let d' := if d.pending = [] then d else { d with pending := [] }.readLine d.pending
  { d' with reading := false }

/-! ## Writing frames -/

/-- Writes a frame and its line feed at once, and flushes. -/
def write (frame : Frame) (d : Duplex) : Duplex × Except ChannelError Unit :=
  let line := Utf8.encode (frame.print ++ ['\n'])
  let (output, result) := d.output.writeFlush [line]
  ({ d with output }, result)

/-- Writes a frame unless the channel is closed; failures are passed over. -/
def emit (frame : Frame) (d : Duplex) : Duplex :=
  if d.closed then d else (d.write frame).1

/-- Answers a line that is no frame. -/
def reject (d : Duplex) : Duplex × Except ChannelError Unit :=
  d.write rejection

/-! ## Taking lines from the queue -/

/-- Takes lines up to the first frame that `accept` gives a text for. Without one
there is no answer as long as lines are being read. -/
def receiveFrom (accept : Frame → Option Text) :
    List Inbound → Duplex → Duplex × Option Reply
  | [], d =>
    ({ d with queue := [] }, if d.reading then none else some (.error .closed))
  | .frame frame :: rest, d =>
    match accept frame with
    | some text => ({ d with queue := rest }, some (.ok text))
    | none => receiveFrom accept rest d
  | .failed e :: rest, d => ({ d with queue := rest }, some (.error e))
  | .malformed :: rest, d =>
    match d.reject with
    | (d, .ok ()) => receiveFrom accept rest d
    | (d, .error e) => ({ d with queue := rest }, some (.error e))

/-- Takes lines from the queue up to an accepted frame. -/
def receive (accept : Frame → Option Text) (d : Duplex) : Duplex × Option Reply :=
  receiveFrom accept d.queue d

/-- Takes all lines that are queued, answering those that are no frames. -/
def discardFrom : List Inbound → Duplex → Duplex × Except ChannelError Unit
  | [], d => ({ d with queue := [] }, .ok ())
  | .frame _ :: rest, d => discardFrom rest d
  | .failed e :: rest, d => ({ d with queue := rest }, .error e)
  | .malformed :: rest, d =>
    match d.reject with
    | (d, .ok ()) => discardFrom rest d
    | (d, .error e) => ({ d with queue := rest }, .error e)

/-- Throws away the lines that nobody asked for, and asks. -/
def ask (prompt : Text) (d : Duplex) : Duplex × Except ChannelError Unit :=
  if d.closed then (d, .error .closed)
  else
    match discardFrom d.queue d with
    | (d, .ok ()) => d.write (.prompt prompt)
    | (d, .error e) => (d, .error e)

/-- The reply that an input frame carries. -/
def inputOf : Frame → Option Text
  | .input reply => some reply
  | _ => none

/-- The project that a start frame names. -/
def projectOf : Frame → Option Text
  | .start project => some project
  | _ => none

/-- Closes the channel. What is queued stays there. -/
def close (d : Duplex) : Duplex :=
  if d.closed then d
  else { d with closed := true, reading := false, output := d.output.shutdown.1 }

/-! ## The channel -/

/-- How the channel waits for a frame. -/
def waiting (accept : Frame → Option Text) : Waiting Duplex Bytes Reply where
  receive := receive accept
  deliver := deliver
  finish := finish

/-- Asks for a reply and waits for it. -/
def request (prompt : Text) (state : Duplex × Client Bytes) :
    (Duplex × Client Bytes) × Option Reply :=
  match state.1.ask prompt with
  | (d, .error e) => ((d, state.2), some (.error e))
  | (d, .ok ()) => (waiting inputOf).waitFor (d, state.2)

/-- Waits for the client to name its project. -/
def awaitStart (state : Duplex × Client Bytes) :
    (Duplex × Client Bytes) × Option Reply :=
  (waiting projectOf).waitFor state

/-- The stream and its client as a channel. -/
def channel : Channel (Duplex × Client Bytes) where
  message text state := completed (state.1.emit (.message text), state.2)
  error text state := completed (state.1.emit (.error text), state.2)
  input := request
  close state := completed (state.1.close, state.2)

end Duplex

end Dialogue
