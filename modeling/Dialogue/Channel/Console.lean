import Dialogue.Channel.Sink
import Dialogue.Text.Blank
import Dialogue.Text.Utf8

/-!
# The console

Plain text, line by line: messages go out one a line, prompts without a line
feed, errors to a sink of their own. A reply is one line of input without the
carriage returns and line feeds at its end. Lines typed ahead wait for their
turn; a line that is not UTF-8 is used up by the request that meets it.
-/

namespace Dialogue

/-- A console, with the input that is still to be read. -/
structure Console where
  input : Bytes := []
  output : Sink := {}
  errors : Sink := {}
  closed : Bool := false
  deriving DecidableEq, Repr

namespace Console

/-- The line feed. -/
def lineFeed : UInt8 := 10

/-- Cuts behind the first line feed; input without one is one line. -/
def cutLine : Bytes → Bytes × Bytes
  | [] => ([], [])
  | b :: rest =>
    if b = lineFeed then ([b], rest)
    else
      let (line, rest) := cutLine rest
      (b :: line, rest)

/-- A line without the line ends at its end. -/
def dropLineEnds (line : Text) : Text :=
  Text.dropEndWhile (fun c => c == '\r' || c == '\n') line

/-- The reply that a line gives. -/
def replyOf (line : Bytes) : Reply :=
  match Utf8.decode line with
  | .ok text => .ok (dropLineEnds text)
  | .error fault => .error (.io fault.message)

/-- The pieces in which a line of output is written. -/
def linePieces (text : Text) : List Bytes :=
  [Utf8.encode text, [lineFeed]]

/-- Writes a message; failures are passed over. -/
def message (text : Text) (c : Console) : Console :=
  if c.closed then c
  else { c with output := (c.output.writeFlush (linePieces text)).1 }

/-- Writes an error; failures are passed over. -/
def error (text : Text) (c : Console) : Console :=
  if c.closed then c
  else { c with errors := (c.errors.writeFlush (linePieces text)).1 }

/-- Reads the next line. -/
def readLine (c : Console) : Console × Reply :=
  let (line, rest) := cutLine c.input
  if line = [] then (c, .error .closed)
  else ({ c with input := rest }, replyOf line)

/-- Writes a prompt and reads a reply. -/
def request (prompt : Text) (c : Console) : Console × Reply :=
  if c.closed then (c, .error .closed)
  else
    match c.output.writeFlush [Utf8.encode prompt] with
    | (output, .error e) => ({ c with output }, .error e)
    | (output, .ok ()) => readLine { c with output }

/-- Closes the console. -/
def close (c : Console) : Console :=
  if c.closed then c
  else { c with closed := true, output := c.output.flush.1 }

/-- The console as a channel. Its input is all there from the beginning, so no
request waits. -/
def channel : Channel Console where
  message text c := completed (c.message text)
  error text c := completed (c.error text)
  input prompt c := answered (c.request prompt)
  close c := completed c.close

end Console

end Dialogue
