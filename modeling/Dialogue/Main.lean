import Dialogue.Channel.Console
import Dialogue.CommandLine
import Dialogue.Session.Run

/-!
# The program

The command line on a real system: its files, its terminal, and nothing else. A
conversation's calls are answered one by one as they come; external calls are
refused.
-/

namespace Dialogue.Program

/-! ## Files -/

/-- The refusal that the system reports. -/
def systemError : IO.Error → SystemError
  | .noFileOrDirectory .. => .notFound
  | .inappropriateType .. => .isDirectory
  | e => .other e.toString.toList

/-- Reads a whole file. -/
def readFile (path : Text) : IO (Except FileError Bytes) := do
  try
    return .ok (← IO.FS.readBinFile (String.ofList path)).toList
  catch e =>
    let cause := systemError e
    let stage := if cause = .isDirectory then FileStage.transfer else .opening
    return .error ⟨stage, cause⟩

/-- Writes to a file that is open. -/
def writeTo (handle : IO.FS.Handle) (content : Bytes) :
    IO (Except FileError Unit) := do
  try
    handle.write (ByteArray.mk content.toArray)
    handle.flush
    return .ok ()
  catch e =>
    return .error ⟨.transfer, systemError e⟩

/-- Writes a whole file. -/
def writeFile (path : Text) (content : Bytes) : IO (Except FileError Unit) := do
  try
    writeTo (← IO.FS.Handle.mk (String.ofList path) .write) content
  catch e =>
    return .error ⟨.opening, systemError e⟩

/-! ## The terminal -/

/-- Reads the bytes of a line, with its line feed. -/
partial def readLine (input : IO.FS.Stream) (line : ByteArray) : IO ByteArray := do
  let more ← input.read 1
  if more.isEmpty then return line
  let line := line ++ more
  if more.data.contains Console.lineFeed then return line else readLine input line

/-- Writes a text at once; failures are passed over. -/
def say (output : IO.FS.Stream) (text : Text) : IO Unit := do
  try
    output.putStr (String.ofList text)
    output.flush
  catch _ => return

/-- Answers one call on the terminal. -/
def answer : (request : Call) → IO request.Answer
  | .message text => do say (← IO.getStdout) (text ++ ['\n'])
  | .error text => do say (← IO.getStderr) (text ++ ['\n'])
  | .input prompt => do
    say (← IO.getStdout) prompt
    let line ← readLine (← IO.getStdin) ByteArray.empty
    return if line.isEmpty then .error .closed else Console.replyOf line.toList
  | .fetch url => return .error (refusal url)
  | .close => do (← IO.getStdout).flush

/-- Performs an activity on the terminal. -/
def perform {α : Type} : Activity α → IO (Session × α)
  | .done session a => return (session, a)
  | .call _ request resume => do perform (resume (← answer request))

/-- Holds a conversation to its end. -/
partial def converse (s : Session) : IO (Option Failure) := do
  match s.position with
  | .ok block =>
    let (s, result) ← perform (Conversation.step block s)
    converse (s.settle result)
  | .error termination =>
    let _ ← perform (Conversation.finish termination s)
    match termination with
    | .failed failure => return some failure
    | .completed _ => return none

/-- The system as a machine. -/
def machine : Machine IO where
  read := readFile
  write := writeFile
  converse := converse
  print text := do say (← IO.getStdout) text

/-- How to use the program. -/
def usage : Text :=
  "Usage: dialogue [-p FILE] run GRAPH | snapshot GRAPH OUTPUT\n".toList

/-- Does what the arguments ask for. The exit code is zero if it could be done. -/
def execute (arguments : List String) : IO UInt32 := do
  match Invocation.parse? (arguments.map String.toList) with
  | none =>
    say (← IO.getStderr) usage
    return 2
  | some i =>
    match ← (CommandLine.execute machine i).run with
    | .ok () => return 0
    | .error sentence =>
      say (← IO.getStderr) (CommandLine.complaint sentence)
      return 1

end Dialogue.Program

/-- The program. -/
def main (arguments : List String) : IO UInt32 :=
  Dialogue.Program.execute arguments
