import Dialogue.Channel.Console
import Dialogue.CommandLine
import Dialogue.Session.Run

/-!
# Commands without a system

A machine that is made up: a file tree in place of the system's files, and a console
with its input in place of the terminal. External calls are refused.
-/

namespace Dialogue

/-- A made-up system. -/
structure Rehearsal where
  files : FileTree
  console : Console

namespace Rehearsal

/-- The made-up system as a machine; a conversation may enter so many blocks. -/
def machine (blocks : Nat) : Machine (StateM Rehearsal) where
  read path := do return (← get).files.read path
  write path content := do
    let (files, result) := (← get).files.write path content
    modify fun r => { r with files }
    return result
  converse session := do
    let r ← get
    let run := session.run Console.channel.environment blocks (r.console, .offline)
    set { r with console := run.world.1 }
    match run.stop with
    | .returned (.failed failure) => return some failure
    | _ => return none
  print text := modify fun r =>
    { r with console.output := (r.console.output.write (Utf8.encode text)).1 }

/-- What comes of a command: the exit code and the system after it. -/
def execute (blocks : Nat) (i : Invocation) (r : Rehearsal) : Nat × Rehearsal :=
  match (CommandLine.execute (machine blocks) i).run.run r with
  | (.ok (), r) => (0, r)
  | (.error sentence, r) =>
    let text := Utf8.encode (CommandLine.complaint sentence)
    (1, { r with console.errors := (r.console.errors.write text).1 })

end Rehearsal

end Dialogue
