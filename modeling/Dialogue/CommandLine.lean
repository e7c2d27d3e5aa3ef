import Dialogue.Projects
import Dialogue.Session.State

/-!
# The command line

Two commands: `run` holds a conversation on the terminal, `snapshot` writes a
graph as a snapshot. Both take a graph from an editor's export or, if the file's
extension is `bin`, from a snapshot. A prompts file may be named before the command
or behind it.

What a command does is told for any machine that has files and a terminal.
-/

namespace Dialogue

/-! ## Arguments -/

/-- What is asked for. -/
inductive Command where
  | run (graph : Text)
  | snapshot (graph output : Text)
  deriving DecidableEq, Repr

/-- A command with its option. -/
structure Invocation where
  command : Command
  prompts : Option Text
  deriving DecidableEq, Repr

/-- What one argument is. -/
inductive Argument where
  | word (text : Text)
  /-- The option that names a prompts file. -/
  | prompts (file : Text)
  /-- Makes words of all arguments behind it. -/
  | separator
  deriving DecidableEq, Repr

namespace Argument

/-- The name of a prompts file that is part of the option's own argument. -/
def attached? (argument : Text) : Option Text :=
  ((Text.after? "--prompts=".toList argument).or
    (Text.after? "-p=".toList argument)).or (Text.after? "-p".toList argument)

/-- Whether an argument can only be an option: a lone dash is a word. -/
def isOption (argument : Text) : Bool :=
  argument.head? = some '-' && argument ≠ ['-']

/-- What the arguments are, if each is understood. -/
def classify : List Text → Option (List Argument)
  | [] => some []
  | argument :: rest =>
    if argument = "--".toList then some (separator :: rest.map word)
    else if argument = "-p".toList ∨ argument = "--prompts".toList then
      match rest with
      | [] => none
      | file :: rest =>
        if isOption file then none else (classify rest).map (prompts file :: ·)
    else if isOption argument then
      match attached? argument with
      | some file => (classify rest).map (prompts file :: ·)
      | none => none
    else (classify rest).map (word argument :: ·)

/-- The text of a word. -/
def word? : Argument → Option Text
  | word text => some text
  | _ => none

/-- The file that an option names. -/
def prompts? : Argument → Option Text
  | prompts file => some file
  | _ => none

/-- The one file that the options among some arguments name, if they name any; an
empty name is not understood. -/
def promptsAmong? (arguments : List Argument) : Option (Option Text) :=
  match arguments.filterMap prompts? with
  | [] => some none
  | [file] => if file.isEmpty then none else some (some file)
  | _ => none

end Argument

namespace Invocation

/-- The command that a name and the words behind it stand for. -/
def command? (name : Text) (words : List Text) : Option Command :=
  if words.any List.isEmpty then none
  else
    match words with
    | [graph] => if name = "run".toList then some (.run graph) else none
    | [graph, output] =>
      if name = "snapshot".toList then some (.snapshot graph output) else none
    | _ => none

/-- What the arguments ask for, if they are understood. Options may stand before
the command and behind it, one on each side; the one behind it counts. -/
def parse? (arguments : List Text) : Option Invocation := do
  let all ← Argument.classify arguments
  let isWord := fun a => (Argument.word? a).isSome
  match all.dropWhile (!isWord ·) with
  | .word name :: behind =>
    let before := all.takeWhile (!isWord ·)
    if .separator ∈ before then none
    let general ← Argument.promptsAmong? before
    let own ← Argument.promptsAmong? behind
    let command ← command? name (behind.filterMap Argument.word?)
    return ⟨command, own.or general⟩
  | _ => none

end Invocation

/-! ## Machines -/

/-- What a command needs: files, and a terminal to hold a conversation on. -/
structure Machine (m : Type → Type) where
  read : Text → m (Except FileError Bytes)
  write : Text → Bytes → m (Except FileError Unit)
  /-- Holds a conversation; the failure that ended it, if one did. -/
  converse : Session → m (Option Failure)
  print : Text → m Unit

namespace CommandLine

variable {m : Type → Type} [Monad m]

/-- The result of something that may fail, on a machine. -/
def liftExcept {ε α : Type} : Except ε α → ExceptT ε m α
  | .ok a => return a
  | .error e => throw e

/-- A file's text, or the sentence that tells why there is none. -/
def readText (machine : Machine m) (path : Text) : ExceptT Text m Text := do
  match ← ExceptT.lift (machine.read path) with
  | .ok content => liftExcept (Projects.textOf content)
  | .error e => throw e.cause.message

/-- The last name of a path, names that lead nowhere aside. -/
def fileName (path : Text) : Text :=
  let names := (FileTree.splitPath path).filter fun n => n ≠ [] ∧ n ≠ ['.']
  names.getLast?.getD []

/-- Whether the part of the file name behind its last dot is `bin`, if the dot is
not the first character. -/
def isSnapshotPath (path : Text) : Bool :=
  let name := fileName path
  let extension := (name.reverse.takeWhile (· != '.')).reverse
  extension = "bin".toList && extension.length + 1 < name.length

/-- The definition in a file that is no snapshot. -/
def loadExport (machine : Machine m) (path : Text) : ExceptT Text m Definition := do
  let json ← (readText machine path).adapt fun cause =>
    "Failed to read graph file '".toList ++ path ++ "': ".toList ++ cause
  liftExcept <| (Editor.importDefinition json).mapError fun e =>
    "Failed to convert graph: ".toList ++ e.message

/-- The definition in a file that is a snapshot. -/
def loadSnapshot (machine : Machine m) (path : Text) : ExceptT Text m Definition := do
  let content ← ExceptT.lift (machine.read path)
  liftExcept <| (Snapshot.ofFile path content).mapError fun e =>
    "Failed to load snapshot: ".toList ++ e.message

/-- The definition in a file. -/
def loadDefinition (machine : Machine m) (path : Text) : ExceptT Text m Definition :=
  if isSnapshotPath path then loadSnapshot machine path else loadExport machine path

/-- The prompts in a file. -/
def loadOverrides (machine : Machine m) (path : Text) : ExceptT Text m Prompts :=
  ExceptT.adapt
    (fun cause =>
      "Failed to load prompts from '".toList ++ path ++ "': ".toList ++ cause)
    do
      let json ← readText machine path
      liftExcept ((Prompts.parse json).mapError Json.Fault.message)

/-- The prompts, as far as a file overrides them. -/
def loadPrompts (machine : Machine m) : Option Text → ExceptT Text m Prompts
  | none => return Prompts.standard
  | some path => loadOverrides machine path

/-- Holds a conversation over the graph in a file. -/
def run (machine : Machine m) (prompts : Prompts) (graph : Text) : ExceptT Text m Unit := do
  let flow := Flow.ofDefinition (← loadDefinition machine graph)
  match ← ExceptT.lift (machine.converse (Session.start flow { prompts })) with
  | some failure => throw failure.message
  | none => return

/-- Writes the graph in a file as a snapshot. -/
def snapshot (machine : Machine m) (graph output : Text) : ExceptT Text m Unit := do
  let d ← loadDefinition machine graph
  match ← ExceptT.lift (machine.write output (Snapshot.encode d)) with
  | .error e =>
    throw ("Failed to write snapshot: ".toList ++ (SnapshotError.save output e).message)
  | .ok () =>
    ExceptT.lift <|
      machine.print ("  -> Wrote snapshot to '".toList ++ output ++ ['\'', '\n'])

/-- Does what is asked for, or gives the sentence that tells why not. -/
def execute (machine : Machine m) (i : Invocation) : ExceptT Text m Unit := do
  let prompts ← loadPrompts machine i.prompts
  match i.command with
  | .run graph => run machine prompts graph
  | .snapshot graph output => snapshot machine graph output

/-- How the sentence that ends a command is set. -/
def complaint (sentence : Text) : Text :=
  "\nError: ".toList ++ sentence ++ ['\n']

end CommandLine

end Dialogue
