import Dialogue.Editor.Reader
import Dialogue.Snapshot.File

/-!
# Projects

A project is a named definition. Projects live in a directory, as editor exports
or else as snapshots, or in memory. In a directory the name is part of a path, so
names that could lead elsewhere are refused.
-/

namespace Dialogue

/-- Why a project cannot be had. -/
inductive ProjectError where
  | notFound (name : Text)
  | invalidName (name : Text)
  | io (name cause : Text)
  | unreadable (error : Editor.ImportError)
  | snapshot (error : SnapshotError)
  deriving Repr

/-- The sentence for an error. -/
def ProjectError.message : ProjectError → Text
  | .notFound name => "Project '".toList ++ name ++ "' not found".toList
  | .invalidName name => "Invalid project name '".toList ++ name ++ ['\'']
  | .io name cause =>
    "Could not read project '".toList ++ name ++ "': ".toList ++ cause
  | .unreadable error => error.message
  | .snapshot error => error.message

namespace Projects

/-! ## In a directory -/

/-- Whether two dots stand next to each other. -/
def hasDoubleDot : Text → Bool
  | '.' :: '.' :: _ => true
  | _ :: rest => hasDoubleDot rest
  | [] => false

/-- Names that stay within the directory: not empty, without slashes of either
kind, without two dots in a row, and not starting with a dot. -/
def isValidName (name : Text) : Bool :=
  !name.isEmpty && !name.contains '/' && !name.contains '\\' &&
    !hasDoubleDot name && name.head? != some '.'

/-- The written path of a file in a directory. -/
def pathIn (root file : Text) : Text :=
  if root = [] ∨ root.getLast? = some '/' then root ++ file else root ++ '/' :: file

/-- The text of a file that is read as a whole. -/
def textOf (content : Bytes) : Except Text Text :=
  (Utf8.decode content).mapError fun _ =>
    "stream did not contain valid UTF-8".toList

/-- The project in the export of a directory, if there is an export. -/
def fromExport (name : Text) : Except FileError Bytes →
    Option (Except ProjectError Definition)
  | .ok content =>
    match textOf content with
    | .ok json => some ((Editor.importDefinition json).mapError .unreadable)
    | .error cause => some (.error (.io name cause))
  | .error e =>
    if e.cause = .notFound then none else some (.error (.io name e.cause.message))

/-- The project in the snapshot of a directory. -/
def fromSnapshot (name : Text) : Except FileError Bytes →
    Except ProjectError Definition
  | .ok content => (Snapshot.decode content).mapError fun f => .snapshot (.decode f)
  | .error e =>
    if e.cause = .notFound then .error (.notFound name)
    else .error (.io name e.cause.message)

/-- The project with a name in a directory: its export, or without one its
snapshot. -/
def resolveIn (root name : Text) (t : FileTree) : Except ProjectError Definition :=
  if !isValidName name then .error (.invalidName name)
  else
    match fromExport name (t.read (pathIn root (name ++ ".json".toList))) with
    | some result => result
    | none => fromSnapshot name (t.read (pathIn root (name ++ ".bin".toList)))

/-! ## In memory -/

/-- The project with a name among definitions by name. -/
def resolve (projects : Entries Definition) (name : Text) :
    Except ProjectError Definition :=
  match projects.get? name with
  | some d => .ok d
  | none => .error (.notFound name)

end Projects

end Dialogue
