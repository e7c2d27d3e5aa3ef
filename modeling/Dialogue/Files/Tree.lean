import Dialogue.Entries
import Dialogue.Text.Decimal
import Dialogue.Text.Utf8

/-!
# File trees

A file tree maps the paths of its files and directories, as lists of names from
the root, to what they are. `follow` goes along a written path as the system does:
from the working directory or the root, through `.` and `..`, and it refuses to
pass through anything but directories. `read` and `write` deal with whole files.
-/

namespace Dialogue

/-! ## Errors -/

/-- Why the system refuses something. -/
inductive SystemError where
  | notFound
  | notDirectory
  | isDirectory
  | noSpace
  | nameTooLong
  /-- A written path holds the null character. -/
  | nullInPath
  /-- Any other refusal, in the system's words. -/
  | other (sentence : Text)
  deriving DecidableEq, Repr

/-- A sentence with the number of an error. -/
def withNumber (sentence : String) (number : Nat) : Text :=
  sentence.toList ++ " (os error ".toList ++ Text.ofNat number ++ [')']

/-- The sentence for a refusal. -/
def SystemError.message : SystemError → Text
  | .notFound => withNumber "No such file or directory" 2
  | .notDirectory => withNumber "Not a directory" 20
  | .isDirectory => withNumber "Is a directory" 21
  | .noSpace => withNumber "No space left on device" 28
  | .nameTooLong => withNumber "File name too long" 36
  | .nullInPath => "file name contained an unexpected NUL byte".toList
  | .other sentence => sentence

/-- Which half of an operation on a file fails. -/
inductive FileStage where
  | opening
  | transfer
  deriving DecidableEq, Repr

/-- Why an operation on a file fails. -/
structure FileError where
  stage : FileStage
  cause : SystemError
  deriving DecidableEq, Repr

/-! ## Trees -/

/-- The names from the root to a place. -/
abbrev Path := List Text

/-- What is at a place. -/
inductive FileNode where
  | file (content : Bytes)
  | directory
  /-- Takes and gives nothing. -/
  | nullDevice
  /-- Takes nothing, for it is always full. -/
  | fullDevice
  deriving DecidableEq, Repr

/-- Whether paths may lead on. -/
def FileNode.isDirectory : FileNode → Bool
  | .directory => true
  | _ => false

/-- A file tree and the working directory. -/
structure FileTree where
  nodes : List (Path × FileNode)
  workingDirectory : Path
  deriving DecidableEq, Repr

namespace FileTree

/-- What is at a path; the root is always a directory. -/
def node? (t : FileTree) (path : Path) : Option FileNode :=
  if path = [] then some .directory
  else (t.nodes.find? fun n => n.1 = path).map Prod.snd

/-- Puts a node into a list of nodes, in the place of what is at its path. -/
def placeNode (path : Path) (node : FileNode) :
    List (Path × FileNode) → List (Path × FileNode)
  | [] => [(path, node)]
  | n :: rest =>
    if n.1 = path then (path, node) :: rest else n :: placeNode path node rest

/-- The tree with a node at a path. -/
def put (path : Path) (node : FileNode) (t : FileTree) : FileTree :=
  { t with nodes := placeNode path node t.nodes }

/-! ## Written paths -/

/-- The names between the slashes of a written path; an empty name stands for
slashes next to each other and at the ends. -/
def splitPath : Text → Path :=
  Text.fields (· == '/')

/-- The longest name that a directory can hold, in bytes. -/
def nameLimit : Nat := 255

/-- The longest written path, in bytes. -/
def pathLimit : Nat := 4095

/-- Where a written path leads: to something, or to a free place in a directory. -/
inductive Place where
  | existing (path : Path) (node : FileNode)
  | free (path : Path)
  deriving DecidableEq, Repr

/-- Follows names from a place on. -/
def follow (t : FileTree) : Path → Path → Except SystemError Place
  | at_, [] =>
    match t.node? at_ with
    | some node => .ok (.existing at_ node)
    | none => .error .notFound
  | at_, name :: rest =>
    match t.node? at_ with
    | none => .error .notFound
    | some node =>
      if !node.isDirectory then .error .notDirectory
      else if name = [] ∨ name = ['.'] then t.follow at_ rest
      else if name = ['.', '.'] then t.follow at_.dropLast rest
      else if nameLimit < Utf8.size name then .error .nameTooLong
      else if (t.node? (at_ ++ [name])).isNone ∧ rest = [] then
        .ok (.free (at_ ++ [name]))
      else t.follow (at_ ++ [name]) rest

/-- The names of a written path without the empty ones at its end, and whether
there were any. -/
def dropTrailingSlashes (names : Path) : Path × Bool :=
  let kept := (names.reverse.dropWhile (· = [])).reverse
  (kept, kept.length < names.length)

/-- Where a written path starts, its names, and whether it ends with a slash. -/
def readPath (t : FileTree) (written : Text) :
    Except SystemError (Path × Path × Bool) := do
  if '\x00' ∈ written then throw .nullInPath
  if written = [] then throw .notFound
  if pathLimit < Utf8.size written then throw .nameTooLong
  return (if written.head? = some '/' then [] else t.workingDirectory,
    dropTrailingSlashes (splitPath written))

/-! ## Whole files -/

/-- The file, device or directory that is opened for reading. -/
def openRead (t : FileTree) (written : Text) : Except SystemError FileNode := do
  let (start, names, slash) ← t.readPath written
  match ← t.follow start names with
  | .existing _ node =>
    if slash && !node.isDirectory then throw .notDirectory
    return node
  | .free _ => throw .notFound

/-- The content of what is opened. A directory cannot be read. -/
def contentOf : FileNode → Except SystemError Bytes
  | .file content => .ok content
  | .directory => .error .isDirectory
  | .nullDevice => .ok []
  | .fullDevice => .ok []

/-- The content of a file. -/
def read (t : FileTree) (written : Text) : Except FileError Bytes :=
  match t.openRead written with
  | .error cause => .error ⟨.opening, cause⟩
  | .ok node => (contentOf node).mapError fun cause => ⟨.transfer, cause⟩

/-- The path and the former node of what is opened for writing; a new file is made
where nothing is. A path that ends with a slash is refused, whatever its last name
is, once there is a directory to look for that name in. -/
def openWrite (t : FileTree) (written : Text) :
    Except SystemError (Path × FileNode) := do
  let (start, names, slash) ← t.readPath written
  if slash then
    let _ ← t.follow start (names.dropLast ++ [['.']])
    throw .isDirectory
  match ← t.follow start names with
  | .existing path node =>
    if node.isDirectory then throw .isDirectory
    return (path, node)
  | .free path => return (path, .file [])

/-- Replaces the content of a file, which is made if it is not there. -/
def write (t : FileTree) (written : Text) (content : Bytes) :
    FileTree × Except FileError Unit :=
  match t.openWrite written with
  | .error cause => (t, .error ⟨.opening, cause⟩)
  | .ok (path, .file _) => (t.put path (.file content), .ok ())
  | .ok (_, .fullDevice) => (t, .error ⟨.transfer, .noSpace⟩)
  | .ok (_, _) => (t, .ok ())

/-! ## Making and comparing trees -/

/-- A tree whose working directory is empty. -/
def empty : FileTree where
  nodes := [
    (["dev".toList], .directory),
    (["dev".toList, "null".toList], .nullDevice),
    (["dev".toList, "full".toList], .fullDevice),
    (["work".toList], .directory)]
  workingDirectory := ["work".toList]

/-- The directories above a path, the outermost first. -/
def parents (path : Path) : List Path :=
  (List.range path.length).map path.take

/-- Adds a file, or a directory if there is no content, with the directories
above it. -/
def add (written : Text) (content : Option Bytes) (t : FileTree) : FileTree :=
  let names := (splitPath written).filter (· ≠ [])
  let path := if written.head? = some '/' then names else t.workingDirectory ++ names
  let t := (parents path).foldl
    (fun t p => if (t.node? p).isSome then t else t.put p .directory) t
  match content with
  | some bytes => t.put path (.file bytes)
  | none => t.put path .directory

/-- The name of an entry of the working directory. -/
def topName? (t : FileTree) (path : Path) : Option Text :=
  match path.drop t.workingDirectory.length with
  | [name] => if t.workingDirectory.isPrefixOf path then some name else none
  | _ => none

/-- The entries of the working directory that are new or changed since an earlier
state of the tree, by name, with the content of files. -/
def changesSince (before t : FileTree) : Entries (Option Bytes) :=
  Entries.ofList <| t.nodes.filterMap fun (path, node) =>
    if before.node? path = some node then none
    else
      (t.topName? path).map fun name =>
        match node with
        | .file content => (name, some content)
        | _ => (name, none)

end FileTree

end Dialogue
