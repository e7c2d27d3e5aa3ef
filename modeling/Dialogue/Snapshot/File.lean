import Dialogue.Files.Tree
import Dialogue.Snapshot.Reader
import Dialogue.Snapshot.Writer

/-!
# Snapshots in files

Saving a definition as a snapshot and loading it again. The sentences name the
file as it was written.
-/

namespace Dialogue

/-- Why a snapshot could not be saved or loaded. -/
inductive SnapshotError where
  | decode (fault : Snapshot.Fault)
  | load (path : Text) (error : FileError)
  | save (path : Text) (error : FileError)
  deriving DecidableEq, Repr

namespace SnapshotError

/-- A sentence about a file. -/
def about (sentence : String) (path : Text) (cause : SystemError) : Text :=
  sentence.toList ++ " file '".toList ++ path ++ "': ".toList ++ cause.message

/-- What went wrong. -/
def detail : SnapshotError → Text
  | .decode fault => "Deserialization failed: ".toList ++ fault.message
  | .load path ⟨.opening, cause⟩ => about "Could not open" path cause
  | .load path ⟨.transfer, cause⟩ => about "Could not read from" path cause
  | .save path ⟨.opening, cause⟩ => about "Could not create" path cause
  | .save path ⟨.transfer, cause⟩ => about "Could not write to" path cause

/-- The sentence for an error. -/
def message (e : SnapshotError) : Text :=
  "Snapshot error: ".toList ++ e.detail

end SnapshotError

namespace Snapshot

/-- The definition of a snapshot that has been read from a file, or not. -/
def ofFile (path : Text) (content : Except FileError Bytes) :
    Except SnapshotError Definition :=
  match content with
  | .error e => .error (.load path e)
  | .ok bytes => (decode bytes).mapError .decode

/-- Loads the definition in a file. -/
def load (path : Text) (t : FileTree) : Except SnapshotError Definition :=
  ofFile path (t.read path)

/-- Saves a definition in a file, in place of what the file held. -/
def save (d : Definition) (path : Text) (t : FileTree) :
    FileTree × Except SnapshotError Unit :=
  let (t, result) := t.write path (encode d)
  (t, result.mapError (.save path))

end Snapshot

end Dialogue
