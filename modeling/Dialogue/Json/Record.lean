import Dialogue.Json.Reader
import Dialogue.Json.Skip

/-!
# Reading JSON of a known shape

Readers for values whose shape is known: a text, a list, something that may be
null, and a record. A record is written as an object with its fields as members,
in any order and under any of their accepted names, or as a list of its fields
in their fixed order. A field must not be given twice; members that are no field
are passed over.

The faults come in the order of the text: a value of the wrong shape is reported
even if the text goes wrong later on.
-/

namespace Dialogue.Json

/-! ## Single values -/

/-- The fault for a value that is not of the expected shape: the value is named,
once it is read as far as its name needs. -/
def mismatch (expected : Text) (s : Text) : Fault :=
  match skipBlanks s with
  | '[' :: _ => .wrongType .list expected
  | '{' :: _ => .wrongType .object expected
  | s =>
    match readValue 0 s with
    | .ok (value, _) => .wrongType (found value) expected
    | .error fault => fault

/-- Reads a text. -/
def readText : Reader Text := fun s =>
  match skipBlanks s with
  | '"' :: rest => readQuoted rest
  | s => .error (mismatch "a string".toList s)

/-- Reads null as nothing, and anything else with the given reader. -/
def readNullable {α : Type} (reader : Reader α) : Reader (Option α) := fun s =>
  match skipBlanks s with
  | 'n' :: rest => do return (none, ← readWord "ull".toList rest)
  | s => do
    let (a, rest) ← reader s
    return (some a, rest)

/-- Reads a list, its items with one level less. -/
def readList {α : Type} (depth : Nat) (item : Nat → Reader α) : Reader (List α) :=
  fun s =>
    match skipBlanks s with
    | '[' :: rest =>
      match depth with
      | 0 => .error .depthExceeded
      | depth + 1 => readItems (item depth) rest
    | s => .error (mismatch "a sequence".toList s)

/-! ## Records -/

/-- What becomes of a record without one of its fields. -/
inductive Absence where
  /-- It is refused. -/
  | refused
  /-- In an object the field counts as null; in a list it is refused. -/
  | null
  /-- The field has its default. -/
  | default
  deriving DecidableEq, Repr

/-- A field of a record that is being read into a `σ`. -/
structure RecordField (σ : Type) where
  /-- The name that faults use. -/
  name : Text
  /-- The other names that are accepted. -/
  aliases : List Text
  absence : Absence
  /-- Whether the field has been read. -/
  isSet : σ → Bool
  /-- Reads the field's value with so many levels. -/
  read : Nat → σ → Reader σ

/-- A record shape: its name as faults give it, and its fields in order. -/
structure Shape (σ : Type) where
  name : Text
  fields : List (RecordField σ)

variable {σ : Type}

/-- The field with an accepted name. -/
def Shape.field? (shape : Shape σ) (key : Text) : Option (RecordField σ) :=
  shape.fields.find? fun f => key ∈ f.name :: f.aliases

/-- Reads one member of an object. -/
def Shape.readMember (shape : Shape σ) (depth : Nat) (state : σ) (key : Text) :
    Reader σ := fun s =>
  match shape.field? key with
  | some f =>
    if f.isSet state then .error (.duplicateField f.name)
    else do f.read depth state (← readColon s)
  | none => do return (state, ← skipValue (← readColon s))

/-- Refuses an object without a field that it must have. -/
def Shape.checkAll (shape : Shape σ) (state : σ) : Except Fault σ :=
  match shape.fields.find? fun f => f.absence = .refused && !f.isSet state with
  | some f => .error (.missingField f.name)
  | none => .ok state

/-- How a fault names the shape of a list with too few fields. -/
def Shape.lengthExpected (shape : Shape σ) : Text :=
  shape.name ++ " with ".toList ++ Text.ofNat shape.fields.length ++
    (if shape.fields.length = 1 then " element" else " elements").toList

/-- Reads fields from a list in their order; `index` of them are behind. -/
def Shape.readPositions (shape : Shape σ) (depth : Nat) :
    List (RecordField σ) → Nat → σ → Reader σ
  | [], _, state, s => do return (state, ← closeList s)
  | f :: fields, index, state, s => do
    let (more, s) ← nextItem (index = 0) s
    if more then
      let (state, s) ← f.read depth state s
      shape.readPositions depth fields (index + 1) state s
    else
      match (f :: fields).findIdx? fun f => f.absence ≠ .default with
      | some i => throw (.wrongLength (index + i) shape.lengthExpected)
      | none => return (state, s)

/-- Reads a record, starting from a state without fields. -/
def Shape.read (shape : Shape σ) (start : σ) (depth : Nat) : Reader σ := fun s =>
  match skipBlanks s with
  | '[' :: rest =>
    match depth with
    | 0 => .error .depthExceeded
    | depth + 1 => shape.readPositions depth shape.fields 0 start rest
  | '{' :: rest =>
    match depth with
    | 0 => .error .depthExceeded
    | depth + 1 => do
      let (state, rest) ← foldMembers (shape.readMember depth) start rest
      return (← shape.checkAll state, rest)
  | s => .error (mismatch shape.name s)

end Dialogue.Json
