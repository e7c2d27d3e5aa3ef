import Dialogue.Json.Record

/-!
# Tagged values

A tagged value says what it is under one key and what it holds under another:
`{"type":"input","content":"42"}`. The members may stand in either order, with
others around them, but neither twice. The list `["input","42"]` is the same
value. A variant holds a text, or nothing; nothing is written by leaving the
content out or as null.

Content that stands before its tag is kept until the tag says how to read it.
-/

namespace Dialogue.Json

/-- What a variant holds. -/
inductive Payload (α : Type) where
  /-- Nothing; the name is for faults. -/
  | nothing (value : α) (name : Text)
  | text (make : Text → α)

/-- A variant of a tagged value. -/
structure Variant (α : Type) where
  tag : Text
  payload : Payload α

/-- The notation of a tagged value. -/
structure Tagging (α : Type) where
  /-- The name that faults use. -/
  name : Text
  tagKey : Text
  contentKey : Text
  variants : List (Variant α)

variable {α : Type}

/-! ## Tags -/

/-- The variant with a tag. -/
def Tagging.ofTag (t : Tagging α) (tag : Text) : Except Fault (Variant α) :=
  match t.variants.find? fun v => v.tag = tag with
  | some v => .ok v
  | none => .error (.unknownVariant tag (t.variants.map Variant.tag))

/-- Reads a tag that is a text. -/
def Tagging.readTagText (t : Tagging α) : Reader (Variant α) := fun s =>
  match skipBlanks s with
  | [] => .error .endInValue
  | '"' :: rest => do
    let (tag, rest) ← readQuoted rest
    return (← t.ofTag tag, rest)
  | s => .error (mismatch "variant identifier".toList s)

/-- Reads null. -/
def readUnit : Text → Except Fault Text := fun s =>
  match skipBlanks s with
  | 'n' :: rest => readWord "ull".toList rest
  | s => .error (mismatch "unit".toList s)

/-- Reads the tag of an object: a text, or an object whose only key is the tag and
whose value is null. -/
def Tagging.readTag (t : Tagging α) (depth : Nat) : Reader (Variant α) := fun s =>
  match skipBlanks s with
  | [] => .error .endInValue
  | '"' :: rest => t.readTagText ('"' :: rest)
  | '{' :: rest =>
    if depth = 0 then .error .depthExceeded else do
      match ← nextKey true rest with
      | (none, _) => throw .expectedValue
      | (some tag, rest) =>
        let v ← t.ofTag tag
        let rest ← readUnit (← readColon rest)
        match skipBlanks rest with
        | '}' :: rest => return (v, rest)
        | [] => throw .endInObject
        | _ => throw .expectedValue
  | _ => .error .expectedValue

/-! ## Content -/

/-- The fault for content of a variant that holds nothing. -/
def unitExpected (name : Text) : Text :=
  "unit variant ".toList ++ name

/-- Reads the content of a variant. -/
def Payload.read : Payload α → Reader α
  | .text make, s => do
    let (content, rest) ← readText s
    return (make content, rest)
  | .nothing value name, s =>
    match skipBlanks s with
    | 'n' :: rest => do return (value, ← readWord "ull".toList rest)
    | s => .error (mismatch (unitExpected name) s)

/-- The variant with content that was read before its tag. -/
def Payload.ofJson : Payload α → Json → Except Fault α
  | .text make, .text content => .ok (make content)
  | .text _, value => .error (.wrongType (found value) "a string".toList)
  | .nothing value _, .null => .ok value
  | .nothing _ name, value => .error (.wrongType (found value) (unitExpected name))

/-- The variant without content. -/
def Payload.withoutContent (contentKey : Text) : Payload α → Except Fault α
  | .text _ => .error (.missingField contentKey)
  | .nothing value _ => .ok value

/-! ## Values -/

/-- What is known of a tagged value while its members are read. -/
inductive Progress (α : Type) where
  | nothing
  | tag (variant : Variant α)
  | content (value : Json)
  | both (value : α)

/-- Reads one member. -/
def Tagging.readMember (t : Tagging α) (depth : Nat) (state : Progress α)
    (key : Text) : Reader (Progress α) := fun s => do
  if key = t.tagKey then
    match state with
    | .nothing =>
      let (v, s) ← t.readTag depth (← readColon s)
      return (.tag v, s)
    | .content value =>
      let (v, s) ← t.readTag depth (← readColon s)
      return (.both (← v.payload.ofJson value), s)
    | _ => throw (.duplicateField t.tagKey)
  else if key = t.contentKey then
    match state with
    | .nothing =>
      let (value, s) ← readValue depth (← readColon s)
      return (.content value, s)
    | .tag v =>
      let (a, s) ← v.payload.read (← readColon s)
      return (.both a, s)
    | _ => throw (.duplicateField t.contentKey)
  else
    return (state, ← skipValue (← readColon s))

/-- The value once all members are read. -/
def Tagging.finish (t : Tagging α) : Progress α → Except Fault α
  | .nothing => .error (.missingField t.tagKey)
  | .content _ => .error (.missingField t.tagKey)
  | .tag v => v.payload.withoutContent t.contentKey
  | .both a => .ok a

/-- Reads a value written as a list of tag and content. -/
def Tagging.readPair (t : Tagging α) : Reader α := fun s => do
  let (more, s) ← nextItem true s
  if !more then throw (.wrongLength 0 t.name)
  let (v, s) ← t.readTagText s
  let (more, s) ← nextItem false s
  if !more then throw (.wrongLength 1 t.name)
  let (a, s) ← v.payload.read s
  return (a, ← closeList s)

/-- Reads a tagged value. -/
def Tagging.read (t : Tagging α) (depth : Nat) : Reader α := fun s =>
  match skipBlanks s with
  | '[' :: rest => if depth = 0 then .error .depthExceeded else t.readPair rest
  | '{' :: rest =>
    match depth with
    | 0 => .error .depthExceeded
    | depth + 1 => do
      let (state, rest) ← foldMembers (t.readMember depth) .nothing rest
      return (← t.finish state, rest)
  | s => .error (mismatch t.name s)

/-! ## Writing -/

/-- The compact text of a tagged value, its tag first and its content, if it has
any, after it. -/
def printTagged (tagKey tag contentKey : Text) (content : Option Text) : Text :=
  '{' :: printText tagKey ++ ':' :: printText tag ++
    (match content with
      | some content => ',' :: printText contentKey ++ ':' :: printText content
      | none => []) ++ ['}']

end Dialogue.Json
