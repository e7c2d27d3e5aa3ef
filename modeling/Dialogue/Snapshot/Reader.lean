import Dialogue.Definition
import Dialogue.Text.Decimal
import Dialogue.Text.Utf8

/-!
# Reading snapshots

`decode` reads what `encode` writes and says why other bytes are no snapshot.
Lengths may be written with more bytes than they need, and bytes after the
definition are not looked at.
-/

namespace Dialogue.Snapshot

/-! ## Faults -/

/-- What a number is for: the length of a text or of a list, or a kind of value. -/
inductive Role where
  | textLength
  | listLength
  | kind
  deriving DecidableEq, Repr

/-- The kinds of numbers that messages know. -/
inductive Width where
  | u32
  | u64
  | usize
  deriving DecidableEq, Repr

/-- The marker bytes that no length and no kind may start with. -/
inductive Marker where
  | eightBytes
  | sixteenBytes
  | reserved
  deriving DecidableEq, Repr

/-- Why bytes are no snapshot. -/
inductive Fault where
  /-- So many more bytes are needed for the part that is being read. -/
  | unexpectedEnd (additional : Nat)
  | badMarker (width : Width) (marker : Marker)
  | badOption (found : UInt8)
  | badBool (found : UInt8)
  | badKind (found : Nat)
  | badText (fault : Utf8.Fault)
  deriving DecidableEq, Repr

/-- How messages name the kind of a number. -/
def Width.name : Width → Text
  | .u32 => "U32".toList
  | .u64 => "U64".toList
  | .usize => "Usize".toList

/-- The kind of number that messages give for a role, with so many bytes left from
the marker on. For the length of a text it is the narrower one wherever a number
of the greatest width would fit. -/
def Role.width (left : Nat) : Role → Width
  | .textLength => if left < 9 then .u64 else .u32
  | .listLength => .usize
  | .kind => .u32

/-- How messages name a marker. -/
def Marker.name : Marker → Text
  | .eightBytes => "U64".toList
  | .sixteenBytes => "U128".toList
  | .reserved => "Reserved".toList

/-- How messages give the length of an ill-formed piece. -/
def describeLength : Option Nat → Text
  | some n => "Some(".toList ++ Text.ofNat n ++ [')']
  | none => "None".toList

/-- The sentence for a fault. -/
def Fault.message : Fault → Text
  | .unexpectedEnd additional =>
    "UnexpectedEnd \x7b additional: ".toList ++ Text.ofNat additional ++ [' ', '}']
  | .badMarker width marker =>
    "InvalidIntegerType \x7b expected: ".toList ++ width.name ++
      ", found: ".toList ++ marker.name ++ [' ', '}']
  | .badOption found =>
    ("UnexpectedVariant \x7b type_name: \"Option<T>\", " ++
      "allowed: Range \x7b min: 0, max: 1 \x7d, found: ").toList ++
      Text.ofNat found.toNat ++ [' ', '}']
  | .badBool found =>
    "InvalidBooleanValue(".toList ++ Text.ofNat found.toNat ++ [')']
  | .badKind found =>
    "OtherString(\"invalid value: integer \x60".toList ++ Text.ofNat found ++
      "\x60, expected variant index 0 <= i < 3\")".toList
  | .badText fault =>
    "Utf8 \x7b inner: Utf8Error \x7b valid_up_to: ".toList ++
      Text.ofNat fault.validUpTo ++ ", error_len: ".toList ++
      describeLength fault.length ++ [' ', '}', ' ', '}']

/-! ## Parts -/

/-- Reads a part from the head of some bytes. -/
abbrev Reader (α : Type) := Bytes → Except Fault (α × Bytes)

/-- Takes the next `count` bytes. -/
def take (count : Nat) : Reader Bytes := fun bytes =>
  if bytes.length < count then
    .error (.unexpectedEnd (count - bytes.length))
  else
    .ok (bytes.take count, bytes.drop count)

/-- The number with the given bytes, the low one first. -/
def ofLittleEndian : Bytes → Nat
  | [] => 0
  | b :: rest => b.toNat + 256 * ofLittleEndian rest

/-- Reads a number of `count` bytes. -/
def readWide (count : Nat) : Reader Nat := fun bytes => do
  let (digits, bytes) ← take count bytes
  return (ofLittleEndian digits, bytes)

/-- Reads one byte. -/
def readByte : Reader UInt8
  | [] => .error (.unexpectedEnd 1)
  | b :: rest => .ok (b, rest)

/-- The fault of a marker that a number may not have, with the bytes from the
marker on. -/
def badMarker (role : Role) (bytes : Bytes) (marker : Marker) : Fault :=
  .badMarker (role.width bytes.length) marker

/-- Reads a length, or the number of a kind, which has at most four bytes. -/
def readNumber (role : Role) : Reader Nat := fun bytes => do
  let (b, rest) ← readByte bytes
  if b < 251 then return (b.toNat, rest)
  else if b = 251 then readWide 2 rest
  else if b = 252 then readWide 4 rest
  else if b = 253 then
    if role = .kind then throw (badMarker role bytes .eightBytes)
    else readWide 8 rest
  else if b = 254 then throw (badMarker role bytes .sixteenBytes)
  else throw (badMarker role bytes .reserved)

/-- Reads a text. -/
def readText : Reader Text := fun bytes => do
  let (length, bytes) ← readNumber .textLength bytes
  let (content, bytes) ← take length bytes
  match Utf8.decode content with
  | .ok s => return (s, bytes)
  | .error fault => throw (.badText fault)

/-- Reads something optional. -/
def readOption {α : Type} (read : Reader α) : Reader (Option α) := fun bytes => do
  let (b, bytes) ← readByte bytes
  if b = 0 then return (none, bytes)
  else if b = 1 then
    let (a, bytes) ← read bytes
    return (some a, bytes)
  else throw (.badOption b)

/-- Reads so many items. -/
def readTimes {α : Type} (read : Reader α) : Nat → Reader (List α)
  | 0, bytes => .ok ([], bytes)
  | count + 1, bytes => do
    let (a, bytes) ← read bytes
    let (as, bytes) ← readTimes read count bytes
    return (a :: as, bytes)

/-- Reads a list. -/
def readList {α : Type} (read : Reader α) : Reader (List α) := fun bytes => do
  let (length, bytes) ← readNumber .listLength bytes
  readTimes read length bytes

/-- Reads a truth value. -/
def readBool : Reader Bool := fun bytes => do
  let (b, bytes) ← readByte bytes
  if b = 0 then return (false, bytes)
  else if b = 1 then return (true, bytes)
  else throw (.badBool b)

/-- Reads a value. -/
def readValue : Reader Value := fun bytes => do
  let (kind, bytes) ← readNumber .kind bytes
  match kind with
  | 0 =>
    let (s, bytes) ← readText bytes
    return (.text s, bytes)
  | 1 =>
    let (n, bytes) ← readWide 8 bytes
    return (.number ⟨UInt64.ofNat n⟩, bytes)
  | 2 =>
    let (b, bytes) ← readBool bytes
    return (.bool b, bytes)
  | kind => throw (.badKind kind)

/-! ## Definitions -/

/-- Reads a condition. -/
def readCondition : Reader ConditionDefinition := fun bytes => do
  let (variableName, bytes) ← readText bytes
  let (operator, bytes) ← readText bytes
  let (comparand, bytes) ← readValue bytes
  let (port, bytes) ← readText bytes
  return (⟨variableName, operator, comparand, port⟩, bytes)

/-- Reads an option of a choice block. -/
def readChoice : Reader ChoiceDefinition := fun bytes => do
  let (label, bytes) ← readText bytes
  let (port, bytes) ← readText bytes
  return (⟨label, port⟩, bytes)

/-- Reads a block. -/
def readBlock : Reader BlockDefinition := fun bytes => do
  let (id, bytes) ← readText bytes
  let (typeName, bytes) ← readText bytes
  let (text, bytes) ← readOption readText bytes
  let (variableName, bytes) ← readOption readText bytes
  let (conditions, bytes) ← readOption (readList readCondition) bytes
  let (choices, bytes) ← readOption (readList readChoice) bytes
  let (url, bytes) ← readOption readText bytes
  return (⟨id, typeName, text, variableName, conditions, choices, url⟩, bytes)

/-- Reads a link. -/
def readLink : Reader LinkDefinition := fun bytes => do
  let (source, bytes) ← readText bytes
  let (target, bytes) ← readText bytes
  let (sourcePort, bytes) ← readOption readText bytes
  let (targetPort, bytes) ← readOption readText bytes
  return (⟨source, target, sourcePort, targetPort⟩, bytes)

/-- The definition at the head of some bytes. -/
def decode (bytes : Bytes) : Except Fault Definition := do
  let (blocks, bytes) ← readList readBlock bytes
  let (links, _) ← readList readLink bytes
  return ⟨blocks, links⟩

end Dialogue.Snapshot
