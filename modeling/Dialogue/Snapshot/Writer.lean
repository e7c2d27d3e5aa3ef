import Dialogue.Definition
import Dialogue.Text.Utf8

/-!
# Writing snapshots

A snapshot is the compact binary form of a definition. Its parts follow one
another without names or padding:

- a length is one byte up to 250, else a marker byte and two, four or eight bytes
  of it, the low one first;
- a text is the length of its UTF-8 bytes and these bytes, and a list the length
  and its items;
- something optional is a zero byte, or a one and the thing itself;
- a value is the number of its kind and its contents.
-/

namespace Dialogue.Snapshot

/-- The `count` low bytes of a number, the low one first. -/
def littleEndian : Nat → Nat → Bytes
  | 0, _ => []
  | count + 1, n => UInt8.ofNat (n % 256) :: littleEndian count (n / 256)

/-- The marker before a length of two bytes; four and eight bytes have the next
two. -/
def wideMarker : UInt8 := 251

/-- A length below `2 ^ 64`. -/
def putLength (n : Nat) : Bytes :=
  if n < 251 then [UInt8.ofNat n]
  else if n < Nat.pow 2 16 then wideMarker :: littleEndian 2 n
  else if n < Nat.pow 2 32 then (wideMarker + 1) :: littleEndian 4 n
  else (wideMarker + 2) :: littleEndian 8 n

/-- A text. -/
def putText (s : Text) : Bytes :=
  let bytes := Utf8.encode s
  putLength bytes.length ++ bytes

/-- Something optional. -/
def putOption {α : Type} (put : α → Bytes) : Option α → Bytes
  | none => [0]
  | some a => 1 :: put a

/-- A list. -/
def putList {α : Type} (put : α → Bytes) (items : List α) : Bytes :=
  putLength items.length ++ items.flatMap put

/-- A value. -/
def putValue : Value → Bytes
  | .text s => 0 :: putText s
  | .number x => 1 :: littleEndian 8 x.bits.toNat
  | .bool b => [2, if b then 1 else 0]

/-- A condition. -/
def putCondition (c : ConditionDefinition) : Bytes :=
  putText c.variableName ++ putText c.operator ++ putValue c.comparand ++
    putText c.port

/-- An option of a choice block. -/
def putChoice (c : ChoiceDefinition) : Bytes :=
  putText c.label ++ putText c.port

/-- A block. -/
def putBlock (b : BlockDefinition) : Bytes :=
  putText b.id ++ putText b.typeName ++ putOption putText b.text ++
    putOption putText b.variableName ++
    putOption (putList putCondition) b.conditions ++
    putOption (putList putChoice) b.choices ++ putOption putText b.url

/-- A link. -/
def putLink (l : LinkDefinition) : Bytes :=
  putText l.source ++ putText l.target ++ putOption putText l.sourcePort ++
    putOption putText l.targetPort

/-- The snapshot of a definition. -/
def encode (d : Definition) : Bytes :=
  putList putBlock d.blocks ++ putList putLink d.links

end Dialogue.Snapshot
