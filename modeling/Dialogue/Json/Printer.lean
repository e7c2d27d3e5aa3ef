import Dialogue.Binary64.Layout
import Dialogue.Json.Basic

/-!
# Compact JSON text

`Json.print` writes a value without blanks, the members of an object in the order
of their names. A text escapes quotes, backslashes and control characters, and
nothing else; doubles have the fewest digits that read back.
-/

namespace Dialogue.Json

/-- Doubles are positional from 0.00001 up to 16 digits before the point, always
with a point or an exponent; of two equally short forms the even one is taken. -/
def doubleLayout : Binary64.Layout where
  tie := .even
  positional := some (-5, 15)
  keepsFraction := true

/-- The text of a number. -/
def Number.print : Number → Text
  | .int i => Text.ofInt i
  | .double x => doubleLayout.render x

/-- A control character as an escape with four hexadecimal digits. -/
def escapeControl (c : Char) : Text :=
  ['\\', 'u', '0', '0'] ++
    [Nat.digitChar (c.toNat / 16), Nat.digitChar (c.toNat % 16)]

/-- One character inside quotes. -/
def escape (c : Char) : Text :=
  match c with
  | '"' => ['\\', '"']
  | '\\' => ['\\', '\\']
  | '\x08' => ['\\', 'b']
  | '\x0c' => ['\\', 'f']
  | '\n' => ['\\', 'n']
  | '\r' => ['\\', 'r']
  | '\t' => ['\\', 't']
  | c => if c.toNat < 0x20 then escapeControl c else [c]

/-- A text between quotes. -/
def printText (s : Text) : Text :=
  '"' :: s.flatMap escape ++ ['"']

mutual

/-- The compact text of a value. -/
def print : Json → Text
  | .null => "null".toList
  | .bool true => "true".toList
  | .bool false => "false".toList
  | .number n => n.print
  | .text s => printText s
  | .list items => '[' :: printItems items
  | .object members => '{' :: printMembers members

/-- Items with commas between them, and the closing bracket. -/
def printItems : List Json → Text
  | [] => [']']
  | [item] => print item ++ [']']
  | item :: rest => print item ++ ',' :: printItems rest

/-- Members with commas between them, and the closing brace. -/
def printMembers : List (Text × Json) → Text
  | [] => ['}']
  | [(name, value)] => printText name ++ ':' :: print value ++ ['}']
  | (name, value) :: rest =>
    printText name ++ ':' :: print value ++ ',' :: printMembers rest

end

end Dialogue.Json
