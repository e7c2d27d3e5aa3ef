import Dialogue.Json.Container

/-!
# Reading any JSON value

`readValue` reads a value of any shape, and `parse` a text that holds one value
and nothing else.
-/

namespace Dialogue.Json

/-- Reads a value that is neither list nor object; `openList` and `openObject`
read on behind the brackets of one that is. -/
def readScalarOr (openList openObject : Reader Json) : Reader Json := fun s =>
  match skipBlanks s with
  | [] => .error .endInValue
  | c :: rest =>
    match c with
    | 'n' => do return (.null, ← readWord "ull".toList rest)
    | 't' => do return (.bool true, ← readWord "rue".toList rest)
    | 'f' => do return (.bool false, ← readWord "alse".toList rest)
    | '"' => do
      let (s, rest) ← readQuoted rest
      return (.text s, rest)
    | '[' => openList rest
    | '{' => openObject rest
    | c =>
      if c = '-' ∨ c.isDigit then do
        let (n, rest) ← readNumber (c :: rest)
        return (.number n, rest)
      else
        .error .expectedValue

/-- Adds a member to those read before it. -/
def readMember (value : Reader Json) (members : List (Text × Json)) (key : Text) :
    Reader (List (Text × Json)) := fun s => do
  let s ← readColon s
  let (v, s) ← value s
  return (Entries.put key v members, s)

/-- Reads a value that opens at most so many levels. -/
def readValue : Nat → Reader Json
  | 0 => readScalarOr (fun _ => .error .depthExceeded) (fun _ => .error .depthExceeded)
  | depth + 1 =>
    readScalarOr
      (fun s => do
        let (items, s) ← readItems (readValue depth) s
        return (.list items, s))
      (fun s => do
        let (members, s) ← foldMembers (readMember (readValue depth)) [] s
        return (.object members, s))

/-- Reads the whole of a text. -/
def parseWith {α : Type} (reader : Reader α) (s : Text) : Except Fault α := do
  let (a, rest) ← reader s
  if skipBlanks rest = [] then return a else throw .trailingCharacters

/-- The value that a text holds. -/
def parse (s : Text) : Except Fault Json :=
  parseWith (readValue depthLimit) s

end Dialogue.Json
