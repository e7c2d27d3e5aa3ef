import Dialogue.Json.Token

/-!
# Lists and objects in JSON text

The commas, colons and brackets that hold lists and objects together, apart from
what the items and members are. `readItems` and `foldMembers` go through a whole
list or object with a reader for the items or a step for the members; the other
readers are the single moves that they make.

Nesting is limited. A reader that opens a list or an object is given the number
of levels that it may still open, and refuses to open one at zero.
-/

namespace Dialogue.Json

/-- How many lists and objects may be open at once. -/
def depthLimit : Nat := 127

/-! ## Lists -/

/-- Whether an item follows, and the text from that item or, at the end, from
behind the bracket. `first` says that no item has been read yet. -/
def nextItem (first : Bool) : Reader Bool := fun s =>
  match skipBlanks s with
  | [] => .error .endInList
  | c :: rest =>
    if c = ']' then .ok (false, rest)
    else if first then .ok (true, c :: rest)
    else if c = ',' then
      match skipBlanks rest with
      | [] => .error .endInValue
      | ']' :: _ => .error .trailingComma
      | rest => .ok (true, rest)
    else .error .expectedListCommaOrEnd

/-- The end of a list whose items are all read. -/
def closeList : Text → Except Fault Text := fun s =>
  match skipBlanks s with
  | [] => .error .endInList
  | ']' :: rest => .ok rest
  | ',' :: rest =>
    match skipBlanks rest with
    | ']' :: _ => .error .trailingComma
    | _ => .error .trailingCharacters
  | _ => .error .trailingCharacters

/-- Reads at most so many items, and the end of the list. -/
def readItemsFrom {α : Type} (item : Reader α) : Nat → Bool → Reader (List α)
  | 0, _, _ => .error .endInList
  | steps + 1, first, s => do
    let (more, s) ← nextItem first s
    if more then
      let (a, s) ← item s
      let (as, s) ← readItemsFrom item steps false s
      return (a :: as, s)
    else
      return ([], s)

/-- Reads the items of a list from behind its opening bracket. -/
def readItems {α : Type} (item : Reader α) : Reader (List α) := fun s =>
  readItemsFrom item (s.length + 1) true s

/-! ## Objects -/

/-- The next key of an object, from behind its quotes, or nothing at the end of
the object. -/
def nextKey (first : Bool) : Reader (Option Text) := fun s =>
  match skipBlanks s with
  | [] => .error .endInObject
  | c :: rest =>
    if c = '}' then .ok (none, rest)
    else if first then
      if c = '"' then do
        let (key, rest) ← readQuoted rest
        return (some key, rest)
      else .error .keyNotText
    else if c = ',' then
      match skipBlanks rest with
      | [] => .error .endInValue
      | '"' :: rest => do
        let (key, rest) ← readQuoted rest
        return (some key, rest)
      | '}' :: _ => .error .trailingComma
      | _ => .error .keyNotText
    else .error .expectedObjectCommaOrEnd

/-- The colon between a key and its value. -/
def readColon : Text → Except Fault Text := fun s =>
  match skipBlanks s with
  | [] => .error .endInObject
  | ':' :: rest => .ok rest
  | _ => .error .expectedColon

/-- Goes through at most so many members, and the end of the object. A step is
given the state, the key and the text behind the key. -/
def foldMembersFrom {σ : Type} (step : σ → Text → Reader σ) :
    Nat → Bool → σ → Reader σ
  | 0, _, _, _ => .error .endInObject
  | steps + 1, first, state, s => do
    match ← nextKey first s with
    | (none, s) => return (state, s)
    | (some key, s) =>
      let (state, s) ← step state key s
      foldMembersFrom step steps false state s

/-- Goes through the members of an object from behind its opening brace. -/
def foldMembers {σ : Type} (step : σ → Text → Reader σ) (start : σ) : Reader σ :=
  fun s => foldMembersFrom step (s.length + 1) true start s

end Dialogue.Json
