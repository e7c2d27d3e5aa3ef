import Dialogue.Json.Container

/-!
# Passing over a JSON value

`skipValue` passes over a value without building it. Lists and objects may be
nested to any depth, for the open ones are kept in a list. Numbers are checked
for their form only, and escapes for their digits only.
-/

namespace Dialogue.Json

/-- Passes over the hexadecimal digits or the letter of an escape. -/
def skipEscape : Text → Except Fault Text
  | [] => .error .endInText
  | c :: rest =>
    if c = 'u' then (readHex rest).map Prod.snd
    else if c ∈ ['"', '\\', '/', 'b', 'f', 'n', 'r', 't'] then .ok rest
    else .error .invalidEscape

/-- Passes over at most so many characters of a text and its closing quote. -/
def skipCharsFrom : Nat → Text → Except Fault Text
  | 0, _ => .error .endInText
  | _ + 1, [] => .error .endInText
  | steps + 1, c :: rest =>
    if c = '"' then .ok rest
    else if c = '\\' then do skipCharsFrom steps (← skipEscape rest)
    else if c.toNat < 0x20 then .error .controlCharacter
    else skipCharsFrom steps rest

/-- Passes over a text from behind its opening quote. -/
def skipQuoted (s : Text) : Except Fault Text :=
  skipCharsFrom (s.length + 1) s

/-- Passes over digits, of which there must be one. -/
def skipDigits (s : Text) : Except Fault Text :=
  let (digits, rest) := Text.spanDigits s
  if digits = [] then .error .invalidNumber else .ok rest

/-- Passes over an exponent, if there is one. -/
def skipExponent : Text → Except Fault Text
  | c :: rest =>
    if c = 'e' ∨ c = 'E' then
      match rest with
      | '+' :: rest => skipDigits rest
      | '-' :: rest => skipDigits rest
      | rest => skipDigits rest
    else
      .ok (c :: rest)
  | [] => .ok []

/-- Passes over a number from behind its sign. -/
def skipMagnitude (s : Text) : Except Fault Text := do
  let rest ← match s with
    | '0' :: rest =>
      if rest.head?.any Char.isDigit then throw .invalidNumber else pure rest
    | s => skipDigits s
  match rest with
  | '.' :: rest => skipExponent (← skipDigits rest)
  | rest => skipExponent rest

/-- A list or object that is open. -/
inductive Bracket where
  | list
  | object
  deriving DecidableEq, Repr

/-- The character that closes it. -/
def Bracket.closing : Bracket → Char
  | .list => ']'
  | .object => '}'

/-- The fault if the text ends within it. -/
def Bracket.endFault : Bracket → Fault
  | .list => .endInList
  | .object => .endInObject

/-- The fault if neither comma nor closing bracket follows a value. -/
def Bracket.commaFault : Bracket → Fault
  | .list => .expectedListCommaOrEnd
  | .object => .expectedObjectCommaOrEnd

/-- What comes next: a value, or what may follow a value or an opening bracket. -/
inductive Expecting where
  | value
  | afterOpening
  | afterValue
  deriving DecidableEq, Repr

/-- Passes over what stands before a value within an open bracket: nothing in a
list, key and colon in an object. -/
def skipLabel : Bracket → Text → Except Fault Text
  | .list, s => .ok s
  | .object, s =>
    match skipBlanks s with
    | [] => .error .endInObject
    | '"' :: rest => do readColon (← skipQuoted rest)
    | _ => .error .keyNotText

/-- Passes over a scalar, or opens a bracket. -/
def skipOpening (s : Text) : Except Fault (Option Bracket × Text) :=
  match skipBlanks s with
  | [] => .error .endInValue
  | c :: rest =>
    match c with
    | 'n' => do return (none, ← readWord "ull".toList rest)
    | 't' => do return (none, ← readWord "rue".toList rest)
    | 'f' => do return (none, ← readWord "alse".toList rest)
    | '"' => do return (none, ← skipQuoted rest)
    | '-' => do return (none, ← skipMagnitude rest)
    | '[' => .ok (some .list, rest)
    | '{' => .ok (some .object, rest)
    | c =>
      if c.isDigit then do return (none, ← skipMagnitude (c :: rest))
      else .error .expectedValue

/-- At most so many moves over the rest of a value, with the open brackets, the
innermost first. -/
def skipFrom : Nat → List Bracket → Expecting → Text → Except Fault Text
  | 0, _, _, _ => .error .endInValue
  | moves + 1, brackets, .value, s => do
    match ← skipOpening s with
    | (none, s) => skipFrom moves brackets .afterValue s
    | (some b, s) => skipFrom moves (b :: brackets) .afterOpening s
  | _ + 1, [], _, s => .ok s
  | moves + 1, b :: brackets, expecting, s =>
    match skipBlanks s with
    | [] => .error b.endFault
    | c :: rest =>
      if c = b.closing then
        skipFrom moves brackets .afterValue rest
      else if expecting = .afterOpening then do
        skipFrom moves (b :: brackets) .value (← skipLabel b (c :: rest))
      else if c = ',' then do
        skipFrom moves (b :: brackets) .value (← skipLabel b rest)
      else
        .error b.commaFault

/-- Passes over one value. Every character makes for at most two moves. -/
def skipValue (s : Text) : Except Fault Text :=
  skipFrom (2 * s.length + 2) [] .value s

end Dialogue.Json
