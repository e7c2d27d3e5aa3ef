import Dialogue.Json.Printer
import Dialogue.Text.Quoted

/-!
# Faults of JSON text

Why a text is not the JSON it should be. Faults of the notation come from the
text alone; the others say that the value, though well written so far, is not of
the shape that is read. `Fault.message` is the sentence for each.
-/

namespace Dialogue.Json

/-- What stands where another kind of value is wanted. -/
inductive Found where
  | null
  | bool (b : Bool)
  | number (n : Number)
  | text (s : Text)
  | list
  | object
  deriving DecidableEq, Repr

/-- Why a JSON text cannot be read. -/
inductive Fault where
  | endInList
  | endInObject
  | endInText
  | endInValue
  | expectedColon
  | expectedListCommaOrEnd
  | expectedObjectCommaOrEnd
  | expectedIdent
  | expectedValue
  | invalidEscape
  | invalidNumber
  | numberOutOfRange
  | controlCharacter
  | keyNotText
  | loneLeadingSurrogate
  | trailingComma
  | trailingCharacters
  | endOfHexEscape
  | depthExceeded
  | wrongType (found : Found) (expected : Text)
  | wrongLength (length : Nat) (expected : Text)
  | missingField (name : Text)
  | duplicateField (name : Text)
  | unknownVariant (name : Text) (known : List Text)
  | notAnId (found : Json)
  deriving Repr

/-- A name between backquotes. -/
def ticked (name : Text) : Text :=
  '\x60' :: name ++ ['\x60']

/-- How a message names what was found. -/
def Found.describe : Found → Text
  | .null => "null".toList
  | .bool b => "boolean ".toList ++ ticked (if b then "true" else "false").toList
  | .number (.int i) => "integer ".toList ++ ticked (Text.ofInt i)
  | .number (.double x) =>
    "floating point ".toList ++ ticked (doubleLayout.render x)
  | .text s => "string ".toList ++ Text.quoted s
  | .list => "sequence".toList
  | .object => "map".toList

/-- What a value is found to be. -/
def found : Json → Found
  | .null => .null
  | .bool b => .bool b
  | .number n => .number n
  | .text s => .text s
  | .list _ => .list
  | .object _ => .object

/-- The alternatives that a message offers. -/
def alternatives : List Text → Text
  | [only] => ticked only
  | [first, second] => ticked first ++ " or ".toList ++ ticked second
  | names =>
    "one of ".toList ++ List.intercalate ", ".toList (names.map ticked)

/-- The sentence for a fault. -/
def Fault.message : Fault → Text
  | .endInList => "EOF while parsing a list".toList
  | .endInObject => "EOF while parsing an object".toList
  | .endInText => "EOF while parsing a string".toList
  | .endInValue => "EOF while parsing a value".toList
  | .expectedColon => "expected \x60:\x60".toList
  | .expectedListCommaOrEnd => "expected \x60,\x60 or \x60]\x60".toList
  | .expectedObjectCommaOrEnd => "expected \x60,\x60 or \x60\x7d\x60".toList
  | .expectedIdent => "expected ident".toList
  | .expectedValue => "expected value".toList
  | .invalidEscape => "invalid escape".toList
  | .invalidNumber => "invalid number".toList
  | .numberOutOfRange => "number out of range".toList
  | .controlCharacter =>
    "control character (\\u0000-\\u001F) found while parsing a string".toList
  | .keyNotText => "key must be a string".toList
  | .loneLeadingSurrogate => "lone leading surrogate in hex escape".toList
  | .trailingComma => "trailing comma".toList
  | .trailingCharacters => "trailing characters".toList
  | .endOfHexEscape => "unexpected end of hex escape".toList
  | .depthExceeded => "recursion limit exceeded".toList
  | .wrongType found expected =>
    "invalid type: ".toList ++ found.describe ++ ", expected ".toList ++ expected
  | .wrongLength length expected =>
    "invalid length ".toList ++ Text.ofNat length ++ ", expected ".toList ++ expected
  | .missingField name => "missing field ".toList ++ ticked name
  | .duplicateField name => "duplicate field ".toList ++ ticked name
  | .unknownVariant name known =>
    "unknown variant ".toList ++ ticked name ++ ", expected ".toList ++
      alternatives known
  | .notAnId found =>
    "expected a string or number id, found ".toList ++ found.print

end Dialogue.Json
