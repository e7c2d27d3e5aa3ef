import Dialogue.Binary64.Rounding
import Dialogue.Entries

/-!
# JSON values

A number is either a whole number that fits 64 bits, signed or unsigned, or a
finite double. An object keeps its members by name: the order in which they were
written is not part of the value, and neither are repeated names.
-/

namespace Dialogue

namespace Json

/-- A JSON number. Whole numbers that need more than 64 bits, numbers with a
point or an exponent, and the negative zero are doubles. -/
inductive Number where
  | int (i : Int)
  | double (x : Binary64)
  deriving DecidableEq, Repr

/-- The double nearest to the number. -/
def Number.nearest : Number → Binary64
  | .int i => Binary64.ofInt i
  | .double x => x

end Json

/-- A JSON value. -/
inductive Json where
  | null
  | bool (b : Bool)
  | number (n : Json.Number)
  | text (s : Text)
  | list (items : List Json)
  | object (members : List (Text × Json))
  deriving Repr

namespace Json

/-- The object with the given members, in any order; of repeated names the last
one counts. -/
def ofMembers (members : List (Text × Json)) : Json :=
  .object (Entries.ofList members)

/-- A natural number as a value. -/
def ofNat (n : Nat) : Json :=
  .number (.int n)

/-- The member of an object with the given name. -/
def member? (name : Text) : Json → Option Json
  | .object members => Entries.get? name members
  | _ => none

/-- Whether the value is a list. -/
def isList : Json → Bool
  | .list _ => true
  | _ => false

end Json

end Dialogue
