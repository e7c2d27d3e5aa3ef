import Dialogue.Value

/-!
# Conditions

A condition compares the value of a variable with a comparand. Both sides are
compared as numbers if both have a numeric reading; else two texts are compared
by code points and two truth values with false before true. Sides of different
kinds have no order and are just different. Where the variable is not set, no
condition holds.
-/

namespace Dialogue

/-- The ways to compare. -/
inductive Operator where
  | atLeast
  | atMost
  | greater
  | less
  | equal
  | notEqual
  /-- Any other symbol. It never holds. -/
  | unknown (symbol : Text)
  deriving DecidableEq, Repr

namespace Operator

/-- The symbol of an operator. -/
def symbol : Operator → Text
  | .atLeast => ">=".toList
  | .atMost => "<=".toList
  | .greater => ">".toList
  | .less => "<".toList
  | .equal => "==".toList
  | .notEqual => "!=".toList
  | .unknown symbol => symbol

/-- The operators that have a meaning. -/
def known : List Operator :=
  [.atLeast, .atMost, .greater, .less, .equal, .notEqual]

/-- The operator with a symbol, blank characters around it aside. An unknown
symbol is kept as it is. -/
def ofSymbol (s : Text) : Operator :=
  match known.find? fun o => o.symbol = Text.trim s with
  | some o => o
  | none => .unknown s

/-- Whether the operator has a meaning. -/
def isKnown : Operator → Bool
  | .unknown _ => false
  | _ => true

/-- Whether a comparison that comes out so fulfils the operator. -/
def accepts : Operator → Ordering → Bool
  | .atLeast, o => o != .lt
  | .atMost, o => o != .gt
  | .greater, o => o == .gt
  | .less, o => o == .lt
  | .equal, o => o == .eq
  | .notEqual, o => o != .eq
  | .unknown _, _ => false

end Operator

namespace Value

/-- The order of truth values, false first. -/
def orderBool : Bool → Bool → Ordering
  | false, true => .lt
  | true, false => .gt
  | _, _ => .eq

/-- The order of two values as they are, if they are of one kind. -/
def orderNative : Value → Value → Option Ordering
  | .text s, .text t => some (Text.order s t)
  | .bool a, .bool b => some (orderBool a b)
  | _, _ => none

end Value

/-- Whether the value of a variable and a comparand fulfil an operator. -/
def Operator.holds (o : Operator) (stored : Option Value) (comparand : Value) : Bool :=
  match stored with
  | none => false
  | some stored =>
    match stored.asNumber, comparand.asNumber with
    | some x, some y => (x.compare? y).any o.accepts
    | _, _ =>
      match stored.orderNative comparand with
      | some ordering => o.accepts ordering
      | none => o == .notEqual

end Dialogue
