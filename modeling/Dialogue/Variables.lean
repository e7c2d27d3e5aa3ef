import Dialogue.Entries
import Dialogue.Value

/-!
# Variables

The variables of one conversation: a finite map from names to values. A name
holds the value that was set last, exactly as it was given; reading decides what
it means. Two stores that hold the same values under the same names are equal,
whatever the order in which they were set.
-/

namespace Dialogue

/-- A finite map from names to values. -/
structure Variables where
  entries : Entries Value
  sorted : entries.Sorted
  deriving DecidableEq, Repr

namespace Variables

/-- No variable is set. -/
def empty : Variables := ⟨[], Entries.sorted_nil⟩

/-- Sets a variable, in place of what it held. -/
def set (name : Text) (value : Value) (vars : Variables) : Variables :=
  ⟨Entries.put name value vars.entries, vars.sorted.put name value⟩

/-- The value of a variable. -/
def get? (vars : Variables) (name : Text) : Option Value :=
  Entries.get? name vars.entries

/-- How many variables are set. -/
def size (vars : Variables) : Nat :=
  vars.entries.length

/-- Whether no variable is set. -/
def isEmpty (vars : Variables) : Bool :=
  vars.entries.isEmpty

/-- Every variable with its value, by name. -/
def toList (vars : Variables) : List (Text × Value) :=
  vars.entries

@[simp] theorem get?_empty (name : Text) : empty.get? name = none := rfl

@[simp] theorem get?_set_self (name : Text) (value : Value) (vars : Variables) :
    (vars.set name value).get? name = some value :=
  Entries.get?_put_self name value vars.entries

theorem get?_set_of_ne {name other : Text} (ne : other ≠ name) (value : Value)
    (vars : Variables) : (vars.set name value).get? other = vars.get? other :=
  Entries.get?_put_of_ne ne value vars.entries

end Variables

end Dialogue
