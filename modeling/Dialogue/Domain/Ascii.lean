import Dialogue.Domain.Label

/-!
# Domain names in ASCII

A domain name may be written in any script; networks know it in ASCII only. `ascii?`
folds and composes a name, checks its labels and writes each that is no ASCII in
Punycode. A name that breaks a rule has no such form.
-/

namespace Dialogue.Domain

/-- The labels of a name, none of them in Punycode. -/
def labels? (name : Text) : Option (List Text) :=
  let normal := compose (fold name)
  if normal.any isForbidden then none
  else (Text.fields (· == '.') normal).mapM Label.read?

/-- Whether labels may stand together in a name: once one has letters of a script that
runs from right to left, each runs in one direction. -/
def agree (labels : List Text) : Bool :=
  !labels.any hasRightToLeft || labels.all runsOneWay

/-- A domain name in ASCII, if it keeps to the rules. -/
def ascii? (name : Text) : Option Text :=
  (labels? name).bind fun labels =>
    if agree labels then some (List.intercalate ['.'] (labels.map Label.ascii)) else none

end Dialogue.Domain
