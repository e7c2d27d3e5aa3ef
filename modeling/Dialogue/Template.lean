import Dialogue.Variables

/-!
# Templates

A template is a text with references to variables, each a name between braces. A
reference starts at a left brace and ends at the first right brace after it, so
a name may hold left braces; a left brace that no right brace follows is plain
text. `segments` takes a template apart, `render` puts values in place of the
references, and `fill` does both. What is put in is not searched again.
-/

namespace Dialogue.Template

/-- A part of a template. -/
inductive Segment where
  | plain (text : Text)
  | reference (name : Text)
  deriving DecidableEq, Repr

/-- The parts of a template. Within a reference the second argument is the name
read so far. -/
def segmentsFrom : Option Text → Text → List Segment
  | none, [] => []
  | some name, [] => [.plain ('{' :: name)]
  | none, c :: rest =>
    if c = '{' then segmentsFrom (some []) rest
    else .plain [c] :: segmentsFrom none rest
  | some name, c :: rest =>
    if c = '}' then .reference name :: segmentsFrom none rest
    else segmentsFrom (some (name ++ [c])) rest

/-- The parts of a template, from left to right. -/
def segments (template : Text) : List Segment :=
  segmentsFrom none template

/-- A reference to a variable that is not set stays as it is written. -/
def Segment.render (vars : Variables) : Segment → Text
  | .plain text => text
  | .reference name =>
    match vars.get? name with
    | some value => value.display
    | none => '{' :: name ++ ['}']

/-- The template with values in place of its references. -/
def fill (template : Text) (vars : Variables) : Text :=
  (segments template).flatMap (Segment.render vars)

end Dialogue.Template
