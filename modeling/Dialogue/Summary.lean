import Dialogue.Json.Printer

/-!
# Summaries of responses

What is kept of the JSON response to an external call: a text. A list gives one
line an item; an object with exactly one list among its members stands for that
list; any other object gives its name, if it has one that is a text, or else its
compact JSON.
-/

namespace Dialogue.Json

/-- An item's line: its name if it is an object that has one, a text as it is,
and compact JSON for the rest. -/
def summarizeEntry : Json → Text
  | .text s => s
  | .object members =>
    match Entries.get? "name".toList members with
    | some (.text name) => name
    | _ => print (.object members)
  | value => print value

/-- The lines of a list. -/
def summarizeItems (items : List Json) : Text :=
  Text.joinLines (items.map summarizeEntry)

/-- The lists among the members of an object. -/
def listMembers (members : List (Text × Json)) : List (List Json) :=
  members.filterMap fun m =>
    match m.2 with
    | .list items => some items
    | _ => none

/-- The text that is kept of a response. -/
def summarize : Json → Text
  | .null => []
  | .text s => s
  | .list items => summarizeItems items
  | .object members =>
    match listMembers members with
    | [items] => summarizeItems items
    | _ => summarizeEntry (.object members)
  | value => print value

end Dialogue.Json
