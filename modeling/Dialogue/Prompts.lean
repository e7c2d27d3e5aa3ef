import Dialogue.Json.Record

/-!
# Prompts

The texts that a conversation says on its own behalf. A prompts file overrides
any of them: it is a JSON record whose fields all have defaults.
-/

namespace Dialogue

/-- What a conversation says on its own behalf. -/
structure Prompts where
  /-- Asks for a variable, whose name takes the place of `name` in braces. -/
  capture : Text
  /-- Stands above the options of a choice. -/
  chooseOption : Text
  /-- Stands above the targets when a block has several links. -/
  chooseAction : Text
  /-- Labels a target without a text. -/
  fallbackLabel : Text
  /-- Is said at the end when no link leads on. -/
  noFurtherLinks : Text
  /-- Is said at the end when an end block is reached. -/
  chatFinished : Text
  deriving DecidableEq, Repr

namespace Prompts

/-- The prompts when nothing is overridden. -/
def standard : Prompts where
  capture := "Enter a value for \"\x7bname\x7d\": ".toList
  chooseOption := "Choose an option:".toList
  chooseAction := "Choose an action:".toList
  fallbackLabel := "Next step".toList
  noFurtherLinks := "No further links. Chat finished.".toList
  chatFinished := "Chat finished.".toList

/-- The place that the name of the variable takes in a prompt. -/
def namePlace : Text := "\x7bname\x7d".toList

/-- The prompt that asks for a variable. -/
def capturePrompt (p : Prompts) (variableName : Text) : Text :=
  Text.replace namePlace variableName p.capture

/-! ## Prompts files -/

open Json (Fault RecordField Shape Reader readText parseWith depthLimit)

/-- The prompts as an object with all six members. -/
def toJson (p : Prompts) : Json :=
  .ofMembers [
    ("capture".toList, .text p.capture),
    ("chooseOption".toList, .text p.chooseOption),
    ("chooseAction".toList, .text p.chooseAction),
    ("fallbackLabel".toList, .text p.fallbackLabel),
    ("noFurtherLinks".toList, .text p.noFurtherLinks),
    ("chatFinished".toList, .text p.chatFinished)]

/-- Prompts that are being read: only what is overridden is there. -/
structure Overrides where
  capture : Option Text := none
  chooseOption : Option Text := none
  chooseAction : Option Text := none
  fallbackLabel : Option Text := none
  noFurtherLinks : Option Text := none
  chatFinished : Option Text := none
  deriving DecidableEq, Repr

/-- A text that may be overridden. -/
def overrideField (name : String) (get : Overrides → Option Text)
    (set : Overrides → Text → Overrides) : RecordField Overrides where
  name := name.toList
  aliases := []
  absence := .default
  isSet o := (get o).isSome
  read _ o s := do
    let (prompt, s) ← readText s
    return (set o prompt, s)

/-- The fields of a prompts file. -/
def shape : Shape Overrides where
  name := "struct Prompts".toList
  fields := [
    overrideField "capture" Overrides.capture
      (fun o text => { o with capture := some text }),
    overrideField "chooseOption" Overrides.chooseOption
      (fun o text => { o with chooseOption := some text }),
    overrideField "chooseAction" Overrides.chooseAction
      (fun o text => { o with chooseAction := some text }),
    overrideField "fallbackLabel" Overrides.fallbackLabel
      (fun o text => { o with fallbackLabel := some text }),
    overrideField "noFurtherLinks" Overrides.noFurtherLinks
      (fun o text => { o with noFurtherLinks := some text }),
    overrideField "chatFinished" Overrides.chatFinished
      (fun o text => { o with chatFinished := some text })]

/-- The prompts with some of them overridden. -/
def override (p : Prompts) (o : Overrides) : Prompts where
  capture := o.capture.getD p.capture
  chooseOption := o.chooseOption.getD p.chooseOption
  chooseAction := o.chooseAction.getD p.chooseAction
  fallbackLabel := o.fallbackLabel.getD p.fallbackLabel
  noFurtherLinks := o.noFurtherLinks.getD p.noFurtherLinks
  chatFinished := o.chatFinished.getD p.chatFinished

/-- The prompts that a prompts file gives. -/
def parse (s : Text) : Except Fault Prompts := do
  return standard.override (← parseWith (shape.read {} depthLimit) s)

end Prompts

end Dialogue
