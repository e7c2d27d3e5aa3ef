import Dialogue.Menu
import Dialogue.Session.Activity
import Dialogue.Template

/-!
# One block of a conversation

`step` is what a conversation does at a block: what the block says, asks or calls,
and then where it leads. `finish` is what it does when it has ended: it reports
the ending and closes the channel, once.
-/

namespace Dialogue

/-- Where a block leads. -/
inductive Transition where
  | goto (block : Text)
  | complete (completion : Completion)
  deriving DecidableEq, Repr

namespace Conversation

/-! ## Moves that blocks share -/

/-- Asks for input on behalf of a block. The session awaits the reply until it
has come; a failed request leaves it waiting. -/
def ask (block : Text) (purpose : Purpose) (prompt : Text) : Conversation Text := do
  update fun s => { s with standing := .awaiting block purpose }
  match ← call (.input prompt) with
  | .ok reply =>
    update fun s => { s with standing := .running block }
    return reply
  | .error e => fail (.channel e)

/-- Sets a variable to a text. -/
def keep (variableName value : Text) : Conversation Unit :=
  update fun s => { s with store := s.store.set variableName (.text value) }

/-- A part of a block, which must be there. -/
def need (block : Text) (part : Part) : Option Text → Conversation Text
  | some value => pure value
  | none => fail (.missingPart block part)

/-! ## Leaving a block -/

/-- The label of a link in menus: the text of the block that it leads to. -/
def linkLabel (session : Session) (link : Link) : Text :=
  ((session.flow.block? link.target).bind Block.text).getD
    session.settings.prompts.fallbackLabel

/-- Follows the links of a block: without any the conversation ends, a single one
is followed, and among several the user chooses. -/
def advance (block : Block) : Conversation Transition := do
  let s ← session
  match s.flow.linksFrom block.id with
  | [] => return .complete .noFurtherLinks
  | [only] => return .goto only.target
  | links =>
    let menu := Menu.render s.settings.prompts.chooseAction (links.map (linkLabel s))
    let reply ← ask block.id (.advance links.length) menu
    match (Menu.pick? reply links.length).bind fun i => links[i]? with
    | some link => return .goto link.target
    | none => fail (.invalidChoice block.id reply)

/-- The link that the first fulfilled condition with a linked port leads to, or
else the link on the default port. -/
def branchLink? (s : Session) (block : Text) (conditions : List Condition) :
    Option Link :=
  let fulfilled := conditions.filter fun c =>
    c.operator.holds (s.store.get? c.variableName) c.comparand
  (fulfilled.findSome? fun c => s.flow.linkOnPort? block c.port).or
    (s.flow.linkOnPort? block s.settings.defaultPort)

/-- Follows the conditions of a block. -/
def branch (block : Text) (conditions : List Condition) : Conversation Transition := do
  let s ← session
  match branchLink? s block conditions with
  | some link => return .goto link.target
  | none => fail (.noDefaultLink block)

/-- Lets the user choose among the options of a block. -/
def choose (block : Text) (choices : List Choice) : Conversation Transition := do
  if choices = [] then fail (.noChoices block)
  else
    let s ← session
    let menu := Menu.render s.settings.prompts.chooseOption (choices.map Choice.label)
    let reply ← ask block (.choice choices.length) menu
    let link? := (Menu.pick? reply choices.length).bind fun i =>
      choices[i]?.bind fun choice => s.flow.linkOnPort? block choice.port
    match link? with
    | some link => return .goto link.target
    | none => fail (.invalidChoice block reply)

/-- Makes an external call and sums up its response. -/
def callExternal (url : Text) : Conversation Text := do
  let s ← session
  if s.settings.canFetch then
    match ← call (.fetch url) with
    | .ok response => return response.summarize
    | .error e => fail (.externalCall url e)
  else
    fail (.externalCall url .unavailable)

/-! ## Blocks -/

/-- What a block does. -/
def perform (block : Block) : Conversation Transition := do
  match block.kind with
  | .start => advance block
  | .message =>
    let s ← session
    call (.message (Template.fill (block.text.getD []) s.store))
    advance block
  | .save variableName =>
    let variableName ← need block.id .variableName variableName
    let s ← session
    let prompt := s.settings.prompts.capturePrompt variableName
    let reply ← ask block.id (.capture variableName) prompt
    keep variableName reply
    advance block
  | .conditional conditions => branch block.id conditions
  | .choice choices => choose block.id choices
  | .externalCall url variableName =>
    let url ← need block.id .url url
    let variableName ← need block.id .variableName variableName
    let summary ← callExternal url
    keep variableName summary
    advance block
  | .finish => return .complete .endBlock
  | .unknown typeName => fail (.unknownBlockType block.id typeName)

/-- Enters the block with an id and does what it does. -/
def step (id : Text) : Conversation Transition := do
  let s ← session
  match s.flow.block? id with
  | none => fail (.blockNotFound id)
  | some block =>
    update fun s => { s with visited := s.visited ++ [id] }
    perform block

/-! ## Ending -/

/-- The call that reports an ending. -/
def reportOf (prompts : Prompts) : Termination → Call
  | .completed .noFurtherLinks => .message prompts.noFurtherLinks
  | .completed .endBlock => .message prompts.chatFinished
  | .failed failure =>
    if failure.isExternal then .error failure.message else .message failure.message

/-- Reports an ending and closes the channel, unless that has been done. -/
def finish (termination : Termination) : Conversation Unit := do
  let s ← session
  if s.closed then return
  let _ ← call (reportOf s.settings.prompts termination)
  let _ ← call .close
  update fun s => { s with closed := true }

end Conversation

/-- The session after a block: where the block led, or why it failed. -/
def Session.settle (s : Session) : Except Failure Transition → Session
  | .ok (.goto block) => { s with standing := .running block }
  | .ok (.complete completion) =>
    { s with standing := .terminated (.completed completion) }
  | .error failure => { s with standing := .terminated (.failed failure) }

end Dialogue
