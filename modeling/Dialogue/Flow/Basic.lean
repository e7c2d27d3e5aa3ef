import Dialogue.Flow.Registry

/-!
# Flows

A flow is a runnable graph: blocks, each with an id of its own, and links in the
order of the definition. If a definition gives an id twice, the later block takes
the place of the earlier one. Links may lead from or to nowhere.

Blocks and links are found by tables of positions, which are made with the flow and with
which it always agrees.

Type names may be given other meanings; these go before the usual ones.
-/

namespace Dialogue

/-- A runnable graph, with the positions of its blocks by id and those of its links by
the block that they leave. -/
structure Flow extends Registry where
  links : List Link
  outgoing : Entries (List Nat)
  indexed : toRegistry.Indexed
  bucketed : Bucketed links outgoing
  deriving DecidableEq, Repr

/-- Other names for block types. -/
abbrev TypeNames := Entries BlockType

namespace TypeNames

/-- Lets a name stand for the type with the given usual name; without effect if
that is none. -/
def declare (name canonical : Text) (names : TypeNames) : TypeNames :=
  match BlockType.ofTag? canonical with
  | some t => Entries.put name t names
  | none => names

/-- The type that a name stands for. -/
def type? (names : TypeNames) (name : Text) : Option BlockType :=
  (Entries.get? name names).or (BlockType.ofTag? name)

end TypeNames

namespace Flow

/-- The flow of blocks and links. -/
def ofParts (blocks : List Block) (links : List Link) : Flow where
  toRegistry := .ofList blocks
  links := links
  outgoing := outgoingOf links
  indexed := Registry.indexed_ofList blocks
  bucketed := bucketed_outgoingOf links

/-- The flow of a definition, with other names for types. -/
def build (names : TypeNames) (d : Definition) : Flow :=
  ofParts (d.blocks.map fun b => Block.ofDefinition (names.type? b.typeName) b) d.links

/-- The flow of a definition. -/
def ofDefinition (d : Definition) : Flow :=
  build [] d

/-- The block with an id. -/
def block? (f : Flow) (id : Text) : Option Block :=
  f.toRegistry.block? id

/-- The links that lead from a block, in order. -/
def linksFrom (f : Flow) (id : Text) : List Link :=
  ((Entries.get? id f.outgoing).getD []).filterMap fun position => f.links[position]?

/-- The first link that leads from a port of a block. -/
def linkOnPort? (f : Flow) (id port : Text) : Option Link :=
  (f.linksFrom id).find? fun l => l.sourcePort = some port

/-- The blocks where conversations may start. -/
def startBlocks (f : Flow) : List Block :=
  f.blocks.filter Block.isStart

end Flow

end Dialogue
