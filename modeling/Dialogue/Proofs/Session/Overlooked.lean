import Dialogue.Proofs.Flow.Built
import Dialogue.Proofs.Session.Beside

/-!
# Parts of a definition that make no difference

A definition may give a block more than its type makes use of: a conditional block has no use
for an address, nor a message for the name of a variable. Links always may name a port that
they lead to, and one that they leave from; only conditional blocks and blocks with options
look at the latter.

Without these parts (`Definition.used`) a definition makes the same blocks, and its links lead
to the same places. So conversations are the same whatever these parts are
(`unused_parts_indistinguishable`).
-/

namespace Dialogue

open Dialogue.Flow

/-- The block without the parts that blocks of its type do not use. -/
def BlockDefinition.used (type? : Option BlockType) (b : BlockDefinition) : BlockDefinition :=
  { b with
    variableName := if type? = some .save ∨ type? = some .api then b.variableName else none
    conditions := if type? = some .conditional then b.conditions else none
    choices := if type? = some .options then b.choices else none
    url := if type? = some .api then b.url else none }

/-- The link without the ports that nobody looks at. -/
def LinkDefinition.used (f : Flow) (l : LinkDefinition) : LinkDefinition :=
  { l with
    sourcePort := if (f.block? l.source).any Block.usesPorts then l.sourcePort else none
    targetPort := none }

/-- The definition without the parts that make no difference. -/
def Definition.used (names : TypeNames) (d : Definition) : Definition where
  blocks := d.blocks.map fun b => b.used (names.type? b.typeName)
  links := d.links.map (LinkDefinition.used (build names d))

variable {names : TypeNames} {d d' : Definition} {id : Text}

theorem ofDefinition_used (type? : Option BlockType) (b : BlockDefinition) :
    Block.ofDefinition type? (b.used type?) = Block.ofDefinition type? b := by
  rcases type? with _ | type
  · rfl
  · cases type <;> rfl

theorem build_used_blocks (names : TypeNames) (d : Definition) :
    (build names (d.used names)).blocks = (build names d).blocks := by
  have hblock (b : BlockDefinition) :
      Block.ofDefinition (names.type? (b.used (names.type? b.typeName)).typeName)
        (b.used (names.type? b.typeName)) = Block.ofDefinition (names.type? b.typeName) b :=
    ofDefinition_used _ b
  simp only [build, ofParts, Definition.used, List.map_map, Function.comp_def, hblock]

theorem build_used_block? (names : TypeNames) (d : Definition) (id : Text) :
    (build names (d.used names)).block? id = (build names d).block? id := by
  rw [block?_eq_find?, block?_eq_find?, build_used_blocks]

theorem build_used_linksFrom (names : TypeNames) (d : Definition) (id : Text) :
    (build names (d.used names)).linksFrom id =
      ((build names d).linksFrom id).map (LinkDefinition.used (build names d)) := by
  rw [linksFrom_build, linksFrom_build]
  exact List.filter_map

theorem build_used_portTarget? {b : Block} (hblock : (build names d).block? id = some b)
    (hports : b.usesPorts) (port : Text) :
    (build names (d.used names)).portTarget? id port = (build names d).portTarget? id port := by
  have hlinks : (build names (d.used names)).linksFrom id =
      ((build names d).linksFrom id).map fun l => { l with targetPort := none } := by
    rw [build_used_linksFrom]
    refine List.map_congr_left fun l hl => ?_
    obtain rfl : l.source = id := (mem_linksFrom_iff.mp hl).2
    rw [LinkDefinition.used, hblock, Option.any_some, if_pos hports]
  rw [portTarget?, linkOnPort?, hlinks, List.find?_map, Option.map_map]
  rfl

theorem looksAlike_used (names : TypeNames) (d : Definition) (id : Text) :
    (build names d).LooksAlike (build names (d.used names)) id where
  block := (build_used_block? names d id).symm
  targets := by
    rw [build_used_linksFrom, List.map_map]
    rfl
  labels target _ := by rw [text?, text?, build_used_block?]
  ports _ hblock hports port := (build_used_portTarget? hblock hports port).symm

theorem indistinguishable_used (names : TypeNames) (d : Definition) (settings : Settings) :
    (Session.start (build names d) settings).Indistinguishable
      (Session.start (build names (d.used names)) settings) := by
  have hstart : Session.firstStanding (build names d) =
      Session.firstStanding (build names (d.used names)) := by
    rw [Session.firstStanding, Session.firstStanding, startBlocks, startBlocks, build_used_blocks]
  exact Session.indistinguishable_start settings hstart (fun _ _ => trivial)
    (fun id _ => looksAlike_used names d id) fun _ _ _ _ => trivial

/-- **Parts that the types do not use make no difference.** If two definitions are the same
apart from the ports that links lead to, the ports that links leave from at blocks that do not
choose among ports, and whatever the types of their blocks make nothing of, then their
conversations are the same to everybody outside. -/
theorem unused_parts_indistinguishable (settings : Settings)
    (h : d.used names = d'.used names) :
    (Session.start (build names d) settings).Indistinguishable
      (Session.start (build names d') settings) := by
  have hused := indistinguishable_used names d settings
  rw [h] at hused
  exact hused.trans (indistinguishable_used names d' settings).symm

namespace Definition

/-- Asks for a name and branches on it, with parts that its blocks use only. -/
def tidy : Definition where
  blocks := [
    ⟨['s'], BlockType.start.tag, none, none, none, none, none⟩,
    ⟨['q'], BlockType.save.tag, some ['?'], some ['n'], none, none, none⟩,
    ⟨['c'], BlockType.conditional.tag, none, none,
      some [⟨['n'], ['=', '='], .text ['x'], ['A']⟩], none, none⟩,
    ⟨['e'], BlockType.finish.tag, none, none, none, none, none⟩]
  links := [
    ⟨['s'], ['q'], none, none⟩,
    ⟨['q'], ['c'], none, none⟩,
    ⟨['c'], ['e'], some ['A'], none⟩]

/-- The same with parts that nobody looks at. -/
def untidy : Definition where
  blocks := [
    ⟨['s'], BlockType.start.tag, none, some ['v'], some [], some [], some ['u']⟩,
    ⟨['q'], BlockType.save.tag, some ['?'], some ['n'], none, some [⟨['o'], ['A']⟩], some ['u']⟩,
    ⟨['c'], BlockType.conditional.tag, none, some ['v'],
      some [⟨['n'], ['=', '='], .text ['x'], ['A']⟩], none, some ['u']⟩,
    ⟨['e'], BlockType.finish.tag, none, some ['v'], none, some [], none⟩]
  links := [
    ⟨['s'], ['q'], some ['A'], some ['I']⟩,
    ⟨['q'], ['c'], some ['B'], none⟩,
    ⟨['c'], ['e'], some ['A'], some ['I']⟩]

end Definition

theorem untidy_indistinguishable :
    Definition.tidy.used [] = Definition.untidy.used []
      ∧ (Session.start (build [] Definition.tidy) {}).Indistinguishable
        (Session.start (build [] Definition.untidy) {}) := by
  have hused : Definition.tidy.used [] = Definition.untidy.used [] := by decide +kernel
  exact ⟨hused, unused_parts_indistinguishable {} hused⟩

end Dialogue
