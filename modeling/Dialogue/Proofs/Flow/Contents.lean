import Dialogue.Proofs.Flow.Built
import Dialogue.Proofs.Session.Trail

/-!
# What a flow contains

The flow of a definition, told without building it (`Flow.Renders`): one block for each id, in the
order in which the definition comes to the ids first, and made of what it says of them last; the
links as they are; tables with the positions of these, each link in the bucket of the block that
it leaves and in no other; and the start blocks, by which a conversation over the flow begins or
fails (`flow_of_definition`).
-/

namespace Dialogue

/-! ## What a definition says -/

namespace Definition

/-- The ids of the blocks, each where it comes first. -/
def ids (d : Definition) : List Text :=
  (d.blocks.map BlockDefinition.id).eraseDups

/-- The ids at which the last block is a start block. -/
def startIds (names : TypeNames) (d : Definition) : List Text :=
  d.ids.filter fun id =>
    (BlockDefinition.latest? d.blocks id).any fun b => names.type? b.typeName = some .start

end Definition

/-- What the flow of a definition is to contain. -/
structure Flow.Renders (names : TypeNames) (d : Definition) (f : Flow) : Prop where
  distinct : f.Distinct
  /-- Under an id the table of blocks has the position of the block with the id, and no other. -/
  index : ∀ id position, Entries.get? id f.index = some position ↔
    ∃ b, f.blocks[position]? = some b ∧ b.id = id
  /-- The position of a link is in the bucket of its block once, and in no other one. -/
  outgoing : ∀ position l, f.links[position]? = some l → ∀ id,
    ((Entries.get? id f.outgoing).getD []).count position = if l.source = id then 1 else 0
  /-- A bucket has no positions but those of links. -/
  within : ∀ id, ∀ position ∈ (Entries.get? id f.outgoing).getD [], position < f.links.length
  /-- The blocks stand in the order of the first occurrences of their ids. -/
  order : f.blocks.map Block.id = d.ids
  listed : ∀ b ∈ f.blocks, f.block? b.id = some b
  present : ∀ id, (f.block? id).isSome ↔ ∃ b ∈ d.blocks, b.id = id
  /-- At each id is what the last block with the id says. -/
  latest : ∀ before b after, d.blocks = before ++ b :: after →
    (∀ later ∈ after, later.id ≠ b.id) →
      f.block? b.id = some ⟨b.id, b.text, BlockKind.ofDefinition b (names.type? b.typeName)⟩
  links : f.links = d.links
  bucket : ∀ id, f.linksFrom id = d.links.filter fun l => l.source = id
  /-- A link is in the bucket of its block as often as it is defined, and in no other one. -/
  once : ∀ id l, (f.linksFrom id).count l = if l.source = id then d.links.count l else 0
  starts : f.startBlocks.map Block.id = d.startIds names

namespace Flow

variable {names : TypeNames} {d : Definition} {f : Flow}

/-! ## Order -/

theorem eraseDups_concat (ids : List Text) (id : Text) :
    (ids ++ [id]).eraseDups = if id ∈ ids then ids.eraseDups else ids.eraseDups ++ [id] := by
  rw [List.eraseDups_append, List.removeAll, List.filter_singleton]
  by_cases hold : id ∈ ids <;> simp [hold, List.eraseDups_cons]

/-- The ids come in the order in which they come first. -/
theorem ids_ofList (blocks : List Block) :
    (Registry.ofList blocks).blocks.map Block.id = (blocks.map Block.id).eraseDups := by
  -- From the end: the last block comes last if its id is new, and is in its place otherwise.
  induction blocks using List.reverseRecOn with
  | nil => rfl
  | append_singleton blocks block ih =>
      rw [Registry.ofList_concat, (Registry.indexed_ofList blocks).ids_add, ih, List.map_append,
        List.map_singleton, eraseDups_concat]
      simp only [List.mem_eraseDups]

theorem ids_build (names : TypeNames) (d : Definition) :
    (build names d).blocks.map Block.id = d.ids := by
  rw [build, ofParts, ids_ofList, List.map_map]
  rfl

/-! ## Start blocks -/

theorem startIds (f : Flow) :
    f.startBlocks.map Block.id =
      (f.blocks.map Block.id).filter fun id => (f.block? id).any Block.isStart := by
  rw [List.filter_map, startBlocks]
  refine congrArg _ (List.filter_congr fun b hb => ?_)
  rw [Function.comp_apply, block?_of_mem hb, Option.any_some]

theorem startIds_build (names : TypeNames) (d : Definition) :
    (build names d).startBlocks.map Block.id = d.startIds names := by
  rw [startIds, ids_build, Definition.startIds]
  refine List.filter_congr fun id _ => ?_
  rw [block?_build, Option.any_map]
  congr 1
  funext b
  rw [Bool.eq_iff_iff, decide_eq_true_iff]
  exact blockOf_isStart

/-! ## Links -/

theorem count_linksFrom (f : Flow) (id : Text) (l : Link) :
    (f.linksFrom id).count l = if l.source = id then f.links.count l else 0 := by
  rw [linksFrom_eq_filter]
  split
  · next hsource => exact List.count_filter (by simpa using hsource)
  · next hother =>
      refine List.count_eq_zero_of_not_mem fun hl => hother ?_
      simpa using (List.mem_filter.mp hl).2

/-! ## The whole -/

theorem renders_build (names : TypeNames) (d : Definition) : (build names d).Renders names d where
  distinct := distinct (build names d)
  index := (build names d).indexed
  outgoing _ _ := (build names d).bucketed.count_eq
  within id position hposition := by
    obtain ⟨l, hl, -⟩ := (build names d).bucketed.mem_iff.mp hposition
    exact (List.getElem?_eq_some_iff.mp hl).1
  order := ids_build names d
  listed _ := block?_of_mem
  present id := by
    rw [block?_build, Option.isSome_map]
    simp [BlockDefinition.latest?]
  latest before b after hblocks hlast := by
    rw [block?_build, hblocks, latest?_insert, if_pos ⟨rfl, hlast⟩]
    rfl
  links := rfl
  bucket := linksFrom_build names d
  once id l := count_linksFrom (build names d) id l
  starts := startIds_build names d

/-- **The flow of a definition is what the definition says.** A new conversation over it is at the
start block if there is exactly one id whose last block is a start block, and has failed
otherwise, telling how many such ids there are. -/
theorem flow_of_definition (names : TypeNames) (d : Definition) (settings : Settings) :
    (build names d).Renders names d
      ∧ (∀ id, (Session.start (build names d) settings).standing = .running id ↔
          d.startIds names = [id])
      ∧ ((¬ ∃ id, d.startIds names = [id]) →
          (Session.start (build names d) settings).standing =
            .terminated (.failed (.startBlocks (d.startIds names).length))) := by
  have hstarts := startIds_build names d
  have hcount : (build names d).startBlocks.length = (d.startIds names).length := by
    rw [← hstarts, List.length_map]
  refine ⟨renders_build names d, ?_⟩
  unfold Session.start
  by_cases hsingle : (build names d).startBlocks.length = 1
  · obtain ⟨b, hb⟩ := List.length_eq_one_iff.mp hsingle
    have hid : d.startIds names = [b.id] := by rw [← hstarts, hb, List.map_singleton]
    simp [Session.firstStanding_of_single hb, hid]
  · have hnone : ¬ ∃ id, d.startIds names = [id] := by
      rintro ⟨id, hid⟩
      exact hsingle (by rw [hcount, hid, List.length_singleton])
    rw [Session.firstStanding_of_not_single hsingle, hcount]
    refine ⟨fun id => ⟨fun h => ?_, fun h => absurd ⟨id, h⟩ hnone⟩, fun _ => rfl⟩
    cases h

/-- A start block that becomes a message, and a message that becomes a start block; a link that
leaves no block, and two links that are the same. -/
def retyped : Definition where
  blocks := [
    ⟨['a'], BlockType.start.tag, none, none, none, none, none⟩,
    ⟨['b'], BlockType.message.tag, none, none, none, none, none⟩,
    ⟨['a'], BlockType.message.tag, some ['A'], none, none, none, none⟩,
    ⟨['b'], BlockType.start.tag, none, none, none, none, none⟩]
  links := [
    ⟨['b'], ['a'], none, none⟩,
    ⟨['x'], ['a'], none, none⟩,
    ⟨['b'], ['a'], none, none⟩]

theorem retyped_contents :
    (∀ later ∈ retyped.blocks.drop 3, later.id ≠ ['a'])
      ∧ (build [] retyped).block? ['a'] = some ⟨['a'], some ['A'], .message⟩
      ∧ (build [] retyped).blocks.map Block.id = [['a'], ['b']]
      ∧ ((build [] retyped).linksFrom ['b']).count ⟨['b'], ['a'], none, none⟩ = 2
      ∧ (Session.start (build [] retyped) {}).standing = .running ['b']
      ∧ (¬ ∃ id, retyped.startIds [(BlockType.message.tag, .start)] = [id])
      ∧ (Session.start (build [(BlockType.message.tag, .start)] retyped) {}).standing =
          .terminated (.failed (.startBlocks 2)) := by
  have hlater : ∀ later ∈ retyped.blocks.drop 3, later.id ≠ ['a'] := by decide
  have htwo : retyped.startIds [(BlockType.message.tag, .start)] = [['a'], ['b']] := by decide
  have hnone : ¬ ∃ id, retyped.startIds [(BlockType.message.tag, .start)] = [id] := by
    rw [htwo]
    rintro ⟨id, hid⟩
    cases hid
  obtain ⟨hrenders, hrunning, -⟩ := flow_of_definition [] retyped {}
  obtain ⟨-, -, hfailed⟩ := flow_of_definition [(BlockType.message.tag, .start)] retyped {}
  refine ⟨hlater, hrenders.latest (retyped.blocks.take 2) _ _ rfl hlater, ?_, ?_,
    (hrunning ['b']).mpr (by decide), hnone, ?_⟩
  · rw [hrenders.order]
    decide
  · rw [hrenders.once]
    decide
  · rw [hfailed hnone, htwo]
    rfl

end Flow

end Dialogue
