import Mathlib.Data.List.Induction
import Mathlib.Data.List.Nodup
import Dialogue.Flow.Basic

/-!
# What building makes of a definition

A flow finds its blocks and links by tables of positions. As these agree with what they
index, it finds what a search would find: the block with an id (`block?_eq_find?`) and the
links that leave it (`linksFrom_eq_filter`).

The flow of a definition has one block for each id of the definition, made of the last
block that the definition gives with the id (`block?_build`). So what it has at an id does
not depend on where in the definition that block is, nor on earlier ones with the id.
-/

namespace Dialogue

/-- The last block with an id. -/
def BlockDefinition.latest? (blocks : List BlockDefinition) (id : Text) :
    Option BlockDefinition :=
  (blocks.filter fun b => b.id = id).getLast?

/-! ## One round -/

namespace Registry

variable {r : Registry} {id : Text}

theorem Indexed.block?_eq_some_iff (h : r.Indexed) {b : Block} :
    r.block? id = some b ↔ b ∈ r.blocks ∧ b.id = id := by
  rw [block?, Option.bind_eq_some_iff]
  constructor
  · rintro ⟨position, hposition, hb⟩
    exact ⟨List.mem_of_getElem? hb, h.id_eq hposition hb⟩
  · rintro ⟨hmem, hid⟩
    obtain ⟨position, hb⟩ := List.mem_iff_getElem?.mp hmem
    exact ⟨position, (h id position).mpr ⟨b, hb, hid⟩, hb⟩

/-- A block that is put in is found under its id, and every other block where it was. -/
theorem Indexed.block?_add (h : r.Indexed) (block : Block) (id : Text) :
    (r.add block).block? id = if block.id = id then some block else r.block? id := by
  cases hfound : Entries.get? block.id r.index with
  | some existing =>
      rw [add_some hfound, block?, block?]
      split
      · next hid =>
          rw [← hid, hfound]
          exact List.getElem?_set_self (h.lt hfound)
      · next hother =>
          refine Option.bind_congr fun position hposition => List.getElem?_set_ne ?_
          -- Two ids have not the same position.
          rintro rfl
          obtain ⟨b, hb, hid⟩ := (h id existing).mp hposition
          exact hother ((h.id_eq hfound hb).symm.trans hid)
  | none =>
      rw [add_none hfound, block?, block?]
      split
      · next hid =>
          rw [← hid, Entries.get?_put_self]
          exact List.getElem?_concat_length
      · next hother =>
          rw [Entries.get?_put_of_ne (Ne.symm hother)]
          exact Option.bind_congr fun position hposition =>
            List.getElem?_append_left (h.lt hposition)

/-- A block that is put in keeps the order of the ids; its own comes last if it is new. -/
theorem Indexed.ids_add (h : r.Indexed) (block : Block) :
    (r.add block).blocks.map Block.id =
      if block.id ∈ r.blocks.map Block.id then r.blocks.map Block.id
      else r.blocks.map Block.id ++ [block.id] := by
  cases hfound : Entries.get? block.id r.index with
  | some existing =>
      obtain ⟨old, hold, hid⟩ := (h block.id existing).mp hfound
      have hmem : block.id ∈ r.blocks.map Block.id :=
        List.mem_map.mpr ⟨old, List.mem_of_getElem? hold, hid⟩
      have hsame : (r.blocks.map Block.id)[existing]? = some block.id := by
        rw [List.getElem?_map, hold, Option.map_some, hid]
      rw [add_some hfound, if_pos hmem, List.map_set]
      obtain ⟨hlt, hid'⟩ := List.getElem?_eq_some_iff.mp hsame
      rw [← hid']
      exact List.set_getElem_self hlt
  | none =>
      have hnew : block.id ∉ r.blocks.map Block.id := by
        intro hmem
        obtain ⟨old, hold, hid⟩ := List.mem_map.mp hmem
        exact h.id_ne hfound hold hid
      rw [add_none hfound, if_neg hnew, List.map_append, List.map_singleton]

theorem ofList_concat (blocks : List Block) (block : Block) :
    ofList (blocks ++ [block]) = (ofList blocks).add block := by
  rw [ofList, List.foldl_append]
  rfl

/-- The last block with an id is found. -/
theorem block?_ofList (blocks : List Block) (id : Text) :
    (ofList blocks).block? id = (blocks.filter fun b => b.id = id).getLast? := by
  -- From the end: the block that is put in last is looked at first.
  induction blocks using List.reverseRecOn with
  | nil => rfl
  | append_singleton blocks block ih =>
      rw [ofList_concat, (indexed_ofList blocks).block?_add, ih, List.filter_append]
      by_cases hid : block.id = id <;> simp [hid]

end Registry

/-! ## Buckets -/

namespace Bucketed

variable {links : List Link} {outgoing : Entries (List Nat)} {id : Text} {position : Nat}

theorem mem_iff (h : Bucketed links outgoing) :
    position ∈ (Entries.get? id outgoing).getD [] ↔
      ∃ link, links[position]? = some link ∧ link.source = id := by
  rw [h id, List.mem_map]
  constructor
  · rintro ⟨⟨link, _⟩, hentry, rfl⟩
    obtain ⟨hlink, hsource⟩ := List.mem_filter.mp hentry
    exact ⟨link, List.mem_zipIdx_iff_getElem?.mp hlink, of_decide_eq_true hsource⟩
  · rintro ⟨link, hlink, hsource⟩
    exact ⟨(link, position),
      List.mem_filter.mpr ⟨List.mem_zipIdx_iff_getElem?.mpr hlink, decide_eq_true hsource⟩, rfl⟩

theorem nodup (h : Bucketed links outgoing) (id : Text) :
    ((Entries.get? id outgoing).getD []).Nodup := by
  rw [h id]
  refine List.Nodup.sublist (List.filter_sublist.map Prod.snd) ?_
  rw [List.zipIdx_map_snd]
  exact List.nodup_range'

/-- The position of a link is in the bucket of the block that it leaves once, and in no
other one. -/
theorem count_eq (h : Bucketed links outgoing) {link : Link}
    (hlink : links[position]? = some link) (id : Text) :
    ((Entries.get? id outgoing).getD []).count position = if link.source = id then 1 else 0 := by
  rw [(h.nodup id).count]
  refine if_congr ?_ rfl rfl
  rw [h.mem_iff, hlink]
  simp

end Bucketed

namespace Flow

variable {names : TypeNames} {d : Definition} {f g : Flow} {id : Text}

/-! ## Looking up -/

theorem block?_eq_some_iff {b : Block} : f.block? id = some b ↔ b ∈ f.blocks ∧ b.id = id :=
  f.indexed.block?_eq_some_iff

theorem id_of_block? {b : Block} (h : f.block? id = some b) : b.id = id :=
  (block?_eq_some_iff.mp h).2

theorem mem_of_block? {b : Block} (h : f.block? id = some b) : b ∈ f.blocks :=
  (block?_eq_some_iff.mp h).1

theorem block?_of_mem {b : Block} (h : b ∈ f.blocks) : f.block? b.id = some b :=
  block?_eq_some_iff.mpr ⟨h, rfl⟩

theorem not_mem_of_block? (h : f.block? id = none) : ∀ b ∈ f.blocks, b.id ≠ id := by
  rintro b hb rfl
  rw [block?_of_mem hb] at h
  cases h

/-- **The table of blocks finds the first block with an id.** No other one has it. -/
theorem block?_eq_find? (f : Flow) (id : Text) :
    f.block? id = f.blocks.find? fun b => b.id = id := by
  cases hfound : f.blocks.find? fun b => b.id = id with
  | none =>
      refine Option.eq_none_iff_forall_ne_some.mpr fun b hb => ?_
      have hother := List.find?_eq_none.mp hfound b (mem_of_block? hb)
      simp [id_of_block? hb] at hother
  | some b =>
      have hid : b.id = id := by simpa using List.find?_some hfound
      exact block?_eq_some_iff.mpr ⟨List.mem_of_find?_eq_some hfound, hid⟩

/-- **The table of links finds the links that leave a block**, in their order. -/
theorem linksFrom_eq_filter (f : Flow) (id : Text) :
    f.linksFrom id = f.links.filter fun l => l.source = id := by
  let leaving := f.links.zipIdx.filter fun entry => entry.1.source = id
  have hposition : ∀ entry ∈ leaving, f.links[entry.2]? = some entry.1 :=
    fun entry hentry => List.mem_zipIdx_iff_getElem?.mp (List.mem_filter.mp hentry).1
  calc f.linksFrom id
      = leaving.filterMap fun entry => f.links[entry.2]? := by
        rw [linksFrom, f.bucketed id, List.filterMap_map]
        rfl
    _ = leaving.map Prod.fst := List.filterMap_eq_map_iff_forall_eq_some.mpr hposition
    _ = (f.links.zipIdx.map Prod.fst).filter fun l => l.source = id := by
        rw [List.filter_map]
        rfl
    _ = f.links.filter fun l => l.source = id := by rw [List.zipIdx_map_fst]

theorem mem_linksFrom_iff {l : Link} : l ∈ f.linksFrom id ↔ l ∈ f.links ∧ l.source = id := by
  rw [linksFrom_eq_filter, List.mem_filter, decide_eq_true_iff]

/-! ## Building -/

/-- The block that a flow has of a definition. -/
def blockOf (names : TypeNames) (b : BlockDefinition) : Block :=
  Block.ofDefinition (names.type? b.typeName) b

theorem blockOf_isStart {b : BlockDefinition} :
    (blockOf names b).isStart ↔ names.type? b.typeName = some .start := by
  refine decide_eq_true_iff.trans ?_
  simp only [blockOf, Block.ofDefinition]
  rcases names.type? b.typeName with _ | type
  · simp [BlockKind.ofDefinition]
  · cases type <;> simp [BlockKind.ofDefinition]

/-- **The last block with an id is the one that counts.** -/
theorem block?_build (names : TypeNames) (d : Definition) (id : Text) :
    (build names d).block? id = (BlockDefinition.latest? d.blocks id).map (blockOf names) := by
  rw [block?, build, ofParts, Registry.block?_ofList, BlockDefinition.latest?, List.filter_map,
    List.getLast?_map]
  rfl

theorem linksFrom_build (names : TypeNames) (d : Definition) (id : Text) :
    (build names d).linksFrom id = d.links.filter fun l => l.source = id :=
  linksFrom_eq_filter (build names d) id

/-- A block between others changes only what counts for its id, and only if no later one has
the id. -/
theorem latest?_insert (before after : List BlockDefinition) (b : BlockDefinition) (id : Text) :
    BlockDefinition.latest? (before ++ b :: after) id =
      if b.id = id ∧ ∀ later ∈ after, later.id ≠ id then some b
      else BlockDefinition.latest? (before ++ after) id := by
  simp only [BlockDefinition.latest?, List.filter_append]
  by_cases hid : b.id = id
  · rw [List.filter_cons_of_pos (by simpa using hid)]
    by_cases hlast : ∀ later ∈ after, later.id ≠ id
    · have hnone : (after.filter fun b => b.id = id) = [] := by simpa using hlast
      rw [if_pos ⟨hid, hlast⟩, hnone, List.getLast?_append_cons, List.getLast?_singleton]
    · obtain ⟨later, rest, hlater⟩ := List.exists_cons_of_ne_nil
        (show (after.filter fun b => b.id = id) ≠ [] by simpa using hlast)
      rw [if_neg fun h => hlast h.2, hlater, List.getLast?_append_cons,
        List.getLast?_append_cons, List.getLast?_cons_cons]
  · rw [List.filter_cons_of_neg (by simpa using hid), if_neg fun h => hid h.1]

/-! ## Start blocks -/

/-- The block with the id is a start block. -/
def StartsAt (f : Flow) (id : Text) : Prop :=
  ∃ b, f.block? id = some b ∧ b.isStart

/-- No two blocks of the flow have the same id. -/
def Distinct (f : Flow) : Prop :=
  (f.blocks.map Block.id).Nodup

theorem distinct (f : Flow) : f.Distinct := by
  refine List.nodup_iff_getElem?_ne_getElem?.mpr fun i j hlt hj hsame => ?_
  rw [List.length_map] at hj
  have hb : f.blocks[j]? = some f.blocks[j] := List.getElem?_eq_getElem hj
  rw [List.getElem?_map, List.getElem?_map, hb] at hsame
  obtain ⟨b, hi, hid⟩ := Option.map_eq_some_iff.mp hsame
  have hposition := (f.indexed f.blocks[j].id i).mpr ⟨b, hi, hid⟩
  rw [(f.indexed f.blocks[j].id j).mpr ⟨_, hb, rfl⟩] at hposition
  exact absurd (Option.some.inj hposition) (Nat.ne_of_gt hlt)

theorem mem_startIds : id ∈ f.startBlocks.map Block.id ↔ f.StartsAt id := by
  simp only [startBlocks, List.mem_map, List.mem_filter]
  constructor
  · rintro ⟨b, ⟨hb, hstart⟩, rfl⟩
    exact ⟨b, block?_of_mem hb, hstart⟩
  · rintro ⟨b, hb, hstart⟩
    exact ⟨b, ⟨mem_of_block? hb, hstart⟩, id_of_block? hb⟩

/-- Flows that have start blocks at the same ids have as many of them. -/
theorem startIds_perm (h : ∀ id, f.StartsAt id ↔ g.StartsAt id) :
    (f.startBlocks.map Block.id).Perm (g.startBlocks.map Block.id) := by
  have hnodup (f : Flow) : (f.startBlocks.map Block.id).Nodup :=
    f.distinct.sublist (List.filter_sublist.map _)
  refine (List.perm_ext_iff_of_nodup (hnodup f) (hnodup g)).mpr fun id => ?_
  rw [mem_startIds, mem_startIds, h]

end Flow

end Dialogue
