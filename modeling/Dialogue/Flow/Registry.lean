import Dialogue.Entries
import Dialogue.Flow.Block

/-!
# Tables of positions

The blocks of a flow stand in the order in which their ids came first, and its links in
that of the definition. Both are found by tables: one gives the position of the block
with an id (`Registry.index`), the other the positions of the links that leave a block
(`outgoing`).

The tables are made in two loops. A block with an id of its own is put at the end; one
with an id that has come before takes the place of the block that has it. The position
of a link is put behind those of the links that leave the same block. What the tables say
at any time is `Registry.Indexed` and `Bucketed`; one round of a loop keeps it.
-/

namespace Dialogue

/-! ## Blocks -/

/-- Blocks, and a table of their positions by id. -/
structure Registry where
  blocks : List Block := []
  index : Entries Nat := []
  deriving DecidableEq, Repr

namespace Registry

/-- Puts a block in the place of the one with its id, or at the end. -/
def add (r : Registry) (block : Block) : Registry :=
  match Entries.get? block.id r.index with
  | some existing => { r with blocks := r.blocks.set existing block }
  | none => ⟨r.blocks ++ [block], Entries.put block.id r.blocks.length r.index⟩

/-- The blocks of a list, put in one after another. -/
def ofList (blocks : List Block) : Registry :=
  blocks.foldl add {}

/-- The block with an id. -/
def block? (r : Registry) (id : Text) : Option Block :=
  (Entries.get? id r.index).bind fun position => r.blocks[position]?

/-- Under an id is the position of the block that has it, and nothing if none has. -/
def Indexed (r : Registry) : Prop :=
  ∀ id position, Entries.get? id r.index = some position ↔
    ∃ b, r.blocks[position]? = some b ∧ b.id = id

variable {r : Registry} {block : Block}

theorem add_some {existing : Nat} (h : Entries.get? block.id r.index = some existing) :
    r.add block = { r with blocks := r.blocks.set existing block } := by
  rw [add, h]

theorem add_none (h : Entries.get? block.id r.index = none) :
    r.add block = ⟨r.blocks ++ [block], Entries.put block.id r.blocks.length r.index⟩ := by
  rw [add, h]

/-- A position in the table is that of a block. -/
theorem Indexed.lt (h : r.Indexed) {id : Text} {position : Nat}
    (hposition : Entries.get? id r.index = some position) : position < r.blocks.length := by
  obtain ⟨b, hb, -⟩ := (h id position).mp hposition
  exact (List.getElem?_eq_some_iff.mp hb).1

/-- A block has no id but the one that its position is found under. -/
theorem Indexed.id_eq (h : r.Indexed) {id : Text} {position : Nat} {b : Block}
    (hposition : Entries.get? id r.index = some position) (hb : r.blocks[position]? = some b) :
    b.id = id := by
  obtain ⟨c, hc, hid⟩ := (h id position).mp hposition
  rwa [Option.some.inj (hc.symm.trans hb)] at hid

theorem Indexed.id_ne (h : r.Indexed) {id : Text} {b : Block}
    (hnew : Entries.get? id r.index = none) (hb : b ∈ r.blocks) : b.id ≠ id := by
  intro hid
  obtain ⟨position, hposition⟩ := List.mem_iff_getElem?.mp hb
  have hsome := (h id position).mpr ⟨b, hposition, hid⟩
  rw [hnew] at hsome
  cases hsome

/-- The new block has the id of the one that was in its place. -/
theorem Indexed.overwrite (h : r.Indexed) {existing : Nat}
    (hexisting : Entries.get? block.id r.index = some existing) :
    Indexed { r with blocks := r.blocks.set existing block } := by
  intro id position
  rw [h id position, List.getElem?_set]
  split
  · next hposition =>
    subst hposition
    obtain ⟨old, hold, hsame⟩ := (h block.id existing).mp hexisting
    rw [hold, if_pos (h.lt hexisting)]
    simp [hsame]
  · rfl

theorem getElem?_push {blocks : List Block} {b : Block} {position : Nat} :
    (blocks ++ [block])[position]? = some b ↔
      blocks[position]? = some b ∨ position = blocks.length ∧ block = b := by
  rcases Nat.lt_trichotomy position blocks.length with hlt | rfl | hgt
  · simp [List.getElem?_append_left hlt, Nat.ne_of_lt hlt]
  · simp
  · simp [List.getElem?_append_right (Nat.le_of_lt hgt), Nat.ne_of_gt hgt, Nat.le_of_lt hgt,
      Nat.sub_ne_zero_of_lt hgt]

/-- No block has the id of the new one, so no position moves. -/
theorem Indexed.push (h : r.Indexed) (hnew : Entries.get? block.id r.index = none) :
    Indexed ⟨r.blocks ++ [block], Entries.put block.id r.blocks.length r.index⟩ := by
  intro id position
  simp only [getElem?_push]
  by_cases hid : id = block.id
  · subst hid
    rw [Entries.get?_put_self, Option.some_inj]
    constructor
    · rintro rfl
      exact ⟨block, .inr ⟨rfl, rfl⟩, rfl⟩
    · rintro ⟨b, hb | ⟨hposition, -⟩, hsame⟩
      · exact absurd hsame (h.id_ne hnew (List.mem_of_getElem? hb))
      · exact hposition.symm
  · rw [Entries.get?_put_of_ne hid, h id position]
    refine exists_congr fun b => and_congr_left fun hb => (or_iff_left ?_).symm
    rintro ⟨-, rfl⟩
    exact hid hb.symm

theorem Indexed.add (h : r.Indexed) (block : Block) : (r.add block).Indexed := by
  cases hfound : Entries.get? block.id r.index with
  | some existing =>
    rw [add_some hfound]
    exact h.overwrite hfound
  | none =>
    rw [add_none hfound]
    exact h.push hfound

/-- **After any blocks the table gives their positions.** -/
theorem indexed_ofList (blocks : List Block) : (ofList blocks).Indexed := by
  suffices h : ∀ r : Registry, r.Indexed → (blocks.foldl Registry.add r).Indexed from
    h {} fun _ _ => by simp [Entries.get?]
  induction blocks with
  | nil => exact fun _ h => h
  | cons block blocks ih => exact fun r h => ih _ (h.add block)

end Registry

/-! ## Links -/

/-- A link from one block to another. -/
abbrev Link := LinkDefinition

/-- Puts the position of a link behind those of the links that leave the same block. -/
def enterLink (outgoing : Entries (List Nat)) (entry : Link × Nat) : Entries (List Nat) :=
  let bucket := (Entries.get? entry.1.source outgoing).getD []
  Entries.put entry.1.source (bucket ++ [entry.2]) outgoing

/-- The positions of links, by the block that they leave. -/
def outgoingOf (links : List Link) : Entries (List Nat) :=
  links.zipIdx.foldl enterLink []

/-- Under an id are the positions of the links that leave it, in ascending order. -/
def Bucketed (links : List Link) (outgoing : Entries (List Nat)) : Prop :=
  ∀ id, (Entries.get? id outgoing).getD [] =
    (links.zipIdx.filter fun entry => entry.1.source = id).map Prod.snd

theorem Bucketed.enterLink {links : List Link} {outgoing : Entries (List Nat)}
    (h : Bucketed links outgoing) (link : Link) :
    Bucketed (links ++ [link]) (Dialogue.enterLink outgoing (link, links.length)) := by
  intro id
  rw [List.zipIdx_append, List.filter_append, List.map_append, ← h id, Dialogue.enterLink]
  by_cases hid : link.source = id
  · subst hid
    simp
  · rw [Entries.get?_put_of_ne (Ne.symm hid)]
    simp [hid]

/-- **After any links the table gives their positions.** -/
theorem bucketed_outgoingOf (links : List Link) : Bucketed links (outgoingOf links) := by
  -- The induction is on the links to come, behind those that have been entered.
  suffices h : ∀ before outgoing, Bucketed before outgoing →
      Bucketed (before ++ links) ((links.zipIdx before.length).foldl enterLink outgoing) from
    h [] [] fun _ => rfl
  induction links with
  | nil =>
    intro before outgoing h
    rwa [List.append_nil]
  | cons link links ih =>
    intro before outgoing h
    have hnext := ih (before ++ [link]) _ (h.enterLink link)
    rw [List.length_append, List.append_assoc] at hnext
    exact hnext

end Dialogue
