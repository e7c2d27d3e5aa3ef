import Mathlib.Logic.Relation
import Dialogue.Proofs.Flow.Built
import Dialogue.Proofs.Session.Beside

/-!
# What conversations can come to

A conversation comes only to ids that links lead to from the start block. What it shows
depends on the blocks at these ids and on the links that leave them, and on nothing else in
the flow (`indistinguishable_of_agree`): the menus it shows have the texts of blocks that
links lead to, and these are at ids that it can come to, too.

So there are changes of a definition that nobody hears of (`Unheard`): blocks and links in
another order, blocks that later ones take the place of, and whatever is out of reach.
-/

namespace Dialogue

namespace Flow

variable {f g : Flow} {names : TypeNames} {d d' : Definition} {id : Text}

/-- Links lead to the id from a start block, one after another. -/
def Reachable (f : Flow) (id : Text) : Prop :=
  ∃ start ∈ f.startBlocks, Relation.ReflTransGen f.Joined start.id id

/-- The block with the id and the links that leave it are the same in both flows. -/
structure Agrees (f g : Flow) (id : Text) : Prop where
  block : f.block? id = g.block? id
  links : f.linksFrom id = g.linksFrom id

theorem Reachable.joined {target : Text} (h : f.Reachable id) (hjoined : f.Joined id target) :
    f.Reachable target := by
  obtain ⟨start, hstart, hpath⟩ := h
  exact ⟨start, hstart, hpath.tail hjoined⟩

/-- Ids that links never lead out of hold whatever can be come to from one of them. -/
theorem mem_of_joined {ids : List Text} {first : Text} (hfirst : first ∈ ids)
    (hclosed : ∀ id ∈ ids, ∀ link ∈ f.linksFrom id, link.target ∈ ids)
    (h : Relation.ReflTransGen f.Joined first id) : id ∈ ids := by
  induction h with
  | refl => exact hfirst
  | tail _ hjoined ih =>
      obtain ⟨link, hlink, rfl⟩ := hjoined
      exact hclosed _ ih link hlink

theorem not_reachable {ids : List Text} (hstarts : ∀ b ∈ f.startBlocks, b.id ∈ ids)
    (hclosed : ∀ id ∈ ids, ∀ link ∈ f.linksFrom id, link.target ∈ ids) (hid : id ∉ ids) :
    ¬ f.Reachable id := by
  rintro ⟨start, hstart, h⟩
  exact hid (mem_of_joined (hstarts start hstart) hclosed h)

theorem looksAlike_of_agrees (h : f.Agrees g id)
    (htargets : ∀ target, f.Joined id target → f.Agrees g target) : f.LooksAlike g id where
  block := h.block
  targets := by rw [h.links]
  labels target hjoined := by rw [text?, text?, (htargets target hjoined).block]
  ports b _ _ port := by rw [portTarget?, portTarget?, linkOnPort?, linkOnPort?, h.links]

end Flow

namespace Session

open Dialogue.Flow

variable {f g : Flow} {id : Text}

theorem firstStanding_of_perm
    (h : (f.startBlocks.map Block.id).Perm (g.startBlocks.map Block.id)) :
    firstStanding f = firstStanding g := by
  have hlength : f.startBlocks.length = g.startBlocks.length := by simpa using h.length_eq
  by_cases hsingle : f.startBlocks.length = 1
  · obtain ⟨b, hb⟩ := List.length_eq_one_iff.mp hsingle
    obtain ⟨c, hc⟩ := List.length_eq_one_iff.mp (hlength ▸ hsingle)
    have hid : b.id = c.id := by simpa [hb, hc] using h
    rw [firstStanding_of_single hb, firstStanding_of_single hc, hid]
  · rw [firstStanding_of_not_single hsingle,
      firstStanding_of_not_single fun h => hsingle (hlength.trans h), hlength]

theorem reachable_of_position {settings : Settings}
    (h : (Session.start f settings).position = .ok id) : f.Reachable id := by
  by_cases hsingle : f.startBlocks.length = 1
  · obtain ⟨b, hb⟩ := List.length_eq_one_iff.mp hsingle
    rw [position, Session.start, firstStanding_of_single hb] at h
    obtain rfl : b.id = id := Except.ok.inj h
    exact ⟨b, hb ▸ List.mem_singleton_self b, .refl⟩
  · rw [position_of_standing (firstStanding_of_not_single hsingle)] at h
    cases h

/-- **Only what can be come to counts.** -/
theorem indistinguishable_of_agree (settings : Settings)
    (hstart : firstStanding f = firstStanding g)
    (hagree : ∀ id, f.Reachable id → f.Agrees g id) :
    (Session.start f settings).Indistinguishable (Session.start g settings) := by
  refine indistinguishable_start settings hstart (fun _ => reachable_of_position)
    (fun id hid => ?_) fun _ _ => Reachable.joined
  exact looksAlike_of_agrees (hagree id hid) fun target hjoined => hagree _ (hid.joined hjoined)

end Session

/-! ## Changes that nobody hears of -/

open Dialogue.Flow

variable {names : TypeNames} {d d' : Definition} {f g : Flow} {id : Text}

/-- Changes of a definition that make no difference to the conversations over its flow. Read
backwards, they take away what they add; a block that gets another id is one block less and one
block more. -/
inductive Unheard (names : TypeNames) : Definition → Definition → Prop
  /-- Blocks change places with blocks that have other ids. -/
  | blocksReordered {blocks blocks' links}
    (h : ∀ id, (blocks.filter fun b => b.id = id) = blocks'.filter fun b => b.id = id) :
    Unheard names ⟨blocks, links⟩ ⟨blocks', links⟩
  /-- Links change places with links that leave other blocks. -/
  | linksReordered {blocks links links'}
    (h : ∀ id, (links.filter fun l => l.source = id) = links'.filter fun l => l.source = id) :
    Unheard names ⟨blocks, links⟩ ⟨blocks, links'⟩
  /-- A block goes in before one that takes its place. -/
  | overridden {before after links} (b : BlockDefinition) (h : ∃ later ∈ after, later.id = b.id) :
    Unheard names ⟨before ++ after, links⟩ ⟨before ++ b :: after, links⟩
  /-- A block goes in where no conversation comes. -/
  | blockAdded {before after links} (b : BlockDefinition)
    (htype : names.type? b.typeName ≠ some .start)
    (hreach : ¬ (build names ⟨before ++ after, links⟩).Reachable b.id) :
    Unheard names ⟨before ++ after, links⟩ ⟨before ++ b :: after, links⟩
  /-- A block becomes another one with its id where no conversation comes. -/
  | blockEdited {before after links} (b b' : BlockDefinition) (hid : b.id = b'.id)
    (htype : names.type? b.typeName ≠ some .start)
    (htype' : names.type? b'.typeName ≠ some .start)
    (hreach : ¬ (build names ⟨before ++ b :: after, links⟩).Reachable b.id) :
    Unheard names ⟨before ++ b :: after, links⟩ ⟨before ++ b' :: after, links⟩
  /-- A link leaves a block that no conversation comes to. -/
  | linkAdded {blocks before after} (l : LinkDefinition)
    (hreach : ¬ (build names ⟨blocks, before ++ after⟩).Reachable l.source) :
    Unheard names ⟨blocks, before ++ after⟩ ⟨blocks, before ++ l :: after⟩
  /-- A link becomes another one, and both leave blocks that no conversation comes to. -/
  | linkEdited {blocks before after} (l l' : LinkDefinition)
    (hreach : ¬ (build names ⟨blocks, before ++ l :: after⟩).Reachable l.source)
    (hreach' : ¬ (build names ⟨blocks, before ++ l :: after⟩).Reachable l'.source) :
    Unheard names ⟨blocks, before ++ l :: after⟩ ⟨blocks, before ++ l' :: after⟩

/-- Blocks with ids of their own may come in any order. -/
theorem Unheard.of_perm {blocks blocks' : List BlockDefinition} {links : List LinkDefinition}
    (hperm : blocks.Perm blocks') (hids : (blocks.map BlockDefinition.id).Nodup) :
    Unheard names ⟨blocks, links⟩ ⟨blocks', links⟩ := by
  refine .blocksReordered fun id => ?_
  have hfilter := hperm.filter fun b => b.id = id
  -- There is one block with the id at most.
  rcases hblocks : blocks.filter fun b => b.id = id with _ | ⟨b, _ | ⟨c, rest⟩⟩
  · rw [hblocks] at hfilter
    exact hblocks.trans hfilter.nil_eq
  · rw [hblocks] at hfilter
    exact hblocks.trans (List.singleton_perm.mp hfilter)
  · have hsame : ∀ x ∈ b :: c :: rest, x.id = id := by
      rw [← hblocks]
      simp
    have hsub : (b :: c :: rest).Sublist blocks := hblocks ▸ List.filter_sublist
    have hnodup := hids.sublist (hsub.map BlockDefinition.id)
    rw [List.map_cons, List.map_cons, hsame b (by simp), hsame c (by simp)] at hnodup
    exact absurd List.mem_cons_self (List.nodup_cons.mp hnodup).1

/-- What the first flow has within reach the second one has too, and where the blocks are not
the same, the second one has no start block. -/
structure Flow.Spares (f g : Flow) : Prop where
  links : ∀ id, f.Reachable id → f.linksFrom id = g.linksFrom id
  blocks : ∀ id, f.block? id = g.block? id ∨ ¬ f.Reachable id ∧ ¬ g.StartsAt id

theorem Flow.reachable_of_startsAt (h : f.StartsAt id) : f.Reachable id := by
  obtain ⟨start, hstart, rfl⟩ := List.mem_map.mp (mem_startIds.mpr h)
  exact ⟨start, hstart, .refl⟩

theorem Flow.Spares.startsAt_iff (h : f.Spares g) (id : Text) :
    f.StartsAt id ↔ g.StartsAt id := by
  rcases h.blocks id with hblock | ⟨hreach, hstart⟩
  · rw [StartsAt, StartsAt, hblock]
  · exact iff_of_false (fun h => hreach (reachable_of_startsAt h)) hstart

theorem Flow.Spares.agrees (h : f.Spares g) (hid : f.Reachable id) : f.Agrees g id where
  block := (h.blocks id).resolve_right fun hout => hout.1 hid
  links := h.links id hid

theorem not_startsAt_of_latest {b : BlockDefinition}
    (hlatest : BlockDefinition.latest? d.blocks id = some b)
    (htype : names.type? b.typeName ≠ some .start) : ¬ (build names d).StartsAt id := by
  rintro ⟨c, hc, hstart⟩
  rw [block?_build, hlatest] at hc
  cases hc
  exact htype (blockOf_isStart.mp hstart)

theorem block?_build_congr
    (h : BlockDefinition.latest? d.blocks id = BlockDefinition.latest? d'.blocks id) :
    (build names d).block? id = (build names d').block? id := by
  rw [block?_build, block?_build, h]

theorem Unheard.spares (h : Unheard names d d') : (build names d).Spares (build names d') := by
  cases h with
  | blocksReordered hsame =>
      refine ⟨fun _ _ => rfl, fun id => .inl (block?_build_congr ?_)⟩
      rw [BlockDefinition.latest?, BlockDefinition.latest?, hsame]
  | linksReordered hsame =>
      refine ⟨fun id _ => ?_, fun id => .inl rfl⟩
      rw [linksFrom_build, linksFrom_build]
      exact hsame id
  | @overridden before after links b hlater =>
      refine ⟨fun _ _ => rfl, fun id => .inl (block?_build_congr ?_)⟩
      obtain ⟨later, hmem, hid⟩ := hlater
      rw [latest?_insert, if_neg]
      rintro ⟨rfl, hnone⟩
      exact hnone later hmem hid
  | @blockAdded before after links b htype hreach =>
      refine ⟨fun _ _ => rfl, fun id => ?_⟩
      have hlatest := latest?_insert before after b id
      split at hlatest
      · next hlast =>
          obtain ⟨rfl, -⟩ := hlast
          exact .inr ⟨hreach, not_startsAt_of_latest hlatest htype⟩
      · exact .inl (block?_build_congr hlatest.symm)
  | @blockEdited before after links b b' hid htype htype' hreach =>
      refine ⟨fun _ _ => rfl, fun id => ?_⟩
      have hlatest := latest?_insert before after b id
      have hlatest' := latest?_insert before after b' id
      rw [← hid] at hlatest'
      split at hlatest
      · next hlast =>
          rw [if_pos hlast] at hlatest'
          obtain ⟨rfl, -⟩ := hlast
          exact .inr ⟨hreach, not_startsAt_of_latest hlatest' htype'⟩
      · next hlast =>
          rw [if_neg hlast] at hlatest'
          exact .inl (block?_build_congr (hlatest.trans hlatest'.symm))
  | @linkAdded blocks before after l hreach =>
      refine ⟨fun id hid => ?_, fun id => .inl rfl⟩
      have hother : l.source ≠ id := fun h => hreach (h ▸ hid)
      simp [linksFrom_build, hother]
  | @linkEdited blocks before after l l' hreach hreach' =>
      refine ⟨fun id hid => ?_, fun id => .inl rfl⟩
      have hother : l.source ≠ id := fun h => hreach (h ▸ hid)
      have hother' : l'.source ≠ id := fun h => hreach' (h ▸ hid)
      simp [linksFrom_build, hother, hother']

theorem Unheard.indistinguishable (h : Unheard names d d') (settings : Settings) :
    (Session.start (build names d) settings).Indistinguishable
      (Session.start (build names d') settings) := by
  have hspares := h.spares
  have hstarts := startIds_perm hspares.startsAt_iff
  exact Session.indistinguishable_of_agree settings (Session.firstStanding_of_perm hstarts)
    fun _ => hspares.agrees

/-- **What no conversation comes to makes no difference.** Let the flows of two definitions have
one start block each, at the same id, and let them agree on the block and on the links, in their
order, at every id that links lead to from there. Then their conversations are the same to
everybody outside, whatever the type names mean in either. So they are if the type names mean
the same and one definition becomes the other one by changes that nobody hears of. -/
theorem conversations_depend_on_reach (settings : Settings) :
    (∀ (names names' : TypeNames) (d d' : Definition) (first second : Block),
        (build names d).startBlocks = [first] → (build names' d').startBlocks = [second] →
        first.id = second.id →
        (∀ id, Relation.ReflTransGen (build names d).Joined first.id id →
          (build names d).Agrees (build names' d') id) →
        (Session.start (build names d) settings).Indistinguishable
          (Session.start (build names' d') settings))
      ∧ ∀ (names : TypeNames) (d d' : Definition), Relation.EqvGen (Unheard names) d d' →
        (Session.start (build names d) settings).Indistinguishable
          (Session.start (build names d') settings) := by
  refine ⟨fun names names' d d' first second hfirst hsecond hid hagree => ?_,
    fun names d d' h => ?_⟩
  · refine Session.indistinguishable_of_agree settings ?_ fun id hreach => ?_
    · rw [Session.firstStanding_of_single hfirst, Session.firstStanding_of_single hsecond, hid]
    · obtain ⟨start, hstart, hpath⟩ := hreach
      rw [hfirst, List.mem_singleton] at hstart
      exact hagree id (hstart ▸ hpath)
  · induction h with
    | rel _ _ hchange => exact hchange.indistinguishable settings
    | refl => exact fun _ _ _ => rfl
    | symm _ _ _ ih => exact ih.symm
    | trans _ _ _ _ _ ih ih' => exact ih.trans ih'

namespace Definition

/-- Says one thing and ends. -/
def plain : Definition where
  blocks := [
    ⟨['s'], BlockType.start.tag, none, none, none, none, none⟩,
    ⟨['m'], BlockType.message.tag, some ['H', 'i'], none, none, none, none⟩,
    ⟨['e'], BlockType.finish.tag, none, none, none, none, none⟩]
  links := [
    ⟨['s'], ['m'], none, none⟩,
    ⟨['m'], ['e'], none, none⟩]

/-- A block of a type that nobody knows. -/
def stray : BlockDefinition :=
  ⟨['x'], ['?'], none, none, none, none, none⟩

/-- A link that leaves it. -/
def strayLink : LinkDefinition :=
  ⟨['x'], ['s'], none, none⟩

/-- The same in the reverse order, with that block and its link. -/
def cluttered : Definition where
  blocks := (stray :: plain.blocks).reverse
  links := strayLink :: plain.links

/-- The same in yet another order, with an earlier block that the message takes the place
of, and with another name for messages. -/
def rearranged : Definition where
  blocks := [
    ⟨['e'], BlockType.finish.tag, none, none, none, none, none⟩,
    ⟨['m'], ['?'], none, none, none, none, none⟩,
    stray,
    ⟨['m'], ['s', 'a', 'y'], some ['H', 'i'], none, none, none, none⟩,
    ⟨['s'], BlockType.start.tag, none, none, none, none, none⟩]
  links := [
    ⟨['m'], ['e'], none, none⟩,
    strayLink,
    ⟨['s'], ['m'], none, none⟩]

/-- The other name for messages. -/
def sayNames : TypeNames :=
  TypeNames.declare ['s', 'a', 'y'] BlockType.message.tag []

end Definition

open Definition in
theorem plain_depends_on_reach :
    (∀ id, Relation.ReflTransGen (build [] plain).Joined ['s'] id →
        (build [] plain).Agrees (build sayNames rearranged) id)
      ∧ (Session.start (build [] plain) {}).Indistinguishable
        (Session.start (build sayNames rearranged) {})
      ∧ Relation.EqvGen (Unheard []) plain cluttered
      ∧ (Session.start (build [] plain) {}).Indistinguishable
        (Session.start (build [] cluttered) {}) := by
  have hagree (id : Text) (h : Relation.ReflTransGen (build [] plain).Joined ['s'] id) :
      (build [] plain).Agrees (build sayNames rearranged) id := by
    have hid : id ∈ [['s'], ['m'], ['e']] := mem_of_joined (by decide) (by decide +kernel) h
    have hsame : ∀ id ∈ [['s'], ['m'], ['e']],
        (build [] plain).block? id = (build sayNames rearranged).block? id
          ∧ (build [] plain).linksFrom id = (build sayNames rearranged).linksFrom id := by
      decide +kernel
    exact ⟨(hsame id hid).1, (hsame id hid).2⟩
  have hblock : Unheard [] plain ⟨stray :: plain.blocks, plain.links⟩ :=
    @Unheard.blockAdded [] [] plain.blocks plain.links stray (by decide +kernel)
      (@not_reachable _ _ [['s'], ['m'], ['e']] (by decide +kernel) (by decide +kernel)
        (by decide))
  have hlink : Unheard [] ⟨stray :: plain.blocks, plain.links⟩
      ⟨stray :: plain.blocks, strayLink :: plain.links⟩ :=
    @Unheard.linkAdded [] (stray :: plain.blocks) [] plain.links strayLink
      (@not_reachable _ _ [['s'], ['m'], ['e']] (by decide +kernel) (by decide +kernel)
        (by decide))
  have horder : Unheard [] ⟨stray :: plain.blocks, strayLink :: plain.links⟩ cluttered :=
    .of_perm (List.reverse_perm _).symm (by decide)
  have hchanges : Relation.EqvGen (Unheard []) plain cluttered :=
    .trans _ _ _ (.rel _ _ hblock) (.trans _ _ _ (.rel _ _ hlink) (.rel _ _ horder))
  exact ⟨hagree,
    (conversations_depend_on_reach {}).1 [] sayNames plain rearranged ⟨['s'], none, .start⟩
      ⟨['s'], none, .start⟩ (by decide +kernel) (by decide +kernel) rfl hagree,
    hchanges, (conversations_depend_on_reach {}).2 [] plain cluttered hchanges⟩

end Dialogue
