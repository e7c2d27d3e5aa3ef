import Dialogue.Proofs.Flow.Built

/-!
# Names declared for types

A flow can be built with other names for block types, declared one after another. What a
declaration says of a name is said once: of the declarations of a name the last one counts,
provided that what it declares the name to be is the usual name of a type, and it is not looked
up again. So a definition with declared names makes the flow that it makes with the usual ones
written in their places (`flow_of_declared_names`).
-/

namespace Dialogue

/-! ## The usual names -/

namespace BlockType

/-- The name is the usual name of a type. -/
def isTag (name : Text) : Bool :=
  all.any fun t => t.tag = name

theorem ofTag?_tag (t : BlockType) : ofTag? t.tag = some t := by
  cases t <;> decide

theorem mem_all (t : BlockType) : t ∈ all := by
  cases t <;> decide

theorem isTag_iff {name : Text} : isTag name ↔ ∃ t : BlockType, t.tag = name := by
  simp [isTag, mem_all]

theorem ofTag?_of_not_isTag {name : Text} (h : ¬ isTag name) : ofTag? name = none := by
  simpa [ofTag?, isTag] using h

end BlockType

/-! ## Declarations -/

namespace TypeNames

/-- The names that declarations leave: each is a name with what it is declared to be. -/
def declareAll (declarations : List (Text × Text)) : TypeNames :=
  declarations.foldl (fun names e => names.declare e.1 e.2) []

/-- The usual name that a name has been given last. -/
def lastTag? (declarations : List (Text × Text)) (name : Text) : Option Text :=
  ((declarations.filter fun e => e.1 = name ∧ BlockType.isTag e.2).getLast?).map Prod.snd

variable {declarations declarations' before after : List (Text × Text)} {name : Text}

theorem declare_tag (names : TypeNames) (name : Text) (t : BlockType) :
    declare name t.tag names = Entries.put name t names := by
  simp [declare, BlockType.ofTag?_tag]

theorem declare_of_not_isTag {canonical : Text} (h : ¬ BlockType.isTag canonical)
    (names : TypeNames) (name : Text) : declare name canonical names = names := by
  simp [declare, BlockType.ofTag?_of_not_isTag h]

theorem lastTag?_concat (declarations : List (Text × Text)) (e : Text × Text) (name : Text) :
    lastTag? (declarations ++ [e]) name =
      if e.1 = name ∧ BlockType.isTag e.2 then some e.2 else lastTag? declarations name := by
  unfold lastTag?
  by_cases h : e.1 = name ∧ BlockType.isTag e.2 <;> simp [List.filter_append, h]

theorem get?_declareAll (declarations : List (Text × Text)) (name : Text) :
    Entries.get? name (declareAll declarations) =
      (lastTag? declarations name).bind BlockType.ofTag? := by
  -- From the end: a declaration is made on top of those before it.
  induction declarations using List.reverseRecOn with
  | nil => rfl
  | append_singleton declarations e ih =>
      obtain ⟨other, canonical⟩ := e
      rw [lastTag?_concat, declareAll, List.foldl_append, ← declareAll]
      simp only [List.foldl_cons, List.foldl_nil]
      by_cases hcanonical : BlockType.isTag canonical
      · obtain ⟨t, rfl⟩ := BlockType.isTag_iff.mp hcanonical
        rw [declare_tag]
        by_cases hname : other = name
        · subst hname
          simp [hcanonical, BlockType.ofTag?_tag]
        · rw [Entries.get?_put_of_ne (Ne.symm hname), ih, if_neg fun h => hname h.1]
      · rw [declare_of_not_isTag hcanonical, ih, if_neg fun h => hcanonical h.2]

theorem isTag_of_lastTag? {canonical : Text} (h : lastTag? declarations name = some canonical) :
    BlockType.isTag canonical := by
  obtain ⟨e, he, rfl⟩ := Option.map_eq_some_iff.mp h
  have hcounts := (List.mem_filter.mp (List.mem_of_getLast? he)).2
  exact (of_decide_eq_true hcounts).2

/-- What a name stands for is what its last usual name stands for, or it itself if it has been
given none. -/
theorem type?_declareAll (declarations : List (Text × Text)) (name : Text) :
    (declareAll declarations).type? name =
      BlockType.ofTag? ((lastTag? declarations name).getD name) := by
  rw [type?, get?_declareAll]
  rcases hlast : lastTag? declarations name with _ | canonical
  · rfl
  · obtain ⟨t, rfl⟩ := BlockType.isTag_iff.mp (isTag_of_lastTag? hlast)
    simp [BlockType.ofTag?_tag]

/-- Later declarations of a name that give it no usual name do not count. -/
theorem lastTag?_append_cons {canonical : Text} (hcanonical : BlockType.isTag canonical)
    (hafter : ∀ e ∈ after, e.1 = name → ¬ BlockType.isTag e.2) :
    lastTag? (before ++ (name, canonical) :: after) name = some canonical := by
  have hnone : (after.filter fun e => e.1 = name ∧ BlockType.isTag e.2) = [] := by
    simpa using hafter
  rw [lastTag?, List.filter_append, List.filter_cons_of_pos (by simpa using hcanonical), hnone,
    List.getLast?_concat]
  rfl

theorem lastTag?_congr
    (h : (declarations.filter fun e => e.1 = name) = declarations'.filter fun e => e.1 = name) :
    lastTag? declarations name = lastTag? declarations' name := by
  have hfilter (es : List (Text × Text)) :
      (es.filter fun e => e.1 = name ∧ BlockType.isTag e.2) =
        (es.filter fun e => e.1 = name).filter fun e => BlockType.isTag e.2 := by
    simp [List.filter_filter, Bool.and_comm]
  rw [lastTag?, lastTag?, hfilter, hfilter, h]

end TypeNames

/-! ## Definitions with the usual names -/

/-- The block with the usual name that its type name has been given last. -/
def BlockDefinition.renamed (declarations : List (Text × Text)) (b : BlockDefinition) :
    BlockDefinition :=
  { b with typeName := (TypeNames.lastTag? declarations b.typeName).getD b.typeName }

def Definition.renamed (declarations : List (Text × Text)) (d : Definition) : Definition :=
  { d with blocks := d.blocks.map (BlockDefinition.renamed declarations) }

namespace Flow

open TypeNames

theorem type?_nil (name : Text) : TypeNames.type? [] name = BlockType.ofTag? name := rfl

/-- What a block of a given type is made of its definition does not depend on the type name,
unless nobody knows the type. -/
theorem ofDefinition_typeName {type? : Option BlockType} (b : BlockDefinition) {typeName : Text}
    (h : type? = none → typeName = b.typeName) :
    Block.ofDefinition type? { b with typeName } = Block.ofDefinition type? b := by
  rcases type? with _ | type
  · rw [h rfl]
  · cases type <;> rfl

theorem blockOf_renamed (declarations : List (Text × Text)) (b : BlockDefinition) :
    blockOf [] (b.renamed declarations) = blockOf (declareAll declarations) b := by
  rw [blockOf, blockOf, type?_nil, type?_declareAll]
  refine ofDefinition_typeName b fun hunknown => ?_
  rcases hlast : lastTag? declarations b.typeName with _ | canonical
  · rfl
  · -- A name that has been given a usual name stands for a type.
    obtain ⟨t, rfl⟩ := BlockType.isTag_iff.mp (isTag_of_lastTag? hlast)
    simp [BlockDefinition.renamed, hlast, BlockType.ofTag?_tag] at hunknown

theorem build_declareAll (declarations : List (Text × Text)) (d : Definition) :
    build (declareAll declarations) d = ofDefinition (d.renamed declarations) := by
  have hblock : ∀ b, Block.ofDefinition (TypeNames.type? [] (b.renamed declarations).typeName)
      (b.renamed declarations) =
        Block.ofDefinition ((declareAll declarations).type? b.typeName) b :=
    blockOf_renamed declarations
  simp only [ofDefinition, build, Definition.renamed, List.map_map, Function.comp_def, hblock]

/-- **Declared names are replaced, once.** The flow built with declared names is the one of the
definition that has in the place of each type name the usual name it has been given last, and
the name itself if it has been given none. So a name stands for the type it was given last,
whatever is declared of other names, the usual name of that type among them, and whatever later
declarations make it that is no usual name; it may be a usual name itself. And the flow is the
same if the declarations come in another order, as long as those of each name do not. -/
theorem flow_of_declared_names (declarations : List (Text × Text)) (d : Definition) :
    build (declareAll declarations) d = ofDefinition (d.renamed declarations)
      ∧ (∀ before name (t : BlockType) after, declarations = before ++ (name, t.tag) :: after →
          (∀ e ∈ after, e.1 = name → ¬ BlockType.isTag e.2) →
          (declareAll declarations).type? name = some t)
      ∧ ∀ others : List (Text × Text),
          (∀ name, (declarations.filter fun e => e.1 = name) =
            others.filter fun e => e.1 = name) →
          build (declareAll others) d = build (declareAll declarations) d := by
  refine ⟨build_declareAll declarations d, ?_, fun others hothers => ?_⟩
  · rintro before name t after rfl hafter
    rw [type?_declareAll, lastTag?_append_cons (BlockType.isTag_iff.mpr ⟨t, rfl⟩) hafter,
      Option.getD_some, BlockType.ofTag?_tag]
  · have hblock (b : BlockDefinition) : b.renamed others = b.renamed declarations := by
      rw [BlockDefinition.renamed, BlockDefinition.renamed, lastTag?_congr (hothers b.typeName)]
    have hrenamed : d.renamed others = d.renamed declarations := by
      rw [Definition.renamed, Definition.renamed, funext hblock]
    rw [build_declareAll, build_declareAll, hrenamed]

/-- Another name for messages, whose usual name is given to ends, and a name for the first that
nobody knows. -/
def sayDeclarations : List (Text × Text) := [
  (['s', 'a', 'y'], BlockType.message.tag),
  (BlockType.message.tag, BlockType.finish.tag),
  (['s', 'a', 'y'], ['s', 'p', 'e', 'a', 'k'])]

/-- Blocks of the given types, without links. -/
def bare (typeNames : List Text) : Definition where
  blocks := typeNames.map fun typeName => ⟨typeName, typeName, none, none, none, none, none⟩
  links := []

theorem say_stands_for_message :
    (∀ e ∈ sayDeclarations.drop 1, e.1 = ['s', 'a', 'y'] → ¬ BlockType.isTag e.2)
      ∧ (declareAll sayDeclarations).type? ['s', 'a', 'y'] = some .message
      ∧ ((build (declareAll sayDeclarations)
            (bare [['s', 'a', 'y'], BlockType.message.tag, ['s', 'p', 'e', 'a', 'k']])).blocks.map
          Block.kind) = [.message, .finish, .unknown ['s', 'p', 'e', 'a', 'k']]
      ∧ build (declareAll [(BlockType.message.tag, BlockType.finish.tag),
            (['s', 'a', 'y'], BlockType.message.tag), (['s', 'a', 'y'], ['s', 'p', 'e', 'a', 'k'])])
          (bare [['s', 'a', 'y']]) =
            build (declareAll sayDeclarations) (bare [['s', 'a', 'y']]) := by
  have hlater : ∀ e ∈ sayDeclarations.drop 1, e.1 = ['s', 'a', 'y'] → ¬ BlockType.isTag e.2 := by
    decide
  obtain ⟨hbuild, hlast, -⟩ := flow_of_declared_names sayDeclarations
    (bare [['s', 'a', 'y'], BlockType.message.tag, ['s', 'p', 'e', 'a', 'k']])
  refine ⟨hlater, hlast [] _ .message (sayDeclarations.drop 1) rfl hlater, ?_, ?_⟩
  · rw [hbuild]
    decide
  · refine (flow_of_declared_names sayDeclarations (bare [['s', 'a', 'y']])).2.2 _ fun name => ?_
    by_cases hsay : name = ['s', 'a', 'y']
    · subst hsay
      decide
    · have hother : ¬ ['s', 'a', 'y'] = name := fun h => hsay h.symm
      simp [sayDeclarations, List.filter_cons, hother]

end Flow

end Dialogue
