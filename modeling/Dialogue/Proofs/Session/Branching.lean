import Dialogue.Proofs.Flow.Built
import Dialogue.Proofs.Session.Rules
import Dialogue.Proofs.Traversal

/-!
# Where conditional blocks lead

A conditional block goes on by the first of its conditions that is met and has a link on its
port; a condition that is met and has none is passed over. If there is no such condition, the
block goes on by the default port, and if no link leaves that port either, it fails. Of the
links on a port the first one is taken.

`Definition.Leads` says this of the definition alone, of its rows and its list of links. That is
where a conversation over its flow goes, without a call and with the variables as they are
(`conditional_leads`).
-/

namespace Dialogue

/-! ## What a definition says -/

/-- The condition holds of the variables. -/
def Condition.met (store : Variables) (c : Condition) : Bool :=
  c.operator.holds (store.get? c.variableName) c.comparand

/-- The link leaves the block with the id by the port. -/
def LinkDefinition.Leaves (id port : Text) (l : LinkDefinition) : Prop :=
  l.source = id ∧ l.sourcePort = some port

instance (id port : Text) : DecidablePred (LinkDefinition.Leaves id port) := fun l =>
  inferInstanceAs (Decidable (l.source = id ∧ l.sourcePort = some port))

namespace Definition

variable (d : Definition) (id : Text) (store : Variables)

/-- The row's condition is met, and a link leaves the block by its port. -/
def Opens (row : ConditionDefinition) : Prop :=
  (Condition.ofDefinition row).met store ∧ ∃ l ∈ d.links, l.Leaves id row.port

instance : DecidablePred (d.Opens id store) := fun row =>
  inferInstanceAs (Decidable (_ ∧ ∃ l ∈ d.links, l.Leaves id row.port))

/-- Where a conditional block with these rows leads. -/
inductive Leads (rows : List ConditionDefinition) (defaultPort : Text) :
    Except Failure Transition → Prop
  | condition {row : ConditionDefinition} {l : LinkDefinition}
      (hrow : IsFirst (d.Opens id store) rows row)
      (hlink : IsFirst (LinkDefinition.Leaves id row.port) d.links l) :
      Leads rows defaultPort (.ok (.goto l.target))
  | default {l : LinkDefinition} (hrows : ∀ row ∈ rows, ¬ d.Opens id store row)
      (hlink : IsFirst (LinkDefinition.Leaves id defaultPort) d.links l) :
      Leads rows defaultPort (.ok (.goto l.target))
  | nowhere (hrows : ∀ row ∈ rows, ¬ d.Opens id store row)
      (hlinks : ∀ l ∈ d.links, ¬ l.Leaves id defaultPort) :
      Leads rows defaultPort (.error (.noDefaultLink id))

/-- The first link that leaves a block by a port. -/
def link? (port : Text) : Option LinkDefinition :=
  d.links.find? (LinkDefinition.Leaves id port)

variable {d id store}

theorem link?_eq_none {port : Text} :
    d.link? id port = none ↔ ∀ l ∈ d.links, ¬ l.Leaves id port := by
  simp [link?]

theorem isSome_link? {port : Text} :
    (d.link? id port).isSome ↔ ∃ l ∈ d.links, l.Leaves id port := by
  simp [link?]

end Definition

/-! ## What its flow does -/

namespace Conversation

open Definition

variable {names : TypeNames} {d : Definition} {s : Session} {b : Block} {id : Text}
  {last : BlockDefinition} {rows : List ConditionDefinition} {result : Except Failure Transition}

theorem linkOnPort?_eq (f : Flow) (id port : Text) :
    f.linkOnPort? id port = f.links.find? (LinkDefinition.Leaves id port) := by
  rw [Flow.linkOnPort?, Flow.linksFrom_eq_filter, List.find?_filter]
  simp only [decide_eq_true_eq]
  rfl

theorem linkOnPort?_build (names : TypeNames) (d : Definition) (id port : Text) :
    (Flow.build names d).linkOnPort? id port = d.link? id port :=
  linkOnPort?_eq (Flow.build names d) id port

theorem branchLink?_eq (s : Session) (id : Text) (conditions : List Condition) :
    branchLink? s id conditions =
      ((conditions.filter (Condition.met s.store)).findSome?
        fun c => s.flow.linkOnPort? id c.port).or
          (s.flow.linkOnPort? id s.settings.defaultPort) := rfl

theorem branchLink?_build (hflow : s.flow = Flow.build names d) (id : Text)
    (rows : List ConditionDefinition) :
    branchLink? s id (rows.map Condition.ofDefinition) =
      ((rows.find? (d.Opens id s.store)).bind fun row => d.link? id row.port).or
        (d.link? id s.settings.defaultPort) := by
  have hopens (row : ConditionDefinition) :
      ((Condition.ofDefinition row).met s.store && (d.link? id row.port).isSome) =
        decide (d.Opens id s.store row) := by
    rw [Bool.eq_iff_iff, Bool.and_eq_true, isSome_link?, decide_eq_true_iff, Opens]
  rw [branchLink?_eq, hflow, findSome?_filter]
  simp only [linkOnPort?_build, List.find?_map, Option.bind_map]
  congr 3
  funext row
  exact hopens row

theorem leads_iff (hflow : s.flow = Flow.build names d) :
    d.Leads id s.store rows s.settings.defaultPort result ↔
      result = leadTo (.noDefaultLink id)
        (branchLink? s id (rows.map Condition.ofDefinition)) := by
  rw [branchLink?_build hflow]
  constructor
  · rintro (⟨hrow, hlink⟩ | ⟨hrows, hlink⟩ | ⟨hrows, hlinks⟩)
    · rw [isFirst_iff] at hrow hlink
      simp [hrow, link?, hlink, leadTo]
    · rw [isFirst_iff] at hlink
      have hnone : rows.find? (d.Opens id s.store) = none := by simpa using hrows
      simp [hnone, link?, hlink, leadTo]
    · have hnone : rows.find? (d.Opens id s.store) = none := by simpa using hrows
      simp [hnone, link?_eq_none.mpr hlinks, leadTo]
  · rintro rfl
    rcases hrow : rows.find? (d.Opens id s.store) with _ | row <;> rw [hrow]
    · have hrows : ∀ row ∈ rows, ¬ d.Opens id s.store row := by simpa using hrow
      rcases hlink : d.link? id s.settings.defaultPort with _ | l
      · exact .nowhere hrows (link?_eq_none.mp hlink)
      · exact .default hrows (isFirst_iff.mpr hlink)
    · have hopens : d.Opens id s.store row := by simpa using List.find?_some hrow
      obtain ⟨l, hlink⟩ := Option.isSome_iff_exists.mp (isSome_link?.mpr hopens.2)
      rw [Option.bind_some, hlink, Option.some_or]
      exact .condition (isFirst_iff.mpr hrow) (isFirst_iff.mpr hlink)

/-- A conditional block makes no call, and notes the visit and nothing else. -/
theorem step_conditional {conditions : List Condition} (hblock : s.flow.block? id = some b)
    (hkind : b.kind = .conditional conditions) :
    step id s = .done { s with visited := s.visited ++ [id] }
      (leadTo (.noDefaultLink id) (branchLink? s id conditions)) := by
  rw [step, session_bind_apply, hblock]
  dsimp only
  rw [update_bind_apply, perform, hkind]
  obtain rfl := Flow.id_of_block? hblock
  exact branch_apply b conditions _

/-- **Where a conditional block leads.** Let a definition's last block with an id be a conditional
one. Entering it in a session over the flow of the definition is to note the visit, without a
call and with the variables as they are, and to come to the one result that the definition
determines: the first link on the port of the first row that is met and has a link on its port,
or else the first link on the default port, or else the failure that there is none. A run at the
block goes on from there. -/
theorem conditional_leads (hflow : s.flow = Flow.build names d)
    (hlast : BlockDefinition.latest? d.blocks id = some last)
    (hkind : names.type? last.typeName = some .conditional) :
    ∃ result, (∀ other, d.Leads id s.store (last.conditions.getD []) s.settings.defaultPort other ↔
          other = result)
      ∧ step id s = .done { s with visited := s.visited ++ [id] } result
      ∧ (s.position = .ok id → ∀ {σ : Type} (env : Environment σ) blocks world,
          s.run env (blocks + 1) world =
            (Session.settle { s with visited := s.visited ++ [id] } result).run env blocks
              world) := by
  have hblock : s.flow.block? id = some (Flow.blockOf names last) := by
    rw [hflow, Flow.block?_build, hlast, Option.map_some]
  have hconditional : (Flow.blockOf names last).kind =
      .conditional ((last.conditions.getD []).map Condition.ofDefinition) := by
    rw [Flow.blockOf, Block.ofDefinition, hkind]
    rfl
  have hstep := step_conditional hblock hconditional
  refine ⟨_, fun other => leads_iff hflow, hstep, fun hpos σ env blocks world => ?_⟩
  rw [Session.run, hpos]
  dsimp only
  rw [hstep]
  rfl

/-- A conditional block whose first two conditions hold of a variable `n` that is `x`. -/
def fork : BlockDefinition :=
  ⟨['c'], BlockType.conditional.tag, none, none, some [
    ⟨['n'], ['=', '='], .text ['x'], ['A']⟩,
    ⟨['n'], ['!', '='], .text ['y'], ['B']⟩,
    ⟨['m'], ['!', '='], .text ['y'], ['D']⟩], none, none⟩

/-- The block takes the place of another one. No link leaves its first port, and two leave its
second one. -/
def forked : Definition where
  blocks := [
    ⟨['c'], BlockType.conditional.tag, none, none, some [⟨['n'], ['=', '='], .text ['x'], ['D']⟩],
      none, none⟩,
    fork]
  links := [
    ⟨['c'], ['1'], none, none⟩,
    ⟨['e'], ['2'], some ['B'], none⟩,
    ⟨['c'], ['3'], some ['D'], none⟩,
    ⟨['c'], ['4'], some ['B'], none⟩,
    ⟨['c'], ['5'], some ['B'], none⟩]

/-- A conversation at that block. -/
def forkedSession : Session :=
  { Session.start (Flow.ofDefinition forked) { defaultPort := ['D'] } with
    store := Variables.empty.set ['n'] (.text ['x'])
    standing := .running ['c'] }

theorem forked_leads :
    forkedSession.flow = Flow.build [] forked
      ∧ BlockDefinition.latest? forked.blocks ['c'] = some fork
      ∧ TypeNames.type? [] fork.typeName = some .conditional
      ∧ step ['c'] forkedSession =
          .done { forkedSession with visited := [['c']] } (.ok (.goto ['4'])) := by
  have hflow : forkedSession.flow = Flow.build [] forked := rfl
  have hlast : BlockDefinition.latest? forked.blocks ['c'] = some fork := by decide
  have hkind : TypeNames.type? [] fork.typeName = some .conditional := by decide
  obtain ⟨result, hleads, hstep, -⟩ := conditional_leads hflow hlast hkind
  have hrow : IsFirst (forked.Opens ['c'] forkedSession.store) (fork.conditions.getD [])
      ⟨['n'], ['!', '='], .text ['y'], ['B']⟩ := isFirst_iff.mpr (by decide +kernel)
  have hlink : IsFirst (LinkDefinition.Leaves ['c'] ['B']) forked.links
      ⟨['c'], ['4'], some ['B'], none⟩ := isFirst_iff.mpr (by decide)
  obtain rfl := (hleads _).mp (.condition hrow hlink)
  exact ⟨hflow, hlast, hkind, hstep⟩

end Conversation

end Dialogue
