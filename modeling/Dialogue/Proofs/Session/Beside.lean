import Dialogue.Proofs.Session.Parallel
import Dialogue.Proofs.Session.Trail
import Dialogue.Proofs.Session.Writes

/-!
# Sessions over flows that look alike

What a block does with its links shows of them where they lead, the texts of the blocks there,
and, if the block chooses among ports, which link is the first on a port. Two flows that are the
same in this look alike from the block (`Flow.LooksAlike`).

Let two flows look alike from some blocks, and let links lead from these only to one another.
Two sessions over the flows that are at one of these blocks and differ in nothing else, but for
what the first one has visited before, stay so in whatever they do (`accords_beside`). If there
are no visits before, nobody outside can tell one from the other (`Beside.indistinguishable`).
-/

namespace Dialogue

variable {σ α : Type}

/-! ## What flows show -/

/-- Blocks that look for the links on their ports. -/
def Block.usesPorts (b : Block) : Bool :=
  match b.kind with
  | .conditional _ => true
  | .choice _ => true
  | _ => false

namespace Flow

/-- Where the first link on a port of a block leads. -/
def portTarget? (f : Flow) (id port : Text) : Option Text :=
  (f.linkOnPort? id port).map LinkDefinition.target

/-- The text of the block with an id, if there is one that has a text. -/
def text? (f : Flow) (id : Text) : Option Text :=
  (f.block? id).bind Block.text

/-- The block with the id, and what it shows of its links, are the same in both flows. -/
structure LooksAlike (f g : Flow) (id : Text) : Prop where
  block : f.block? id = g.block? id
  targets : (f.linksFrom id).map LinkDefinition.target = (g.linksFrom id).map LinkDefinition.target
  labels : ∀ target, f.Joined id target → f.text? target = g.text? target
  ports : ∀ b, f.block? id = some b → b.usesPorts →
    ∀ port, f.portTarget? id port = g.portTarget? id port

theorem looksAlike_self (f : Flow) (id : Text) : f.LooksAlike f id :=
  ⟨rfl, rfl, fun _ _ => rfl, fun _ _ _ _ => rfl⟩

end Flow

/-! ## Leaving a block, by targets -/

namespace Conversation

/-- Goes to a block, if there is one to go to. -/
def goTo (failure : Failure) : Option Text → Conversation Transition
  | some target => pure (.goto target)
  | none => fail failure

/-- Leaves a block for one of the blocks that its links lead to. -/
def leaveFor (id menu : Text) : List Text → Conversation Transition
  | [] => pure (.complete .noFurtherLinks)
  | [only] => pure (.goto only)
  | targets => do
    let reply ← ask id (.advance targets.length) menu
    goTo (.invalidChoice id reply) ((Menu.pick? reply targets.length).bind fun i => targets[i]?)

/-- Where the options of a block lead to, for a reply to their menu. -/
def optionTarget? (f : Flow) (id : Text) (choices : List Choice) (reply : Text) : Option Text :=
  (Menu.pick? reply choices.length).bind fun i =>
    choices[i]?.bind fun choice => f.portTarget? id choice.port

/-- Where the conditions of a block lead to. -/
def branchTarget? (s : Session) (id : Text) (conditions : List Condition) : Option Text :=
  ((conditions.filter fun c =>
      c.operator.holds (s.store.get? c.variableName) c.comparand).findSome?
    fun c => s.flow.portTarget? id c.port).or (s.flow.portTarget? id s.settings.defaultPort)

theorem advance_eq (b : Block) :
    advance b = session >>= fun s =>
      leaveFor b.id (linkMenu s b) ((s.flow.linksFrom b.id).map LinkDefinition.target) := by
  rw [advance]
  congr 1
  funext s
  rw [linkMenu]
  rcases s.flow.linksFrom b.id with _ | ⟨first, _ | ⟨second, rest⟩⟩
  · rfl
  · rfl
  · simp only [List.map_cons, leaveFor, List.length_cons, List.length_map]
    congr 1
    funext reply
    rw [← List.map_cons, ← List.map_cons]
    rcases Menu.pick? reply (rest.length + 1 + 1) with _ | i
    · rfl
    · simp only [Option.bind_some, List.getElem?_map]
      cases (first :: second :: rest)[i]? <;> rfl

theorem branch_eq (id : Text) (conditions : List Condition) :
    branch id conditions = session >>= fun s =>
      goTo (.noDefaultLink id) (branchTarget? s id conditions) := by
  rw [branch]
  congr 1
  funext s
  have htarget : branchTarget? s id conditions =
      (branchLink? s id conditions).map LinkDefinition.target := by
    rw [branchLink?, Option.map_or, List.map_findSome?]
    rfl
  rw [htarget]
  cases branchLink? s id conditions <;> rfl

theorem choose_eq {choices : List Choice} (hne : choices ≠ []) (id : Text) :
    choose id choices = session >>= fun s =>
      ask id (.choice choices.length) (optionMenu s choices) >>= fun reply =>
        goTo (.invalidChoice id reply) (optionTarget? s.flow id choices reply) := by
  rw [choose, if_neg hne]
  congr 1
  funext s
  dsimp only
  congr 1
  funext reply
  rw [optionTarget?]
  rcases Menu.pick? reply choices.length with _ | i
  · rfl
  simp only [Option.bind_some]
  rcases choices[i]? with _ | choice
  · rfl
  simp only [Option.bind_some, Flow.portTarget?]
  cases s.flow.linkOnPort? id choice.port <;> rfl

end Conversation

/-! ## Sessions -/

namespace Session

open Conversation

/-- The sessions are over these flows and at one of these blocks, or they have ended. Otherwise
they are the same, but for what the first one has visited before; it may await a reply at its
block where the other one is only at the block. -/
structure Beside (past : List Text) (f g : Flow) (within : Text → Prop) (s t : Session) :
    Prop where
  first : s.flow = f
  second : t.flow = g
  settings : s.settings = t.settings
  store : s.store = t.store
  position : s.position = t.position
  visited : s.visited = past ++ t.visited
  closed : s.closed = t.closed
  within : ∀ id, s.position = .ok id → within id

variable {past : List Text} {f g : Flow} {within : Text → Prop} {s t : Session} {id : Text}

/-- Both go to the same place, which is one of these blocks. -/
theorem Beside.stand (h : Beside past f g within s t) {standing : Standing}
    (hin : ∀ id, Session.position { s with standing } = .ok id → within id) :
    Beside past f g within { s with standing } { t with standing } :=
  ⟨h.first, h.second, h.settings, h.store, rfl, h.visited, h.closed, hin⟩

theorem Beside.linkMenu_eq {b : Block} (h : Beside past f g within s t)
    (hlike : f.LooksAlike g b.id) : linkMenu s b = linkMenu t b := by
  have hlabels (u : Session) : (u.flow.linksFrom b.id).map (linkLabel u) =
      ((u.flow.linksFrom b.id).map LinkDefinition.target).map
        fun target => (u.flow.text? target).getD u.settings.prompts.fallbackLabel := by
    rw [List.map_map]
    rfl
  rw [linkMenu, linkMenu, hlabels, hlabels, h.first, h.second, h.settings, ← hlike.targets]
  congr 1
  refine List.map_congr_left fun target htarget => ?_
  obtain ⟨link, hlink, rfl⟩ := List.mem_map.mp htarget
  rw [hlike.labels link.target ⟨link, hlink, rfl⟩]

end Session

/-! ## Blocks -/

namespace Conversation

open Session

variable {past : List Text} {f g : Flow} {within : Text → Prop} {b : Block} {id : Text}

theorem respects_ask (hin : within id) (purpose : Purpose) (prompt : Text) :
    Respects (Beside past f g within) (ask id purpose prompt) := by
  have hhere (s : Session) (standing : Standing)
      (hstanding : Session.position { s with standing } = .ok id) :
      ∀ other, Session.position { s with standing } = .ok other → within other := by
    intro other hother
    obtain rfl := Except.ok.inj (hstanding.symm.trans hother)
    exact hin
  refine (respects_update fun s t h => h.stand (hhere s _ rfl)).bind fun _ => ?_
  refine (respects_call (.input prompt)).bind fun reply => ?_
  cases reply with
  | ok reply =>
      exact (respects_update fun s t h => h.stand (hhere s _ rfl)).bind
        fun _ => respects_pure reply
  | error e => exact respects_fail _

theorem respects_keep (variableName value : Text) :
    Respects (Beside past f g within) (keep variableName value) :=
  respects_update fun _ _ h =>
    { h with store := congrArg (Variables.set variableName (.text value)) h.store }

theorem respects_need (id : Text) (part : Part) (value : Option Text) :
    Respects (Beside past f g within) (need id part value) := by
  cases value with
  | some value => exact respects_pure value
  | none => exact respects_fail _

theorem respects_goTo (failure : Failure) (target : Option Text) :
    Respects (Beside past f g within) (goTo failure target) := by
  cases target with
  | some target => exact respects_pure _
  | none => exact respects_fail _

theorem respects_leaveFor (hin : within id) (menu : Text) (targets : List Text) :
    Respects (Beside past f g within) (leaveFor id menu targets) := by
  rcases targets with _ | ⟨first, _ | ⟨second, rest⟩⟩
  · exact respects_pure _
  · exact respects_pure _
  · exact (respects_ask hin _ _).bind fun reply => respects_goTo _ _

theorem respects_advance (hlike : f.LooksAlike g b.id) (hin : within b.id) :
    Respects (Beside past f g within) (advance b) := by
  rw [advance_eq]
  refine respects_session_bind (fun s t h => ?_) fun s t _ => respects_leaveFor hin _ _
  rw [h.linkMenu_eq hlike, h.first, h.second, hlike.targets]

theorem respects_branch (hports : ∀ port, f.portTarget? id port = g.portTarget? id port)
    (conditions : List Condition) :
    Respects (Beside past f g within) (branch id conditions) := by
  rw [branch_eq]
  refine respects_session_bind (fun s t h => ?_) fun s t _ => respects_goTo _ _
  have htarget : branchTarget? s id conditions = branchTarget? t id conditions := by
    simp only [branchTarget?, h.first, h.second, h.settings, h.store, hports]
  rw [htarget]

theorem respects_choose (hports : ∀ port, f.portTarget? id port = g.portTarget? id port)
    (hin : within id) (choices : List Choice) :
    Respects (Beside past f g within) (choose id choices) := by
  by_cases hne : choices = []
  · rw [choose, if_pos hne]
    exact respects_fail _
  rw [choose_eq hne]
  refine respects_session_bind (fun s t h => ?_) fun s t _ =>
    (respects_ask hin _ _).bind fun reply => respects_goTo _ _
  simp only [optionMenu, optionTarget?, h.first, h.second, h.settings, hports]

theorem respects_callExternal (url : Text) :
    Respects (Beside past f g within) (callExternal url) := by
  refine respects_session_bind (fun s t h => ?_) fun s t _ => ?_
  · rw [h.settings]
  · split
    · refine (respects_call (.fetch url)).bind fun response => ?_
      cases response with
      | ok response => exact respects_pure _
      | error e => exact respects_fail _
    · exact respects_fail _

theorem respects_perform (hlike : f.LooksAlike g b.id) (hin : within b.id)
    (hblock : f.block? b.id = some b) : Respects (Beside past f g within) (perform b) := by
  rw [perform]
  split
  · exact respects_advance hlike hin
  · refine respects_session_bind (fun s t h => ?_) fun s t _ => ?_
    · rw [h.store]
    · exact (respects_call _).bind fun _ => respects_advance hlike hin
  · refine (respects_need _ _ _).bind fun name => ?_
    refine respects_session_bind (fun s t h => ?_) fun s t _ => ?_
    · rw [h.settings]
    · refine (respects_ask hin _ _).bind fun reply => ?_
      exact (respects_keep _ _).bind fun _ => respects_advance hlike hin
  · next conditions hkind =>
      exact respects_branch (hlike.ports b hblock (by rw [Block.usesPorts, hkind])) conditions
  · next choices hkind =>
      exact respects_choose (hlike.ports b hblock (by rw [Block.usesPorts, hkind])) hin choices
  · refine (respects_need _ _ _).bind fun url => (respects_need _ _ _).bind fun name => ?_
    refine (respects_callExternal _).bind fun summary => ?_
    exact (respects_keep _ _).bind fun _ => respects_advance hlike hin
  · exact respects_pure _
  · exact respects_fail _

theorem respects_step (hlike : f.LooksAlike g id) (hin : within id) :
    Respects (Beside past f g within) (step id) := by
  refine respects_session_bind (fun s t h => ?_) fun s t h => ?_
  · rw [h.first, h.second, hlike.block]
  · rw [h.first]
    split
    · exact respects_fail _
    · next b hblock =>
        obtain rfl := Flow.id_of_block? hblock
        refine (respects_update fun s t h => { h with visited := ?_ }).bind
          fun _ => respects_perform hlike hin hblock
        rw [h.visited, List.append_assoc]

theorem respects_finish (u : Termination) :
    Respects (Beside past f g within) (finish u) := by
  refine respects_session_bind (fun s t h => ?_) fun s t _ => ?_
  · rw [h.closed, h.settings]
  · split
    · exact respects_pure _
    · refine (respects_call _).bind fun _ => (respects_call .close).bind fun _ => ?_
      exact respects_update fun s t h => { h with closed := rfl }

end Conversation

/-! ## Runs -/

namespace Session

open Conversation

variable {past : List Text} {f g : Flow} {within : Text → Prop} {s s' t : Session} {id : Text}
  {xs : List Exchange}

/-- A block leads only to blocks that its links lead to. -/
theorem joined_of_step {target : Text}
    (h : (step id s).Path xs s' (.ok (.ok (.goto target)))) : s.flow.Joined id target := by
  cases entered_of_path h with
  | @block b _ _ _ hblock hdone =>
      have hallows : s.flow.Allows b (.ok (.goto target)) := hdone.allows rfl
      rw [← Flow.id_of_block? hblock]
      exact hallows.2

theorem accords_beside (hlike : ∀ id, within id → f.LooksAlike g id)
    (hleads : ∀ id target, within id → f.Joined id target → within target) :
    Accords (Beside past f g within) where
  position _ _ h := h.position
  step s t id h hpos := respects_step (hlike id (h.within id hpos)) (h.within id hpos) s t h
  finish := respects_finish
  settle := by
    intro s t id xs s' t' result h hpos hpath h'
    rcases result with failure | target | completion
    · exact h'.stand nofun
    · refine h'.stand fun other hother => ?_
      obtain rfl : target = other := Except.ok.inj hother
      exact hleads id target (h.within id hpos) (h.first ▸ joined_of_step hpath)
    · exact h'.stand nofun

/-- What somebody outside learns of a run: the calls that were answered, how it stops, which
blocks were visited, and the variables; and what has become of the world. -/
structure View (σ : Type) where
  world : σ
  exchanges : List Exchange
  stop : Stop
  visited : List Text
  store : Variables

def View.ofRun (r : Run σ) : View σ :=
  ⟨r.world, r.exchanges, r.stop, r.session.visited, r.session.store⟩

/-- However often the sessions are run, and whoever answers, their runs are the same to everybody
outside. -/
def Indistinguishable (s t : Session) : Prop :=
  ∀ (σ : Type) (env : Environment σ) (turns : List (Nat × σ)),
    (s.runs env turns).map View.ofRun = (t.runs env turns).map View.ofRun

theorem Indistinguishable.symm (h : s.Indistinguishable t) : t.Indistinguishable s :=
  fun σ env turns => (h σ env turns).symm

theorem Indistinguishable.trans {u : Session} (h : s.Indistinguishable t)
    (h' : t.Indistinguishable u) : s.Indistinguishable u :=
  fun σ env turns => (h σ env turns).trans (h' σ env turns)

theorem Beside.indistinguishable (h : Beside [] f g within s t)
    (hlike : ∀ id, within id → f.LooksAlike g id)
    (hleads : ∀ id target, within id → f.Joined id target → within target) :
    s.Indistinguishable t := by
  intro σ env turns
  induction turns generalizing s t with
  | nil => rfl
  | cons turn turns ih =>
      obtain ⟨blocks, world⟩ := turn
      obtain ⟨hworld, hexchanges, hstop, hsession⟩ :=
        (accords_beside hlike hleads).run env blocks world h
      have hview : View.ofRun (s.run env blocks world) = View.ofRun (t.run env blocks world) := by
        simp only [View.ofRun, hworld, hexchanges, hstop, hsession.visited, hsession.store,
          List.nil_append]
      simp only [runs, List.map_cons, hview, ih hsession]

theorem indistinguishable_start (settings : Settings)
    (hstart : firstStanding f = firstStanding g)
    (hin : ∀ id, (Session.start f settings).position = .ok id → within id)
    (hlike : ∀ id, within id → f.LooksAlike g id)
    (hleads : ∀ id target, within id → f.Joined id target → within target) :
    (Session.start f settings).Indistinguishable (Session.start g settings) := by
  have hbeside : Beside [] f g within (Session.start f settings) (Session.start g settings) :=
    { first := rfl
      second := rfl
      settings := rfl
      store := rfl
      position := by simp only [position, Session.start, hstart]
      visited := rfl
      closed := rfl
      within := hin }
  exact hbeside.indistinguishable hlike hleads

end Session

end Dialogue
