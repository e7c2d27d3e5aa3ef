import Dialogue.Proofs.Session.Beside
import Dialogue.Proofs.Session.Standing

/-!
# Going on after an abandoned run

What a conversation does from a block on depends on the flow, the settings and the variables,
and on nothing else that is left of a run: not on the blocks that were visited before, nor on
the reply that was awaited when the run was abandoned. So the next run enters the block again
from its beginning, as a conversation does that only begins there
(`abandoned_block_begins_anew`).
-/

namespace Dialogue

variable {σ τ : Type}

namespace Session

/-- A conversation that begins at a block, with these variables. -/
def startAt (flow : Flow) (settings : Settings) (id : Text) (store : Variables) : Session where
  flow := flow
  settings := settings
  store := store
  standing := .running id
  visited := []
  closed := false

/-- The first session is the second one with more that was visited before. It may await a reply
at its block where the other one is only at the block. -/
structure Continues (past : List Text) (s t : Session) : Prop where
  flow : s.flow = t.flow
  settings : s.settings = t.settings
  store : s.store = t.store
  position : s.position = t.position
  visited : s.visited = past ++ t.visited
  closed : s.closed = t.closed

variable {past : List Text} {s t : Session}

theorem Continues.beside (h : s.Continues past t) :
    Beside past s.flow s.flow (fun _ => True) s t :=
  ⟨rfl, h.flow.symm, h.settings, h.store, h.position, h.visited, h.closed, fun _ _ => trivial⟩

theorem Beside.continues {flow : Flow} (h : Beside past flow flow (fun _ => True) s t) :
    s.Continues past t :=
  ⟨h.first.trans h.second.symm, h.settings, h.store, h.position, h.visited, h.closed⟩

theorem Continues.settle (h : s.Continues past t) (result : Except Failure Transition) :
    Continues past (s.settle result) (t.settle result) := by
  rcases result with _ | _ | _ <;> exact (h.beside.stand fun _ _ => trivial).continues

/-! ## Runs -/

open Conversation

variable {s' : Session} {xs : List Exchange} {id : Text} {stop : Stop}

/-- What was visited before makes no difference to a run. -/
theorem accords_continues (past : List Text) : Accords (Continues past) where
  position _ _ h := h.position
  step s t id h _ :=
    (respects_step (s.flow.looksAlike_self id) trivial s t h.beside).mono
      fun _ _ h => h.continues
  finish u s t h := (respects_finish u s t h.beside).mono fun _ _ h => h.continues
  settle _ _ _ _ _ _ result _ _ _ h := h.settle result

/-- A session that is at a block has not been closed. -/
theorem Course.open_of_position (h : Course s xs s' stop)
    (hs : ∀ id, s.position = .ok id → s.closed = false) (hpos : s'.position = .ok id) :
    s'.closed = false := by
  induction h with
  | concluded hended hfin => cases hfin <;> cases hended.symm.trans hpos
  | unconcluded hended hfin => cases hfin <;> cases hended.symm.trans hpos
  | halted hat hent => exact hent.keeps.alike.2.2.trans (hs _ hat)
  | @went s₁ s₂ _ _ _ _ result _ hat hent rest ih =>
      refine ih (fun _ _ => ?_) hpos
      exact (hent.keeps.alike.trans (alike_settle s₂ result)).2.2.trans (hs _ hat)
  | exhausted => exact hs _ hpos

/-- A run that is abandoned at a block has visited this block last. -/
theorem Course.visited_ne_nil {request : Call} (h : Course s xs s' (.pending request))
    (hpos : s'.position = .ok id) : s'.visited ≠ [] := by
  generalize hstop : Stop.pending request = stop at h
  induction h with
  | concluded => cases hstop
  | unconcluded hended hfin =>
      obtain ⟨rfl, -⟩ := finished_open hfin
      cases hended.symm.trans hpos
  | halted hat hent =>
      rw [(entered_open hent).1]
      exact List.append_ne_nil_of_right_ne_nil _ (List.cons_ne_nil _ _)
  | went hat hent rest ih => exact ih hpos hstop
  | exhausted => cases hstop

theorem History.last {env : Environment σ} {before : List (Run σ)} {r : Run σ}
    (h : s.History env (before ++ [r])) :
    ∃ blocks world, r = (s.after before).run env blocks world := by
  obtain ⟨-, hlast⟩ := h.split
  cases hlast with
  | cons blocks world => exact ⟨blocks, world, rfl⟩

/-- What runs leave of a new session has its flow and its settings, and is open as long as it is
at a block. -/
theorem History.fixed {env : Environment σ} {rs : List (Run σ)} (h : s.History env rs)
    (hs : ∀ id, s.position = .ok id → s.closed = false) :
    (s.after rs).flow = s.flow ∧ (s.after rs).settings = s.settings
      ∧ ∀ id, (s.after rs).position = .ok id → (s.after rs).closed = false := by
  induction h with
  | nil s => exact ⟨rfl, rfl, hs⟩
  | @cons s rs blocks world hstop rest ih =>
      have hcourse := course_run env blocks s world
      obtain ⟨hflow, hsettings, hopen⟩ := ih fun _ => hcourse.open_of_position hs
      exact ⟨hflow.trans hcourse.fixed.1, hsettings.trans hcourse.fixed.2, hopen⟩

theorem visited_step (env : Environment σ) (w : σ) {b : Block}
    (hblock : s.flow.block? id = some b) :
    ((step id s).performIn env w).session.visited = s.visited ++ [id] := by
  have hent := entered_of_path (Activity.path_performIn env (step id s) w)
  generalize (step id s).performIn env w = p at hent
  obtain ⟨w', s', xs, o⟩ := p
  cases hent with
  | nowhere hnone => cases hnone.symm.trans hblock
  | block _ hdone => exact hdone.visited

/-- A run that may enter the block that it is at begins with it. -/
theorem visits_first (env : Environment σ) {blocks : Nat} (hblocks : 0 < blocks) (w : σ)
    {b : Block} (hpos : s.position = .ok id) (hblock : s.flow.block? id = some b) :
    s.visited ++ [id] <+: (s.run env blocks w).session.visited := by
  obtain ⟨blocks, rfl⟩ := Nat.exists_eq_add_of_lt hblocks
  rw [Nat.zero_add, run, hpos]
  dsimp only
  rw [← visited_step env w hblock]
  rcases ((step id s).performIn env w).outcome with request | result
  · exact List.prefix_refl _
  · obtain ⟨ids, hvisited, -⟩ := (course_run env blocks
      (((step id s).performIn env w).session.settle result) _).kept
    rw [settle_visited] at hvisited
    exact ⟨ids, hvisited.symm⟩

/-- **An abandoned block begins anew.** A run of a session that was new once is abandoned at a
block. Then this is a block that exists, and the last that was visited. Whoever answers from
there on, and however the next run goes, it makes the calls of a conversation that only begins
at this block with the variables as they are, stops as that one does, and leaves the same
variables; its visits are those of that conversation, behind the earlier ones, and the first of
them is the block itself. -/
theorem abandoned_block_begins_anew {env : Environment σ} {flow : Flow} {settings : Settings}
    {before : List (Run σ)} {r : Run σ} {request : Call} {id : Text}
    (hruns : (Session.start flow settings).History env (before ++ [r]))
    (habandoned : r.stop = .pending request) (hblock : r.session.position = .ok id) :
    r.session.visited.getLast? = some id ∧ (∃ b, flow.block? id = some b)
      ∧ ∀ {τ : Type} (env' : Environment τ) (blocks : Nat) (world : τ),
        let next := r.session.run env' blocks world
        let anew := (startAt flow settings id r.session.store).run env' blocks world
        next.world = anew.world ∧ next.exchanges = anew.exchanges ∧ next.stop = anew.stop
          ∧ next.session.store = anew.session.store
          ∧ next.session.position = anew.session.position
          ∧ next.session.visited = r.session.visited ++ anew.session.visited
          ∧ (0 < blocks → [id] <+: anew.session.visited) := by
  have hnew : ∀ id, (Session.start flow settings).position = .ok id →
      (Session.start flow settings).closed = false := fun _ _ => rfl
  obtain ⟨hflow, hsettings, hopen⟩ := hruns.fixed hnew
  obtain ⟨-, hplaced⟩ := hruns.placed (placed_start flow settings)
  have hafter : (Session.start flow settings).after (before ++ [r]) = r.session :=
    List.foldl_concat ..
  rw [hafter] at hflow hsettings hopen hplaced
  obtain ⟨blocks₀, world₀, hr⟩ := hruns.last
  have hcourse := course_run env blocks₀ ((Session.start flow settings).after before) world₀
  rw [← hr, habandoned] at hcourse
  obtain ⟨hlast, b, hb⟩ := hplaced.last id hblock (hcourse.visited_ne_nil hblock)
  have hflow' : r.session.flow = flow := hflow
  rw [hflow'] at hb
  refine ⟨hlast, ⟨b, hb⟩, fun env' blocks world => ?_⟩
  have hcontinues : r.session.Continues r.session.visited
      (startAt flow settings id r.session.store) :=
    ⟨hflow, hsettings, rfl, hblock, (List.append_nil _).symm, hopen id hblock⟩
  obtain ⟨hworld, hexchanges, hstop, hend⟩ :=
    (accords_continues r.session.visited).run env' blocks world hcontinues
  exact ⟨hworld, hexchanges, hstop, hend.store, hend.position, hend.visited,
    fun hblocks =>
      visits_first (s := startAt flow settings id r.session.store) env' hblocks world rfl hb⟩

/-- The conversation that only begins at the block where the second run was abandoned, and that
hears what the last run hears. -/
def retryAnew : Run (Script × Fetcher) :=
  retryRun (startAt retryFlow {} ['q'] retrySecond.session.store) [.reply ['B'], .reply ['7']]

/-- The second run is abandoned at the menu, and the last one asks for the reply again. -/
theorem retry_begins_anew :
    (Session.start retryFlow {}).History Script.channel.environment
        ([retryFirst] ++ [retrySecond])
      ∧ (∃ prompt, retrySecond.stop = .pending (.input prompt))
      ∧ retrySecond.session.position = .ok ['q']
      ∧ retryLast.exchanges = retryAnew.exchanges
      ∧ retryLast.stop = retryAnew.stop
      ∧ retryAnew.session.visited = [['q']]
      ∧ retryLast.session.visited = retrySecond.session.visited ++ [['q']] := by
  have hruns : (Session.start retryFlow {}).History Script.channel.environment
      ([retryFirst] ++ [retrySecond]) :=
    .cons 5 (({ cues := [.silence] } : Script), Fetcher.offline) trivial
      (.cons 5 (({ cues := [.reply [' ', 'A'], .silence] } : Script), Fetcher.offline) trivial
        (.nil _))
  obtain ⟨prompt, habandoned⟩ : ∃ prompt, retrySecond.stop = .pending (.input prompt) :=
    ⟨_, rfl⟩
  obtain ⟨-, -, hanew⟩ := abandoned_block_begins_anew hruns habandoned rfl
  obtain ⟨-, hexchanges, hstop, -, -, hvisited, -⟩ :=
    hanew Script.channel.environment 5 ({ cues := [.reply ['B'], .reply ['7']] }, .offline)
  exact ⟨hruns, ⟨prompt, habandoned⟩, rfl, hexchanges, hstop, rfl, hvisited⟩

end Session

end Dialogue
