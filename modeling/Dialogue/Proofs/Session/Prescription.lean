import Dialogue.Channel.Script
import Dialogue.Proofs.Session.History

/-!
# The calls that blocks prescribe

`prescribed` says in a few lines which calls a block makes, given the variables
held when it is entered and the answers that are to come, and `prescribedAlong`
puts the calls of a list of blocks one after another. Nothing in it is told by
the session: it has no standing, makes no transitions and performs nothing.

A run that returns has made exactly the calls that the blocks it has visited
prescribe, in the order of the visit, then its report, then the close
(`run_calls_prescribed`).
-/

namespace Dialogue

/-- The answers that a conversation is given: to its requests for input and to its
external calls, each kind in order. -/
structure Answers where
  replies : List Reply
  responses : List Response

/-- What the visit of blocks comes to: the calls made, the variables after it, and
the answers that were not needed. -/
structure Visit where
  calls : List Call
  store : Variables
  left : Answers

/-- Without the first reply. -/
def Answers.dropReply (a : Answers) : Answers :=
  { a with replies := a.replies.tail }

/-- Without the first response. -/
def Answers.dropResponse (a : Answers) : Answers :=
  { a with responses := a.responses.tail }

section Prescription

variable (flow : Flow) (settings : Settings)

/-- A block with two or more links asks which one to follow. -/
def prescribedMenu (b : Block) (calls : List Call) (store : Variables) (a : Answers) :
    Visit :=
  let links := flow.linksFrom b.id
  let label := fun (l : Link) =>
    ((flow.block? l.target).bind Block.text).getD settings.prompts.fallbackLabel
  if 2 ≤ links.length then
    ⟨calls ++ [.input (Menu.render settings.prompts.chooseAction (links.map label))],
      store, a.dropReply⟩
  else ⟨calls, store, a⟩

/-- The calls of one block. -/
def prescribed (b : Block) (store : Variables) (a : Answers) : Visit :=
  match b.kind with
  | .start => prescribedMenu flow settings b [] store a
  | .message =>
    prescribedMenu flow settings b [.message (Template.fill (b.text.getD []) store)] store a
  | .save (some name) =>
    let request := .input (settings.prompts.capturePrompt name)
    match a.replies.head? with
    | some (.ok reply) =>
      prescribedMenu flow settings b [request] (store.set name (.text reply)) a.dropReply
    | _ => ⟨[request], store, a.dropReply⟩
  | .externalCall (some url) (some name) =>
    if settings.canFetch then
      match a.responses.head? with
      | some (.ok response) =>
        prescribedMenu flow settings b [.fetch url]
          (store.set name (.text response.summarize)) a.dropResponse
      | _ => ⟨[.fetch url], store, a.dropResponse⟩
    else ⟨[], store, a⟩
  | .choice (first :: rest) =>
    let labels := (first :: rest).map Choice.label
    ⟨[.input (Menu.render settings.prompts.chooseOption labels)], store, a.dropReply⟩
  | _ => ⟨[], store, a⟩

/-- The calls of the blocks with the given ids, one block after another. -/
def prescribedAlong : List Text → Variables → Answers → Visit
  | [], store, a => ⟨[], store, a⟩
  | id :: ids, store, a =>
    match flow.block? id with
    | none => ⟨[], store, a⟩
    | some b =>
      let visit := prescribed flow settings b store a
      let rest := prescribedAlong ids visit.store visit.left
      { rest with calls := visit.calls ++ rest.calls }

end Prescription

/-! ## The answers in a log -/

/-- The reply, if the call asked for one. -/
def Exchange.reply? : Exchange → Option Reply
  | ⟨.input _, reply⟩ => some reply
  | _ => none

/-- The response, if the call asked for one. -/
def Exchange.response? : Exchange → Option Response
  | ⟨.fetch _, response⟩ => some response
  | _ => none

/-- The answers in a log, followed by others. -/
def answersIn (log : List Exchange) (others : Answers) : Answers :=
  ⟨log.filterMap Exchange.reply? ++ others.replies,
    log.filterMap Exchange.response? ++ others.responses⟩

@[simp] theorem answersIn_nil (others : Answers) : answersIn [] others = others := rfl

theorem answersIn_append (xs ys : List Exchange) (others : Answers) :
    answersIn (xs ++ ys) others = answersIn xs (answersIn ys others) := by
  simp only [answersIn, List.filterMap_append, List.append_assoc]

theorem answersIn_report {report : Exchange} {prompts : Prompts} {t : Termination}
    (hreport : report.request = Conversation.reportOf prompts t) (xs : List Exchange)
    (others : Answers) : answersIn (report :: xs) others = answersIn xs others := by
  obtain ⟨request, answer⟩ := report
  rcases Conversation.reportOf_cases prompts t with ⟨text, htext⟩ | ⟨text, htext⟩
  all_goals
    rw [htext] at hreport
    subst hreport
    rfl

/-! ## Blocks make the calls that they prescribe -/

namespace Conversation

variable {s s' : Session} {xs : List Exchange} {b : Block}

/-- A request that comes to a result is one call, takes one reply, and leaves the
variables alone. -/
theorem Asked.one_call {block prompt : Text} {purpose : Purpose}
    {r : Except Failure Text} (h : Asked block purpose prompt s xs s' (.ok r)) :
    s'.store = s.store ∧ xs.map Exchange.request = [.input prompt]
      ∧ ∀ others, (answersIn xs others).dropReply = others := by
  cases h with
  | replied reply => exact ⟨rfl, rfl, fun _ => rfl⟩
  | refused e => exact ⟨rfl, rfl, fun _ => rfl⟩

/-- The result of a request, before the reply is interpreted. -/
theorem ok_of_map_ok {α β : Type} {r : Ending α} {f : Except Failure α → Except Failure β}
    {v : Except Failure β} (h : .ok v = r.map f) : ∃ u, r = .ok u := by
  cases r with
  | error q => cases h
  | ok u => exact ⟨u, rfl⟩

theorem Followed.prescribed {o : Ending Transition} {r : Except Failure Transition}
    (h : Followed b s xs s' o) (ho : .ok r = o) (calls : List Call) (others : Answers) :
    prescribedMenu s.flow s.settings b calls s.store (answersIn xs others)
      = ⟨calls ++ xs.map Exchange.request, s'.store, others⟩ := by
  cases h with
  | ended hlinks =>
      rw [prescribedMenu, hlinks, if_neg (by simp), answersIn_nil, List.map_nil,
        List.append_nil]
  | single hlinks =>
      rw [prescribedMenu, hlinks, if_neg (by simp), answersIn_nil, List.map_nil,
        List.append_nil]
  | offered hlinks hask =>
      obtain ⟨u, rfl⟩ := ok_of_map_ok ho
      obtain ⟨hstore, hcalls, hleft⟩ := hask.one_call
      rw [prescribedMenu, if_pos hlinks, hleft, hstore, hcalls]
      rfl

theorem Performed.prescribed {o : Ending Transition} {r : Except Failure Transition}
    (h : Performed b s xs s' o) (ho : .ok r = o) (others : Answers) :
    prescribed s.flow s.settings b s.store (answersIn xs others)
      = ⟨xs.map Exchange.request, s'.store, others⟩ := by
  cases h with
  | start hkind hnext =>
      rw [Dialogue.prescribed, hkind]
      exact hnext.prescribed ho [] others
  | unsaid => cases ho
  | said hkind hnext =>
      rw [Dialogue.prescribed, hkind]
      exact hnext.prescribed ho [_] others
  | saveNameless hkind => rw [Dialogue.prescribed, hkind]; rfl
  | saveRefused e hkind => rw [Dialogue.prescribed, hkind]; rfl
  | saveUnanswered => cases ho
  | saved reply hkind hnext =>
      rw [Dialogue.prescribed, hkind]
      exact hnext.prescribed ho [_] others
  | branched hkind => rw [Dialogue.prescribed, hkind]; rfl
  | optionless hkind => rw [Dialogue.prescribed, hkind]; rfl
  | @chose choices _ _ _ hkind hne hask =>
      obtain ⟨u, rfl⟩ := ok_of_map_ok ho
      obtain ⟨hstore, hcalls, hleft⟩ := hask.one_call
      obtain ⟨first, rest, rfl⟩ := List.exists_cons_of_ne_nil hne
      rw [Dialogue.prescribed, hkind]
      dsimp only
      rw [hleft, hstore, hcalls]
      rfl
  | callUrlless hkind => rw [Dialogue.prescribed, hkind]; rfl
  | callNameless hkind => rw [Dialogue.prescribed, hkind]; rfl
  | unavailable hkind hfetch => rw [Dialogue.prescribed, hkind, hfetch]; rfl
  | unfetched => cases ho
  | fetchFailed e hkind hfetch => rw [Dialogue.prescribed, hkind, hfetch]; rfl
  | fetched response hkind hfetch hnext =>
      rw [Dialogue.prescribed, hkind, hfetch]
      exact hnext.prescribed ho [_] others
  | finished hkind => rw [Dialogue.prescribed, hkind]; rfl
  | unknown hkind => rw [Dialogue.prescribed, hkind]; rfl

/-- Entering a block notes the visit, and the block makes the calls that it
prescribes; an id without a block is not visited and prescribes nothing. -/
theorem Entered.prescribed {id : Text} {r : Except Failure Transition}
    (h : Entered id s xs s' (.ok r)) :
    (s'.visited = s.visited ++ [id] ∧ ∃ b, s.flow.block? id = some b
        ∧ ∀ others, prescribed s.flow s.settings b s.store (answersIn xs others)
            = ⟨xs.map Exchange.request, s'.store, others⟩)
      ∨ (s' = s ∧ xs = []) := by
  cases h with
  | nowhere hblock => exact Or.inr ⟨rfl, rfl⟩
  | block hblock hdone =>
      exact Or.inl ⟨hdone.visited, _, hblock, fun others => hdone.prescribed rfl others⟩

end Conversation

namespace Session

open Conversation

theorem Course.prescribed {s s' : Session} {xs : List Exchange} {t : Termination}
    (h : Course s xs s' (.returned t)) (hopen : s.closed = false) :
    ∃ ids ys report, s'.visited = s.visited ++ ids
      ∧ report.request = reportOf s.settings.prompts t
      ∧ xs = ys ++ [report, ⟨.close, ()⟩]
      ∧ ∀ others, prescribedAlong s.flow s.settings ids s.store (answersIn ys others)
          = ⟨ys.map Exchange.request, s'.store, others⟩ := by
  generalize hstop : Stop.returned t = stop at h
  induction h with
  | concluded hpos hfin =>
      cases hstop
      cases hfin with
      | silent hclosed =>
          rw [hopen] at hclosed
          cases hclosed
      | reported _ taken =>
          exact ⟨[], [], _, (List.append_nil _).symm, rfl, rfl, fun _ => rfl⟩
  | unconcluded => cases hstop
  | halted => cases hstop
  | @went s₁ s₂ s₃ id xs _ result _ hpos hent rest ih =>
      have halike := hent.keeps.alike.trans (alike_settle s₂ result)
      obtain ⟨ids, zs, report, hvisited, hreport, rfl, hrest⟩ :=
        ih (halike.2.2.trans hopen) hstop
      rw [settle_visited] at hvisited
      rw [halike.2.1] at hreport
      rw [halike.1, halike.2.1, settle_store] at hrest
      rcases hent.prescribed with ⟨hvisit, b, hblock, hcalls⟩ | ⟨rfl, rfl⟩
      · refine ⟨id :: ids, xs ++ zs, report, ?_, hreport, (List.append_assoc ..).symm, ?_⟩
        · rw [hvisited, hvisit, List.append_assoc, List.singleton_append]
        · intro others
          rw [prescribedAlong, hblock, answersIn_append]
          dsimp only
          rw [hcalls, hrest, List.map_append]
      · exact ⟨ids, zs, report, hvisited, hreport, rfl, hrest⟩
  | exhausted => cases hstop

/-- **The calls of a run.** A run of a new session that returns has called, in this
order: what the visited blocks prescribe, the report of its ending, the close. The
prescription is told by the flow, the settings, the visited blocks and any answers
that begin with those given; it uses up the ones given, and its variables are those
of the session. -/
theorem run_calls_prescribed {σ : Type} (env : Environment σ) (flow : Flow)
    (settings : Settings) (blocks : Nat) (world : σ) {t : Termination} {r : Run σ}
    (hrun : r = (Session.start flow settings).run env blocks world)
    (hreturned : r.stop = .returned t) (others : Answers) :
    let visit := prescribedAlong flow settings r.session.visited Variables.empty
      (answersIn r.exchanges others)
    r.exchanges.map Exchange.request
        = visit.calls ++ [reportOf settings.prompts t, .close]
      ∧ visit.store = r.session.store
      ∧ visit.left = others := by
  have hcourse := course_run env blocks (Session.start flow settings) world
  rw [← hrun, hreturned] at hcourse
  obtain ⟨ids, ys, report, hvisited, hreport, hxs, hcalls⟩ := hcourse.prescribed rfl
  have hids : r.session.visited = ids := hvisited
  intro visit
  have hvisit : visit = ⟨ys.map Exchange.request, r.session.store, others⟩ := by
    rw [← hcalls others, ← hids]
    simp only [visit]
    rw [hxs, answersIn_append, answersIn_report hreport]
    rfl
  refine ⟨?_, by rw [hvisit], by rw [hvisit]⟩
  rw [hvisit, hxs, List.map_append, List.map_cons, hreport]
  rfl

/-- The greeting, answered at once. -/
def greetingRun : Run (Script × Fetcher) :=
  (Session.start greetingFlow {}).run Script.channel.environment 5
    ({ cues := [.reply ['A']] }, .offline)

theorem greeting_calls_prescribed :
    greetingRun.stop = .returned (.completed .endBlock)
      ∧ greetingRun.exchanges.map Exchange.request
          = (prescribedAlong greetingFlow {} [['s'], ['q'], ['m'], ['e']] Variables.empty
              ⟨[.ok ['A']], []⟩).calls
            ++ [.message Prompts.standard.chatFinished, .close] := by
  have hreturned : greetingRun.stop = .returned (.completed .endBlock) := rfl
  exact ⟨hreturned,
    (run_calls_prescribed Script.channel.environment greetingFlow {} 5 _ rfl hreturned
      ⟨[], []⟩).1⟩

/-- The greeting takes the name from the variable that holds the reply. -/
example :
    (prescribedAlong greetingFlow {} [['s'], ['q'], ['m'], ['e']] Variables.empty
      ⟨[.ok ['A']], []⟩).calls =
      [.input (Prompts.standard.capturePrompt ['n']), .message ['H', 'i', ' ', 'A']] := by
  decide

end Session

end Dialogue
