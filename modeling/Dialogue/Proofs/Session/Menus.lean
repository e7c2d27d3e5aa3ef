import Mathlib.Data.List.Forall2
import Dialogue.Channel.Script
import Dialogue.Proofs.Menu.Numbering
import Dialogue.Proofs.Session.Branching
import Dialogue.Proofs.Session.Refusal
import Dialogue.Proofs.Session.Standing

/-!
# Menus in conversations

A request for input that captures no variable offers a menu: the links of a block that follows
them, or the options of a choice. What is offered is said of the flow and not of the code that
writes the menu or the code that reads the reply (`Session.Offers`), and both agree with it: the
prompt shows these entries under their numbers, and a reply leads where the entry with its number
leads, or nowhere (`menus_agree`).

A request and what follows it stand together in the activity of a run, so the menus are first
found there (`step_menuAgrees`, `whole_asks`). A run meets them on its way (`leads_of_moments`).
-/

namespace Dialogue

variable {σ α β : Type}

namespace Activity

variable {t : Session} {xs : List Exchange} {request : Call} {resume : request.Answer → Activity β}

/-- A call of two activities in a row is one of the first, or one of the second. -/
theorem leads_call_bind {a : Activity α} {f : Session → α → Activity β}
    (h : (a.bind f).Leads xs (.call t request resume)) :
    (∃ before, a.Leads xs (.call t request before)
        ∧ ∀ answer, resume answer = (before answer).bind f)
      ∨ ∃ ys u r, (f u r).Leads ys (.call t request resume) := by
  rcases leads_bind h with ⟨a', ha', hcall⟩ | ⟨ys, zs, u, r, -, -, -, hnext⟩
  · cases a' with
    | done u r => exact Or.inr ⟨[], u, r, hcall ▸ .here _⟩
    | call u q before =>
        cases hcall
        exact Or.inl ⟨before, ha', fun _ => rfl⟩
  · exact Or.inr ⟨zs, u, r, hnext⟩

/-- An activity leads to the moments of its performance. If the call there is answered, the
performance goes on as the activity does. -/
theorem leads_of_moments {env : Environment σ} {a : Activity β} {w : σ}
    {earlier later : List Moment} (h : a.moments env w = earlier ++ ⟨t, request⟩ :: later) :
    ∃ resume xs, xs.length = earlier.length ∧ a.Leads xs (.call t request resume) ∧
      ∀ answer, (a.performIn env w).exchanges[earlier.length]? = some ⟨request, answer⟩ →
        ∃ w', later = (resume answer).moments env w' ∧
          a.performIn env w =
            let rest := (resume answer).performIn env w'
            { rest with exchanges := xs ++ [⟨request, answer⟩] ++ rest.exchanges } := by
  induction a generalizing w earlier with
  | done s r =>
      rw [moments] at h
      simp at h
  | call s q next ih =>
      rw [moments] at h
      rw [performIn]
      -- The moment is this call, or it lies behind the answer to it.
      rcases earlier with _ | ⟨first, earlier⟩
      · obtain ⟨hfirst, rfl⟩ := List.cons_eq_cons.mp h
        cases hfirst
        refine ⟨next, [], rfl, .here _, fun answer hanswer => ?_⟩
        rcases hans : env.answer request w with ⟨w', _ | answer'⟩ <;> rw [hans] at hanswer
        · simp at hanswer
        · obtain rfl : answer' = answer := by simpa using hanswer
          exact ⟨w', rfl, rfl⟩
      · obtain ⟨rfl, hrest⟩ := List.cons_eq_cons.mp h
        rcases hans : env.answer q w with ⟨w', _ | answer'⟩ <;> rw [hans] at hrest
        · simp at hrest
        · obtain ⟨resume, xs, hlength, hleads, hgoes⟩ := ih answer' hrest
          refine ⟨resume, ⟨q, answer'⟩ :: xs, congrArg (· + 1) hlength,
            .answered answer' hleads, fun answer hanswer => ?_⟩
          obtain ⟨w'', hlater, hperform⟩ := hgoes answer hanswer
          refine ⟨w'', hlater, ?_⟩
          dsimp only
          rw [hperform]
          rfl

end Activity

namespace Session

open Conversation

/-! ## What a menu offers -/

/-- Menus name a block by its text, or by the fallback label where there is no text or block. -/
def Labels (s : Session) (target label : Text) : Prop :=
  (∃ b, s.flow.block? target = some b ∧ b.text = some label)
    ∨ ((∀ b, s.flow.block? target = some b → b.text = none)
        ∧ label = s.settings.prompts.fallbackLabel)

/-- The entries that a block has to offer, for a purpose and below a header. -/
inductive Offers (s : Session) (b : Block) : Purpose → Text → List Menu.Entry → Prop
  | links {entries : List Menu.Entry} (hfollows : b.FollowsLinks)
      (hmany : 2 ≤ (s.flow.linksFrom b.id).length)
      (hentries : List.Forall₂
        (fun link entry => s.Labels link.target entry.label ∧ entry.target = some link.target)
        (s.flow.linksFrom b.id) entries) :
      Offers s b (.advance (s.flow.linksFrom b.id).length) s.settings.prompts.chooseAction entries
  | options {choices : List Choice} {entries : List Menu.Entry}
      (hkind : b.kind = .choice choices) (hsome : choices ≠ [])
      (hentries : List.Forall₂
        (fun choice entry => entry.label = choice.label
          ∧ ∀ target, entry.target = some target ↔
              ∃ link, IsFirst (LinkDefinition.Leaves b.id choice.port) s.flow.links link
                ∧ link.target = target)
        choices entries) :
      Offers s b (.choice choices.length) s.settings.prompts.chooseOption entries

/-- The session awaits the reply to a menu of these entries of the block. -/
structure AwaitsChoice (s : Session) (prompt : Text) (b : Block) (entries : List Menu.Entry) :
    Prop where
  block : s.flow.block? b.id = some b
  menu : ∃ purpose header, s.standing = .awaiting b.id purpose
    ∧ s.Offers b purpose header entries ∧ Menu.Shows header entries prompt

/-- A menu is shown, and the block ends as the reply leads. -/
def MenuAgrees (t : Session) (prompt : Text)
    (resume : Reply → Activity (Except Failure Transition)) : Prop :=
  ∃ b entries, t.AwaitsChoice prompt b entries ∧
    ∀ reply, ∃ result, (∀ other, Menu.Leads b.id reply entries other ↔ other = result)
      ∧ resume (.ok reply) = .done { t with standing := .running b.id } result

variable {s t : Session} {b : Block} {prompt : Text} {xs : List Exchange}
  {resume : Reply → Activity (Except Failure Transition)}

/-- What a block has to offer does not depend on where the session stands. -/
theorem Offers.elsewhere {purpose : Purpose} {header : Text} {entries : List Menu.Entry}
    (h : s.Offers b purpose header entries) (standing : Standing) :
    Offers { s with standing := standing } b purpose header entries := by
  cases h with
  | links hfollows hmany hentries => exact .links hfollows hmany hentries
  | options hkind hsome hentries => exact .options hkind hsome hentries

theorem labels_linkLabel (s : Session) (link : Link) :
    s.Labels link.target (linkLabel s link) := by
  unfold Labels linkLabel
  rcases s.flow.block? link.target with _ | ⟨id, _ | text, kind⟩ <;> simp

def linkEntries (s : Session) (b : Block) : List Menu.Entry :=
  (s.flow.linksFrom b.id).map fun link => ⟨linkLabel s link, some link.target⟩

theorem offers_linkEntries (hfollows : b.FollowsLinks)
    (hmany : 2 ≤ (s.flow.linksFrom b.id).length) :
    s.Offers b (.advance (s.flow.linksFrom b.id).length) s.settings.prompts.chooseAction
      (s.linkEntries b) := by
  refine .links hfollows hmany ?_
  rw [linkEntries, List.forall₂_map_right_iff, List.forall₂_same]
  exact fun link _ => ⟨labels_linkLabel s link, rfl⟩

def optionEntries (s : Session) (b : Block) (choices : List Choice) : List Menu.Entry :=
  choices.map fun choice =>
    ⟨choice.label, (s.flow.linkOnPort? b.id choice.port).map LinkDefinition.target⟩

theorem offers_optionEntries {choices : List Choice} (hkind : b.kind = .choice choices)
    (hsome : choices ≠ []) :
    s.Offers b (.choice choices.length) s.settings.prompts.chooseOption
      (s.optionEntries b choices) := by
  refine .options hkind hsome ?_
  rw [optionEntries, List.forall₂_map_right_iff, List.forall₂_same]
  refine fun choice _ => ⟨rfl, fun target => ?_⟩
  simp only [isFirst_iff, linkOnPort?_eq, Option.map_eq_some_iff]

/-! ## What is asked and what comes of it -/

/-- A request for input whose reply decides, without a further call, what follows. -/
theorem leads_ask {block asked : Text} {purpose : Purpose}
    {next : Text → Conversation Transition} {select : Text → Except Failure Transition}
    (hnext : ∀ reply u, next reply u = .done u (select reply))
    (h : ((ask block purpose asked >>= next : Conversation Transition) s).Leads xs
      (.call t (.input prompt) resume)) :
    t = { s with standing := .awaiting block purpose } ∧ prompt = asked ∧ ∀ reply,
      resume (.ok reply) = .done { s with standing := .running block } (select reply) := by
  change ((ask block purpose asked s).bind _).Leads _ _ at h
  rw [ask_apply, Activity.bind] at h
  cases h with
  | here => exact ⟨rfl, rfl, fun reply => hnext reply _⟩
  | answered answer h =>
      rcases answer with e | reply
      · cases h
      · change ((next reply _).Leads _ _) at h
        rw [hnext] at h
        cases h

/-- The menu of what a block offers agrees with the replies, if a reply is followed by the link of
the entry that it picks. -/
theorem menuAgrees_of_ask {purpose : Purpose} {header : Text} {entries : List Menu.Entry}
    {next : Text → Conversation Transition} (link? : Text → Option Link)
    (hblock : s.flow.block? b.id = some b) (hoffers : s.Offers b purpose header entries)
    (hlink : ∀ reply, (link? reply).map LinkDefinition.target =
      (Menu.pick? reply entries.length).bind fun i => entries[i]?.bind Menu.Entry.target)
    (hnext : ∀ reply u, next reply u = .done u (leadTo (.invalidChoice b.id reply) (link? reply)))
    (h : ((ask b.id purpose (Menu.render header (entries.map Menu.Entry.label)) >>= next
      : Conversation Transition) s).Leads xs (.call t (.input prompt) resume)) :
    t.MenuAgrees prompt resume := by
  obtain ⟨rfl, rfl, hreply⟩ := leads_ask hnext h
  exact ⟨b, entries, ⟨hblock, purpose, header, rfl, hoffers.elsewhere _, Menu.shows_render⟩,
    fun reply => ⟨_, fun other => Menu.leads_iff (hlink reply), hreply reply⟩⟩

theorem advance_menuAgrees (h : (advance b s).Leads xs (.call t (.input prompt) resume))
    (hblock : s.flow.block? b.id = some b) (hfollows : b.FollowsLinks) :
    t.MenuAgrees prompt resume := by
  rw [advance, session_bind_apply] at h
  rcases hlinks : s.flow.linksFrom b.id with _ | ⟨first, _ | ⟨second, rest⟩⟩
  · rw [hlinks] at h
    cases h
  · rw [hlinks] at h
    cases h
  have hmany : 2 ≤ (s.flow.linksFrom b.id).length := by
    rw [hlinks]
    exact Nat.le_add_left 2 rest.length
  rw [hlinks] at h
  dsimp only at h
  -- The menu is written from the links; their entries have the same labels.
  rw [← hlinks, show (s.flow.linksFrom b.id).map (linkLabel s) =
    (s.linkEntries b).map Menu.Entry.label by rw [linkEntries, List.map_map]; rfl] at h
  refine menuAgrees_of_ask (fun reply => (Menu.pick? reply (s.flow.linksFrom b.id).length).bind
    fun i => (s.flow.linksFrom b.id)[i]?) hblock (offers_linkEntries hfollows hmany)
    (fun reply => ?_) (fun reply u => ?_) h
  · rw [Option.map_bind, linkEntries, List.length_map]
    refine congrArg _ (funext fun i => ?_)
    rw [Function.comp_apply, List.getElem?_map]
    cases (s.flow.linksFrom b.id)[i]? <;> rfl
  · cases (Menu.pick? reply (s.flow.linksFrom b.id).length).bind
      fun i => (s.flow.linksFrom b.id)[i]? <;> rfl

theorem choose_menuAgrees {choices : List Choice}
    (h : (choose b.id choices s).Leads xs (.call t (.input prompt) resume))
    (hblock : s.flow.block? b.id = some b) (hkind : b.kind = .choice choices) :
    t.MenuAgrees prompt resume := by
  by_cases hsome : choices = []
  · rw [choose, if_pos hsome] at h
    cases h
  rw [choose, if_neg hsome, session_bind_apply] at h
  dsimp only at h
  rw [show choices.map Choice.label = (s.optionEntries b choices).map Menu.Entry.label by
    rw [optionEntries, List.map_map]; rfl] at h
  refine menuAgrees_of_ask (fun reply => (Menu.pick? reply choices.length).bind
    fun i => choices[i]?.bind fun choice => s.flow.linkOnPort? b.id choice.port) hblock
    (offers_optionEntries hkind hsome) (fun reply => ?_) (fun reply u => ?_) h
  · rw [Option.map_bind, optionEntries, List.length_map]
    refine congrArg _ (funext fun i => ?_)
    rw [Function.comp_apply, List.getElem?_map]
    cases choices[i]? <;> rfl
  · cases (Menu.pick? reply choices.length).bind
      fun i => choices[i]?.bind fun choice => s.flow.linkOnPort? b.id choice.port <;> rfl

theorem perform_menuAgrees (h : (perform b s).Leads xs (.call t (.input prompt) resume))
    (hblock : s.flow.block? b.id = some b)
    (hmenu : ∀ id name, t.standing ≠ .awaiting id (.capture name)) :
    t.MenuAgrees prompt resume := by
  obtain ⟨id, text, kind⟩ := b
  cases kind with
  | start => exact advance_menuAgrees h hblock (Or.inl rfl)
  | message =>
      cases h with
      | answered answer h => exact advance_menuAgrees h hblock (Or.inr (Or.inl rfl))
  | save name =>
      rcases name with _ | name
      · cases h
      change ((ask id (.capture name) _ s).bind _).Leads _ _ at h
      rw [ask_apply] at h
      cases h with
      -- This is the one request that is no menu.
      | here => exact absurd rfl (hmenu id name)
      | answered answer h =>
          rcases answer with e | reply
          · cases h
          · have hnext : (advance _ { s with
                standing := .running id, store := s.store.set name (.text reply) }).Leads _ _ := h
            exact advance_menuAgrees hnext hblock (Or.inr (Or.inr (Or.inl ⟨name, rfl⟩)))
  | conditional conditions =>
      rw [show perform ⟨id, text, .conditional conditions⟩ s = _ from
        branch_apply ⟨id, text, .conditional conditions⟩ conditions s] at h
      cases h
  | choice choices => exact choose_menuAgrees h hblock rfl
  | externalCall url name =>
      rcases url with _ | url
      · cases h
      rcases name with _ | name
      · cases h
      change ((callExternal url s).bind _).Leads _ _ at h
      rw [callExternal_apply] at h
      cases hfetch : s.settings.canFetch with
      | false =>
          rw [hfetch, if_neg Bool.false_ne_true] at h
          cases h
      | true =>
          rw [hfetch, if_pos rfl] at h
          cases h with
          | answered answer h =>
              rcases answer with e | response
              · cases h
              · have hnext : (advance _ { s with
                    store := s.store.set name (.text response.summarize) }).Leads _ _ := h
                exact advance_menuAgrees hnext hblock (Or.inr (Or.inr (Or.inr ⟨url, name, rfl⟩)))
  | finish => cases h
  | unknown typeName => cases h

/-- Every request of a block that captures no variable offers a menu, and the block agrees with
it. -/
theorem step_menuAgrees {id : Text} (h : (step id s).Leads xs (.call t (.input prompt) resume))
    (hmenu : ∀ id name, t.standing ≠ .awaiting id (.capture name)) :
    t.MenuAgrees prompt resume := by
  rw [step, session_bind_apply] at h
  rcases hblock : s.flow.block? id with _ | b <;> rw [hblock] at h
  · cases h
  · rw [← Flow.id_of_block? hblock] at hblock
    have hperform : (perform b { s with visited := s.visited ++ [id] }).Leads _ _ := h
    exact perform_menuAgrees hperform hblock hmenu

/-! ## Menus in runs -/

/-- A session that has ended asks for nothing. -/
theorem not_leads_of_ended {blocks : Nat} {u : Termination}
    {resume : Reply → Activity (Option Termination)} (hpos : s.position = .error u) :
    ¬ (s.whole blocks).Leads xs (.call t (.input prompt) resume) := by
  intro h
  have hpath := h.path (.pending t (.input prompt) resume)
  rw [List.append_nil] at hpath
  cases course_of_path hpath with
  | unconcluded _ hfin => cases (finished_open hfin).2
  | halted hpos' => cases hpos.symm.trans hpos'
  | went hpos' => cases hpos.symm.trans hpos'

/-- Every request of a run is one of a block, and the run goes on from where the block leads. -/
theorem whole_asks {blocks : Nat} {resume : Reply → Activity (Option Termination)}
    (h : (s.whole blocks).Leads xs (.call t (.input prompt) resume)) :
    ∃ id u left ys before, (step id u).Leads ys (.call t (.input prompt) before) ∧ ∀ answer,
      resume answer = (before answer).bind fun u result => whole left (u.settle result) := by
  induction blocks generalizing s xs with
  | zero =>
      rcases hpos : s.position with u | id
      · exact absurd h (not_leads_of_ended hpos)
      · rw [whole, hpos] at h
        cases h
  | succ blocks ih =>
      rcases hpos : s.position with u | id
      · exact absurd h (not_leads_of_ended hpos)
      rw [whole, hpos] at h
      rcases Activity.leads_call_bind h with ⟨before, hleads, hbefore⟩ | ⟨ys, u, r, hrest⟩
      · exact ⟨id, s, blocks, xs, before, hleads, hbefore⟩
      · exact ih hrest

/-- A session that has ended makes no calls but the report and the close. -/
theorem requests_of_ended (env : Environment σ) (blocks : Nat) {u : Termination} (w : σ)
    (hpos : s.position = .error u) :
    (s.moments env blocks w).map Moment.request <+: [reportOf s.settings.prompts u, .close] := by
  rw [moments, whole_of_ended hpos, ending, finish_apply]
  split
  · exact List.nil_prefix
  · simp only [Activity.bind, Activity.moments]
    rcases env.answer (reportOf s.settings.prompts u) w with ⟨w', _ | taken⟩
    · exact ⟨[.close], rfl⟩
    · dsimp only
      rcases env.answer .close w' with ⟨w'', _ | _⟩ <;> exact List.prefix_refl _

/-- **The numbers shown and the numbers accepted agree.** A request that captures no variable
offers what the block at hand has to offer, each entry under its number. A reply leads where the
entry with its number leads, and from there the run goes on; it fails if there is none, and then
there is nothing but the report and the close. -/
theorem menus_agree {env : Environment σ} {blocks : Nat} {w : σ} {earlier later : List Moment}
    (hmoment : s.moments env blocks w = earlier ++ ⟨t, .input prompt⟩ :: later)
    (hmenu : ∀ id name, t.standing ≠ .awaiting id (.capture name)) :
    t.flow = s.flow ∧ t.settings = s.settings ∧ ∃ b entries, t.AwaitsChoice prompt b entries ∧
      ∀ reply, (s.run env blocks w).exchanges[earlier.length]? = some ⟨.input prompt, .ok reply⟩ →
        ∃ result, (∀ other, Menu.Leads b.id reply entries other ↔ other = result)
          ∧ (∃ left w' xs, xs.length = earlier.length
              ∧ later = (t.settle result).moments env left w'
              ∧ s.run env blocks w =
                  ((t.settle result).run env left w').after (xs ++ [⟨.input prompt, .ok reply⟩]))
          ∧ ∀ failure, result = .error failure →
              later.map Moment.request <+: [.message failure.message, .close] := by
  obtain ⟨_, -, hcourse⟩ := course_of_moments hmoment
  obtain ⟨resume, xs, hlength, hcall, hgoes⟩ := Activity.leads_of_moments hmoment
  obtain ⟨id, u, left, ys, before, hstep, hrest⟩ := whole_asks hcall
  obtain ⟨b, entries, hawaits, hagrees⟩ := step_menuAgrees hstep hmenu
  refine ⟨hcourse.fixed.1, hcourse.fixed.2, b, entries, hawaits, fun reply hreply => ?_⟩
  obtain ⟨result, hleads, hbefore⟩ := hagrees reply
  have hresume : resume (.ok reply) = (t.settle result).whole left := by
    rw [hrest, hbefore]
    rcases result with _ | _ | _ <;> rfl
  rw [run_eq_performIn] at hreply
  obtain ⟨w', hlater, hrun⟩ := hgoes (.ok reply) hreply
  rw [hresume] at hlater hrun
  refine ⟨result, hleads, ⟨left, w', xs, hlength, hlater, ?_⟩, ?_⟩
  · rw [run_eq_performIn, run_eq_performIn, hrun]
    rfl
  · rintro failure rfl
    rw [hlater]
    cases (hleads _).mpr rfl
    have hended : (t.settle (.error (.invalidChoice b.id reply))).position =
      .error (.failed (.invalidChoice b.id reply)) := rfl
    exact requests_of_ended env left w' hended

/-- The menu behind a message, with a second link that leads nowhere. -/
def echoMenu : Text := "Choose an action:\n1. M\n2. Next step".toList

/-- The reply to the menu picks neither link. -/
def echoLost : Script × Fetcher := ({ cues := [.reply ['+', '1']] }, .offline)

def echoSaying : Moment where
  session := { Session.start echoFlow {} with
    standing := .running ['m']
    visited := [['s'], ['m']] }
  request := .message ['M']

def echoChoosing : Session :=
  { echoSaying.session with standing := .awaiting ['m'] (.advance 2) }

/-- The session has ended by the reply. -/
def echoLosing : List Moment :=
  [.message "Invalid choice".toList, .close].map
    (Moment.mk (echoChoosing.settle (.error (.invalidChoice ['m'] ['+', '1']))))

theorem echo_menu_agrees :
    (Session.start echoFlow {}).moments Script.channel.environment 5 echoLost =
        [echoSaying] ++ ⟨echoChoosing, .input echoMenu⟩ :: echoLosing
      ∧ (∀ id name, echoChoosing.standing ≠ .awaiting id (.capture name))
      ∧ ((Session.start echoFlow {}).run Script.channel.environment 5 echoLost).exchanges[1]? =
          some ⟨.input echoMenu, .ok ['+', '1']⟩
      ∧ ∃ b entries, echoChoosing.AwaitsChoice echoMenu b entries
          ∧ Menu.Leads b.id ['+', '1'] entries (.error (.invalidChoice b.id ['+', '1']))
          ∧ echoLosing.map Moment.request <+: [.message "Invalid choice".toList, .close] := by
  have hmoments : (Session.start echoFlow {}).moments Script.channel.environment 5 echoLost =
    [echoSaying] ++ ⟨echoChoosing, .input echoMenu⟩ :: echoLosing := rfl
  have hmenu : ∀ id name, echoChoosing.standing ≠ .awaiting id (.capture name) := by
    intro id name h
    cases h
  have hreply : ((Session.start echoFlow {}).run Script.channel.environment 5
    echoLost).exchanges[1]? = some ⟨.input echoMenu, .ok ['+', '1']⟩ := rfl
  obtain ⟨-, -, b, entries, hawaits, hagrees⟩ := menus_agree hmoments hmenu
  obtain ⟨result, hleads, -, hfails⟩ := hagrees ['+', '1'] hreply
  obtain rfl := (hleads _).mp <| .invalid fun k label target _ hnumber =>
    absurd (hnumber.2.1 '+' (by decide)) (by decide)
  exact ⟨hmoments, hmenu, hreply, b, entries, hawaits, (hleads _).mpr rfl, hfails _ rfl⟩

end Session

end Dialogue
