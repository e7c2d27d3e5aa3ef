import Dialogue.Proofs.Session.Simulation
import Dialogue.Proofs.Session.Whole

/-!
# Refused requests

After some of its calls have been answered, an activity goes on as another one
(`Activity.Leads`). A conversation that is refused a request for input goes on with nothing
but the report of this failure (`Session.whole_refused`). So if an environment gives the
answers of a run up to a request, and refuses the request, then its own run is known: it is
the same one up to there, and then the report (`Session.run_refused`).

A channel falters if from some state on it does what it does in another state, until it
refuses a request (`Channel.Falters`). Its run is then the other one, or the other one up to a
request (`Channel.Falters.run`).
-/

namespace Dialogue

variable {σ τ φ α β : Type}

/-! ## What activities go on with -/

/-- After these calls have been answered, an activity goes on as another one. -/
inductive Activity.Leads : Activity α → List Exchange → Activity α → Prop
  | here (a : Activity α) : Leads a [] a
  | answered {s : Session} {request : Call} {resume : request.Answer → Activity α}
      {xs : List Exchange} {b : Activity α} (answer : request.Answer)
      (rest : Leads (resume answer) xs b) :
      Leads (.call s request resume) (⟨request, answer⟩ :: xs) b

namespace Activity

variable {a b : Activity α} {s : Session} {xs ys : List Exchange}

theorem Leads.of_nil (h : a.Leads [] b) : b = a := by
  cases h
  rfl

theorem Leads.path {o : Except Call α} (h : a.Leads xs b) (hpath : b.Path ys s o) :
    a.Path (xs ++ ys) s o := by
  induction h with
  | here => exact hpath
  | answered answer _ ih => exact .answered answer (ih hpath)

theorem exists_path (a : Activity α) : ∃ xs s o, a.Path xs s o := by
  cases a with
  | done s r => exact ⟨[], s, _, .done s r⟩
  | call s request resume => exact ⟨[], s, _, .pending s request resume⟩

/-- An activity all of whose paths come to one result makes no call: it could be left open. -/
theorem done_of_paths {r : α} (h : ∀ xs s o, a.Path xs s o → o = .ok r) :
    ∃ s, a = .done s r := by
  cases a with
  | done s r' => exact ⟨s, by rw [Except.ok.inj (h [] s _ (.done s r'))]⟩
  | call s request resume => cases h [] s _ (.pending s request resume)

/-- A call that is answered on a path could have been answered in another way. -/
theorem leads_of_path {request : Call} {answer : request.Answer} {o : Except Call α}
    (h : a.Path (xs ++ ⟨request, answer⟩ :: ys) s o) (other : request.Answer) :
    ∃ b, a.Leads (xs ++ [⟨request, other⟩]) b := by
  induction xs generalizing a with
  | nil =>
      cases h with
      | @answered _ _ _ resume _ _ _ rest => exact ⟨resume other, .answered other (.here _)⟩
  | cons x xs ih =>
      cases h with
      | answered answer' rest =>
          obtain ⟨b, hb⟩ := ih rest
          exact ⟨b, .answered answer' hb⟩

/-- An environment that gives these answers goes on with what the activity goes on with. -/
theorem Leads.performIn {env : Environment σ} {w w' : σ} (h : a.Leads xs b)
    (hgives : env.Gives w xs w') :
    a.performIn env w =
      { b.performIn env w' with exchanges := xs ++ (b.performIn env w').exchanges } := by
  induction h generalizing w with
  | here a =>
      cases hgives
      rfl
  | answered answer _ ih =>
      obtain ⟨w₁, hanswer, hrest⟩ := Environment.gives_cons_iff.mp hgives
      rw [Activity.performIn, show env.answer _ w = _ from hanswer]
      dsimp only
      rw [ih hrest]
      rfl

/-- The second activity has made the last call, or the first one has it still to follow. -/
theorem leads_bind {next : Session → α → Activity β} {b : Activity β}
    (h : (a.bind next).Leads xs b) :
    (∃ a', a.Leads xs a' ∧ b = a'.bind next)
      ∨ ∃ ys zs t r, xs = ys ++ zs ∧ zs ≠ [] ∧ a.Path ys t (.ok r) ∧ (next t r).Leads zs b := by
  induction a generalizing xs with
  | done s r =>
      by_cases hxs : xs = []
      · subst hxs
        exact .inl ⟨.done s r, .here _, h.of_nil⟩
      · exact .inr ⟨[], xs, s, r, rfl, hxs, .done s r, h⟩
  | call s request resume ih =>
      cases h with
      | here => exact .inl ⟨.call s request resume, .here _, rfl⟩
      | answered answer rest =>
          rcases ih answer rest with ⟨a', ha', rfl⟩ | ⟨ys, zs, t, r, rfl, hzs, hpath, hnext⟩
          · exact .inl ⟨a', .answered answer ha', rfl⟩
          · exact .inr ⟨_, zs, t, r, rfl, hzs, .answered answer hpath, hnext⟩

end Activity

/-! ## What a refused request leads to -/

namespace Session

open Conversation

variable {s : Session} {xs ys : List Exchange} {prompt : Text} {e : ChannelError}

/-- The report of an ending, as the end of a run. -/
def ending (t : Termination) (s : Session) : Activity (Option Termination) :=
  (finish t s).bind fun s _ => .done s (some t)

theorem whole_of_ended {t : Termination} (hpos : s.position = .error t) (blocks : Nat) :
    s.whole blocks = s.ending t := by
  cases blocks <;> rw [whole, hpos] <;> rfl

/-- The block that made a refused request has failed. -/
theorem step_refused {id : Text} {b : Activity (Except Failure Transition)}
    (h : (step id s).Leads (xs ++ [⟨.input prompt, .error e⟩]) b) :
    ∃ t, b = .done t (.error (.channel e)) := by
  refine Activity.done_of_paths fun ys t o hpath => ?_
  have hrefused : ⟨.input prompt, .error e⟩ ∈ xs ++ [⟨.input prompt, .error e⟩] ++ ys :=
    List.mem_append_left _ (List.mem_append_right _ (List.mem_singleton.mpr rfl))
  exact (entered_of_path (h.path hpath)).refused_failure hrefused

/-- The report of an ending asks for nothing. -/
theorem input_not_mem_finished {t : Termination} {s' : Session} {o : Ending Unit} {reply : Reply}
    (h : Finished t s xs s' o) : ⟨.input prompt, reply⟩ ∉ xs := by
  intro hmem
  have hreport {taken : (reportOf s.settings.prompts t).Answer} :
      (⟨.input prompt, reply⟩ : Exchange) ≠ ⟨reportOf s.settings.prompts t, taken⟩ := by
    intro h
    have hrequest : .input prompt = reportOf s.settings.prompts t := congrArg Exchange.request h
    rcases reportOf_cases s.settings.prompts t with ⟨text, htext⟩ | ⟨text, htext⟩
    all_goals
      rw [htext] at hrequest
      cases hrequest
  cases h with
  | silent _ => exact List.not_mem_nil hmem
  | unreported _ => exact List.not_mem_nil hmem
  | unclosed _ taken => exact hreport (List.mem_singleton.mp hmem)
  | reported _ taken =>
      rcases List.mem_cons.mp hmem with hx | hx
      · exact hreport hx
      · cases List.mem_singleton.mp hx

theorem not_leads_ending {t : Termination} {b : Activity (Option Termination)} :
    ¬ (s.ending t).Leads (xs ++ [⟨.input prompt, .error e⟩]) b := by
  intro h
  obtain ⟨ys, s', o, hpath⟩ := b.exists_path
  have hmem : (⟨.input prompt, .error e⟩ : Exchange) ∈ xs ++ [⟨.input prompt, .error e⟩] ++ ys :=
    List.mem_append_left _ (List.mem_append_right _ (List.mem_singleton.mpr rfl))
  rcases Activity.path_bind (h.path hpath) with
    ⟨request, rfl, hfin⟩ | ⟨us, vs, u, r, hxs, hfin, hdone⟩
  · exact input_not_mem_finished (finished_of_path hfin) hmem
  · obtain ⟨rfl, -, -⟩ := Activity.path_done_iff.mp hdone
    rw [hxs, List.append_nil] at hmem
    exact input_not_mem_finished (finished_of_path hfin) hmem

/-- **A refused request is the end.** A run goes on with the report of this failure. -/
theorem whole_refused {blocks : Nat} {b : Activity (Option Termination)}
    (h : (s.whole blocks).Leads (xs ++ [⟨.input prompt, .error e⟩]) b) :
    ∃ t : Session, b = t.ending (.failed (.channel e)) := by
  induction blocks generalizing s xs with
  | zero =>
      rcases hpos : s.position with t | id
      · rw [whole_of_ended hpos] at h
        exact absurd h not_leads_ending
      · rw [whole, hpos] at h
        cases xs <;> cases h
  | succ blocks ih =>
      rcases hpos : s.position with t | id
      · rw [whole_of_ended hpos] at h
        exact absurd h not_leads_ending
      rw [whole, hpos] at h
      rcases Activity.leads_bind h with ⟨a', ha', rfl⟩ | ⟨ys, zs, t, r, hxs, hzs, -, hrest⟩
      · obtain ⟨t, rfl⟩ := step_refused ha'
        exact ⟨_, whole_of_ended rfl blocks⟩
      · obtain ⟨zs, z, rfl⟩ := (List.eq_nil_or_concat zs).resolve_left hzs
        rw [List.concat_eq_append, ← List.append_assoc] at hxs
        obtain ⟨-, hz⟩ := List.append_inj' hxs rfl
        rw [List.concat_eq_append, ← (List.cons.inj hz).1] at hrest
        exact ih hrest

/-- **A run up to a refused request.** Take the log of any run. An environment that gives the
same answers up to a request, and refuses that, has the same run up to there, and then only
the failure is reported. -/
theorem run_refused {env : Environment σ} {env' : Environment τ} {blocks : Nat} {w : σ}
    {v v' : τ} {reply : Reply}
    (hlog : (s.run env blocks w).exchanges = xs ++ ⟨.input prompt, reply⟩ :: ys)
    (hgives : env'.Gives v (xs ++ [⟨.input prompt, .error e⟩]) v') :
    ∃ t : Session, s.run env' blocks v =
      (t.conclude env' (.failed (.channel e)) v').after (xs ++ [⟨.input prompt, .error e⟩]) := by
  have hpath := Activity.path_performIn env (s.whole blocks) w
  rw [run_eq_performIn] at hlog
  rw [show ((s.whole blocks).performIn env w).exchanges = _ from hlog] at hpath
  obtain ⟨b, hb⟩ := Activity.leads_of_path hpath (.error e)
  obtain ⟨t, rfl⟩ := whole_refused hb
  refine ⟨t, ?_⟩
  rw [run_eq_performIn, hb.performIn hgives, conclude_eq_performIn]
  rfl

end Session

/-! ## Channels that falter -/

/-- What a channel does from one of two states it does from the other, with the same answers,
until it refuses a request there. `Open` relates the states up to then. Afterwards the first
goes on as it may, and the second is told of the failure and closed: `Spent` relates them as
long as this takes. -/
structure Channel.Falters (channel : Channel τ) (e : ChannelError) (Open Spent : τ → τ → Prop) :
    Prop where
  message {c d : τ} (text : Text) (h : Open c d) :
    (channel.message text d).2 = (channel.message text c).2
      ∧ Open (channel.message text c).1 (channel.message text d).1
  error {c d : τ} (text : Text) (h : Open c d) :
    (channel.error text d).2 = (channel.error text c).2
      ∧ Open (channel.error text c).1 (channel.error text d).1
  input {c d : τ} (prompt : Text) (h : Open c d) :
    ((channel.input prompt d).2 = (channel.input prompt c).2
        ∧ Open (channel.input prompt c).1 (channel.input prompt d).1)
      ∨ ((channel.input prompt d).2 = some (.error e)
        ∧ Spent (channel.input prompt c).1 (channel.input prompt d).1)
  close {c d : τ} (h : Open c d) :
    (channel.close d).2 = (channel.close c).2 ∧ Open (channel.close c).1 (channel.close d).1
  onward {c d : τ} (h : Spent c d) :
    (∀ text, Spent (channel.message text c).1 d) ∧ (∀ text, Spent (channel.error text c).1 d)
      ∧ (∀ prompt, Spent (channel.input prompt c).1 d) ∧ Spent (channel.close c).1 d
  report {c d : τ} (text : Text) (h : Spent c d) :
    (channel.error text d).2 = some () ∧ Spent c (channel.error text d).1
  farewell {c d : τ} (h : Spent c d) :
    (channel.close d).2 = some () ∧ Spent c (channel.close d).1

/-- A run was cut short by a failure, if at all: it was the same as another one, or it was so
up to a request that failed, and then the failure was its end. -/
inductive Run.CutShort (e : ChannelError) (r : Run (τ × φ)) : Run (τ × φ) → Prop
  | unharmed {r' : Run (τ × φ)} (fetcher : r'.world.2 = r.world.2)
      (session : r'.session = r.session) (exchanges : r'.exchanges = r.exchanges)
      (stop : r'.stop = r.stop) : CutShort e r r'
  | refused {r' : Run (τ × φ)} {xs ys zs : List Exchange} {prompt : Text} {reply : Reply}
      (before : r.exchanges = xs ++ ⟨.input prompt, reply⟩ :: ys)
      (exchanges : r'.exchanges = xs ++ ⟨.input prompt, .error e⟩ :: zs)
      (stop : r'.stop = .returned (.failed (.channel e))) : CutShort e r r'

namespace Channel

variable {channel : Channel τ} {e : ChannelError} {Open Spent : τ → τ → Prop}
  {fetch : Text → φ → φ × Option Response} {c c' d : τ} {f f' : φ}

theorem Falters.exchange (hfalters : channel.Falters e Open Spent) {x : Exchange}
    (hopen : Open c d)
    (h : (channel.environmentWith fetch).answer x.request (c, f) = ((c', f'), some x.answer)) :
    (∃ d', (channel.environmentWith fetch).answer x.request (d, f) = ((d', f'), some x.answer)
        ∧ Open c' d')
      ∨ ∃ prompt reply d', x = ⟨.input prompt, reply⟩
        ∧ (channel.environmentWith fetch).answer (.input prompt) (d, f) =
          ((d', f), some (.error e))
        ∧ Spent c' d' := by
  obtain ⟨request, answer⟩ := x
  obtain ⟨hstate, hanswer⟩ := Prod.mk.inj h
  obtain ⟨rfl, rfl⟩ := Prod.mk.inj hstate
  cases request with
  | message text =>
      obtain ⟨hsame, hopen'⟩ := hfalters.message text hopen
      exact .inl ⟨_, Prod.ext rfl (hsame.trans hanswer), hopen'⟩
  | error text =>
      obtain ⟨hsame, hopen'⟩ := hfalters.error text hopen
      exact .inl ⟨_, Prod.ext rfl (hsame.trans hanswer), hopen'⟩
  | input prompt =>
      rcases hfalters.input prompt hopen with ⟨hsame, hopen'⟩ | ⟨hrefused, hspent⟩
      · exact .inl ⟨_, Prod.ext rfl (hsame.trans hanswer), hopen'⟩
      · exact .inr ⟨prompt, answer, _, rfl, Prod.ext rfl hrefused, hspent⟩
  | fetch url => exact .inl ⟨d, Prod.ext rfl hanswer, hopen⟩
  | close =>
      obtain ⟨hsame, hopen'⟩ := hfalters.close hopen
      exact .inl ⟨_, Prod.ext rfl (hsame.trans hanswer), hopen'⟩

theorem Falters.gives_onward (hfalters : channel.Falters e Open Spent) {xs : List Exchange}
    {w : τ × φ} (hspent : Spent c d) (h : (channel.environmentWith fetch).Gives (c, f) xs w) :
    Spent w.1 d := by
  induction xs generalizing c f with
  | nil =>
      cases h
      exact hspent
  | cons x xs ih =>
      obtain ⟨⟨c₁, f₁⟩, hanswer, rest⟩ := Environment.gives_cons_iff.mp h
      have hfirst : ((channel.environmentWith fetch).answer x.request (c, f)).1.1 = c₁ := by
        rw [hanswer]
      refine ih ?_ rest
      obtain ⟨hmessage, herror, hinput, hclose⟩ := hfalters.onward hspent
      subst hfirst
      cases x.request with
      | message text => exact hmessage text
      | error text => exact herror text
      | input prompt => exact hinput prompt
      | fetch url => exact hspent
      | close => exact hclose

theorem Falters.exchanges (hfalters : channel.Falters e Open Spent) {xs : List Exchange}
    {w : τ × φ} (hopen : Open c d) (h : (channel.environmentWith fetch).Gives (c, f) xs w) :
    (∃ d', (channel.environmentWith fetch).Gives (d, f) xs (d', w.2) ∧ Open w.1 d')
      ∨ ∃ ys prompt reply zs d' f', xs = ys ++ ⟨.input prompt, reply⟩ :: zs
        ∧ (channel.environmentWith fetch).Gives (d, f) (ys ++ [⟨.input prompt, .error e⟩]) (d', f')
        ∧ Spent w.1 d' := by
  induction xs generalizing c d f with
  | nil =>
      cases h
      exact .inl ⟨d, .nil _, hopen⟩
  | cons x xs ih =>
      obtain ⟨⟨c₁, f₁⟩, hanswer, rest⟩ := Environment.gives_cons_iff.mp h
      -- The first refusal ends the induction: from there on only the one state goes on.
      rcases hfalters.exchange hopen hanswer with
        ⟨d₁, hd₁, hopen₁⟩ | ⟨prompt, reply, d', rfl, hrefused, hspent⟩
      · rcases ih hopen₁ rest with
          ⟨d', hd', hopen'⟩ | ⟨ys, prompt, reply, zs, d', f', rfl, hd', hspent⟩
        · exact .inl ⟨d', .cons hd₁ hd', hopen'⟩
        · exact .inr ⟨x :: ys, prompt, reply, zs, d', f', rfl, .cons hd₁ hd', hspent⟩
      · exact .inr ⟨[], prompt, reply, xs, d', f, rfl, .cons hrefused (.nil _),
          hfalters.gives_onward hspent rest⟩

/-- When a request has been refused, the failure is reported, and the channel closed. -/
theorem Falters.conclude (hfalters : channel.Falters e Open Spent)
    (fetch : Text → φ → φ × Option Response) (s : Session) (f : φ) (hspent : Spent c d) :
    (s.conclude (channel.environmentWith fetch) (.failed (.channel e)) (d, f)).stop =
        .returned (.failed (.channel e))
      ∧ Spent c
        (s.conclude (channel.environmentWith fetch) (.failed (.channel e)) (d, f)).world.1 := by
  have hfinish : Conversation.finish (.failed (.channel e)) s =
      if s.closed then .done s (.ok ())
      else .call s (.error (Failure.channel e).message) fun _ =>
        .call s .close fun _ => .done { s with closed := true } (.ok ()) :=
    Conversation.finish_apply (.failed (.channel e)) s
  obtain ⟨hreport, hspent'⟩ := hfalters.report (Failure.channel e).message hspent
  obtain ⟨hclose, hspent''⟩ := hfalters.farewell hspent'
  rw [Session.conclude, hfinish]
  cases s.closed with
  | true => exact ⟨rfl, hspent⟩
  | false =>
      rw [if_neg Bool.false_ne_true, Activity.performIn]
      simp only [environmentWith]
      rw [hreport]
      dsimp only
      rw [Activity.performIn]
      dsimp only
      rw [hclose]
      exact ⟨rfl, hspent''⟩

/-- **A run over a channel that falters.** It returns, and is the run from the other state or
that one cut short. -/
theorem Falters.run (hfalters : channel.Falters e Open Spent) {s : Session} {t : Termination}
    {blocks : Nat} (hopen : Open c d)
    (hreturned : (s.run (channel.environmentWith fetch) blocks (c, f)).stop = .returned t) :
    let r := s.run (channel.environmentWith fetch) blocks (c, f)
    let r' := s.run (channel.environmentWith fetch) blocks (d, f)
    r.CutShort e r' ∧ (Open r.world.1 r'.world.1 ∨ Spent r.world.1 r'.world.1) := by
  intro r r'
  have hgives := Session.gives_run _ hreturned
  rcases hfalters.exchanges hopen hgives with
    ⟨d', hd', hopen'⟩ | ⟨ys, prompt, reply, zs, d', f', hlog, hd', hspent⟩
  · have hr' : r' = _ := Session.run_of_gives hreturned hd'
    rw [hr']
    exact ⟨.unharmed rfl rfl rfl hreturned.symm, .inl hopen'⟩
  · obtain ⟨u, hu⟩ := Session.run_refused hlog hd'
    have hr' : r' = _ := hu
    obtain ⟨hstop, hspent'⟩ := hfalters.conclude fetch u f' hspent
    rw [hr']
    exact ⟨.refused hlog (List.append_assoc ys _ _) hstop, .inr hspent'⟩

end Channel

end Dialogue
