import Dialogue.Channel.Script
import Dialogue.Proofs.Session.History

/-!
# The report of an ending

However often a session is run, and wherever its runs are abandoned, its ending is
reported by the first run that returns, once and as the last thing before the
channel is closed (`ending_reported_once`). Failures that the outside world causes
are reported as errors, all other endings as messages. Later runs give the same
outcome and call nobody.
-/

namespace Dialogue

variable {σ : Type}

/-- Whether a call goes to the channel; the others go to the fetcher. -/
def Call.isForChannel : Call → Bool
  | .fetch _ => false
  | _ => true

/-- The calls of a log that went to the channel, in order. -/
def channelCalls (log : List Exchange) : List Call :=
  (log.map Exchange.request).filter Call.isForChannel

/-- An external call or the channel failed. -/
def Termination.CausedOutside (t : Termination) : Prop :=
  (∃ url e, t = .failed (.externalCall url e)) ∨ ∃ e, t = .failed (.channel e)

/-- What a run that has returned tells: the blocks entered, the ending, and the
variables. -/
structure Outcome where
  visited : List Text
  termination : Termination
  store : Variables
  deriving DecidableEq, Repr

/-- What a run tells, if it has returned. -/
def Run.outcome? (r : Run σ) : Option Outcome :=
  match r.stop with
  | .returned t => some ⟨r.session.visited, t, r.session.store⟩
  | _ => none

open Conversation

theorem channelCalls_append (xs ys : List Exchange) :
    channelCalls (xs ++ ys) = channelCalls xs ++ channelCalls ys := by
  rw [channelCalls, List.map_append, List.filter_append]
  rfl

/-- The ordinary calls that go to a channel are messages and requests for input. -/
theorem message_or_input_of_ordinary {xs : List Exchange}
    (h : ∀ x ∈ xs, x.request.Ordinary) :
    ∀ c ∈ channelCalls xs, (∃ text, c = .message text) ∨ ∃ prompt, c = .input prompt := by
  intro c hc
  obtain ⟨hmem, hchannel⟩ := List.mem_filter.mp hc
  obtain ⟨x, hx, rfl⟩ := List.mem_map.mp hmem
  have hord := h x hx
  revert hord hchannel
  cases x.request with
  | message text => exact fun _ _ => Or.inl ⟨text, rfl⟩
  | input prompt => exact fun _ _ => Or.inr ⟨prompt, rfl⟩
  | fetch url => exact fun hchannel _ => absurd hchannel Bool.false_ne_true
  | error text => exact fun _ hord => absurd hord id
  | close => exact fun _ hord => absurd hord id

theorem isForChannel_reportOf (prompts : Prompts) (t : Termination) :
    (reportOf prompts t).isForChannel = true := by
  rcases reportOf_cases prompts t with ⟨text, htext⟩ | ⟨text, htext⟩ <;> rw [htext] <;> rfl

theorem reportOf_of_causedOutside (prompts : Prompts) {t : Termination}
    (h : t.CausedOutside) : ∃ text, reportOf prompts t = .error text := by
  rcases h with ⟨url, e, rfl⟩ | ⟨e, rfl⟩ <;> exact ⟨_, rfl⟩

theorem reportOf_of_not_causedOutside (prompts : Prompts) {t : Termination}
    (h : ¬ t.CausedOutside) : ∃ text, reportOf prompts t = .message text := by
  rcases t with (_ | _) | failure
  · exact ⟨_, rfl⟩
  · exact ⟨_, rfl⟩
  · cases failure with
    | externalCall url e => exact absurd (Or.inl ⟨url, e, rfl⟩) h
    | channel e => exact absurd (Or.inr ⟨e, rfl⟩) h
    | _ => exact ⟨_, rfl⟩

namespace Session

/-- Runs of a closed session return what is known and change nothing. -/
theorem History.of_closed {env : Environment σ} {s : Session} {rs : List (Run σ)}
    {t : Termination} (h : s.History env rs) (hstanding : s.standing = .terminated t)
    (hclosed : s.closed = true) :
    ∀ r ∈ rs, r.session = s ∧ r.exchanges = [] ∧ r.stop = .returned t := by
  induction h with
  | nil s => exact fun _ hr => absurd hr List.not_mem_nil
  | cons blocks world hstop rest ih =>
      have hrun := run_of_closed env blocks world hstanding hclosed
      rw [hrun] at ih ⊢
      exact List.forall_mem_cons.mpr ⟨⟨rfl, rfl, rfl⟩, ih hstanding hclosed⟩

/-- After runs that were abandoned, a session is open still, and the run that
follows begins with it. -/
theorem History.after_abandoned {env : Environment σ} {s : Session}
    {before after : List (Run σ)} {r : Run σ}
    (h : s.History env (before ++ r :: after)) (hopen : s.closed = false)
    (habandoned : ∀ b ∈ before, ∃ request, b.stop = .pending request) :
    ∃ s', s.Alike s' ∧ s'.Course r.exchanges r.session r.stop
      ∧ r.session.History env after
      ∧ ∀ x ∈ before.flatMap Run.exchanges, x.request.Ordinary := by
  induction before generalizing s with
  | nil =>
      cases h with
      | cons blocks world hstop rest =>
          exact ⟨s, s.alike_self, course_run env blocks s world, rest,
            fun _ hx => absurd hx List.not_mem_nil⟩
  | cons b before ih =>
      cases h with
      | cons blocks world hstop rest =>
          obtain ⟨request, hpending⟩ := habandoned _ List.mem_cons_self
          have hcourse := course_run env blocks s world
          rw [hpending] at hstop hcourse
          obtain ⟨halike, hcalls⟩ := hcourse.open_pending hstop hopen
          obtain ⟨s', halike', hrun, hafter, hbefore⟩ :=
            ih rest (halike.2.2.trans hopen)
              fun b hb => habandoned b (List.mem_cons_of_mem _ hb)
          refine ⟨s', halike.trans halike', hrun, hafter, ?_⟩
          rw [List.flatMap_cons]
          exact List.forall_mem_append.mpr ⟨hcalls, hbefore⟩

/-- **One report, then one close.** Take any runs of a new session of which the
first ones are abandoned at messages, requests or fetches, and the next one
returns. Before the end the channel was only given messages and requests; the run
that returns reports the ending and closes, and nothing else comes after that.
Every later run tells the same, calls nobody and leaves the session as it is; and a
run from there on returns, in whatever environment and world. -/
theorem ending_reported_once {env : Environment σ} {flow : Flow} {settings : Settings}
    {before after : List (Run σ)} {r : Run σ} {t : Termination}
    (hruns : (Session.start flow settings).History env (before ++ r :: after))
    (habandoned : ∀ b ∈ before, ∃ request, b.stop = .pending request)
    (hreturned : r.stop = .returned t) :
    (∃ calls report,
        channelCalls ((before ++ [r]).flatMap Run.exchanges) = calls ++ [report, .close]
        ∧ [report, .close] <:+ channelCalls r.exchanges
        ∧ (∀ c ∈ calls, (∃ text, c = .message text) ∨ ∃ prompt, c = .input prompt)
        ∧ report = reportOf settings.prompts t
        ∧ (t.CausedOutside → ∃ text, report = .error text)
        ∧ (¬ t.CausedOutside → ∃ text, report = .message text))
      ∧ (∀ later ∈ after, later.outcome? = r.outcome? ∧ later.stop = .returned t
          ∧ later.exchanges = [] ∧ later.session = r.session)
      ∧ ∀ (env' : Environment σ) (blocks : Nat) (world : σ),
          r.session.run env' blocks world = ⟨world, r.session, [], .returned t⟩ := by
  obtain ⟨s', halike, hcourse, hafter, hbefore⟩ := hruns.after_abandoned rfl habandoned
  rw [hreturned] at hcourse
  obtain ⟨-, hstanding, hclosed, ys, hys, report, hreport, hxs⟩ :=
    hcourse.open_returned halike.2.2
  rw [halike.2.1] at hreport
  have hend : channelCalls [report, ⟨.close, ()⟩] = [report.request, .close] := by
    have hchannel := isForChannel_reportOf settings.prompts t
    rw [channelCalls, List.map_cons, List.filter_cons_of_pos (hreport ▸ hchannel)]
    rfl
  refine ⟨⟨channelCalls (before.flatMap Run.exchanges ++ ys), report.request, ?_, ?_,
    ?_, hreport, ?_, ?_⟩, ?_, fun env' blocks world =>
      run_of_closed env' blocks world hstanding hclosed⟩
  · rw [List.flatMap_append, List.flatMap_singleton, hxs, ← List.append_assoc,
      channelCalls_append, hend]
  · rw [hxs, channelCalls_append, hend]
    exact List.suffix_append _ _
  · exact message_or_input_of_ordinary (List.forall_mem_append.mpr ⟨hbefore, hys⟩)
  · rw [hreport]
    exact reportOf_of_causedOutside settings.prompts
  · rw [hreport]
    exact reportOf_of_not_causedOutside settings.prompts
  · intro later hlater
    obtain ⟨hsession, hexchanges, hstop⟩ := hafter.of_closed hstanding hclosed later hlater
    refine ⟨?_, hstop, hexchanges, hsession⟩
    rw [Run.outcome?, Run.outcome?, hstop, hreturned, hsession]

/-- The greeting, abandoned when it asks for the name. -/
def greetingAbandoned : Run (Script × Fetcher) :=
  (Session.start greetingFlow {}).run Script.channel.environment 5
    ({ cues := [.silence, .reply ['A']] }, .offline)

/-- The greeting, gone on with and answered. -/
def greetingAnswered : Run (Script × Fetcher) :=
  greetingAbandoned.session.run Script.channel.environment 5 greetingAbandoned.world

/-- The greeting, run once more when it is over. -/
def greetingAgain : Run (Script × Fetcher) :=
  greetingAnswered.session.run Script.channel.environment 5 greetingAnswered.world

theorem greeting_reported_once :
    (Session.start greetingFlow {}).History Script.channel.environment
        ([greetingAbandoned] ++ greetingAnswered :: [greetingAgain])
      ∧ (∀ b ∈ [greetingAbandoned], ∃ request, b.stop = .pending request)
      ∧ greetingAnswered.stop = .returned (.completed .endBlock)
      ∧ (∃ calls report,
          channelCalls (([greetingAbandoned] ++ [greetingAnswered]).flatMap Run.exchanges)
              = calls ++ [report, .close]
            ∧ report = .message Prompts.standard.chatFinished)
      ∧ greetingAgain.outcome? = greetingAnswered.outcome? := by
  have hruns : (Session.start greetingFlow {}).History Script.channel.environment
      ([greetingAbandoned] ++ greetingAnswered :: [greetingAgain]) :=
    .cons 5 _ trivial (.cons 5 _ trivial (.cons 5 _ trivial (.nil _)))
  have habandoned : ∀ b ∈ [greetingAbandoned], ∃ request, b.stop = .pending request :=
    List.forall_mem_singleton.mpr ⟨_, rfl⟩
  have hreturned : greetingAnswered.stop = .returned (.completed .endBlock) := rfl
  obtain ⟨⟨calls, report, hcalls, -, -, hreport, -⟩, hlater, -⟩ :=
    ending_reported_once hruns habandoned hreturned
  exact ⟨hruns, habandoned, hreturned, ⟨calls, report, hcalls, hreport⟩,
    (hlater _ List.mem_cons_self).1⟩

end Session

end Dialogue
