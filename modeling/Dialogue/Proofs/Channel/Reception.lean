import Dialogue.Proofs.Channel.Closing
import Dialogue.Proofs.Channel.Unread
import Dialogue.Proofs.Session.Simulation
import Dialogue.Proofs.Session.Whole
import Dialogue.Proofs.Session.Writes
import Dialogue.Reception

/-!
# Receiving a client

A client names a project on some line. Up to there the lines that are no frames are answered,
and frames that name no project are passed over; what comes behind is left to read
(`awaitStart_spec`). If the project is there, its conversation follows, and its first request
is answered by a line that had not been read when the project was named (`first_reply`).
-/

namespace Dialogue

/-- Whatever a run comes to, it was given the answers of its log. -/
theorem Activity.gives_exchanges {σ α : Type} (env : Environment σ) (a : Activity α) (w : σ) :
    ∃ w', env.Gives w (a.performIn env w).exchanges w' := by
  induction a generalizing w with
  | done s r => exact ⟨w, .nil w⟩
  | call s request resume ih =>
      rw [performIn]
      rcases hans : env.answer request w with ⟨w', _ | answer⟩
      · exact ⟨w, .nil w⟩
      · obtain ⟨w'', hrest⟩ := ih answer w'
        exact ⟨w'', .cons hans hrest⟩

theorem Session.gives_exchanges {σ : Type} (env : Environment σ) (blocks : Nat) (s : Session)
    (w : σ) : ∃ w', env.Gives w (s.run env blocks w).exchanges w' := by
  rw [run_eq_performIn]
  exact Activity.gives_exchanges env (s.whole blocks) w

namespace Duplex

variable {d d' : Duplex} {client : Client Bytes} {sink : Sink} {passed : List Inbound}

/-! ## The opening -/

/-- What a new stream queues is told by the bytes alone. -/
theorem feed_queue (chunks : List Bytes) (ended : Bool) (sink : Sink) :
    (feed chunks ended { output := sink }).queue = heardIn chunks.flatten ended := by
  have hsame : Ahead [] { output := sink } {} := ⟨rfl, rfl, rfl⟩
  refine (hsame.feed chunks ended).queue.trans ?_
  show delivered chunks ended = _
  cases ended with
  | false => exact delivered_open chunks
  | true =>
      rw [delivered_ended, heardIn, completeLines]
      dsimp only
      by_cases hleft : (linesFrom [] chunks.flatten).2 = []
      · rw [if_neg fun h => h.2 hleft, hleft, List.filterMap_append]
        exact congrArg upToFailure (List.append_nil _)
      · rw [if_pos ⟨rfl, hleft⟩]

theorem deliverAll_new_output (early : List Bytes) (sink : Sink) :
    (deliverAll early { output := sink }).output = sink := by
  rw [deliverAll_eq_deliver, deliver_output]

theorem remaining_new (early : List Bytes) (client : Client Bytes) (sink : Sink) :
    remaining (deliverAll early { output := sink }, client) =
      heardIn (early ++ client.batches).flatten (!client.holds) := by
  rw [← feed_queue _ _ sink, feed_append]
  rfl

theorem answers_eq (is : List Inbound) :
    is.flatMap answerTo = List.replicate (is.count .malformed) rejection := by
  induction is with
  | nil => rfl
  | cons i is ih =>
      rw [List.flatMap_cons, ih, List.count_cons]
      cases i <;> rfl

/-- A line that decides is not answered. -/
theorem answers_decided {accept : Frame → Option Text} {i : Inbound} {reply : Reply}
    (hi : decision accept i = some reply) :
    (passed ++ [i]).flatMap answerTo = List.replicate (passed.count .malformed) rejection := by
  have hanswer : answerTo i = [] := by
    cases i with
    | malformed => cases hi
    | _ => rfl
  rw [List.flatMap_append, answers_eq, List.flatMap_singleton, hanswer, List.append_nil]

/-- Nothing is heard behind a line that could not be read. -/
theorem later_of_failed {is later : List Inbound} {e : ChannelError}
    (h : upToFailure is = passed ++ .failed e :: later) : later = [] := by
  cases later with
  | nil => rfl
  | cons i later =>
      have hmem : .failed e ∈ (upToFailure is).dropLast := by
        rw [h, List.dropLast_append_of_ne_nil (List.cons_ne_nil _ _), List.dropLast_cons_cons]
        exact List.mem_append_right _ List.mem_cons_self
      cases upToFailure_dropLast is _ hmem

theorem undecided_iff {accept : Frame → Option Text} {i : Inbound} :
    decision accept i = none ↔ i = .malformed ∨ ∃ f, i = .frame f ∧ accept f = none := by
  cases i with
  | frame f =>
      refine Option.map_eq_none_iff.trans ⟨fun h => .inr ⟨f, rfl, h⟩, ?_⟩
      rintro (h | ⟨_, ⟨⟩, h⟩)
      · cases h
      · exact h
  | malformed => exact ⟨fun _ => .inl rfl, fun _ => rfl⟩
  | failed e => exact ⟨nofun, by rintro (h | ⟨_, h, -⟩) <;> cases h⟩

theorem readable_of_undecided {accept : Frame → Option Text} {i : Inbound}
    (h : decision accept i = none) : i.isFailed = false := by
  cases i with
  | failed e => cases h
  | _ => rfl

/-- A wait for a project is decided by a start frame, or by a line that could not be read. -/
theorem start_or_failed {i : Inbound} {reply : Reply} (h : decision projectOf i = some reply) :
    (∃ project, i = .frame (.start project) ∧ reply = .ok project)
      ∨ ∃ e, i = .failed e ∧ reply = .error e := by
  rcases decided_cases h with ⟨f, project, rfl, hf, rfl⟩ | hfailed
  · cases f with
    | start text =>
        cases hf
        exact .inl ⟨project, rfl, rfl⟩
    | _ => cases hf
  · exact .inr hfailed

theorem io_of_heard {bytes : Bytes} {ended : Bool} {e : ChannelError}
    (h : .failed e ∈ heardIn bytes ended) : ∃ cause, e = .io cause := by
  obtain ⟨line, -, hline⟩ := List.mem_filterMap.mp (mem_of_mem_upToFailure h)
  exact io_of_inboundOf hline

/-- Where every line could be read, reading stops at the end of the stream only. -/
theorem ended_of_quiet (chunks : List Bytes) {ended : Bool} (sink : Sink)
    (hreadable : ∀ i ∈ heardIn chunks.flatten ended, i.isFailed = false)
    (hquiet : (feed chunks ended { output := sink }).reading = false) : ended = true := by
  have hnone : (heardIn chunks.flatten ended).any Inbound.isFailed = false := by
    refine List.any_eq_false.mpr fun i hi => ?_
    rw [hreadable i hi]
    exact Bool.false_ne_true
  rw [feed_reading, feed_queue, hnone] at hquiet
  simpa using hquiet

/-- A wait for a project: the lines that were passed over and the rest, the line that has
decided and what is behind it. -/
structure Awaited (early : List Bytes) (client : Client Bytes) (sink : Sink)
    (passed rest : List Inbound) (r : (Duplex × Client Bytes) × Option Reply) : Prop where
  lines : heardIn (early ++ client.batches).flatten (!client.holds) = passed ++ rest
  ignored : ∀ i ∈ passed, i = .malformed ∨ ∃ f, i = .frame f ∧ projectOf f = none
  output : r.1.1.output =
    sink.plus ((List.replicate (passed.count .malformed) rejection).flatMap frameLine)
  closed : r.1.1.closed = false
  answer :
    (rest = [] ∧ r.2 = if client.holds then none else some (.error .closed))
    ∨ (∃ cause, rest = [.failed (.io cause)] ∧ r.2 = some (.error (.io cause)))
    ∨ ∃ project, rest = .frame (.start project) :: remaining r.1 ∧ r.2 = some (.ok project)
      ∧ ∃ got ended, client.batches = got ++ r.1.2.batches
        ∧ heardIn (early ++ got).flatten ended = passed ++ .frame (.start project) :: r.1.1.queue

theorem awaitStart_spec (early : List Bytes) (client : Client Bytes) (hsink : sink.Healthy) :
    ∃ passed rest, Awaited early client sink passed rest
      (awaitStart (deliverAll early { output := sink }, client)) := by
  have houtput := deliverAll_new_output early sink
  have hclosed : (deliverAll early { output := sink }).closed = false := by
    rw [deliverAll_eq_deliver, deliver_closed]
  have hhealthy : (deliverAll early { output := sink }).output.Healthy := by rwa [houtput]
  obtain ⟨got, ended, taken, hgot, hholds, hended, htaken, hremaining, hwaited⟩ :=
    waitFor_spec projectOf hhealthy client
  show ∃ passed rest, Awaited early client sink passed rest
    ((waiting projectOf).waitFor (deliverAll early { output := sink }, client))
  generalize (waiting projectOf).waitFor _ = r at *
  obtain ⟨⟨d', client'⟩, answer⟩ := r
  rw [remaining_new] at hremaining
  -- What had arrived is told by the bytes, so the queue is what has not been taken of it.
  have harrived : heardIn (early ++ got).flatten ended = taken ++ d'.queue := by
    rw [← feed_queue _ _ sink, feed_append]
    exact htaken.ahead.queue
  have hwritten : d'.output = sink.plus ((taken.flatMap answerTo).flatMap frameLine) := by
    rw [htaken.output, plus, houtput]
  have hshut : d'.closed = false := htaken.closed.trans hclosed
  have hignored {passed : List Inbound} (h : ∀ j ∈ passed, decision projectOf j = none) :
      ∀ j ∈ passed, j = .malformed ∨ ∃ f, j = .frame f ∧ projectOf f = none :=
    fun j hj => undecided_iff.mp (h j hj)
  cases hwaited with
  | @decided passed i reply htaken' hpassed hi =>
      subst htaken'
      rw [List.append_assoc] at hremaining harrived
      rw [answers_decided hi] at hwritten
      rcases start_or_failed hi with ⟨project, rfl, rfl⟩ | ⟨e, rfl, rfl⟩
      · exact ⟨passed, _, hremaining, hignored hpassed, hwritten, hshut,
          .inr (.inr ⟨project, rfl, rfl, got, ended, hgot, harrived⟩)⟩
      · have hheard : .failed e ∈ heardIn (early ++ client.batches).flatten (!client.holds) := by
          rw [hremaining]
          exact List.mem_append_right _ List.mem_cons_self
        obtain ⟨cause, rfl⟩ := io_of_heard hheard
        have hlater : remaining (d', client') = [] := later_of_failed hremaining
        rw [hlater] at hremaining
        exact ⟨passed, _, hremaining, hignored hpassed, hwritten, hshut,
          .inr (.inl ⟨cause, rfl, rfl⟩)⟩
  | waiting hpassed hqueue hheld hbatches =>
      have hleft : remaining (d', client') = [] := by
        rw [remaining, hbatches, hholds, hheld]
        exact hqueue
      rw [answers_eq] at hwritten
      rw [hleft] at hremaining
      exact ⟨taken, [], hremaining, hignored hpassed, hwritten, hshut,
        .inl ⟨rfl, (if_pos hheld).symm⟩⟩
  | closed hpassed hqueue hquiet =>
      have hleft : remaining (d', client') = [] := (feed_quiet hquiet _ _).trans hqueue
      have hover : ended = true := by
        refine ended_of_quiet (early ++ got) sink (fun i hi => ?_) ?_
        · rw [harrived, hqueue, List.append_nil] at hi
          exact readable_of_undecided (hpassed i hi)
        · rw [feed_append]
          exact htaken.ahead.reading.symm.trans hquiet
      rw [answers_eq] at hwritten
      rw [hleft] at hremaining
      refine ⟨taken, [], hremaining, hignored hpassed, hwritten, hshut, .inl ⟨rfl, ?_⟩⟩
      rw [hended hover]
      rfl

/-! ## The first request -/

section FirstRequest

variable {φ : Type} {fetch : Text → φ → φ × Option Response} {f : φ} {xs ys : List Exchange}

/-- Nobody has taken a line from the stream, unless it has been closed. -/
def Untouched (d d' : Duplex) : Prop :=
  d'.closed = true ∨ Ahead [] d d' ∧ d'.output.Healthy

theorem Untouched.emit (h : Untouched d d') (frame : Frame) : Untouched d (d'.emit frame) := by
  cases hclosed : d'.closed with
  | true =>
      rw [emit_of_closed hclosed]
      exact h
  | false =>
      obtain ⟨hahead, hhealthy⟩ := h.resolve_left fun h => nomatch hclosed.symm.trans h
      rw [emit_healthy hclosed hhealthy]
      exact .inr ⟨⟨hahead.queue, hahead.pending, hahead.reading⟩, hhealthy.plus _⟩

theorem Untouched.gives (h : Untouched d d') (hxs : ∀ x ∈ xs, x.request.isInput = false)
    {w : (Duplex × Client Bytes) × φ}
    (hgives : (channel.environmentWith fetch).Gives ((d', client), f) xs w) :
    w.1.2 = client ∧ Untouched d w.1.1 := by
  induction xs generalizing d' f with
  | nil =>
      cases hgives
      exact ⟨rfl, h⟩
  | cons x xs ih =>
      obtain ⟨hx, hmore⟩ := List.forall_mem_cons.mp hxs
      obtain ⟨w₁, hanswer, rest⟩ := Environment.gives_cons_iff.mp hgives
      obtain ⟨request, answer⟩ := x
      obtain rfl := (congrArg Prod.fst hanswer).symm
      cases request with
      | message text => exact ih (h.emit (.message text)) hmore rest
      | error text => exact ih (h.emit (.error text)) hmore rest
      | input prompt => cases hx
      | fetch url => exact ih h hmore rest
      | close => exact ih (.inl d'.close_closed) hmore rest

/-- The lines that are queued are thrown away by a request, so it is answered by the first
input frame behind them. -/
theorem request_reply (hhealthy : d.output.Healthy) {prompt reply : Text}
    (h : (request prompt (d, client)).2 = some (.ok reply)) :
    ∃ between after, remaining (d, client) = d.queue ++ between ++ .frame (.input reply) :: after
      ∧ NoInput between := by
  have hopen : d.closed = false := by
    cases hclosed : d.closed with
    | false => rfl
    | true =>
        rw [request_of_closed hclosed] at h
        cases h
  obtain ⟨front, -, ⟨hqueue, hask⟩ | ⟨e, rest, -, hask⟩⟩ := ask_cases hopen hhealthy prompt
  all_goals rw [request, hask] at h
  · have hahead : Ahead front d ((d.take front []).plus [.prompt prompt]) :=
      ⟨hqueue.trans (List.append_nil _).symm, rfl, rfl⟩
    have hhealthy' : ((d.take front []).plus [.prompt prompt]).output.Healthy := hhealthy
    obtain ⟨got, ended, taken, -, -, -, -, hremaining, hwaited⟩ :=
      waitFor_spec inputOf hhealthy' client
    have hall := hahead.remaining client
    rw [hremaining] at hall
    replace h : ((waiting inputOf).waitFor ((d.take front []).plus [.prompt prompt], client)).2 =
      some (.ok reply) := h
    rw [h] at hwaited
    generalize remaining (Prod.fst _) = after at hall
    cases hwaited with
    | @decided passed i _ htaken hpassed hi =>
        refine ⟨passed, after, ?_, noInput_of_passed (passed_of_undecided hpassed)⟩
        rcases decided_cases hi with ⟨f, text, rfl, hf, hreply⟩ | ⟨e, -, hreply⟩ <;> cases hreply
        cases f with
        | input text =>
            cases hf
            rw [hall, htaken, hqueue, List.append_assoc, List.append_assoc]
            rfl
        | _ => cases hf
  · cases h

/-- **No line that was queued answers the first request of a run.** -/
theorem first_reply (hhealthy : d.output.Healthy) {s : Session} {blocks : Nat}
    {prompt reply : Text}
    (hlog : (s.run (channel.environmentWith fetch) blocks ((d, client), f)).exchanges =
      xs ++ ⟨.input prompt, .ok reply⟩ :: ys)
    (hxs : ∀ x ∈ xs, x.request.isInput = false) :
    ∃ between after, remaining (d, client) = d.queue ++ between ++ .frame (.input reply) :: after
      ∧ NoInput between := by
  obtain ⟨w, hgives⟩ := Session.gives_exchanges (channel.environmentWith fetch) blocks s
    ((d, client), f)
  rw [hlog] at hgives
  -- The calls before the request leave the queue and the client alone.
  obtain ⟨⟨⟨d', client'⟩, f'⟩, hsends, hrest⟩ := Environment.gives_append_iff.mp hgives
  obtain ⟨w', hanswer, -⟩ := Environment.gives_cons_iff.mp hrest
  have huntouched : Untouched d d := .inr ⟨⟨rfl, rfl, rfl⟩, hhealthy⟩
  obtain ⟨hclient, hlater⟩ := huntouched.gives hxs hsends
  obtain rfl : client' = client := hclient
  have hreply : (request prompt (d', client')).2 = some (.ok reply) := congrArg Prod.snd hanswer
  rcases hlater with hclosed | ⟨hahead, hhealthy'⟩
  · replace hclosed : d'.closed = true := hclosed
    rw [request_of_closed hclosed] at hreply
    cases hreply
  · obtain ⟨between, after, hremaining, hbetween⟩ := request_reply hhealthy' hreply
    refine ⟨between, after, ?_, hbetween⟩
    rw [hahead.remaining client', hremaining, hahead.queue]
    rfl

end FirstRequest

/-! ## Receiving -/

theorem close_output_of_open (h : d.closed = false) :
    d.close.output = d.output.shutdown.1 := by
  rw [Duplex.close, h]
  rfl

theorem host_unnamed {φ : Type} (resolve : Text → Except ProjectError Definition)
    (settings : Settings) (fetch : Text → φ → φ × Option Response) (blocks : Nat)
    {state : Duplex × Client Bytes} (fetcher : φ)
    (h : ∀ project, (awaitStart state).2 ≠ some (.ok project)) :
    let reception := host resolve settings fetch blocks state fetcher
    reception.run = none ∧ (reception.stream, reception.client) = (awaitStart state).1
      ∧ ((awaitStart state).2 = none → reception.opening = .pending)
      ∧ ∀ e, (awaitStart state).2 = some (.error e) → reception.opening = .failed e := by
  rw [host, welcome]
  rcases hawait : awaitStart state with ⟨opened, _ | e | project⟩
  · refine ⟨rfl, rfl, fun _ => rfl, ?_⟩
    rintro e ⟨⟩
  · refine ⟨rfl, rfl, ?_, ?_⟩
    · rintro ⟨⟩
    · rintro e ⟨⟩
      rfl
  · exact absurd (congrArg Prod.snd hawait) (h project)

theorem host_unresolved {φ : Type} {resolve : Text → Except ProjectError Definition}
    (settings : Settings) (fetch : Text → φ → φ × Option Response) (blocks : Nat)
    {state : Duplex × Client Bytes} (fetcher : φ) {project : Text} {e : ProjectError}
    (hproject : (awaitStart state).2 = some (.ok project)) (hresolve : resolve project = .error e) :
    let reception := host resolve settings fetch blocks state fetcher
    reception.run = none ∧ reception.opening = .unresolved project e
      ∧ reception.stream = ((awaitStart state).1.1.emit (.error e.message)).close := by
  rw [host, welcome]
  rcases hawait : awaitStart state with ⟨opened, answer⟩
  rw [hawait] at hproject
  obtain rfl : answer = some (.ok project) := hproject
  dsimp only
  rw [hresolve]
  exact ⟨rfl, rfl, rfl⟩

theorem host_resolved {φ : Type} {resolve : Text → Except ProjectError Definition}
    (settings : Settings) (fetch : Text → φ → φ × Option Response) (blocks : Nat)
    {state : Duplex × Client Bytes} (fetcher : φ) {project : Text} {definition : Definition}
    (hproject : (awaitStart state).2 = some (.ok project))
    (hresolve : resolve project = .ok definition) :
    let reception := host resolve settings fetch blocks state fetcher
    reception.run = some ((Session.start (Flow.ofDefinition definition) settings).run
        (channel.environmentWith fetch) blocks ((awaitStart state).1, fetcher))
      ∧ reception.opening = .resolved project definition
      ∧ (reception.stream, reception.client) = (awaitStart state).1 := by
  rw [host, welcome]
  rcases hawait : awaitStart state with ⟨opened, answer⟩
  rw [hawait] at hproject
  obtain rfl : answer = some (.ok project) := hproject
  dsimp only
  rw [hresolve]
  exact ⟨rfl, rfl, rfl⟩

/-- **How a client is received.** The lines of its bytes, however they come, are those passed
over, each of them answered once if it is no frame, and the first start frame or line that
cannot be read, or else the end of the stream. Everything behind the start frame is left to
read. A client whose project is not there is told so in one more frame, and the stream is
closed. With its project, the conversation over that graph is held on the stream as the wait
has left it, and the first request that is answered takes the first reply behind all the lines
that were queued with the start frame. -/
theorem reception_opens {φ : Type} (resolve : Text → Except ProjectError Definition)
    (settings : Settings) (fetch : Text → φ → φ × Option Response) (blocks : Nat) (fetcher : φ)
    (early : List Bytes) (client : Client Bytes) (hsink : sink.Healthy) :
    let state := (deliverAll early { output := sink }, client)
    let opened := awaitStart state
    let reception := host resolve settings fetch blocks state fetcher
    (∃ passed rest, Awaited early client sink passed rest opened)
    ∧ ((∀ project, opened.2 ≠ some (.ok project)) →
        reception.run = none ∧ (reception.stream, reception.client) = opened.1
          ∧ (opened.2 = none → reception.opening = .pending)
          ∧ ∀ e, opened.2 = some (.error e) → reception.opening = .failed e)
    ∧ (∀ project e, opened.2 = some (.ok project) → resolve project = .error e →
        reception.run = none ∧ reception.opening = .unresolved project e
          ∧ reception.stream.closed = true
          ∧ reception.stream.output =
            (opened.1.1.output.plus (frameLine (.error e.message))).shutdown.1)
    ∧ ∀ project definition, opened.2 = some (.ok project) → resolve project = .ok definition →
        ∃ r, reception.run = some r ∧ reception.opening = .resolved project definition
          ∧ (reception.stream, reception.client) = opened.1
          ∧ r = (Session.start (Flow.ofDefinition definition) settings).run
            (channel.environmentWith fetch) blocks (opened.1, fetcher)
          ∧ ∀ xs prompt reply ys, r.exchanges = xs ++ ⟨.input prompt, .ok reply⟩ :: ys →
            (∀ x ∈ xs, x.request.isInput = false) →
            ∃ between after,
              remaining opened.1 = opened.1.1.queue ++ between ++ .frame (.input reply) :: after
                ∧ NoInput between := by
  intro state opened reception
  obtain ⟨passed, rest, hawaited⟩ := awaitStart_spec early client hsink
  have hhealthy : opened.1.1.output.Healthy := by
    rw [hawaited.output]
    exact hsink.plus _
  refine ⟨⟨passed, rest, hawaited⟩, host_unnamed resolve settings fetch blocks fetcher, ?_, ?_⟩
  · intro project e hproject hresolve
    obtain ⟨hrun, hopening, hstream⟩ :=
      host_unresolved settings fetch blocks fetcher hproject hresolve
    refine ⟨hrun, hopening, ?_⟩
    have hopen : (opened.1.1.plus [.error e.message]).closed = false := hawaited.closed
    rw [hstream, emit_healthy hawaited.closed hhealthy]
    refine ⟨close_closed _, (close_output_of_open hopen).trans ?_⟩
    rw [Duplex.plus, List.flatMap_singleton]
  · intro project definition hproject hresolve
    obtain ⟨hrun, hopening, hstream⟩ :=
      host_resolved settings fetch blocks fetcher hproject hresolve
    refine ⟨_, hrun, hopening, hstream, rfl, ?_⟩
    intro xs prompt reply ys hlog hxs
    exact first_reply hhealthy hlog hxs

def nameDefinition : Definition where
  blocks := [
    ⟨['s'], BlockType.start.tag, none, none, none, none, none⟩,
    ⟨['q'], BlockType.save.tag, some ['?'], some ['n'], none, none, none⟩]
  links := [⟨['s'], ['q'], none, none⟩]

/-- A visitor says something that is no frame, names a project, and replies before anything
was asked. -/
def visitorEarly : List Bytes :=
  [lineOf ['!'] ++ frameLine (.start ['p']) ++ frameLine (.input ['x'])]

/-- He replies once more when he is asked. -/
def visitorClient : Client Bytes :=
  ⟨[frameLine (.input ['A'])], false⟩

theorem visitor_opened :
    let opened := awaitStart (deliverAll visitorEarly {}, visitorClient)
    opened.2 = some (.ok ['p'])
      ∧ opened.1 =
        ({ queue := [.frame (.input ['x'])], output := { written := frameLine rejection } },
          visitorClient) := by
  have hqueue : deliverAll visitorEarly {} =
      { queue := [.malformed, .frame (.start ['p']), .frame (.input ['x'])] } := by
    decide +kernel
  rw [hqueue]
  exact ⟨rfl, rfl⟩

def visitorRun : Run ((Duplex × Client Bytes) × Fetcher) :=
  (Session.start (Flow.ofDefinition nameDefinition) {}).run (channel.environmentWith Fetcher.fetch)
    3 ((awaitStart (deliverAll visitorEarly {}, visitorClient)).1, .offline)

theorem visitorRun_exchanges :
    ∃ prompt ys, visitorRun.exchanges = ⟨.input prompt, .ok ['A']⟩ :: ys := by
  have hgiven : visitorRun.exchanges.head?.bind Exchange.given? = some ['A'] := by decide +kernel
  obtain ⟨x, hx, hreply⟩ := Option.bind_eq_some_iff.mp hgiven
  obtain ⟨ys, hys⟩ := List.head?_eq_some_iff.mp hx
  obtain ⟨prompt, rfl⟩ := Exchange.given?_eq_some hreply
  exact ⟨prompt, ys, hys⟩

/-- Without the project the visitor is told so; with it, he is asked, and his second reply is
taken. A client that says nothing is not received. -/
theorem visitor_received :
    let missing := fun name => Except.error (ProjectError.notFound name)
    let there := fun _ => Except.ok nameDefinition
    let state := (deliverAll visitorEarly {}, visitorClient)
    Sink.Healthy {}
      ∧ (∃ passed rest, Awaited visitorEarly visitorClient {} passed rest (awaitStart state))
      ∧ (host missing {} Fetcher.fetch 3 ({}, ⟨[], false⟩) .offline).run = none
      ∧ (host missing {} Fetcher.fetch 3 state .offline).stream.output =
        { written := [rejection, .error (ProjectError.notFound ['p']).message].flatMap frameLine,
          shutdowns := 1 }
      ∧ (host there {} Fetcher.fetch 3 state .offline).run = some visitorRun
      ∧ ∃ between after,
        remaining (awaitStart state).1 =
          [.frame (.input ['x'])] ++ between ++ .frame (.input ['A']) :: after
          ∧ NoInput between := by
  intro missing there state
  have hhealthy : Sink.Healthy {} := ⟨rfl, rfl⟩
  obtain ⟨hproject, hopened⟩ := visitor_opened
  obtain ⟨-, hunnamed, -⟩ :=
    reception_opens missing {} Fetcher.fetch 3 .offline [] ⟨[], false⟩ hhealthy
  obtain ⟨hawaited, -, hmissing, -⟩ :=
    reception_opens missing {} Fetcher.fetch 3 .offline visitorEarly visitorClient hhealthy
  obtain ⟨-, -, -, hthere⟩ :=
    reception_opens there {} Fetcher.fetch 3 .offline visitorEarly visitorClient hhealthy
  obtain ⟨-, -, -, hwritten⟩ := hmissing ['p'] _ hproject rfl
  obtain ⟨r, hrun, -, -, rfl, hfirst⟩ := hthere ['p'] nameDefinition hproject rfl
  obtain ⟨prompt, ys, hlog⟩ := visitorRun_exchanges
  have hreply := hfirst [] prompt ['A'] ys hlog nofun
  have hclosed : (awaitStart ({}, ⟨[], false⟩)).2 = some (.error .closed) := rfl
  have hnobody : ∀ project, (awaitStart ({}, ⟨[], false⟩)).2 ≠ some (.ok project) := by
    rw [hclosed]
    exact fun project h => nomatch h
  refine ⟨hhealthy, hawaited, (hunnamed hnobody).1, ?_, hrun, ?_⟩
  · rw [hwritten, hopened]
    decide
  · rw [congrArg (fun opened => opened.1.queue) hopened] at hreply
    exact hreply

end Duplex

end Dialogue
