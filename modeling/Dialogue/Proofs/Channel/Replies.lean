import Dialogue.Channel.Socket
import Dialogue.Proofs.Channel.Client

/-!
# Requests over an event socket

A talk over a socket goes on by moves in any order: the client delivers replies or ends its
stream, the receiver of the events vanishes, a message or an error is sent, a request emits
its event, the waiting request takes what has arrived or is abandoned, the socket is closed.
What `Socket.request` does is such moves one after another (`reaches_request`).

The invariant `Sound` ties the queue to the replies that were delivered: these are the ones
that have left the queue, and then the queue. When a request emits its event all that were
delivered have left it, and until the request is answered no other one does. One move
preserves the invariant (`Sound.step`), so whole talks do (`Sound.play`).
-/

namespace Dialogue

namespace Socket

/-! ## Talks -/

inductive Move where
  | arrive (replies : List Text)
  /-- The client ends its stream. -/
  | finish
  /-- The receiver of the events vanishes. -/
  | dropPeer
  | message (text : Text)
  | error (text : Text)
  /-- A request throws away what is queued and emits its event. -/
  | ask (prompt : Text)
  /-- The request takes what has arrived. -/
  | poll
  | abandon
  | close

/-- What a request has asked. -/
structure Question where
  prompt : Text
  /-- The events that had gone out; its own is the last one, unless it could not be sent. -/
  events : List ServerEvent
  /-- The replies that had been delivered when its event went out. -/
  before : List Text

/-- A request that is over. -/
structure Request extends Question where
  /-- The replies that were not in the queue any more when it was over. -/
  taken : List Text
  /-- The reply or the error; nothing if it was abandoned. -/
  answer : Option Reply

/-- A socket, with what has happened so far. -/
structure Talk where
  socket : Socket := {}
  /-- The replies that were delivered; a closed socket and an ended client deliver none. -/
  arrived : List Text := []
  requests : List Request := []
  waiting : Option Question := none

namespace Talk

/-- The replies that are not in the queue any more. -/
def taken (t : Talk) : List Text :=
  t.arrived.take (t.arrived.length - t.socket.queue.length)

/-- The waiting request is over. -/
def settle (answer : Option Reply) (t : Talk) : Talk :=
  match t.waiting with
  | some question =>
    { t with requests := t.requests ++ [⟨question, t.taken, answer⟩], waiting := none }
  | none => t

/-- One move. A request that fails before it has emitted its event is over at once. -/
def step (t : Talk) : Move → Talk
  | .arrive replies =>
    if t.socket.clientOpen && !t.socket.closed then
      { t with socket := t.socket.deliver replies, arrived := t.arrived ++ replies }
    else t
  | .finish => { t with socket := t.socket.finish }
  | .dropPeer => { t with socket := t.socket.dropPeer }
  | .message text => { t with socket := t.socket.emit (.message text) }
  | .error text => { t with socket := t.socket.emit (.error text) }
  | .ask prompt =>
    let t := t.settle none
    match t.socket.ask prompt with
    | (socket, .ok ()) =>
      { t with socket, waiting := some ⟨prompt, socket.emitted, t.arrived⟩ }
    | (socket, .error e) =>
      let t := { t with socket }
      { t with waiting := some ⟨prompt, socket.emitted, t.taken⟩ }.settle (some (.error e))
  | .poll =>
    match t.waiting with
    | none => t
    | some _ =>
      match t.socket.receive with
      | (socket, none) => { t with socket }
      | (socket, some reply) => { t with socket }.settle (some reply)
  | .abandon => t.settle none
  | .close => { t with socket := t.socket.close }

/-- Moves one after another. -/
def play (moves : List Move) (t : Talk) : Talk :=
  moves.foldl step t

/-- A later state of a talk, at which a request has come to an answer or waits, having
been given some batches. -/
structure Reaches (t t' : Talk) (prompt : Text) (socket : Socket)
    (delivered : List (List Text)) (answer : Option Reply) : Prop where
  socket : t'.socket = socket
  arrived : t'.arrived = t.arrived ++ delivered.flatten
  waits : answer = none →
    t'.requests = t.requests ∧ ∃ q, t'.waiting = some q ∧ q.prompt = prompt
  answered : ∀ reply, answer = some reply →
    t'.waiting = none
      ∧ ∃ r, t'.requests = t.requests ++ [r] ∧ r.prompt = prompt ∧ r.answer = some reply

variable {t : Talk} {socket : Socket} {question : Question}

/-- What is reached from a state is reached from an earlier one with the same requests. -/
theorem Reaches.after {u t' : Talk} {prompt : Text} {delivered : List (List Text)}
    {answer : Option Reply} (h : u.Reaches t' prompt socket delivered answer)
    (first : List (List Text)) (harrived : u.arrived = t.arrived ++ first.flatten)
    (hrequests : u.requests = t.requests) :
    t.Reaches t' prompt socket (first ++ delivered) answer := by
  refine ⟨h.socket, ?_, hrequests ▸ h.waits, hrequests ▸ h.answered⟩
  rw [h.arrived, harrived, List.flatten_append, List.append_assoc]

theorem settle_idle (hidle : t.waiting = none) (answer : Option Reply) :
    t.settle answer = t := by
  rw [settle, hidle]

theorem settle_waiting (answer : Option Reply) (t : Talk) :
    (t.settle answer).waiting = none := by
  rw [settle]
  rcases hwaiting : t.waiting with _ | question
  · exact hwaiting
  · rfl

theorem step_ask_settle (prompt : Text) (t : Talk) :
    t.step (.ask prompt) = (t.settle none).step (.ask prompt) := by
  rw [step, step, settle_idle (settle_waiting none t)]

theorem step_ask_ok {prompt : Text} (hidle : t.waiting = none)
    (hask : t.socket.ask prompt = (socket, .ok ())) :
    t.step (.ask prompt) =
      { t with socket, waiting := some ⟨prompt, socket.emitted, t.arrived⟩ } := by
  rw [step, settle_idle hidle]
  dsimp only
  rw [hask]

theorem step_ask_error {prompt : Text} {e : ChannelError} (hidle : t.waiting = none)
    (hask : t.socket.ask prompt = (socket, .error e)) :
    t.step (.ask prompt) =
      { t with socket, waiting := some ⟨prompt, socket.emitted, { t with socket }.taken⟩ }.settle
        (some (.error e)) := by
  rw [step, settle_idle hidle]
  dsimp only
  rw [hask]

theorem step_poll_none (hwaiting : t.waiting = some question)
    (hreceive : t.socket.receive = (socket, none)) : t.step .poll = { t with socket } := by
  rw [step, hwaiting]
  dsimp only
  rw [hreceive]

theorem step_poll_some {reply : Reply} (hwaiting : t.waiting = some question)
    (hreceive : t.socket.receive = (socket, some reply)) :
    t.step .poll = { t with socket }.settle (some reply) := by
  rw [step, hwaiting]
  dsimp only
  rw [hreceive]

end Talk

/-! ## What a socket does -/

variable {s s' : Socket} {prompt : Text}

theorem receive_reply {reply : Text} {rest : List Text} (hqueue : s.queue = reply :: rest) :
    s.receive = ({ s with queue := rest }, some (.ok reply)) := by
  rw [receive, hqueue]

/-- Without an answer nothing is queued, and the client may still send. -/
theorem of_receive_none (h : s.receive = (s', none)) :
    s' = s ∧ s.queue = [] ∧ (s.clientOpen && !s.closed) = true := by
  rw [receive] at h
  split at h
  · cases h
  · next hqueue =>
      obtain ⟨hs, hanswer⟩ := Prod.mk.inj h
      split at hanswer
      · next hlistens => exact ⟨hs.symm, hqueue, hlistens⟩
      · cases hanswer

theorem of_receive_some {answer : Reply} (h : s.receive = (s', some answer)) :
    s'.emitted = s.emitted
      ∧ ((∃ reply, answer = .ok reply ∧ s.queue = reply :: s'.queue)
        ∨ s'.queue = s.queue ∧ ∃ e, answer = .error e) := by
  rw [receive] at h
  split at h
  · next reply rest hqueue =>
      cases h
      exact ⟨rfl, Or.inl ⟨reply, rfl, hqueue⟩⟩
  · obtain ⟨rfl, hanswer⟩ := Prod.mk.inj h
    split at hanswer
    · cases hanswer
    · cases hanswer
      exact ⟨rfl, Or.inr ⟨rfl, _, rfl⟩⟩

/-- An event goes out or is dropped; the queue has no part in it. -/
theorem emit_cases (event : ServerEvent) (s : Socket) :
    (s.emit event).queue = s.queue ∧ s.emitted <+: (s.emit event).emitted := by
  rw [emit, send]
  split
  · exact ⟨rfl, List.prefix_rfl⟩
  · split
    · exact ⟨rfl, List.prefix_rfl⟩
    · exact ⟨rfl, List.prefix_append _ _⟩

/-- A request whose event has gone out finds an empty queue behind it. -/
theorem of_ask_ok (h : s.ask prompt = (s', .ok ())) :
    s'.queue = [] ∧ s'.emitted = s.emitted ++ [.requestInput prompt] := by
  rw [ask, send] at h
  split at h
  · cases h
  · split at h
    · cases h
    · cases h
      exact ⟨rfl, rfl⟩

/-- A request that has failed at once has thrown away all that was queued, or nothing. -/
theorem of_ask_error {e : ChannelError} (h : s.ask prompt = (s', .error e)) :
    s'.emitted = s.emitted ∧ (s'.queue = s.queue ∨ s'.queue = []) := by
  rw [ask, send] at h
  split at h
  · cases h
    exact ⟨rfl, Or.inl rfl⟩
  · split at h
    · cases h
      exact ⟨rfl, Or.inr rfl⟩
    · cases h

/-! ## The invariant -/

/-- What the replies that have left the queue say of a request: those that were delivered
before its event went out were gone by then, and if it was answered, then by the next one. -/
structure Request.Right (taken : List Text) (emitted : List ServerEvent) (r : Request) :
    Prop where
  before : r.before <+: r.taken
  taken : r.taken <+: taken
  events : r.events <+: emitted
  answered : ∀ reply, r.answer = some (.ok reply) →
    (∃ earlier, r.events = earlier ++ [.requestInput r.prompt]) ∧ r.taken = r.before ++ [reply]

/-- A talk in order, with the replies that have left the queue. -/
structure Sound (taken : List Text) (t : Talk) : Prop where
  queue : t.arrived = taken ++ t.socket.queue
  right : ∀ r ∈ t.requests, r.Right taken t.socket.emitted
  order : t.requests.Pairwise fun r r' => r.taken <+: r'.before
  waiting : ∀ q, t.waiting = some q → q.before = taken ∧ q.events <+: t.socket.emitted
    ∧ ∃ earlier, q.events = earlier ++ [.requestInput q.prompt]

variable {t : Talk} {taken : List Text} {question : Question}

theorem Request.Right.later {r : Request} {emitted emitted' : List ServerEvent}
    (h : r.Right taken emitted) (more : List Text) (hemitted : emitted <+: emitted') :
    r.Right (taken ++ more) emitted' :=
  ⟨h.before, h.taken.trans (List.prefix_append _ _), h.events.trans hemitted, h.answered⟩

theorem Sound.taken_eq (h : Sound taken t) : t.taken = taken := by
  rw [Talk.taken, h.queue, List.length_append, Nat.add_sub_cancel, List.take_left]

theorem Sound.idle (h : Sound taken t) : Sound taken { t with waiting := none } :=
  ⟨h.queue, h.right, h.order, fun _ hw => nomatch hw⟩

/-- Replies leave the queue, and events may go out. -/
theorem Sound.leave {socket : Socket} {gone : List Text} (h : Sound taken t)
    (hidle : t.waiting = none) (hqueue : t.socket.queue = gone ++ socket.queue)
    (hemitted : t.socket.emitted <+: socket.emitted) :
    Sound (taken ++ gone) { t with socket } where
  queue := by
    show t.arrived = _
    rw [h.queue, hqueue, List.append_assoc]
  right := fun r hr => (h.right r hr).later gone hemitted
  order := h.order
  waiting := fun q hq => absurd (hidle.symm.trans hq) nofun

/-- Events may go out at any time. -/
theorem Sound.tells {socket : Socket} (h : Sound taken t)
    (hqueue : socket.queue = t.socket.queue) (hemitted : t.socket.emitted <+: socket.emitted) :
    Sound taken { t with socket } where
  queue := by
    show t.arrived = taken ++ socket.queue
    rw [hqueue, h.queue]
  right := fun r hr => by
    have hlater := (h.right r hr).later [] hemitted
    rwa [List.append_nil] at hlater
  order := h.order
  waiting := by
    intro q hq
    obtain ⟨hbefore, hevents, hasked⟩ := h.waiting q hq
    exact ⟨hbefore, hevents.trans hemitted, hasked⟩

/-- A request is over. Those before it were over when its event went out. -/
theorem Sound.settle {answer : Option Reply} (h : Sound taken { t with waiting := none })
    (hwaiting : t.waiting = some question)
    (hbefore : ∀ r ∈ t.requests, r.taken <+: question.before)
    (hright : Request.Right taken t.socket.emitted ⟨question, taken, answer⟩) :
    Sound taken (t.settle answer) := by
  have htaken : t.taken = taken := h.taken_eq
  rw [Talk.settle, hwaiting, htaken]
  refine ⟨h.queue, ?_, ?_, fun _ hw => nomatch hw⟩
  · intro r hr
    rcases List.mem_append.mp hr with hr | hr
    · exact h.right r hr
    · rw [List.mem_singleton.mp hr]
      exact hright
  · refine List.pairwise_append.mpr ⟨h.order, List.pairwise_singleton .., ?_⟩
    intro r hr r' hr'
    rw [List.mem_singleton.mp hr']
    exact hbefore r hr

/-! ## One move -/

theorem Sound.abandon (h : Sound taken t) : Sound taken (t.settle none) := by
  rcases hwaiting : t.waiting with _ | question
  · rw [Talk.settle_idle hwaiting]
    exact h
  · obtain ⟨rfl, hevents, -⟩ := h.waiting question hwaiting
    have hbefore := fun r hr => (h.right r hr).taken
    exact h.idle.settle hwaiting hbefore ⟨List.prefix_rfl, List.prefix_rfl, hevents, nofun⟩

theorem Sound.arrive (h : Sound taken t) (replies : List Text) :
    Sound taken (t.step (.arrive replies)) := by
  rw [Talk.step]
  split
  · next hlistens =>
      rw [deliver, if_pos hlistens]
      refine ⟨?_, h.right, h.order, h.waiting⟩
      rw [h.queue, List.append_assoc]
  · exact h

theorem Sound.poll (h : Sound taken t) : ∃ taken', Sound taken' (t.step .poll) := by
  rcases hwaiting : t.waiting with _ | question
  · refine ⟨taken, ?_⟩
    rw [Talk.step, hwaiting]
    exact h
  obtain ⟨rfl, hevents, hasked⟩ := h.waiting question hwaiting
  have hbefore := fun r hr => (h.right r hr).taken
  rcases hreceive : t.socket.receive with ⟨socket, _ | answer⟩
  · obtain ⟨rfl, -, -⟩ := of_receive_none hreceive
    rw [Talk.step_poll_none hwaiting hreceive]
    exact ⟨_, h⟩
  · obtain ⟨hemitted, hanswer⟩ := of_receive_some hreceive
    rw [Talk.step_poll_some hwaiting hreceive]
    rw [← hemitted] at hevents
    rcases hanswer with ⟨reply, rfl, hqueue⟩ | ⟨hqueue, e, rfl⟩
    · -- The reply at the head of the queue is the first one since the event went out.
      have hleft : Sound (question.before ++ [reply]) { t with socket, waiting := none } :=
        h.idle.leave rfl hqueue (hemitted ▸ List.prefix_rfl)
      refine ⟨_, Sound.settle hleft hwaiting hbefore ?_⟩
      refine ⟨List.prefix_append _ _, List.prefix_rfl, hevents, ?_⟩
      rintro _ ⟨⟩
      exact ⟨hasked, rfl⟩
    · have hleft := h.idle.tells hqueue (hemitted ▸ List.prefix_rfl)
      refine ⟨_, Sound.settle hleft hwaiting hbefore ?_⟩
      exact ⟨List.prefix_rfl, List.prefix_rfl, hevents, nofun⟩

theorem Sound.ask (h : Sound taken t) (prompt : Text) :
    ∃ taken', Sound taken' (t.step (.ask prompt)) := by
  rw [Talk.step_ask_settle]
  have hidle := Talk.settle_waiting none t
  replace h := h.abandon
  generalize t.settle none = t at h hidle
  have hright := fun r hr => (h.right r hr).taken
  rcases hask : t.socket.ask prompt with ⟨socket, e | _⟩
  · obtain ⟨hemitted, hqueue⟩ := of_ask_error hask
    rw [Talk.step_ask_error hidle hask]
    have hgone : ∃ gone, t.socket.queue = gone ++ socket.queue := by
      rcases hqueue with hqueue | hqueue
      · exact ⟨[], hqueue.symm⟩
      · exact ⟨t.socket.queue, by rw [hqueue, List.append_nil]⟩
    obtain ⟨gone, hgone⟩ := hgone
    have hleft := h.leave hidle hgone (hemitted ▸ List.prefix_rfl)
    rw [hleft.taken_eq]
    refine ⟨taken ++ gone, Sound.settle hleft.idle rfl ?_ ?_⟩
    · exact fun r hr => (hright r hr).trans (List.prefix_append _ _)
    · exact ⟨List.prefix_rfl, List.prefix_rfl, List.prefix_rfl, nofun⟩
  · obtain ⟨hqueue, hemitted⟩ := of_ask_ok hask
    rw [Talk.step_ask_ok hidle hask]
    have hgone : t.socket.queue = t.socket.queue ++ socket.queue := by
      rw [hqueue, List.append_nil]
    have hleft := h.leave hidle hgone (hemitted ▸ List.prefix_append _ _)
    rw [← h.queue] at hleft
    refine ⟨t.arrived, hleft.queue, hleft.right, hleft.order, ?_⟩
    rintro q ⟨⟩
    exact ⟨rfl, List.prefix_rfl, _, hemitted⟩

/-- **One move preserves the invariant.** -/
theorem Sound.step (h : Sound taken t) (move : Move) :
    ∃ taken', Sound taken' (t.step move) := by
  cases move with
  | arrive replies => exact ⟨taken, h.arrive replies⟩
  | finish => exact ⟨taken, h.tells rfl List.prefix_rfl⟩
  | dropPeer => exact ⟨taken, h.tells rfl List.prefix_rfl⟩
  | message text =>
      obtain ⟨hqueue, hemitted⟩ := emit_cases (.message text) t.socket
      exact ⟨taken, h.tells hqueue hemitted⟩
  | error text =>
      obtain ⟨hqueue, hemitted⟩ := emit_cases (.error text) t.socket
      exact ⟨taken, h.tells hqueue hemitted⟩
  | ask prompt => exact h.ask prompt
  | poll => exact h.poll
  | abandon => exact ⟨taken, h.abandon⟩
  | close =>
      obtain ⟨hqueue, hemitted⟩ := emit_cases .disconnect t.socket
      refine ⟨taken, ?_⟩
      show Sound taken { t with socket := t.socket.close }
      exact h.tells hqueue hemitted

theorem sound_start : Sound [] {} :=
  ⟨rfl, fun _ hr => absurd hr List.not_mem_nil, .nil, fun _ hw => nomatch hw⟩

theorem Sound.play (h : Sound taken t) (moves : List Move) :
    ∃ taken', Sound taken' (t.play moves) := by
  induction moves generalizing taken t with
  | nil => exact ⟨taken, h⟩
  | cons move moves ih =>
      obtain ⟨taken₁, h₁⟩ := h.step move
      exact ih h₁

/-! ## Requests are moves -/

/-- The request takes what has arrived: it is answered, or goes on waiting. -/
theorem reaches_poll {socket : Socket} {answer : Option Reply}
    (hwaiting : t.waiting = some question) (hreceive : t.socket.receive = (socket, answer)) :
    t.Reaches (t.step .poll) question.prompt socket [] answer := by
  cases answer with
  | none =>
      rw [Talk.step_poll_none hwaiting hreceive]
      exact ⟨rfl, (List.append_nil _).symm, fun _ => ⟨rfl, question, hwaiting, rfl⟩, nofun⟩
  | some reply =>
      rw [Talk.step_poll_some hwaiting hreceive, Talk.settle, hwaiting]
      refine ⟨rfl, (List.append_nil _).symm, nofun, ?_⟩
      rintro _ ⟨⟩
      exact ⟨rfl, _, rfl, rfl, rfl⟩

/-- Waiting is polling after deliveries: as long as there is no answer, the client is
listened to. -/
theorem reaches_wait {s s' : Socket} {delivered : List (List Text)} {answer : Option Reply}
    (hwaits : waiting.Waits s delivered s' answer) (hs : t.socket = s)
    (hwaiting : t.waiting = some question) :
    ∃ moves, t.Reaches (t.play moves) question.prompt s' delivered answer := by
  induction hwaits generalizing t with
  | received hreceive => exact ⟨[.poll], reaches_poll hwaiting (hs ▸ hreceive)⟩
  | held hreceive => exact ⟨[.poll], reaches_poll hwaiting (hs ▸ hreceive)⟩
  | finished hreceive =>
      obtain ⟨rfl, -, -⟩ := of_receive_none hreceive
      subst hs
      have hpoll := reaches_poll (t := t.step .finish) hwaiting rfl
      exact ⟨[.finish, .poll], hpoll.after [] (List.append_nil _).symm rfl⟩
  | @batch s _ _ batch _ _ hreceive _ ih =>
      obtain ⟨rfl, -, hlistens⟩ := of_receive_none hreceive
      subst hs
      have harrive : t.step (.arrive batch) =
          { t with socket := t.socket.deliver batch, arrived := t.arrived ++ batch } := by
        rw [Talk.step, if_pos hlistens]
      obtain ⟨moves, hreaches⟩ := ih (t := t.step (.arrive batch)) (by rw [harrive]; rfl)
        (by rw [harrive]; exact hwaiting)
      refine ⟨.arrive batch :: moves, hreaches.after [batch] ?_ ?_⟩
      · rw [harrive, List.flatten_singleton]
      · rw [harrive]

/-- A request is its prompt and then waiting. -/
theorem reaches_request (hidle : t.waiting = none) (prompt : Text)
    (client : Client (List Text)) :
    ∃ moves delivered,
      client.batches = delivered ++ (request prompt (t.socket, client)).1.2.batches
        ∧ t.Reaches (t.play (.ask prompt :: moves)) prompt
          (request prompt (t.socket, client)).1.1 delivered
          (request prompt (t.socket, client)).2 := by
  rw [request]
  rcases hask : t.socket.ask prompt with ⟨socket, e | _⟩
  · refine ⟨[], [], rfl, ?_⟩
    show t.Reaches (t.step (.ask prompt)) prompt socket [] _
    rw [Talk.step_ask_error hidle hask]
    refine ⟨rfl, (List.append_nil _).symm, nofun, ?_⟩
    rintro _ ⟨⟩
    exact ⟨rfl, _, rfl, rfl, rfl⟩
  · have hstep := Talk.step_ask_ok hidle hask
    obtain ⟨delivered, hbatches, hwaits⟩ :=
      waiting.waits_wait client.holds client.batches socket
    obtain ⟨moves, hreaches⟩ := reaches_wait (t := t.step (.ask prompt)) hwaits
      (by rw [hstep]) (by rw [hstep])
    refine ⟨moves, delivered, hbatches, hreaches.after [] ?_ ?_⟩
    · rw [hstep]
      exact (List.append_nil _).symm
    · rw [hstep]

/-- A request that waits is answered by the first reply since its event went out. -/
theorem Sound.poll_reply (h : Sound taken t) {reply : Text} {rest : List Text}
    (hwaiting : t.waiting = some question)
    (harrived : t.arrived = question.before ++ reply :: rest) :
    ∃ r, (t.step .poll).requests = t.requests ++ [r] ∧ r.toQuestion = question
      ∧ r.answer = some (.ok reply) := by
  obtain ⟨rfl, -, -⟩ := h.waiting question hwaiting
  have hqueue : t.socket.queue = reply :: rest := by
    rw [h.queue] at harrived
    exact List.append_cancel_left harrived
  rw [Talk.step_poll_some hwaiting (receive_reply hqueue), Talk.settle, hwaiting]
  exact ⟨_, rfl, rfl, rfl⟩

/-- **The next reply answers.** Take a talk over a socket: replies, messages, errors and
requests in any order, the requests answered, failed or abandoned, the receiver of the
events gone at some point, the client's stream ended, the socket closed. A request that was
answered had emitted its event, and was answered by the first reply delivered after that.
Requests take their replies one after another, so no reply delivered before an event
answers that request or a later one, and no reply answers two. A request that waits is
answered as soon as there is such a reply.

The talk can go on with `Socket.request` whenever no request waits. -/
theorem next_reply_answers {moves : List Move} {t : Talk} (ht : Talk.play moves {} = t) :
    (∀ r ∈ t.requests,
      r.before <+: r.taken ∧ r.taken <+: t.arrived ∧ r.events <+: t.socket.emitted
        ∧ ∀ reply, r.answer = some (.ok reply) →
          (∃ earlier, r.events = earlier ++ [.requestInput r.prompt])
            ∧ r.taken = r.before ++ [reply])
      ∧ t.requests.Pairwise (fun r r' => r.taken <+: r'.before)
      ∧ (∀ q reply rest, t.waiting = some q → t.arrived = q.before ++ reply :: rest →
        ∃ r, (t.step .poll).requests = t.requests ++ [r] ∧ r.toQuestion = q
          ∧ r.answer = some (.ok reply))
      ∧ (t.waiting = none → ∀ prompt client, ∃ more delivered,
        client.batches = delivered ++ (request prompt (t.socket, client)).1.2.batches
          ∧ t.Reaches (t.play (.ask prompt :: more)) prompt
            (request prompt (t.socket, client)).1.1 delivered
            (request prompt (t.socket, client)).2) := by
  subst ht
  obtain ⟨taken, h⟩ := sound_start.play moves
  refine ⟨?_, h.order, fun _ _ _ => h.poll_reply, reaches_request⟩
  intro r hr
  obtain ⟨hbefore, htaken, hevents, hanswered⟩ := h.right r hr
  have harrived : r.taken <+: (Talk.play moves {}).arrived := by
    rw [h.queue]
    exact htaken.trans (List.prefix_append _ _)
  exact ⟨hbefore, harrived, hevents, hanswered⟩

/-- A client that answers before it is asked, then twice, and once more when the second
request has been abandoned; it leaves while the last one waits. -/
def unaskedMoves : List Move := [
  .arrive [['x']],
  .ask ['A'],
  .message ['m'],
  .arrive [['y'], ['x']],
  .poll,
  .ask ['B'],
  .poll,
  .abandon,
  .arrive [['z']],
  .ask ['C'],
  .arrive [['x']],
  .poll,
  .ask ['D'],
  .finish,
  .poll,
  .dropPeer,
  .ask ['E'],
  .close]

/-- The talk with that client. -/
def unaskedTalk : Talk :=
  Talk.play unaskedMoves {}

theorem unasked_replies :
    Talk.play unaskedMoves {} = unaskedTalk
      ∧ unaskedTalk.requests.map (·.answer) =
        [some (.ok ['y']), none, some (.ok ['x']), some (.error .closed), some (.error .closed)]
      ∧ unaskedTalk.arrived = [['x'], ['y'], ['x'], ['z'], ['x']]
      ∧ unaskedTalk.requests.map (·.before.length) = [1, 3, 4, 5, 5]
      ∧ (∀ r ∈ unaskedTalk.requests, ∀ reply, r.answer = some (.ok reply) →
        r.taken = r.before ++ [reply])
      ∧ unaskedTalk.requests.Pairwise (fun r r' => r.taken <+: r'.before) := by
  obtain ⟨hright, horder, -, -⟩ := next_reply_answers (t := unaskedTalk) rfl
  refine ⟨rfl, rfl, rfl, rfl, ?_, horder⟩
  intro r hr reply hanswer
  obtain ⟨-, -, -, hanswered⟩ := hright r hr
  exact (hanswered reply hanswer).2

end Socket

end Dialogue
