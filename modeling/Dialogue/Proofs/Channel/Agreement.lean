import Dialogue.Channel.Socket
import Dialogue.Proofs.Channel.Client
import Dialogue.Proofs.Channel.Lines
import Dialogue.Proofs.Channel.Scripted

/-!
# The channels agree

The console, the socket and the byte stream interpret scripts, each in its own form:
the console is given the replies as lines of input, the socket one reply a wait, and
the byte stream one input frame a wait. So a conversation goes the same way over each
of them as over the scripted channel, and each shows the log of the script
(`channels_agree`).
-/

namespace Dialogue

/-! ## What the channels show of a log -/

/-- What the console's output shows: messages as lines, prompts as they are. -/
def Action.onOutput : Action → Text
  | .message text => text ++ ['\n']
  | .prompt text => text
  | _ => []

/-- What the console's error output shows: errors as lines. -/
def Action.onErrors : Action → Text
  | .error text => text ++ ['\n']
  | _ => []

/-- The action that an event shows. -/
def ServerEvent.action : ServerEvent → Action
  | .message text => .message text
  | .requestInput prompt => .prompt prompt
  | .error text => .error text
  | .disconnect => .closed

/-- The action that a frame shows; those of the client show none. -/
def Frame.action? : Frame → Option Action
  | .message text => some (.message text)
  | .error text => some (.error text)
  | .prompt text => some (.prompt text)
  | .input _ => none
  | .start _ => none

/-! ## The console -/

namespace Console

/-- A reply that comes back from a line: it has no line feed and does not end in a
carriage return. -/
def FitsLine (reply : Text) : Prop :=
  '\n' ∉ reply ∧ reply.getLast? ≠ some '\r'

/-- The console with the given replies as lines of input. -/
def withReplies (replies : List Text) : Console where
  input := replies.flatMap lineOf

/-- The console's outputs show a log. -/
structure Shows (c : Console) (log : List Action) : Prop where
  output : c.output.written = Utf8.encode (log.flatMap Action.onOutput)
  errors : c.errors.written = Utf8.encode (log.flatMap Action.onErrors)

/-- An open console with replies on its input. -/
structure Turn (replies : List Text) (log : List Action) (c : Console) : Prop where
  opened : c.closed = false
  fits : ∀ reply ∈ replies, FitsLine reply
  input : c.input = replies.flatMap lineOf
  output : c.output.Healthy
  errors : c.errors.Healthy
  shows : c.Shows log

variable {c : Console} {log : List Action} {replies : List Text}

theorem Shows.snoc (h : c.Shows log) {c' : Console} {action : Action}
    (houtput : c'.output = c.output.plus (Utf8.encode action.onOutput))
    (herrors : c'.errors = c.errors.plus (Utf8.encode action.onErrors)) :
    c'.Shows (log ++ [action]) where
  output := by
    rw [houtput, Sink.plus_written, h.output, List.flatMap_append, Utf8.encode_append,
      List.flatMap_singleton]
  errors := by
    rw [herrors, Sink.plus_written, h.errors, List.flatMap_append, Utf8.encode_append,
      List.flatMap_singleton]

theorem linePieces_flatten (text : Text) :
    (linePieces text).flatten = Utf8.encode (text ++ ['\n']) := by
  rw [← lineOf, lineOf_eq, linePieces]
  rfl

theorem plus_nil (s : Sink) : s.plus [] = s := by
  rw [Sink.plus, List.append_nil]

theorem Turn.request (h : Turn replies log c) (prompt : Text) :
    c.request prompt = readLine { c with output := c.output.plus (Utf8.encode prompt) } := by
  rw [Console.request, h.opened, if_neg Bool.false_ne_true, h.output.writeFlush,
    List.flatten_singleton]

theorem interprets :
    channel.Interprets Turn fun log c => c.closed = true ∧ c.Shows log where
  message := by
    intro replies log c text h
    refine ⟨{ c with output := c.output.plus (Utf8.encode (text ++ ['\n'])) }, ?_, h.opened,
      h.fits, h.input, h.output.plus _, h.errors, h.shows.snoc rfl (plus_nil _).symm⟩
    show completed (c.message text) = _
    rw [message, h.opened, if_neg Bool.false_ne_true, h.output.writeFlush, linePieces_flatten]
    rfl
  error := by
    intro replies log c text h
    refine ⟨{ c with errors := c.errors.plus (Utf8.encode (text ++ ['\n'])) }, ?_, h.opened,
      h.fits, h.input, h.output, h.errors.plus _, h.shows.snoc (plus_nil _).symm rfl⟩
    show completed (c.error text) = _
    rw [error, h.opened, if_neg Bool.false_ne_true, h.errors.writeFlush, linePieces_flatten]
    rfl
  answer := by
    intro reply replies log c prompt h
    obtain ⟨⟨hfeed, hreturn⟩, hfits⟩ := List.forall_mem_cons.mp h.fits
    refine ⟨{ c with output := c.output.plus (Utf8.encode prompt),
                     input := replies.flatMap lineOf }, ?_, h.opened, hfits, rfl,
      h.output.plus _, h.errors, h.shows.snoc rfl (plus_nil _).symm⟩
    have hinput : c.input = lineOf reply ++ replies.flatMap lineOf := by
      rw [← List.flatMap_cons]
      exact h.input
    show answered (c.request prompt) = _
    rw [h.request,
      readLine_line (c := { c with output := c.output.plus (Utf8.encode prompt) }) hfeed hreturn
        hinput]
    rfl
  refuse := by
    intro log c prompt h
    refine ⟨{ c with output := c.output.plus (Utf8.encode prompt) }, ?_, h.opened, h.fits,
      h.input, h.output.plus _, h.errors, h.shows.snoc rfl (plus_nil _).symm⟩
    show answered (c.request prompt) = _
    rw [h.request, readLine, show c.input = [] from h.input]
    rfl
  close := by
    intro replies log c h
    refine ⟨{ c with closed := true }, ?_, rfl,
      h.shows.snoc (plus_nil _).symm (plus_nil _).symm⟩
    show completed c.close = _
    rw [close, h.opened, if_neg Bool.false_ne_true]
    rfl

end Console

/-! ## The socket -/

namespace Socket

/-- A client that gives one of the replies whenever it is waited for. -/
def clientWith (replies : List Text) : Client (List Text) :=
  ⟨replies.map fun reply => [reply], false⟩

/-- A socket that has emitted one event more. -/
def plus (event : ServerEvent) (s : Socket) : Socket :=
  { s with emitted := s.emitted ++ [event] }

/-- An open socket at which nothing is queued. Once the client has ended its stream
there are no replies to come. -/
structure Turn (replies : List Text) (log : List Action) (s : Socket) : Prop where
  opened : s.closed = false
  peer : s.peerGone = false
  queue : s.queue = []
  coming : s.clientOpen = true ∨ replies = []
  shows : s.emitted.map ServerEvent.action = log

variable {s : Socket} {log : List Action} {replies : List Text}

theorem Turn.plus (h : s.Turn replies log) (event : ServerEvent) :
    (s.plus event).Turn replies (log ++ [event.action]) :=
  ⟨h.opened, h.peer, h.queue, h.coming, by
    rw [Socket.plus, List.map_append, h.shows, List.map_singleton]⟩

theorem Turn.send (h : s.Turn replies log) (event : ServerEvent) :
    s.send event = (s.plus event, .ok ()) := by
  obtain ⟨queue, clientOpen, peerGone, emitted, closed⟩ := s
  obtain ⟨rfl, rfl, rfl, -, -⟩ := h
  rfl

theorem Turn.emit (h : s.Turn replies log) (event : ServerEvent) :
    s.emit event = s.plus event := by
  rw [Socket.emit, h.opened, if_neg Bool.false_ne_true, h.send]

theorem Turn.ask (h : s.Turn replies log) (prompt : Text) :
    s.ask prompt = (s.plus (.requestInput prompt), .ok ()) := by
  obtain ⟨queue, clientOpen, peerGone, emitted, closed⟩ := s
  obtain ⟨rfl, rfl, rfl, -, -⟩ := h
  rfl

theorem Turn.wait_reply {reply : Text} (h : s.Turn (reply :: replies) log)
    (rest : List (List Text)) :
    waiting.wait false ([reply] :: rest) s = ((s, rest), some (.ok reply)) := by
  have hopen : s.clientOpen = true := h.coming.resolve_right (List.cons_ne_nil _ _)
  obtain ⟨queue, clientOpen, peerGone, emitted, closed⟩ := s
  obtain ⟨rfl, rfl, rfl, -, -⟩ := h
  cases hopen
  rw [Waiting.wait_batch (by rfl), Waiting.wait_received (by rfl)]
  rfl

theorem Turn.wait_closed (h : s.Turn [] log) :
    waiting.wait false [] s = ((s.finish, []), some (.error .closed)) := by
  obtain ⟨queue, clientOpen, peerGone, emitted, closed⟩ := s
  obtain ⟨rfl, rfl, rfl, -, -⟩ := h
  cases clientOpen <;> rfl

theorem interprets :
    channel.Interprets (fun replies log d => d.1.Turn replies log ∧ d.2 = clientWith replies)
      fun log d => d.1.closed = true ∧ d.1.emitted.map ServerEvent.action = log where
  message := by
    rintro replies log ⟨s, client⟩ text ⟨h, hclient⟩
    refine ⟨(s.plus (.message text), client), ?_, h.plus (.message text), hclient⟩
    show completed (s.emit (.message text), client) = _
    rw [h.emit]
    rfl
  error := by
    rintro replies log ⟨s, client⟩ text ⟨h, hclient⟩
    refine ⟨(s.plus (.error text), client), ?_, h.plus (.error text), hclient⟩
    show completed (s.emit (.error text), client) = _
    rw [h.emit]
    rfl
  answer := by
    rintro reply replies log ⟨s, client⟩ prompt ⟨h, rfl⟩
    have hasked := h.plus (.requestInput prompt)
    have hturn : (s.plus (.requestInput prompt)).Turn replies (log ++ [.prompt prompt]) :=
      ⟨hasked.opened, hasked.peer, hasked.queue,
        .inl (hasked.coming.resolve_right (List.cons_ne_nil _ _)), hasked.shows⟩
    refine ⟨(s.plus (.requestInput prompt), clientWith replies), ?_, hturn, rfl⟩
    show request prompt (s, clientWith (reply :: replies)) = _
    rw [request, h.ask]
    dsimp only
    rw [Waiting.waitFor, clientWith, List.map_cons, hasked.wait_reply]
    rfl
  refuse := by
    rintro log ⟨s, client⟩ prompt ⟨h, rfl⟩
    have hasked := h.plus (.requestInput prompt)
    refine ⟨((s.plus (.requestInput prompt)).finish, clientWith []), ?_,
      ⟨hasked.opened, hasked.peer, hasked.queue, .inr rfl, hasked.shows⟩, rfl⟩
    show request prompt (s, clientWith []) = _
    rw [request, h.ask]
    dsimp only
    rw [Waiting.waitFor, clientWith, List.map_nil, hasked.wait_closed]
  close := by
    rintro replies log ⟨s, client⟩ ⟨h, -⟩
    refine ⟨({ s.plus .disconnect with closed := true }, client), ?_, rfl,
      (h.plus .disconnect).shows⟩
    show completed (s.close, client) = _
    rw [close, h.emit, completed]

end Socket

/-! ## The byte stream -/

namespace Duplex

/-- A client that gives an input frame with one of the replies whenever it is waited
for. -/
def clientWith (replies : List Text) : Client Bytes :=
  ⟨replies.map fun reply => frameLine (.input reply), false⟩

/-- The frames written to a stream show a log. -/
def Shows (d : Duplex) (log : List Action) : Prop :=
  ∃ frames : List Frame, d.output.written = frames.flatMap frameLine
    ∧ frames.map Frame.action? = log.map some

/-- An open stream at which nothing is queued. Once the client has ended its own stream
there are no replies to come. -/
structure Turn (replies : List Text) (log : List Action) (d : Duplex) : Prop where
  opened : d.closed = false
  queue : d.queue = []
  pending : d.pending = []
  coming : d.reading = true ∨ replies = []
  output : d.output.Healthy
  shows : d.Shows log

variable {d : Duplex} {log : List Action} {replies : List Text}

theorem Turn.plus (h : d.Turn replies log) {f : Frame} {action : Action}
    (hf : f.action? = some action) : (d.plus [f]).Turn replies (log ++ [action]) := by
  obtain ⟨frames, hwritten, hframes⟩ := h.shows
  refine ⟨h.opened, h.queue, h.pending, h.coming, h.output.plus _, frames ++ [f], ?_, ?_⟩
  · rw [Duplex.plus, Sink.plus_written, hwritten, List.flatMap_append]
  · rw [List.map_append, List.map_append, hframes, List.map_singleton, List.map_singleton, hf]

theorem Turn.ask (h : d.Turn replies log) (prompt : Text) :
    d.ask prompt = (d.plus [.prompt prompt], .ok ()) := by
  have hdiscard : discardFrom d.queue d = (d, .ok ()) := by
    rw [h.queue, discardFrom, ← h.queue]
  rw [Duplex.ask, h.opened, if_neg Bool.false_ne_true, hdiscard]
  exact write_healthy h.output (.prompt prompt)

theorem Turn.wait_reply {reply : Text} (h : d.Turn (reply :: replies) log)
    (rest : List Bytes) :
    (waiting inputOf).wait false (frameLine (.input reply) :: rest) d =
      ((d, rest), some (.ok reply)) := by
  have hreading : d.reading = true := h.coming.resolve_right (List.cons_ne_nil _ _)
  have hdelivered := deliver_frameLine h.pending hreading (.input reply)
  have hqueue := h.queue
  obtain ⟨queue, pending, reading, output, closed⟩ := d
  cases hqueue
  cases hreading
  rw [Waiting.wait_batch (by rfl)]
  show (waiting inputOf).wait false rest (deliver _ _) = _
  rw [show deliver (frameLine (.input reply)) _ = _ from hdelivered,
    Waiting.wait_received (by rfl)]

theorem Turn.wait_closed (h : d.Turn [] log) :
    (waiting inputOf).wait false [] d = ((d.finish, []), some (.error .closed)) := by
  obtain ⟨queue, pending, reading, output, closed⟩ := d
  obtain ⟨rfl, rfl, rfl, -, -, -⟩ := h
  cases reading <;> rfl

theorem Turn.finish (h : d.Turn replies log) : d.finish.Turn [] log := by
  rw [Duplex.finish, if_pos h.pending]
  exact ⟨h.opened, h.queue, h.pending, .inr rfl, h.output, h.shows⟩

theorem interprets :
    channel.Interprets (fun replies log d => d.1.Turn replies log ∧ d.2 = clientWith replies)
      fun log d => d.1.closed = true ∧ ∃ asked, log = asked ++ [.closed]
        ∧ d.1.Shows asked where
  message := by
    rintro replies log ⟨d, client⟩ text ⟨h, hclient⟩
    refine ⟨(d.plus [.message text], client), ?_, h.plus rfl, hclient⟩
    show completed (d.emit (.message text), client) = _
    rw [emit_healthy h.opened h.output, completed]
  error := by
    rintro replies log ⟨d, client⟩ text ⟨h, hclient⟩
    refine ⟨(d.plus [.error text], client), ?_, h.plus rfl, hclient⟩
    show completed (d.emit (.error text), client) = _
    rw [emit_healthy h.opened h.output, completed]
  answer := by
    rintro reply replies log ⟨d, client⟩ prompt ⟨h, rfl⟩
    have hasked := h.plus (f := .prompt prompt) rfl
    have hturn : (d.plus [.prompt prompt]).Turn replies (log ++ [.prompt prompt]) :=
      ⟨hasked.opened, hasked.queue, hasked.pending,
        .inl (hasked.coming.resolve_right (List.cons_ne_nil _ _)), hasked.output, hasked.shows⟩
    refine ⟨(d.plus [.prompt prompt], clientWith replies), ?_, hturn, rfl⟩
    show request prompt (d, clientWith (reply :: replies)) = _
    rw [request, h.ask]
    dsimp only
    rw [Waiting.waitFor, clientWith, List.map_cons, hasked.wait_reply]
    rfl
  refuse := by
    rintro log ⟨d, client⟩ prompt ⟨h, rfl⟩
    have hasked := h.plus (f := .prompt prompt) rfl
    refine ⟨((d.plus [.prompt prompt]).finish, clientWith []), ?_, hasked.finish, rfl⟩
    show request prompt (d, clientWith []) = _
    rw [request, h.ask]
    dsimp only
    rw [Waiting.waitFor, clientWith, List.map_nil, hasked.wait_closed]
  close := by
    rintro replies log ⟨d, client⟩ ⟨h, -⟩
    refine ⟨(d.close, client), rfl, ?_, log, rfl, ?_⟩
    · rw [close, h.opened, if_neg Bool.false_ne_true]
    · rw [close, h.opened, if_neg Bool.false_ne_true]
      exact h.shows

end Duplex

/-! ## One conversation over four channels -/

variable {τ φ : Type}

/-- A conversation over a channel in some state, with somebody to make the external
calls. -/
def Channel.converse (channel : Channel τ) (fetch : Text → φ → φ × Option Response)
    (flow : Flow) (settings : Settings) (blocks : Nat) (state : τ) (fetcher : φ) :
    Run (τ × φ) :=
  (Session.start flow settings).run (channel.environmentWith fetch) blocks (state, fetcher)

/-- A channel that interprets scripts holds the scripted conversation. -/
theorem Channel.Interprets.converse {channel : Channel τ}
    {Turn : List Text → List Action → τ → Prop} {Over : List Action → τ → Prop}
    (h : channel.Interprets Turn Over) {fetch : Text → φ → φ × Option Response} {fetcher : φ}
    {flow : Flow} {settings : Settings} {replies : List Text} {blocks : Nat}
    {t : Termination} {r : Run (Script × φ)} (state : τ)
    (hr : Script.channel.converse fetch flow settings blocks (.ofReplies replies) fetcher = r)
    (hreturned : r.stop = .returned t) (hturn : Turn replies [] state) :
    ∃ state', channel.converse fetch flow settings blocks state fetcher =
        ⟨(state', r.world.2), r.session, r.exchanges, .returned t⟩
      ∧ Over r.world.1.log state' :=
  h.follows.run hr hreturned rfl ⟨replies, Script.answering_ofReplies replies, hturn⟩

/-- **The channels agree.** Take a conversation that returns over a script of replies,
each of which fits a line. Over the console, the socket and the byte stream, given the
same replies, it makes the same calls and gets the same answers, visits the same blocks,
ends in the same way and holds the same variables. The events of the socket are the log
of the script, and so are the frames that are read from what the stream has written, up
to the close; the console shows the log on its two outputs. If the replies do not
suffice, the channel is closed to all of them. -/
theorem channels_agree {fetch : Text → φ → φ × Option Response} {fetcher : φ} {flow : Flow}
    {settings : Settings} {replies : List Text} {blocks : Nat} {t : Termination}
    {r : Run (Script × φ)} (hfits : ∀ reply ∈ replies, Console.FitsLine reply)
    (hr : Script.channel.converse fetch flow settings blocks (.ofReplies replies) fetcher = r)
    (hreturned : r.stop = .returned t) :
    (∃ console : Console,
        Console.channel.converse fetch flow settings blocks (.withReplies replies) fetcher =
            ⟨(console, r.world.2), r.session, r.exchanges, .returned t⟩
          ∧ console.closed = true
          ∧ console.output.written = Utf8.encode (r.world.1.log.flatMap Action.onOutput)
          ∧ console.errors.written = Utf8.encode (r.world.1.log.flatMap Action.onErrors))
      ∧ (∃ (socket : Socket) (client : Client (List Text)),
        Socket.channel.converse fetch flow settings blocks ({}, Socket.clientWith replies)
              fetcher =
            ⟨((socket, client), r.world.2), r.session, r.exchanges, .returned t⟩
          ∧ socket.closed = true
          ∧ socket.emitted.map ServerEvent.action = r.world.1.log)
      ∧ (∃ (stream : Duplex) (client : Client Bytes) (frames : List Frame),
        Duplex.channel.converse fetch flow settings blocks ({}, Duplex.clientWith replies)
              fetcher =
            ⟨((stream, client), r.world.2), r.session, r.exchanges, .returned t⟩
          ∧ stream.closed = true
          ∧ Duplex.deliver stream.output.written {} = { queue := frames.map .frame }
          ∧ frames.map Frame.action? ++ [some .closed] = r.world.1.log.map some)
      ∧ (replies.length < r.world.1.log.countP Action.isPrompt →
          t = .failed (.channel .closed)) := by
  refine ⟨?_, ?_, ?_, Session.closed_of_more_prompts hr hreturned⟩
  · have hturn : Console.Turn replies [] (.withReplies replies) :=
      ⟨rfl, hfits, rfl, ⟨rfl, rfl⟩, ⟨rfl, rfl⟩, rfl, rfl⟩
    obtain ⟨console, hrun, hclosed, hshows⟩ := Console.interprets.converse _ hr hreturned hturn
    exact ⟨console, hrun, hclosed, hshows.output, hshows.errors⟩
  · have hturn : Socket.Turn replies [] {} := ⟨rfl, rfl, rfl, .inl rfl, rfl⟩
    obtain ⟨⟨socket, client⟩, hrun, hclosed, hshows⟩ :=
      Socket.interprets.converse ({}, Socket.clientWith replies) hr hreturned
        ⟨hturn, rfl⟩
    exact ⟨socket, client, hrun, hclosed, hshows⟩
  · have hturn : Duplex.Turn replies [] {} :=
      ⟨rfl, rfl, rfl, .inl rfl, ⟨rfl, rfl⟩, [], rfl, rfl⟩
    obtain ⟨⟨stream, client⟩, hrun, hclosed, asked, hlog, frames, hwritten, hframes⟩ :=
      Duplex.interprets.converse ({}, Duplex.clientWith replies) hr hreturned
        ⟨hturn, rfl⟩
    refine ⟨stream, client, frames, hrun, hclosed, ?_, ?_⟩
    · rw [hwritten]
      exact Duplex.deliver_frameLines rfl rfl frames
    · rw [hframes, hlog, List.map_append, List.map_singleton]

/-- The greeting of a user called A. -/
def greetingScripted : Run (Script × Fetcher) :=
  Script.channel.converse Fetcher.fetch greetingFlow {} 5 (.ofReplies [['A']]) .offline

theorem greeting_agrees :
    (∀ reply ∈ [['A']], Console.FitsLine reply)
      ∧ greetingScripted.stop = .returned (.completed .endBlock)
      ∧ (∃ (socket : Socket) (client : Client (List Text)),
        Socket.channel.converse Fetcher.fetch greetingFlow {} 5
              ({}, Socket.clientWith [['A']]) .offline =
            ⟨((socket, client), .offline), greetingScripted.session,
              greetingScripted.exchanges, .returned (.completed .endBlock)⟩
          ∧ socket.emitted.map ServerEvent.action =
            [.prompt (Prompts.standard.capturePrompt ['n']), .message ['H', 'i', ' ', 'A'],
              .message Prompts.standard.chatFinished, .closed])
      ∧ ∃ console : Console, console.output.written =
          Utf8.encode (Prompts.standard.capturePrompt ['n'] ++ ['H', 'i', ' ', 'A', '\n']
            ++ (Prompts.standard.chatFinished ++ ['\n'])) := by
  have hfits : ∀ reply ∈ [['A']], Console.FitsLine reply :=
    List.forall_mem_singleton.mpr ⟨by decide, by decide⟩
  have hreturned : greetingScripted.stop = .returned (.completed .endBlock) := rfl
  obtain ⟨⟨console, -, -, houtput, -⟩, ⟨socket, client, hrun, -, hevents⟩, -, -⟩ :=
    channels_agree hfits rfl hreturned
  exact ⟨hfits, hreturned, ⟨socket, client, hrun, hevents⟩, console, houtput⟩

end Dialogue
