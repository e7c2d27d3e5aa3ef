import Dialogue.Channel.Socket
import Dialogue.Proofs.Channel.Onward

/-!
# Closed channels

Deeds are what happens to a channel, in any order: the conversation uses it, or its far
side acts. A channel that has been closed takes part in none of them any more
(`Silences.play`): nothing is emitted, and every request fails at once
(`closed_channels_silent`). A socket says farewell at most once, after everything else,
and a byte stream ends its writing at most once.
-/

namespace Dialogue

/-- What happens to a channel: it is used, or its far side acts. -/
inductive Deed (κ : Type) where
  | message (text : Text)
  | error (text : Text)
  | input (prompt : Text)
  | close
  | far (act : κ)
  deriving DecidableEq

/-- A channel, with what its far side can do to it. -/
structure Connection (τ κ : Type) where
  channel : Channel τ
  act : κ → τ → τ

namespace Connection

variable {τ κ ε : Type}

/-- One deed, and what it is answered if it is a request: nothing if that is abandoned. -/
def step (c : Connection τ κ) : Deed κ → τ → τ × List (Option Reply)
  | .message text, state => ((c.channel.message text state).1, [])
  | .error text, state => ((c.channel.error text state).1, [])
  | .input prompt, state =>
    let (state, answer) := c.channel.input prompt state
    (state, [answer])
  | .close, state => ((c.channel.close state).1, [])
  | .far act, state => (c.act act state, [])

def after (c : Connection τ κ) (deeds : List (Deed κ)) (state : τ) : τ :=
  deeds.foldl (fun state deed => (c.step deed state).1) state

/-- What the requests among some deeds are answered, in order. -/
def answers (c : Connection τ κ) : List (Deed κ) → τ → List (Option Reply)
  | [], _ => []
  | deed :: deeds, state =>
    (c.step deed state).2 ++ c.answers deeds (c.step deed state).1

variable {c : Connection τ κ} {state : τ}

theorem after_cons (deed : Deed κ) (deeds : List (Deed κ)) :
    c.after (deed :: deeds) state = c.after deeds (c.step deed state).1 := rfl

/-- What every deed keeps, all of them keep. -/
theorem after_kept {I : τ → Prop} (hstep : ∀ deed state, I state → I (c.step deed state).1)
    (deeds : List (Deed κ)) (h : I state) : I (c.after deeds state) := by
  induction deeds generalizing state with
  | nil => exact h
  | cons deed deeds ih => exact ih (hstep deed state h)

/-- A mark that one deed sets, and none takes off, tells whether that has been done. -/
theorem after_marked [DecidableEq κ] (mark : τ → Bool) (sets : Deed κ)
    (hstep : ∀ deed state, mark (c.step deed state).1 = (mark state || deed == sets))
    (deeds : List (Deed κ)) (state : τ) :
    mark (c.after deeds state) = (mark state || deeds.contains sets) := by
  induction deeds generalizing state with
  | nil => exact (Bool.or_false _).symm
  | cons deed deeds ih =>
      rw [after_cons, ih, hstep, List.contains_cons, Bool.or_assoc, Bool.beq_comm]

/-- In such states nothing is emitted, requests fail, and no deed leads out of them. -/
structure Silences (c : Connection τ κ) (Shut : τ → Prop) (emitted : τ → ε) : Prop where
  shut {state : τ} (h : Shut state) (deed : Deed κ) : Shut (c.step deed state).1
  emitted {state : τ} (h : Shut state) (deed : Deed κ) :
    emitted (c.step deed state).1 = emitted state
  refused {state : τ} (h : Shut state) (deed : Deed κ) :
    ∀ answer ∈ (c.step deed state).2, answer = some (.error .closed)

theorem Silences.play {Shut : τ → Prop} {emitted : τ → ε} (hsilent : c.Silences Shut emitted)
    (h : Shut state) (deeds : List (Deed κ)) :
    emitted (c.after deeds state) = emitted state
      ∧ ∀ answer ∈ c.answers deeds state, answer = some (.error .closed) := by
  induction deeds generalizing state with
  | nil => exact ⟨rfl, fun _ hmem => absurd hmem List.not_mem_nil⟩
  | cons deed deeds ih =>
      obtain ⟨hemitted, hrefused⟩ := ih (hsilent.shut h deed)
      rw [after_cons, hemitted, answers]
      exact ⟨hsilent.emitted h deed,
        List.forall_mem_append.mpr ⟨hsilent.refused h deed, hrefused⟩⟩

end Connection

/-! ## The console -/

namespace Console

/-- The console, with more input that comes in. -/
def connection : Connection Console Bytes where
  channel := channel
  act bytes c := { c with input := c.input ++ bytes }

theorem close_closed (c : Console) : c.close.closed = true := by
  rw [close]
  split
  · assumption
  · rfl

theorem silences :
    connection.Silences (fun c => c.closed = true) fun c => (c.output, c.errors) := by
  have hstep {c : Console} (h : c.closed = true) (deed : Deed Bytes) :
      (connection.step deed c).1.closed = true
        ∧ (connection.step deed c).1.output = c.output
        ∧ (connection.step deed c).1.errors = c.errors
        ∧ ∀ answer ∈ (connection.step deed c).2, answer = some (.error .closed) := by
    cases deed with
    | message text => simp [Connection.step, connection, channel, completed, message, h]
    | error text => simp [Connection.step, connection, channel, completed, error, h]
    | input prompt => simp [Connection.step, connection, channel, answered, request, h]
    | close => simp [Connection.step, connection, channel, completed, close, h]
    | far bytes => simp [Connection.step, connection, h]
  exact ⟨fun h deed => (hstep h deed).1,
    fun h deed => Prod.ext (hstep h deed).2.1 (hstep h deed).2.2.1,
    fun h deed => (hstep h deed).2.2.2⟩

end Console

/-! ## The socket -/

namespace Socket

/-- What a client and the receiver of the events can do. -/
inductive Act where
  | arrive (replies : List Text)
  /-- The client ends its stream. -/
  | finish
  /-- The receiver of the events vanishes. -/
  | dropPeer
  /-- What the client is going to do while requests wait. -/
  | plan (client : Client (List Text))
  deriving DecidableEq

def connection : Connection (Socket × Client (List Text)) Act where
  channel := channel
  act
    | .arrive replies, (s, client) => (s.deliver replies, client)
    | .finish, (s, client) => (s.finish, client)
    | .dropPeer, (s, client) => (s.dropPeer, client)
    | .plan client, (s, _) => (s, client)

variable {s s' : Socket}

/-- A socket later on, which has neither been closed nor lost its receiver since. A closed
socket has emitted nothing in between, and an open one no farewell. -/
structure Onward (s s' : Socket) : Prop where
  closed : s'.closed = s.closed
  peerGone : s'.peerGone = s.peerGone
  emitted : ∃ events, s'.emitted = s.emitted ++ events ∧ .disconnect ∉ events
    ∧ (s.closed = true → events = [])

theorem Onward.quiet (hclosed : s'.closed = s.closed) (hpeer : s'.peerGone = s.peerGone)
    (hemitted : s'.emitted = s.emitted) : s.Onward s' :=
  ⟨hclosed, hpeer, [], by rw [hemitted, List.append_nil], List.not_mem_nil, fun _ => rfl⟩

theorem Onward.trans {s'' : Socket} (h : s.Onward s') (h' : s'.Onward s'') :
    s.Onward s'' := by
  obtain ⟨events, hemitted, hfarewell, hsilent⟩ := h.emitted
  obtain ⟨more, hemitted', hfarewell', hsilent'⟩ := h'.emitted
  refine ⟨h'.closed.trans h.closed, h'.peerGone.trans h.peerGone, events ++ more, ?_, ?_, ?_⟩
  · rw [hemitted', hemitted, List.append_assoc]
  · exact fun hmem => (List.mem_append.mp hmem).elim hfarewell hfarewell'
  · intro hclosed
    rw [hsilent hclosed, hsilent' (h.closed.trans hclosed)]
    rfl

theorem send_onward {event : ServerEvent} (hopen : s.closed = false)
    (hevent : event ≠ .disconnect) : s.Onward (s.send event).1 := by
  rw [send]
  split
  · exact .quiet rfl rfl rfl
  · refine ⟨rfl, rfl, [event], rfl, ?_, fun hclosed => ?_⟩
    · exact fun hmem => hevent (List.mem_singleton.mp hmem).symm
    · rw [hopen] at hclosed
      cases hclosed

theorem emit_onward (s : Socket) {event : ServerEvent} (hevent : event ≠ .disconnect) :
    s.Onward (s.emit event) := by
  rw [emit]
  split
  · exact .quiet rfl rfl rfl
  · next hopen => exact send_onward (Bool.eq_false_iff.mpr hopen) hevent

theorem ask_onward (prompt : Text) (s : Socket) : s.Onward (s.ask prompt).1 := by
  rw [ask]
  split
  · exact .quiet rfl rfl rfl
  · next hopen =>
      have hcleared : s.Onward { s with queue := [] } := .quiet rfl rfl rfl
      exact hcleared.trans (send_onward (Bool.eq_false_iff.mpr hopen) nofun)

theorem receive_onward (s : Socket) : s.Onward s.receive.1 := by
  rw [receive]
  split <;> exact .quiet rfl rfl rfl

theorem deliver_onward (replies : List Text) (s : Socket) : s.Onward (s.deliver replies) := by
  rw [deliver]
  split <;> exact .quiet rfl rfl rfl

theorem request_onward (prompt : Text) (state : Socket × Client (List Text)) :
    state.1.Onward (request prompt state).1.1 := by
  have hask := ask_onward prompt state.1
  rw [request]
  rcases hasked : state.1.ask prompt with ⟨s, e | _⟩ <;> rw [hasked] at hask
  · exact hask
  · have hwait : s.receive.1.Onward (waiting.waitFor (s, state.2)).1.1 :=
      Waiting.wait_kept (w := waiting) (R := Onward) (fun _ => .quiet rfl rfl rfl)
        (fun _ _ _ => Onward.trans) receive_onward deliver_onward
        (fun _ => .quiet rfl rfl rfl) state.2.holds state.2.batches s
    exact hask.trans ((receive_onward s).trans hwait)

/-- All deeds but two leave the marks of a socket alone. -/
theorem step_onward {deed : Deed Act} (hclose : deed ≠ .close) (hpeer : deed ≠ .far .dropPeer)
    (state : Socket × Client (List Text)) :
    state.1.Onward (connection.step deed state).1.1 := by
  cases deed with
  | message text => exact emit_onward state.1 nofun
  | error text => exact emit_onward state.1 nofun
  | input prompt => exact request_onward prompt state
  | close => exact absurd rfl hclose
  | far act =>
      cases act with
      | arrive replies => exact deliver_onward replies state.1
      | finish => exact .quiet rfl rfl rfl
      | dropPeer => exact absurd rfl hpeer
      | plan client => exact .quiet rfl rfl rfl

theorem close_of_closed (h : s.closed = true) : s.close = s := by
  obtain ⟨queue, clientOpen, peerGone, emitted, closed⟩ := s
  cases h
  rfl

theorem silences : connection.Silences (fun state => state.1.closed = true)
    fun state => state.1.emitted := by
  have hstep {state : Socket × Client (List Text)} (h : state.1.closed = true)
      (deed : Deed Act) :
      (connection.step deed state).1.1.closed = true
        ∧ (connection.step deed state).1.1.emitted = state.1.emitted := by
    by_cases hclose : deed = .close
    · subst hclose
      show state.1.close.closed = true ∧ state.1.close.emitted = _
      rw [close_of_closed h]
      exact ⟨h, rfl⟩
    by_cases hpeer : deed = .far .dropPeer
    · subst hpeer
      exact ⟨h, rfl⟩
    have honward := step_onward hclose hpeer state
    obtain ⟨events, hemitted, -, hsilent⟩ := honward.emitted
    rw [hsilent h, List.append_nil] at hemitted
    exact ⟨honward.closed.trans h, hemitted⟩
  refine ⟨fun h deed => (hstep h deed).1, fun h deed => (hstep h deed).2, ?_⟩
  intro state h deed answer hmem
  cases deed with
  | input prompt =>
      have hrequest : (request prompt state).2 = some (.error .closed) := by
        rw [request, ask, if_pos h]
      exact (List.mem_singleton.mp hmem).trans hrequest
  | _ => exact absurd hmem List.not_mem_nil

/-- A farewell is the last event. It has been said to a receiver that was there when the
socket was closed. -/
structure Mannerly (s : Socket) : Prop where
  talking : s.closed = false → .disconnect ∉ s.emitted
  last : .disconnect ∉ s.emitted.dropLast
  farewell : s.closed = true → s.peerGone = false → s.emitted.getLast? = some .disconnect

theorem Mannerly.onward (h : s.Mannerly) (honward : s.Onward s') : s'.Mannerly := by
  obtain ⟨events, hemitted, hfarewell, hsilent⟩ := honward.emitted
  cases hclosed : s.closed with
  | true =>
      rw [hsilent hclosed, List.append_nil] at hemitted
      refine ⟨fun hopen => ?_, hemitted ▸ h.last, fun _ hpeer => ?_⟩
      · rw [honward.closed, hclosed] at hopen
        cases hopen
      · rw [hemitted]
        exact h.farewell hclosed (honward.peerGone.symm.trans hpeer)
  | false =>
      have hnone : .disconnect ∉ s'.emitted := by
        rw [hemitted]
        exact fun hmem => (List.mem_append.mp hmem).elim (h.talking hclosed) hfarewell
      refine ⟨fun _ => hnone, fun hmem => hnone (List.dropLast_subset _ hmem), fun hshut => ?_⟩
      rw [honward.closed, hclosed] at hshut
      cases hshut

theorem Mannerly.close (h : s.Mannerly) : s.close.Mannerly := by
  cases hclosed : s.closed with
  | true => rwa [close_of_closed hclosed]
  | false =>
      have hnone := h.talking hclosed
      obtain ⟨queue, clientOpen, peerGone, emitted, closed⟩ := s
      cases hclosed
      cases peerGone with
      | true => exact ⟨nofun, fun hmem => hnone (List.dropLast_subset _ hmem), fun _ => nofun⟩
      | false =>
          refine ⟨nofun, ?_, fun _ _ => List.getLast?_concat⟩
          show ServerEvent.disconnect ∉ (emitted ++ [ServerEvent.disconnect]).dropLast
          rwa [List.dropLast_concat]

theorem Mannerly.step (deed : Deed Act) (state : Socket × Client (List Text))
    (h : state.1.Mannerly) : (connection.step deed state).1.1.Mannerly := by
  by_cases hclose : deed = .close
  · subst hclose
    exact h.close
  by_cases hpeer : deed = .far .dropPeer
  · subst hpeer
    exact ⟨h.talking, h.last, fun _ => nofun⟩
  exact h.onward (step_onward hclose hpeer state)

theorem mannerly_new : Mannerly {} :=
  ⟨fun _ => List.not_mem_nil, List.not_mem_nil, nofun⟩

theorem step_closed (deed : Deed Act) (state : Socket × Client (List Text)) :
    (connection.step deed state).1.1.closed = (state.1.closed || deed == .close) := by
  by_cases hclose : deed = .close
  · subst hclose
    exact (Bool.or_true _).symm
  rw [beq_false_of_ne hclose, Bool.or_false]
  by_cases hpeer : deed = .far .dropPeer
  · subst hpeer
    rfl
  exact (step_onward hclose hpeer state).closed

theorem step_peerGone (deed : Deed Act) (state : Socket × Client (List Text)) :
    (connection.step deed state).1.1.peerGone = (state.1.peerGone || deed == .far .dropPeer) := by
  by_cases hpeer : deed = .far .dropPeer
  · subst hpeer
    exact (Bool.or_true _).symm
  rw [beq_false_of_ne hpeer, Bool.or_false]
  by_cases hclose : deed = .close
  · subst hclose
    show (state.1.emit .disconnect).peerGone = _
    rw [emit, send]
    split
    · rfl
    · split <;> rfl
  exact (step_onward hclose hpeer state).peerGone

theorem farewell_last (client : Client (List Text)) (deeds : List (Deed Act)) :
    let s := (connection.after deeds ({}, client)).1
    s.emitted.count .disconnect ≤ 1 ∧ .disconnect ∉ s.emitted.dropLast
      ∧ (.close ∈ deeds → .far .dropPeer ∉ deeds → s.emitted.getLast? = some .disconnect) := by
  intro s
  have h : s.Mannerly := connection.after_kept Mannerly.step deeds mannerly_new
  have hclosed : s.closed = deeds.contains .close :=
    (connection.after_marked (·.1.closed) .close step_closed deeds _).trans (Bool.false_or _)
  have hpeer : s.peerGone = deeds.contains (.far .dropPeer) :=
    (connection.after_marked (·.1.peerGone) (.far .dropPeer) step_peerGone deeds _).trans
      (Bool.false_or _)
  refine ⟨?_, h.last, fun hclose hthere => h.farewell ?_ ?_⟩
  · rcases List.eq_nil_or_concat s.emitted with hnil | ⟨front, event, hfront⟩
    · rw [hnil]
      exact Nat.zero_le 1
    · have hlast := h.last
      rw [hfront, List.concat_eq_append] at hlast ⊢
      rw [List.dropLast_concat] at hlast
      rw [List.count_append, List.count_eq_zero.mpr hlast, Nat.zero_add]
      exact List.count_le_length
  · rw [hclosed]
    exact List.contains_iff_mem.mpr hclose
  · rw [hpeer]
    exact Bool.eq_false_iff.mpr fun hgone => hthere (List.contains_iff_mem.mp hgone)

end Socket

/-! ## The byte stream -/

namespace Duplex

inductive Act where
  | arrive (bytes : Bytes)
  /-- The client ends its stream. -/
  | finish
  /-- What the client is going to do while somebody waits. -/
  | plan (client : Client Bytes)
  deriving DecidableEq

def connection : Connection (Duplex × Client Bytes) Act where
  channel := channel
  act
    | .arrive bytes, (d, client) => (d.deliver bytes, client)
    | .finish, (d, client) => (d.finish, client)
    | .plan client, (d, _) => (d, client)

theorem emit_of_closed {d : Duplex} (h : d.closed = true) (frame : Frame) :
    d.emit frame = d := by
  rw [emit, if_pos h]

theorem request_of_closed {state : Duplex × Client Bytes} (h : state.1.closed = true)
    (prompt : Text) : request prompt state = (state, some (.error .closed)) := by
  rw [request, ask, if_pos h]

theorem close_of_closed {d : Duplex} (h : d.closed = true) : d.close = d := by
  rw [close, if_pos h]

theorem close_closed (d : Duplex) : d.close.closed = true := by
  rw [close]
  split
  · assumption
  · rfl

/-- A stream that is closed goes on reading at most. -/
theorem step_of_closed {state : Duplex × Client Bytes} (h : state.1.closed = true)
    (deed : Deed Act) :
    (connection.step deed state).1.1.closed = true
      ∧ (connection.step deed state).1.1.output = state.1.output
      ∧ ∀ answer ∈ (connection.step deed state).2, answer = some (.error .closed) := by
  have hnone (answer : Option Reply) (hmem : answer ∈ ([] : List (Option Reply))) :
      answer = some (.error .closed) := absurd hmem List.not_mem_nil
  cases deed with
  | message text =>
      show (state.1.emit _).closed = true ∧ (state.1.emit _).output = _ ∧ _
      rw [emit_of_closed h]
      exact ⟨h, rfl, hnone⟩
  | error text =>
      show (state.1.emit _).closed = true ∧ (state.1.emit _).output = _ ∧ _
      rw [emit_of_closed h]
      exact ⟨h, rfl, hnone⟩
  | input prompt =>
      have hrequest := request_of_closed h prompt
      refine ⟨?_, ?_, fun answer hmem => (List.mem_singleton.mp hmem).trans ?_⟩
      · exact (congrArg (fun r => r.1.1.closed) hrequest).trans h
      · exact congrArg (fun r => r.1.1.output) hrequest
      · exact congrArg Prod.snd hrequest
  | close =>
      show state.1.close.closed = true ∧ state.1.close.output = _ ∧ _
      rw [close_of_closed h]
      exact ⟨h, rfl, hnone⟩
  | far act =>
      cases act with
      | arrive bytes =>
          exact ⟨(deliver_closed bytes state.1).trans h, deliver_output bytes state.1, hnone⟩
      | finish => exact ⟨(finish_closed state.1).trans h, finish_output state.1, hnone⟩
      | plan client => exact ⟨h, rfl, hnone⟩

theorem silences : connection.Silences (fun state => state.1.closed = true)
    fun state => state.1.output :=
  ⟨fun h deed => (step_of_closed h deed).1, fun h deed => (step_of_closed h deed).2.1,
    fun h deed => (step_of_closed h deed).2.2⟩

theorem step_onward {deed : Deed Act} (hclose : deed ≠ .close)
    (state : Duplex × Client Bytes) : state.1.Onward (connection.step deed state).1.1 := by
  cases deed with
  | message text => exact emit_onward _ state.1
  | error text => exact emit_onward _ state.1
  | input prompt => exact request_onward prompt state
  | close => exact absurd rfl hclose
  | far act =>
      cases act with
      | arrive bytes => exact deliver_onward bytes state.1
      | finish => exact finish_onward state.1
      | plan client => exact onward_self state.1

theorem step_closed (deed : Deed Act) (state : Duplex × Client Bytes) :
    (connection.step deed state).1.1.closed = (state.1.closed || deed == .close) := by
  by_cases hclose : deed = .close
  · subst hclose
    rw [beq_self_eq_true, Bool.or_true]
    exact close_closed state.1
  · rw [beq_false_of_ne hclose, Bool.or_false]
    exact (step_onward hclose state).closed

/-- The writing has been ended once if the stream is closed, and not at all if it is
open. -/
def EndedBy (shutdowns : Nat) (d : Duplex) : Prop :=
  d.output.shutdowns = shutdowns + d.closed.toNat

theorem EndedBy.step {shutdowns : Nat} (deed : Deed Act) (state : Duplex × Client Bytes)
    (h : state.1.EndedBy shutdowns) : (connection.step deed state).1.1.EndedBy shutdowns := by
  by_cases hclose : deed = .close
  · subst hclose
    show state.1.close.EndedBy shutdowns
    cases hclosed : state.1.closed with
    | true => rwa [close_of_closed hclosed]
    | false =>
        rw [EndedBy, hclosed] at h
        rw [EndedBy, close, hclosed, if_neg Bool.false_ne_true]
        exact congrArg (· + 1) h
  · have honward := step_onward hclose state
    rw [EndedBy, honward.closed, honward.output.shutdowns]
    exact h

theorem shutdowns_after (sink : Sink) (client : Client Bytes) (deeds : List (Deed Act)) :
    (connection.after deeds ({ output := sink }, client)).1.output.shutdowns =
      sink.shutdowns + if .close ∈ deeds then 1 else 0 := by
  have hended : (connection.after deeds ({ output := sink }, client)).1.EndedBy sink.shutdowns :=
    connection.after_kept EndedBy.step deeds rfl
  have hclosed : (connection.after deeds ({ output := sink }, client)).1.closed =
      deeds.contains .close :=
    (connection.after_marked (·.1.closed) .close step_closed deeds _).trans (Bool.false_or _)
  rw [hended, hclosed]
  by_cases hclose : .close ∈ deeds
  · rw [if_pos hclose, List.contains_iff_mem.mpr hclose]
    rfl
  · rw [if_neg hclose, Bool.eq_false_iff.mpr fun hmem => hclose (List.contains_iff_mem.mp hmem)]
    rfl

end Duplex

/-- **A closed channel is silent.** In whatever state a console, a socket or a byte stream
is closed, nothing is emitted by any deeds that follow, and every request among them fails
because the channel is closed; it makes no difference what its far side still delivers.

Over its whole life a socket says farewell once at most, and nothing after it; it does so
if it is closed while somebody receives its events. A byte stream ends its writing once if
it is closed, however often, and else not at all. -/
theorem closed_channels_silent :
    (∀ (c : Console) (deeds : List (Deed Bytes)),
      (Console.connection.after deeds c.close).output = c.close.output
        ∧ (Console.connection.after deeds c.close).errors = c.close.errors
        ∧ ∀ answer ∈ Console.connection.answers deeds c.close, answer = some (.error .closed))
    ∧ (∀ (s : Socket) (client : Client (List Text)) (deeds : List (Deed Socket.Act)),
      (Socket.connection.after deeds (s.close, client)).1.emitted = s.close.emitted
        ∧ ∀ answer ∈ Socket.connection.answers deeds (s.close, client),
          answer = some (.error .closed))
    ∧ (∀ (d : Duplex) (client : Client Bytes) (deeds : List (Deed Duplex.Act)),
      (Duplex.connection.after deeds (d.close, client)).1.output = d.close.output
        ∧ ∀ answer ∈ Duplex.connection.answers deeds (d.close, client),
          answer = some (.error .closed))
    ∧ (∀ (client : Client (List Text)) (deeds : List (Deed Socket.Act)),
      let s := (Socket.connection.after deeds ({}, client)).1
      s.emitted.count .disconnect ≤ 1 ∧ .disconnect ∉ s.emitted.dropLast
        ∧ (.close ∈ deeds → .far .dropPeer ∉ deeds → s.emitted.getLast? = some .disconnect))
    ∧ ∀ (sink : Sink) (client : Client Bytes) (deeds : List (Deed Duplex.Act)),
      (Duplex.connection.after deeds ({ output := sink }, client)).1.output.shutdowns =
        sink.shutdowns + if .close ∈ deeds then 1 else 0 := by
  refine ⟨?_, ?_, ?_, Socket.farewell_last, Duplex.shutdowns_after⟩
  · intro c deeds
    obtain ⟨hemitted, hrefused⟩ := Console.silences.play c.close_closed deeds
    exact ⟨congrArg Prod.fst hemitted, congrArg Prod.snd hemitted, hrefused⟩
  · intro s client deeds
    have hclosed : (s.close, client).1.closed = true := rfl
    exact Socket.silences.play hclosed deeds
  · intro d client deeds
    have hclosed : (d.close, client).1.closed = true := d.close_closed
    exact Duplex.silences.play hclosed deeds

/-- A conversation that does not notice that its channel has been closed. -/
def heedlessDeeds (κ : Type) : List (Deed κ) :=
  [.message ['m'], .close, .input ['A'], .error ['e'], .close]

theorem heedless_silent :
    Deed.close ∈ heedlessDeeds Socket.Act
      ∧ .far .dropPeer ∉ heedlessDeeds Socket.Act
      ∧ (Socket.connection.after (heedlessDeeds Socket.Act) ({}, ⟨[], true⟩)).1.emitted.getLast? =
        some .disconnect
      ∧ (Socket.connection.after (heedlessDeeds Socket.Act) ({}, ⟨[], true⟩)).1.emitted.count
        .disconnect ≤ 1
      ∧ (Duplex.connection.after (heedlessDeeds Duplex.Act)
          ({ output := {} }, ⟨[], true⟩)).1.output.shutdowns = 1
      ∧ ∀ answer ∈ Duplex.connection.answers (heedlessDeeds Duplex.Act)
          (Duplex.close { queue := [.frame (.input ['x'])] }, ⟨[], true⟩),
        answer = some (.error .closed) := by
  have hclose : Deed.close ∈ heedlessDeeds Socket.Act := by decide
  have hpeer : Deed.far Socket.Act.dropPeer ∉ heedlessDeeds Socket.Act := by decide
  obtain ⟨-, -, hstream, hsocket, hended⟩ := closed_channels_silent
  obtain ⟨hcount, -, hfarewell⟩ := hsocket ⟨[], true⟩ (heedlessDeeds Socket.Act)
  exact ⟨hclose, hpeer, hfarewell hclose hpeer, hcount, hended {} ⟨[], true⟩ _,
    (hstream _ ⟨[], true⟩ _).2⟩

end Dialogue
