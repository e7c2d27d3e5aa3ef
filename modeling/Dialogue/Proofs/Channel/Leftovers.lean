import Dialogue.Proofs.Channel.Closing

/-!
# Lines left over

A stream that is closed keeps the lines that are queued, and to wait for a project does not
ask whether the stream is closed: it takes them nevertheless, answers those that are no
frames, and can be answered itself. What is left in the queue is all that there is to it
(`Leaves`, `Settled.attend`): the claim of silence that holds for sends and requests holds
for these waits if nothing else than frames that name no project is left
(`closed_stream_takes_leftovers`).
-/

namespace Dialogue.Duplex

/-- What is done with a stream: a deed, or somebody waits for a project to be named. -/
inductive Errand where
  | deed (deed : Deed Act)
  | awaitStart
  deriving DecidableEq

/-- What comes of errands. -/
structure Attendance where
  state : Duplex × Client Bytes
  /-- What the requests were answered. -/
  replies : List (Option Reply)
  /-- What the waits for a project were answered. -/
  starts : List (Option Reply)

def Errand.attend : Errand → Duplex × Client Bytes → Attendance
  | .deed done, state => ⟨(connection.step done state).1, (connection.step done state).2, []⟩
  | .awaitStart, state => ⟨(Duplex.awaitStart state).1, [], [(Duplex.awaitStart state).2]⟩

def attend : List Errand → Duplex × Client Bytes → Attendance
  | [], state => ⟨state, [], []⟩
  | errand :: errands, state =>
    let first := errand.attend state
    let rest := attend errands first.state
    ⟨rest.state, first.replies ++ rest.replies, first.starts ++ rest.starts⟩

/-! ## Every state -/

variable {d d' : Duplex} {state : Duplex × Client Bytes}

/-- What closing keeps, and all that may happen to a stream besides, an errand keeps. -/
theorem Errand.attend_kept {P : Duplex → Prop} (hclose : ∀ d, P d → P d.close)
    (honward : ∀ d d', d.Onward d' → P d → P d') (errand : Errand) (h : P state.1) :
    P (errand.attend state).state.1 := by
  cases errand with
  | awaitStart => exact honward _ _ (waitFor_onward projectOf state) h
  | deed deed =>
      by_cases hdeed : deed = .close
      · subst hdeed
        exact hclose _ h
      · exact honward _ _ (step_onward hdeed state) h

theorem attend_kept {P : Duplex → Prop} (hclose : ∀ d, P d → P d.close)
    (honward : ∀ d d', d.Onward d' → P d → P d') (errands : List Errand) (h : P state.1) :
    P (attend errands state).state.1 := by
  induction errands generalizing state with
  | nil => exact h
  | cons errand errands ih => exact ih (errand.attend_kept hclose honward h)

/-- A stream that does not read when it is closed, and queues nothing but lines. -/
structure Orderly (d : Duplex) : Prop where
  quiet : d.closed = true → d.reading = false
  queue : ∀ i ∈ d.queue, ∃ line, inboundOf line = some i

theorem orderly_new (sink : Sink) : Orderly { output := sink } :=
  ⟨nofun, fun _ hi => absurd hi List.not_mem_nil⟩

theorem Orderly.onward (honward : d.Onward d') (h : d.Orderly) : d'.Orderly :=
  ⟨fun hclosed => honward.reading (h.quiet (honward.closed.symm.trans hclosed)),
    fun i hi => (honward.queue i hi).elim (h.queue i) id⟩

theorem Orderly.close (h : d.Orderly) : d.close.Orderly := by
  rw [Duplex.close]
  split
  · exact h
  · exact ⟨fun _ => rfl, h.queue⟩

theorem Orderly.errand (h : state.1.Orderly) (errand : Errand) :
    (errand.attend state).state.1.Orderly :=
  errand.attend_kept (P := Orderly) (fun _ => Orderly.close) (fun _ _ => Orderly.onward) h

theorem Orderly.attend (h : state.1.Orderly) (errands : List Errand) :
    (attend errands state).state.1.Orderly :=
  attend_kept (P := Orderly) (fun _ => Orderly.close) (fun _ _ => Orderly.onward) errands h

/-! ## Waits on a closed stream -/

structure Settled (d : Duplex) : Prop where
  closed : d.closed = true
  quiet : d.reading = false

theorem Orderly.settled (h : d.Orderly) : d.close.Settled :=
  ⟨d.close_closed, h.close.quiet d.close_closed⟩

theorem Settled.errand (h : state.1.Settled) (errand : Errand) :
    (errand.attend state).state.1.Settled := by
  refine errand.attend_kept (P := Settled) (fun d h => ?_) (fun _ _ honward h => ?_) h
  · rwa [close_of_closed h.closed]
  · exact ⟨honward.closed.trans h.closed, honward.reading h.quiet⟩

theorem hear_queue_of_quiet (h : d.reading = false) (is : List Inbound) :
    (d.hear is).queue = d.queue := by
  rw [hear, h, if_neg Bool.false_ne_true]

/-- No deed adds to what is left in the queue, or takes from it. -/
theorem Settled.step_queue (h : state.1.Settled) (deed : Deed Act) :
    (connection.step deed state).1.1.queue = state.1.queue := by
  cases deed with
  | message text => exact congrArg queue (emit_of_closed h.closed _)
  | error text => exact congrArg queue (emit_of_closed h.closed _)
  | input prompt => exact congrArg (fun r => r.1.1.queue) (request_of_closed h.closed prompt)
  | close => exact congrArg queue (close_of_closed h.closed)
  | far act =>
      cases act with
      | arrive bytes =>
          show (deliver bytes state.1).queue = _
          rw [deliver_eq]
          exact hear_queue_of_quiet (by exact h.quiet) _
      | finish =>
          show state.1.finish.queue = _
          rw [finish_eq]
          exact hear_queue_of_quiet h.quiet _
      | plan client => rfl

/-- A stream that does not read answers at once, whoever waits. -/
theorem receiveFrom_quiet (accept : Frame → Option Text) (queue : List Inbound)
    (h : d.reading = false) : ∃ reply, (receiveFrom accept queue d).2 = some reply := by
  induction queue generalizing d with
  | nil =>
      rw [receiveFrom, h]
      exact ⟨_, rfl⟩
  | cons i queue ih =>
      cases i with
      | frame f =>
          rw [receiveFrom]
          split
          · exact ⟨_, rfl⟩
          · exact ih h
      | failed e => exact ⟨_, rfl⟩
      | malformed =>
          have hquiet : (d.write rejection).1.reading = false := h
          rw [receiveFrom, reject]
          rcases hwrite : d.write rejection with ⟨d', e | _⟩ <;> rw [hwrite] at hquiet
          · exact ⟨_, rfl⟩
          · exact ih hquiet

theorem awaitStart_quiet (h : state.1.reading = false) :
    awaitStart state =
      (((receive projectOf state.1).1, state.2), (receive projectOf state.1).2) := by
  obtain ⟨reply, hreply⟩ := receiveFrom_quiet projectOf state.1.queue h
  have hreceive : (waiting projectOf).receive state.1 =
      ((receive projectOf state.1).1, some reply) := Prod.ext rfl hreply
  rw [awaitStart, Waiting.waitFor, Waiting.wait_received hreceive, receive, hreply]

/-! ## What waits take -/

/-- What errands have made of a closed stream, if its sink takes everything. They have taken
lines from the head of the queue, and answered them. Each line that decides has answered a
wait, and when the queue was empty more waits were in vain. -/
structure Leaves (d : Duplex) (a : Attendance) (taken : List Inbound) (vain : Nat) : Prop where
  queue : d.queue = taken ++ a.state.1.queue
  output : a.state.1.output = (d.plus (taken.flatMap answerTo)).output
  starts : a.starts =
    List.map some
      (taken.filterMap (decision projectOf) ++ List.replicate vain (.error .closed) : List Reply)
  vain : vain ≠ 0 → a.state.1.queue = []

theorem Leaves.healthy {a : Attendance} {taken : List Inbound} {vain : Nat}
    (h : d.Leaves a taken vain) (hsink : d.output.Healthy) : a.state.1.output.Healthy := by
  rw [h.output]
  exact hsink.plus _

theorem filterMap_decision_nil {accept : Frame → Option Text} {passed : List Inbound}
    (h : ∀ i ∈ passed, decision accept i = none) : passed.filterMap (decision accept) = [] :=
  List.filterMap_eq_nil_iff.mpr h

theorem Settled.errand_leaves (h : state.1.Settled) (hsink : state.1.output.Healthy)
    (errand : Errand) :
    ∃ taken vain, state.1.Leaves (errand.attend state) taken vain := by
  cases errand with
  | deed deed =>
      refine ⟨[], 0, (h.step_queue deed).symm, ?_, rfl, fun hvain => absurd rfl hvain⟩
      rw [List.flatMap_nil, plus_nil]
      exact (step_of_closed h.closed deed).2.1
  | awaitStart =>
      have hawait := awaitStart_quiet h.quiet
      rw [Errand.attend, hawait, receive]
      obtain ⟨passed, hpassed, ⟨hqueue, hreceive⟩ | ⟨i, rest, reply, hqueue, hi, hreceive⟩⟩ :=
        receiveFrom_cases projectOf state.1.queue hsink
      · refine ⟨passed, 1, ?_, ?_, ?_, fun _ => ?_⟩ <;> rw [hreceive]
        · exact hqueue.trans (List.append_nil passed).symm
        · rfl
        · rw [h.quiet, filterMap_decision_nil hpassed]
          rfl
        · rfl
      · refine ⟨passed ++ [i], 0, ?_, ?_, ?_, fun hvain => absurd rfl hvain⟩ <;> rw [hreceive]
        · rw [hqueue, List.append_assoc]
          rfl
        · rfl
        · rw [List.filterMap_append, filterMap_decision_nil hpassed,
            List.filterMap_cons_some hi]
          rfl

theorem Settled.attend_leaves (h : state.1.Settled) (hsink : state.1.output.Healthy)
    (errands : List Errand) :
    ∃ taken vain, state.1.Leaves (attend errands state) taken vain := by
  induction errands generalizing state with
  | nil =>
      refine ⟨[], 0, rfl, ?_, rfl, fun hvain => absurd rfl hvain⟩
      rw [List.flatMap_nil, plus_nil]
      rfl
  | cons errand errands ih =>
      obtain ⟨taken, vain, hfirst⟩ := h.errand_leaves hsink errand
      obtain ⟨taken', vain', hrest⟩ := ih (h.errand errand) (hfirst.healthy hsink)
      refine ⟨taken ++ taken', vain + vain', ?_, ?_, ?_, ?_⟩
      · rw [hfirst.queue, hrest.queue, List.append_assoc]
        rfl
      · rw [List.flatMap_append, plus_append]
        refine hrest.output.trans ?_
        rw [plus, hfirst.output]
        rfl
      · show (errand.attend state).starts ++ (attend errands (errand.attend state).state).starts = _
        rw [hfirst.starts, hrest.starts, ← List.map_append, List.filterMap_append,
          ← List.replicate_append_replicate]
        -- A wait in vain means that the queue was empty, so that no line decides later.
        by_cases hvain : vain = 0
        · rw [hvain, List.replicate_zero, List.append_nil, List.nil_append, List.append_assoc]
        · have hnone : taken' = [] :=
            (List.append_eq_nil_iff.mp (hrest.queue.symm.trans (hfirst.vain hvain))).1
          rw [hnone, List.filterMap_nil, List.append_nil, List.nil_append, List.append_assoc]
      · intro hvain
        show (attend errands (errand.attend state).state).state.1.queue = []
        by_cases hvain' : vain' = 0
        · have hempty := hrest.queue.symm.trans (hfirst.vain (by omega))
          exact (List.append_eq_nil_iff.mp hempty).2
        · exact hrest.vain hvain'

/-! ## Silence -/

theorem Settled.attend_replies (h : state.1.Settled) (errands : List Errand) :
    ∀ reply ∈ (attend errands state).replies, reply = some (.error .closed) := by
  induction errands generalizing state with
  | nil => exact fun _ hmem => absurd hmem List.not_mem_nil
  | cons errand errands ih =>
      refine List.forall_mem_append.mpr ⟨?_, ih (h.errand errand)⟩
      cases errand with
      | deed deed => exact (step_of_closed h.closed deed).2.2
      | awaitStart => exact fun _ hmem => absurd hmem List.not_mem_nil

theorem close_healthy (h : d.output.Healthy) : d.close.output.Healthy := by
  rw [close]
  split
  · exact h
  · exact h

theorem attend_healthy (errands : List Errand) (h : state.1.output.Healthy) :
    (attend errands state).state.1.output.Healthy := by
  refine attend_kept (P := fun d => d.output.Healthy) ?_ ?_ errands h
  · exact fun _ => close_healthy
  · exact fun _ _ honward => honward.output.healthy

/-- A line that is passed over by a wait for a project, and not answered. -/
def Idle (i : Inbound) : Prop :=
  ∃ f, i = .frame f ∧ projectOf f = none

theorem receiveFrom_idle {queue : List Inbound} (h : ∀ i ∈ queue, Idle i)
    (hquiet : d.reading = false) :
    receiveFrom projectOf queue d = ({ d with queue := [] }, some (.error .closed)) := by
  induction queue with
  | nil => rw [receiveFrom, hquiet, if_neg Bool.false_ne_true]
  | cons i queue ih =>
      obtain ⟨⟨f, rfl, hf⟩, hrest⟩ := List.forall_mem_cons.mp h
      rw [receiveFrom, hf]
      exact ih hrest

/-- If a wait writes nothing and finds the stream closed, it has passed over everything. -/
theorem idle_of_receiveFrom {queue : List Inbound}
    (hlines : ∀ i ∈ queue, ∃ line, inboundOf line = some i) (hqueue : queue ⊆ d.queue)
    (houtput : (receiveFrom projectOf queue d).1.output = d.output)
    (hreply : (receiveFrom projectOf queue d).2 = some (.error .closed)) :
    ∀ i ∈ queue, Idle i := by
  induction queue with
  | nil => exact fun _ hi => absurd hi List.not_mem_nil
  | cons i queue ih =>
      obtain ⟨⟨line, hline⟩, hrest⟩ := List.forall_mem_cons.mp hlines
      have hsub : queue ⊆ d.queue := List.Subset.trans (List.subset_cons_self i queue) hqueue
      cases i with
      | frame f =>
          rw [receiveFrom] at houtput hreply
          split at hreply
          · cases hreply
          · next hf =>
              rw [hf] at houtput
              exact List.forall_mem_cons.mpr ⟨⟨f, rfl, hf⟩, ih hrest hsub houtput hreply⟩
      | failed e =>
          obtain ⟨cause, rfl⟩ := io_of_inboundOf hline
          cases hreply
      | malformed =>
          -- The line would have been answered, or that would have failed.
          have hkept : (d.write rejection).1.queue = d.queue := rfl
          have hresult := d.write_result rejection
          exfalso
          rw [receiveFrom, reject] at houtput hreply
          rcases hwrite : d.write rejection with ⟨d', e | _⟩ <;>
            rw [hwrite] at houtput hreply hkept hresult
          · obtain ⟨cause, hcause⟩ := hresult.resolve_left (by rintro ⟨⟨⟩, -⟩)
            cases hcause
            cases hreply
          · obtain ⟨-, hgrown⟩ := hresult.resolve_right (by rintro ⟨_, ⟨⟩⟩)
            have hlong := (receiveFrom_onward projectOf (hkept ▸ hsub)).output.written.length_le
            rw [houtput, hgrown, List.length_append] at hlong
            have hline : 0 < (frameLine rejection).length := by decide
            omega

/-- Waits do as requests do if nothing else is left than lines that they pass over. -/
theorem Settled.silent_iff (h : state.1.Settled) (horderly : state.1.Orderly) :
    (∀ errands, (attend errands state).state.1.output = state.1.output
        ∧ ∀ answer ∈ (attend errands state).starts, answer = some (.error .closed))
      ↔ ∀ i ∈ state.1.queue, Idle i := by
  constructor
  · intro hsilent
    obtain ⟨houtput, hstarts⟩ := hsilent [.awaitStart]
    have hawait := awaitStart_quiet h.quiet
    have hanswer := hstarts (awaitStart state).2 List.mem_cons_self
    replace houtput : (awaitStart state).1.1.output = state.1.output := houtput
    rw [hawait] at houtput hanswer
    exact idle_of_receiveFrom horderly.queue (List.Subset.refl _) houtput hanswer
  · intro hidle errands
    induction errands generalizing state with
    | nil => exact ⟨rfl, fun _ hmem => absurd hmem List.not_mem_nil⟩
    | cons errand errands ih =>
        have hfirst : (errand.attend state).state.1.output = state.1.output
            ∧ (∀ i ∈ (errand.attend state).state.1.queue, Idle i)
            ∧ ∀ answer ∈ (errand.attend state).starts, answer = some (.error .closed) := by
          cases errand with
          | deed deed =>
              refine ⟨(step_of_closed h.closed deed).2.1, ?_,
                fun _ hmem => absurd hmem List.not_mem_nil⟩
              show ∀ i ∈ (connection.step deed state).1.1.queue, Idle i
              rw [h.step_queue deed]
              exact hidle
          | awaitStart =>
              have hawait := awaitStart_quiet h.quiet
              rw [receive, receiveFrom_idle hidle h.quiet] at hawait
              rw [Errand.attend, hawait]
              exact ⟨rfl, fun _ hi => absurd hi List.not_mem_nil,
                fun _ hmem => List.mem_singleton.mp hmem⟩
        obtain ⟨houtput, hqueue, hstarts⟩ := hfirst
        obtain ⟨hrest, hstarts'⟩ := ih (h.errand errand) (horderly.errand errand) hqueue
        exact ⟨hrest.trans houtput, List.forall_mem_append.mpr ⟨hstarts, hstarts'⟩⟩

/-- **A closed stream takes what is left.** Take any errands on a new byte stream, and then
the stream closed, with whatever lines are in its queue. Whatever happens afterwards, every
request fails because the stream is closed, and lines that arrive later count for nothing.
But a wait for a project takes the lines that are left (`Leaves`): each that is no frame is
answered by an error frame, and a frame that names a project, or a line that could not be
read, answers the wait. When no line is left, waits fail because the stream is closed.

So nothing is written any more, and every wait fails because the stream is closed, exactly
if all lines that were left are frames that name no project. -/
theorem closed_stream_takes_leftovers (sink : Sink) (client : Client Bytes)
    (before : List Errand) :
    let state := (attend before ({ output := sink }, client)).state
    let closed := (state.1.close, state.2)
    (∀ after, ∀ reply ∈ (attend after closed).replies, reply = some (.error .closed))
      ∧ (sink.Healthy → ∀ after, ∃ taken vain, closed.1.Leaves (attend after closed) taken vain)
      ∧ ((∀ after, (attend after closed).state.1.output = closed.1.output
          ∧ ∀ start ∈ (attend after closed).starts, start = some (.error .closed))
        ↔ ∀ i ∈ closed.1.queue, ∃ f, i = .frame f ∧ projectOf f = none) := by
  intro state closed
  have hnew : (({ output := sink }, client) : Duplex × Client Bytes).1.Orderly := orderly_new sink
  have horderly : state.1.Orderly := hnew.attend before
  have hsettled : closed.1.Settled := horderly.settled
  refine ⟨hsettled.attend_replies, fun hsink => hsettled.attend_leaves ?_,
    hsettled.silent_iff horderly.close⟩
  exact close_healthy (attend_healthy before hsink)

/-- A line that is no frame, and one that names a project. -/
def leftovers : Bytes :=
  lineOf ['?'] ++ frameLine (.start ['x'])

/-- A stream that was closed when nobody had taken them. -/
def leftBehind : Duplex × Client Bytes :=
  let state := (attend [.deed (.far (.arrive leftovers))] ({}, ⟨[], true⟩)).state
  (state.1.close, state.2)

theorem leftBehind_eq :
    leftBehind = ({ queue := [.malformed, .frame (.start ['x'])], reading := false,
                    output := { shutdowns := 1 }, closed := true }, ⟨[], true⟩) := by
  decide +kernel

theorem leftover_start_answered :
    leftBehind.1.closed = true
      ∧ (attend [.awaitStart] leftBehind).state.1.output.written ≠ leftBehind.1.output.written
      ∧ ¬ ∀ start ∈ (attend [.awaitStart] leftBehind).starts, start = some (.error .closed) := by
  rw [leftBehind_eq]
  refine ⟨rfl, by decide, fun h => ?_⟩
  have hstart : some (Except.ok ['x']) = some (Except.error ChannelError.closed) :=
    h _ List.mem_cons_self
  cases hstart

theorem leftBehind_taken :
    Sink.Healthy {}
      ∧ (∃ taken vain,
        leftBehind.1.Leaves (attend [.awaitStart, .awaitStart] leftBehind) taken vain)
      ∧ (attend [.awaitStart, .awaitStart] leftBehind).starts =
        [some (.ok ['x']), some (.error .closed)]
      ∧ (attend [.awaitStart, .awaitStart] leftBehind).state.1.output.written =
        frameLine rejection := by
  have hhealthy : Sink.Healthy {} := ⟨rfl, rfl⟩
  obtain ⟨-, hleaves, -⟩ := closed_stream_takes_leftovers {} ⟨[], true⟩
    [.deed (.far (.arrive leftovers))]
  refine ⟨hhealthy, hleaves hhealthy _, ?_, ?_⟩
  · rw [leftBehind_eq]
    rfl
  · rw [leftBehind_eq]
    decide

end Dialogue.Duplex
