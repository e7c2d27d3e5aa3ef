import Dialogue.Proofs.Channel.Chunks
import Dialogue.Proofs.Channel.Client

/-!
# What is left to read

A client has chunks of bytes to say, and then perhaps ends its stream. What is queued when all
of it has arrived, and nobody has taken any of it, is what is left to read (`remaining`). Who
waits for an accepted frame takes lines from the head of this, up to the first that decides,
and leaves the rest (`waitFor_spec`, `Taken.remaining`): that some of the lines had not arrived
yet makes no difference.
-/

namespace Dialogue.Duplex

/-- Chunks of bytes arrive, and perhaps the end of the stream. -/
def feed (chunks : List Bytes) (ended : Bool) (d : Duplex) : Duplex :=
  let d := deliverAll chunks d
  if ended then d.finish else d

/-- The lines that are queued when a client has said all that it has to say, and nobody has
taken any. -/
def remaining (state : Duplex × Client Bytes) : List Inbound :=
  (feed state.2.batches (!state.2.holds) state.1).queue

/-- Two streams that differ in the lines at the head of the queue, which one of them has
still. They may have written different things. -/
structure Ahead (front : List Inbound) (d d' : Duplex) : Prop where
  queue : d.queue = front ++ d'.queue
  pending : d'.pending = d.pending
  reading : d'.reading = d.reading

variable {d d' d'' : Duplex} {front more rest passed taken : List Inbound}
  {chunks batches : List Bytes} {ended holds : Bool}

namespace Ahead

theorem trans (h : Ahead front d d') (h' : Ahead more d' d'') :
    Ahead (front ++ more) d d'' := by
  refine ⟨?_, h'.pending.trans h.pending, h'.reading.trans h.reading⟩
  rw [h.queue, h'.queue, List.append_assoc]

theorem hear (h : Ahead front d d') (is : List Inbound) : Ahead front (d.hear is) (d'.hear is) := by
  rw [Duplex.hear, Duplex.hear, h.reading]
  split
  · refine ⟨?_, h.pending, rfl⟩
    rw [h.queue, List.append_assoc]
  · exact h

theorem deliver (h : Ahead front d d') (bytes : Bytes) :
    Ahead front (deliver bytes d) (deliver bytes d') := by
  have hpending (pending : Bytes) :
      Ahead front { d with pending := pending } { d' with pending := pending } :=
    ⟨h.queue, rfl, h.reading⟩
  rw [deliver_eq, deliver_eq, h.pending]
  exact (hpending _).hear _

theorem finish (h : Ahead front d d') : Ahead front d.finish d'.finish := by
  rw [finish_eq, finish_eq, h.pending]
  exact ⟨(h.hear _).queue, rfl, rfl⟩

theorem deliverAll (h : Ahead front d d') (chunks : List Bytes) :
    Ahead front (deliverAll chunks d) (deliverAll chunks d') := by
  rw [deliverAll_eq_deliver, deliverAll_eq_deliver]
  exact h.deliver _

theorem feed (h : Ahead front d d') (chunks : List Bytes) (ended : Bool) :
    Ahead front (feed chunks ended d) (feed chunks ended d') := by
  cases ended with
  | false => exact h.deliverAll chunks
  | true => exact (h.deliverAll chunks).finish

/-- What the one stream has ahead, it has ahead when everything has arrived. -/
theorem remaining (h : Ahead front d d') (client : Client Bytes) :
    remaining (d, client) = front ++ remaining (d', client) :=
  (h.feed client.batches (!client.holds)).queue

theorem take (hqueue : d.queue = front ++ rest) : Ahead front d (d.take front rest) :=
  ⟨hqueue, rfl, rfl⟩

end Ahead

/-! ## Feeding -/

theorem feed_append (xs ys : List Bytes) (ended : Bool) (d : Duplex) :
    feed (xs ++ ys) ended d = feed ys ended (deliverAll xs d) := by
  rw [feed, feed, deliverAll_append]

/-- A stream that does not read queues nothing, whatever arrives. -/
theorem feed_quiet (h : d.reading = false) (chunks : List Bytes) (ended : Bool) :
    (feed chunks ended d).queue = d.queue := by
  have hdelivered : (deliverAll chunks d).queue = d.queue
      ∧ (deliverAll chunks d).reading = false := by
    rw [deliverAll_eq_deliver, deliver_eq, hear_stopped h]
    exact ⟨rfl, h⟩
  cases ended with
  | false => exact hdelivered.1
  | true =>
      show (deliverAll chunks d).finish.queue = _
      rw [finish_queue, hear, hdelivered.2, if_neg Bool.false_ne_true]
      exact hdelivered.1

/-- When the stream has ended, its end adds nothing. -/
theorem finish_queue_of_ended (h : d.pending = []) : d.finish.queue = d.queue := by
  rw [finish_eq, if_pos h, hear_nil]

/-- A new stream reads as long as it has not ended, and could read every line. -/
theorem feed_reading (chunks : List Bytes) (ended : Bool) (sink : Sink) :
    (feed chunks ended { output := sink }).reading =
      (!ended && !(feed chunks ended { output := sink }).queue.any Inbound.isFailed) := by
  cases ended with
  | true =>
      show (deliverAll chunks _).finish.reading = _
      rw [finish_eq]
      rfl
  | false =>
      show (deliverAll chunks _).reading = !(deliverAll chunks _).queue.any Inbound.isFailed
      rw [deliverAll_eq_deliver, deliver_eq]
      exact congrArg not (any_upToFailure _).symm

/-! ## Waiting -/

/-- These lines have been taken and answered while the chunks arrived, and perhaps the end of
the stream. -/
structure Taken (chunks : List Bytes) (ended : Bool) (taken : List Inbound) (d d' : Duplex) :
    Prop where
  ahead : Ahead taken (feed chunks ended d) d'
  output : d'.output = (d.plus (taken.flatMap answerTo)).output
  closed : d'.closed = d.closed

theorem Taken.take (hqueue : d.queue = front ++ rest) :
    Taken [] false front d (d.take front rest) :=
  ⟨.take hqueue, rfl, rfl⟩

theorem output_plus_append (houtput : d'.output = (d.plus (front.flatMap answerTo)).output)
    (houtput' : d''.output = (d'.plus (more.flatMap answerTo)).output) :
    d''.output = (d.plus ((front ++ more).flatMap answerTo)).output := by
  rw [houtput', List.flatMap_append, plus_append, plus, plus, houtput]

theorem Taken.batch {bytes : Bytes} (h : Taken [] false front d d')
    (h' : Taken chunks ended more (d'.deliver bytes) d'') :
    Taken (bytes :: chunks) ended (front ++ more) d d'' := by
  refine ⟨((h.ahead.deliver bytes).feed chunks ended).trans h'.ahead, ?_, ?_⟩
  · refine output_plus_append h.output ?_
    rw [h'.output, plus, deliver_output]
    rfl
  · rw [h'.closed, deliver_closed, h.closed]

theorem Taken.finish (h : Taken [] false front d d') (h' : Taken [] false more d'.finish d'') :
    Taken [] true (front ++ more) d d'' := by
  refine ⟨h.ahead.finish.trans h'.ahead, ?_, ?_⟩
  · refine output_plus_append h.output ?_
    rw [h'.output, plus, finish_output]
    rfl
  · rw [h'.closed, finish_closed, h.closed]

/-- What a wait was answered, by the lines that it has taken: the last one has decided, or
none has, and more may come or not. -/
inductive Waited (accept : Frame → Option Text) (holds : Bool) (taken : List Inbound)
    (d' : Duplex) (batches : List Bytes) : Option Reply → Prop
  | decided {passed : List Inbound} {i : Inbound} {reply : Reply} (htaken : taken = passed ++ [i])
      (hpassed : ∀ j ∈ passed, decision accept j = none) (hi : decision accept i = some reply) :
      Waited accept holds taken d' batches (some reply)
  | waiting (hpassed : ∀ j ∈ taken, decision accept j = none) (hqueue : d'.queue = [])
      (hholds : holds = true) (hbatches : batches = []) : Waited accept holds taken d' batches none
  | closed (hpassed : ∀ j ∈ taken, decision accept j = none) (hqueue : d'.queue = [])
      (hquiet : d'.reading = false) :
      Waited accept holds taken d' batches (some (.error .closed))

theorem Waited.append {accept : Frame → Option Text} {answer : Option Reply}
    (h : Waited accept holds more d' batches answer)
    (hfront : ∀ j ∈ front, decision accept j = none) :
    Waited accept holds (front ++ more) d' batches answer := by
  cases h with
  | @decided passed i reply htaken hpassed hi =>
      have htaken' : front ++ more = (front ++ passed) ++ [i] := by
        rw [htaken, List.append_assoc]
      exact .decided htaken' (List.forall_mem_append.mpr ⟨hfront, hpassed⟩) hi
  | waiting hpassed hqueue hholds hbatches =>
      exact .waiting (List.forall_mem_append.mpr ⟨hfront, hpassed⟩) hqueue hholds hbatches
  | closed hpassed hqueue hquiet =>
      exact .closed (List.forall_mem_append.mpr ⟨hfront, hpassed⟩) hqueue hquiet

/-- Who takes what is queued is answered, or has passed over all of it while more can come. -/
theorem receive_spec (accept : Frame → Option Text) (h : d.output.Healthy) :
    ∃ taken, Taken [] false taken d (receive accept d).1
      ∧ (((receive accept d).2 = none ∧ d.reading = true ∧ (receive accept d).1.queue = []
          ∧ ∀ j ∈ taken, decision accept j = none)
        ∨ ∃ reply, (receive accept d).2 = some reply
          ∧ ∀ holds batches,
            Waited accept holds taken (receive accept d).1 batches (some reply)) := by
  obtain ⟨passed, hpassed, ⟨hqueue, hreceive⟩ | ⟨i, rest, reply, hqueue, hi, hreceive⟩⟩ :=
    receiveFrom_cases accept d.queue h
  · refine ⟨passed, ?_⟩
    rw [receive, hreceive]
    refine ⟨.take (hqueue.trans (List.append_nil _).symm), ?_⟩
    cases hreading : d.reading with
    | true => exact .inl ⟨rfl, rfl, rfl, hpassed⟩
    | false => exact .inr ⟨_, rfl, fun _ _ => .closed hpassed rfl hreading⟩
  · refine ⟨passed ++ [i], ?_⟩
    rw [receive, hreceive]
    refine ⟨.take ?_, .inr ⟨reply, rfl, fun _ _ => .decided rfl hpassed hi⟩⟩
    rw [hqueue, List.append_assoc]
    rfl

theorem wait_spec (accept : Frame → Option Text) (holds : Bool) (batches : List Bytes)
    (h : d.output.Healthy) :
    ∃ got ended taken, batches = got ++ ((waiting accept).wait holds batches d).1.2
      ∧ (ended = true → ((waiting accept).wait holds batches d).1.2 = [] ∧ holds = false)
      ∧ Taken got ended taken d ((waiting accept).wait holds batches d).1.1
      ∧ Waited accept holds taken ((waiting accept).wait holds batches d).1.1
        ((waiting accept).wait holds batches d).1.2 ((waiting accept).wait holds batches d).2 := by
  induction batches generalizing d with
  | nil =>
      obtain ⟨taken, htaken, hanswer⟩ := receive_spec accept h
      rcases hreceive : receive accept d with ⟨d', answer⟩
      rw [hreceive] at htaken hanswer
      rcases hanswer with ⟨rfl, -, hqueue, hpassed⟩ | ⟨reply, rfl, hwaited⟩
      · cases holds with
        | true =>
            rw [Waiting.wait_hold (w := waiting accept) hreceive]
            exact ⟨[], false, taken, rfl, nofun, htaken, .waiting hpassed hqueue rfl rfl⟩
        | false =>
            -- The end of the stream may complete a line, and then there is an answer.
            have hhealthy : d'.finish.output.Healthy := by
              rw [finish_output, htaken.output]
              exact h.plus _
            obtain ⟨more, hmore, hlast⟩ := receive_spec accept hhealthy
            rw [Waiting.wait_finish (w := waiting accept) hreceive]
            refine ⟨[], true, taken ++ more, rfl, fun _ => ⟨rfl, rfl⟩, htaken.finish hmore, ?_⟩
            rcases hlast with ⟨-, hreading, -⟩ | ⟨reply, hreply, hwaited⟩
            · rw [finish_eq] at hreading
              cases hreading
            · have hanswer := (hwaited false []).append hpassed
              rwa [← hreply] at hanswer
      · rw [Waiting.wait_received (w := waiting accept) hreceive]
        exact ⟨[], false, taken, rfl, nofun, htaken, hwaited holds []⟩
  | cons batch batches ih =>
      obtain ⟨taken, htaken, hanswer⟩ := receive_spec accept h
      rcases hreceive : receive accept d with ⟨d', answer⟩
      rw [hreceive] at htaken hanswer
      rcases hanswer with ⟨rfl, -, hqueue, hpassed⟩ | ⟨reply, rfl, hwaited⟩
      · have hhealthy : (deliver batch d').output.Healthy := by
          rw [deliver_output, htaken.output]
          exact h.plus _
        obtain ⟨got, ended, more, hgot, hended, hmore, hwaited⟩ := ih hhealthy
        rw [Waiting.wait_batch (w := waiting accept) hreceive]
        exact ⟨batch :: got, ended, taken ++ more, congrArg (batch :: ·) hgot, hended,
          htaken.batch hmore, hwaited.append hpassed⟩
      · rw [Waiting.wait_received (w := waiting accept) hreceive]
        exact ⟨[], false, taken, rfl, nofun, htaken, hwaited holds (batch :: batches)⟩

/-- **A wait takes lines from the head of what is left to read.** -/
theorem waitFor_spec (accept : Frame → Option Text) (h : d.output.Healthy)
    (client : Client Bytes) :
    let r := (waiting accept).waitFor (d, client)
    ∃ got ended taken, client.batches = got ++ r.1.2.batches ∧ r.1.2.holds = client.holds
      ∧ (ended = true → client.holds = false)
      ∧ Taken got ended taken d r.1.1
      ∧ remaining (d, client) = taken ++ remaining r.1
      ∧ Waited accept client.holds taken r.1.1 r.1.2.batches r.2 := by
  intro r
  obtain ⟨got, ended, taken, hgot, hended, htaken, hwaited⟩ :=
    wait_spec accept client.holds client.batches h
  refine ⟨got, ended, taken, hgot, rfl, fun h => (hended h).2, htaken, ?_, hwaited⟩
  have hremaining : remaining (d, client) =
      (feed r.1.2.batches (!client.holds) (deliverAll got d)).queue := by
    rw [← feed_append]
    exact congrArg (fun batches => (feed batches (!client.holds) d).queue) hgot
  rw [hremaining]
  cases ended with
  | false => exact (htaken.ahead.feed r.1.2.batches (!client.holds)).queue
  | true =>
      -- Everything has arrived, and the stream has ended.
      obtain ⟨hbatches, hholds⟩ := hended rfl
      have hpending : r.1.1.pending = [] :=
        htaken.ahead.pending.trans (congrArg pending (finish_eq (deliverAll got d)))
      have hleft : remaining r.1 = r.1.1.queue := by
        have hall : r.1.2 = ⟨[], false⟩ := by
          rw [← hholds, ← hbatches]
          rfl
        rw [remaining, hall]
        exact finish_queue_of_ended hpending
      rw [hleft, show r.1.2.batches = [] from hbatches, hholds]
      exact htaken.ahead.queue

end Dialogue.Duplex
