import Dialogue.Proofs.Channel.Lines

/-!
# What a byte stream reads and takes

What a stream has read is told by the bytes alone: the complete lines, without the
blank ones, up to the first that is not UTF-8 (`heardIn`). However the bytes are cut
into deliveries, the stream has queued all of that which it has not taken
(`Listens.deliver`, `Listens.finish`).

A request takes lines from the head of the queue. `discardFrom_cases` and
`receiveFrom_cases` say which, and that each line taken that is no frame is answered by one
error frame, and every other line by none.
-/

namespace Dialogue

/-- Whether a line could not be read. -/
def Inbound.isFailed : Inbound → Bool
  | .failed _ => true
  | _ => false

namespace Duplex

/-! ## Lines -/

/-- The lines that bytes complete, behind the start of a line, and the start of a line
that is left. -/
def linesFrom : Bytes → Bytes → List Bytes × Bytes
  | start, [] => ([], start)
  | start, b :: rest =>
    if b = Console.lineFeed then
      ((start ++ [b]) :: (linesFrom [] rest).1, (linesFrom [] rest).2)
    else linesFrom (start ++ [b]) rest

/-- The lines that are complete when bytes have arrived; the end of the stream completes
the last one. -/
def completeLines (arrived : Bytes) (ended : Bool) : List Bytes :=
  let (lines, left) := linesFrom [] arrived
  if ended = true ∧ left ≠ [] then lines ++ [left] else lines

/-- Lines up to the first that could not be read. -/
def upToFailure : List Inbound → List Inbound
  | [] => []
  | i :: rest => if i.isFailed then [i] else i :: upToFailure rest

/-- What a stream has read when bytes have arrived: nothing of blank lines, and nothing
behind a line that could not be read. -/
def heardIn (arrived : Bytes) (ended : Bool) : List Inbound :=
  upToFailure ((completeLines arrived ended).filterMap inboundOf)

theorem linesFrom_append (start xs ys : Bytes) :
    linesFrom start (xs ++ ys) =
      ((linesFrom start xs).1 ++ (linesFrom (linesFrom start xs).2 ys).1,
        (linesFrom (linesFrom start xs).2 ys).2) := by
  induction xs generalizing start with
  | nil => rfl
  | cons b xs ih =>
      rw [List.cons_append, linesFrom, linesFrom]
      by_cases hb : b = Console.lineFeed
      · rw [if_pos hb, if_pos hb, ih]
        rfl
      · rw [if_neg hb, if_neg hb, ih]

theorem upToFailure_append (xs ys : List Inbound) :
    upToFailure (xs ++ ys) =
      if xs.any Inbound.isFailed then upToFailure xs
      else upToFailure xs ++ upToFailure ys := by
  induction xs with
  | nil => rfl
  | cons i xs ih =>
      rw [List.cons_append, upToFailure, upToFailure, List.any_cons, ih]
      cases i.isFailed with
      | true => rfl
      | false =>
          rw [Bool.false_or, if_neg Bool.false_ne_true, if_neg Bool.false_ne_true]
          split <;> rfl

/-- A line that cannot be read says what is wrong with it. -/
theorem io_of_inboundOf {line : Bytes} {e : ChannelError} (h : inboundOf line = some (.failed e)) :
    ∃ cause, e = .io cause := by
  rw [inboundOf] at h
  split at h
  · cases h
    exact ⟨_, rfl⟩
  · dsimp only at h
    split at h
    · cases h
    · split at h <;> cases h

theorem mem_of_mem_upToFailure {i : Inbound} {is : List Inbound} (h : i ∈ upToFailure is) :
    i ∈ is := by
  induction is with
  | nil => exact h
  | cons j is ih =>
      rw [upToFailure] at h
      split at h
      · exact List.mem_cons.mpr (.inl (List.mem_singleton.mp h))
      · exact List.mem_cons.mpr ((List.mem_cons.mp h).imp_right ih)

/-! ## Reading -/

/-- A stream after it has read lines with these contents. -/
def hear (is : List Inbound) (d : Duplex) : Duplex :=
  if d.reading then
    { d with queue := d.queue ++ upToFailure is, reading := !is.any Inbound.isFailed }
  else d

@[simp] theorem hear_pending (is : List Inbound) (d : Duplex) :
    (d.hear is).pending = d.pending := by
  rw [hear]
  split <;> rfl

@[simp] theorem hear_output (is : List Inbound) (d : Duplex) :
    (d.hear is).output = d.output := by
  rw [hear]
  split <;> rfl

@[simp] theorem hear_closed (is : List Inbound) (d : Duplex) :
    (d.hear is).closed = d.closed := by
  rw [hear]
  split <;> rfl

theorem hear_with_pending (is : List Inbound) (pending : Bytes) (d : Duplex) :
    { d.hear is with pending := pending } = hear is { d with pending := pending } := by
  obtain ⟨queue, _, reading, output, closed⟩ := d
  cases reading <;> rfl

theorem hear_nil (d : Duplex) : d.hear [] = d := by
  obtain ⟨queue, pending, reading, output, closed⟩ := d
  cases reading with
  | false => rfl
  | true =>
      show Duplex.mk (queue ++ []) pending true output closed = _
      rw [List.append_nil]

theorem hear_append (xs ys : List Inbound) (d : Duplex) :
    d.hear (xs ++ ys) = (d.hear xs).hear ys := by
  cases hreading : d.reading with
  | false => simp only [hear, hreading, if_neg Bool.false_ne_true]
  | true =>
      simp only [hear, hreading, if_pos, List.any_append, upToFailure_append]
      cases xs.any Inbound.isFailed with
      | true => rfl
      | false => simp [List.append_assoc]

theorem readLine_eq (line : Bytes) (d : Duplex) :
    d.readLine line = d.hear (inboundOf line).toList := by
  obtain ⟨queue, pending, reading, output, closed⟩ := d
  cases reading with
  | false => rfl
  | true =>
      rw [readLine]
      rcases inboundOf line with _ | _ | _ | e
      · exact (hear_nil _).symm
      · rfl
      · rfl
      · rfl

theorem filterMap_inboundOf_cons (line : Bytes) (lines : List Bytes) :
    (line :: lines).filterMap inboundOf =
      (inboundOf line).toList ++ lines.filterMap inboundOf := by
  rw [List.filterMap_cons]
  cases inboundOf line <;> rfl

theorem deliver_eq (bytes : Bytes) (d : Duplex) :
    deliver bytes d =
      hear ((linesFrom d.pending bytes).1.filterMap inboundOf)
        { d with pending := (linesFrom d.pending bytes).2 } := by
  induction bytes generalizing d with
  | nil => rw [deliver, linesFrom, List.filterMap_nil, hear_nil]
  | cons b bytes ih =>
      rw [deliver, linesFrom]
      by_cases hb : b = Console.lineFeed
      · rw [if_pos hb, if_pos hb, ih, readLine_eq, hear_pending, hear_with_pending,
          filterMap_inboundOf_cons, hear_append]
      · rw [if_neg hb, if_neg hb, ih]

theorem finish_eq (d : Duplex) :
    d.finish =
      { hear (if d.pending = [] then [] else (inboundOf d.pending).toList) d with
        pending := [], reading := false } := by
  rw [finish]
  by_cases h : d.pending = []
  · rw [if_pos h, if_pos h, hear_nil, ← h]
  · rw [if_neg h, if_neg h, readLine_eq, ← hear_with_pending]

theorem deliver_output (bytes : Bytes) (d : Duplex) : (deliver bytes d).output = d.output := by
  rw [deliver_eq, hear_output]

theorem deliver_closed (bytes : Bytes) (d : Duplex) : (deliver bytes d).closed = d.closed := by
  rw [deliver_eq, hear_closed]

theorem finish_output (d : Duplex) : d.finish.output = d.output := by
  rw [finish_eq]
  exact hear_output _ d

theorem finish_closed (d : Duplex) : d.finish.closed = d.closed := by
  rw [finish_eq]
  exact hear_closed _ d

/-- What is read is put behind what is queued. -/
theorem queue_hear (is : List Inbound) (d : Duplex) : d.queue <+: (d.hear is).queue := by
  rw [hear]
  split
  · exact List.prefix_append ..
  · exact List.prefix_rfl

theorem queue_deliver (bytes : Bytes) (d : Duplex) : d.queue <+: (deliver bytes d).queue := by
  rw [deliver_eq]
  exact queue_hear _ { d with pending := (linesFrom d.pending bytes).2 }

theorem queue_finish (d : Duplex) : d.queue <+: d.finish.queue := by
  rw [finish_eq]
  exact queue_hear _ d

/-- A stream that has read what has arrived, and has queued all of it but the lines that
were taken. -/
structure Listens (d : Duplex) (arrived : Bytes) (ended : Bool) (taken : List Inbound) :
    Prop where
  queue : heardIn arrived ended = taken ++ d.queue
  pending : ended = false → d.pending = (linesFrom [] arrived).2
  reading : d.reading =
    (!ended && !((linesFrom [] arrived).1.filterMap inboundOf).any Inbound.isFailed)

variable {d : Duplex} {arrived : Bytes} {ended : Bool} {taken : List Inbound}

theorem completeLines_open (arrived : Bytes) :
    completeLines arrived false = (linesFrom [] arrived).1 := rfl

/-- What is read later is queued behind what is queued. -/
theorem hear_queue {is : List Inbound} (hqueue : upToFailure is = taken ++ d.queue)
    (hreading : d.reading = !is.any Inbound.isFailed) (js : List Inbound) :
    upToFailure (is ++ js) = taken ++ (d.hear js).queue
      ∧ (d.hear js).reading = !(is ++ js).any Inbound.isFailed := by
  rw [upToFailure_append, List.any_append]
  cases hfailed : is.any Inbound.isFailed with
  | true =>
      rw [hfailed] at hreading
      have hhear : d.hear js = d := by rw [hear, hreading, if_neg (by decide)]
      rw [hhear, hreading]
      exact ⟨hqueue, rfl⟩
  | false =>
      rw [hfailed] at hreading
      have hhear : d.hear js = { d with queue := d.queue ++ upToFailure js,
                                        reading := !js.any Inbound.isFailed } := by
        rw [hear, hreading, if_pos (by decide)]
      rw [hhear, if_neg Bool.false_ne_true, hqueue, List.append_assoc]
      exact ⟨rfl, rfl⟩

theorem Listens.deliver (h : d.Listens arrived false taken) (bytes : Bytes) :
    (deliver bytes d).Listens (arrived ++ bytes) false taken := by
  have hlines := linesFrom_append [] arrived bytes
  rw [← h.pending rfl] at hlines
  obtain ⟨hqueue, hreading⟩ := hear_queue
    (d := { d with pending := (linesFrom d.pending bytes).2 })
    h.queue h.reading ((linesFrom d.pending bytes).1.filterMap inboundOf)
  rw [← List.filterMap_append] at hqueue hreading
  rw [deliver_eq]
  refine ⟨?_, fun _ => ?_, ?_⟩
  · rw [heardIn, completeLines_open, hlines]
    exact hqueue
  · rw [hear_pending, hlines]
  · rw [hreading, hlines]
    rfl

theorem Listens.finish (h : d.Listens arrived false taken) :
    d.finish.Listens arrived true taken := by
  have hpending := h.pending rfl
  obtain ⟨hqueue, -⟩ := hear_queue h.queue h.reading
    (if d.pending = [] then [] else (inboundOf d.pending).toList)
  rw [finish_eq]
  refine ⟨?_, fun hended => absurd hended Bool.noConfusion, rfl⟩
  show heardIn arrived true = taken ++ (d.hear _).queue
  rw [← hqueue, heardIn, completeLines_open, completeLines, hpending]
  dsimp only
  by_cases hleft : (linesFrom [] arrived).2 = []
  · rw [if_neg (fun hboth => hboth.2 hleft), if_pos hleft, List.append_nil]
  · rw [if_pos ⟨rfl, hleft⟩, if_neg hleft, List.filterMap_append, filterMap_inboundOf_cons,
      List.filterMap_nil, List.append_nil]

/-! ## Taking lines -/

/-- What a stream writes about a line when it takes it. -/
def answerTo : Inbound → List Frame
  | .frame _ => []
  | .malformed => [rejection]
  | .failed _ => []

/-- A stream that has taken lines, answered them, and has the rest in its queue. -/
def take (front rest : List Inbound) (d : Duplex) : Duplex :=
  plus (front.flatMap answerTo) { d with queue := rest }

/-- Lines without a frame that is accepted. -/
def Passed (accept : Frame → Option Text) (is : List Inbound) : Prop :=
  ∀ f, .frame f ∈ is → accept f = none

theorem take_nil (rest : List Inbound) (d : Duplex) :
    d.take [] rest = { d with queue := rest } :=
  plus_nil _

theorem take_cons (i : Inbound) (front rest : List Inbound) (d : Duplex) :
    d.take (i :: front) rest = (d.plus (answerTo i)).take front rest := by
  rw [Duplex.take, List.flatMap_cons, plus_append]
  rfl

theorem reject_healthy (h : d.output.Healthy) :
    d.reject = (d.plus (answerTo .malformed), .ok ()) :=
  write_healthy h rejection

/-- What a line says to who waits for an accepted frame; nothing if it is passed over. -/
def decision (accept : Frame → Option Text) : Inbound → Option Reply
  | .frame f => (accept f).map .ok
  | .malformed => none
  | .failed e => some (.error e)

/-- An accepted frame decides, and a line that could not be read. -/
theorem decided_cases {accept : Frame → Option Text} {i : Inbound} {reply : Reply}
    (h : decision accept i = some reply) :
    (∃ f text, i = .frame f ∧ accept f = some text ∧ reply = .ok text)
      ∨ ∃ e, i = .failed e ∧ reply = .error e := by
  cases i with
  | frame f =>
      obtain ⟨text, hf, rfl⟩ := Option.map_eq_some_iff.mp h
      exact .inl ⟨f, text, rfl, hf, rfl⟩
  | malformed => cases h
  | failed e =>
      cases h
      exact .inr ⟨e, rfl, rfl⟩

/-- Lines are passed over up to the first that decides. Without one there is no answer, as
long as more can come. -/
theorem receiveFrom_cases (accept : Frame → Option Text) (queue : List Inbound) {d : Duplex}
    (h : d.output.Healthy) :
    ∃ passed, (∀ i ∈ passed, decision accept i = none)
      ∧ ((queue = passed ∧ receiveFrom accept queue d =
          (d.take passed [], if d.reading then none else some (.error .closed)))
        ∨ ∃ i rest reply, queue = passed ++ i :: rest ∧ decision accept i = some reply
          ∧ receiveFrom accept queue d = (d.take (passed ++ [i]) rest, some reply)) := by
  induction queue generalizing d with
  | nil => exact ⟨[], nofun, .inl ⟨rfl, by rw [receiveFrom, take_nil]⟩⟩
  | cons i queue ih =>
      rcases hi : decision accept i with _ | reply
      · -- The line is passed over, and answered if it is no frame.
        have hnext : receiveFrom accept (i :: queue) d =
            receiveFrom accept queue (d.plus (answerTo i)) := by
          cases i with
          | frame f => rw [receiveFrom, Option.map_eq_none_iff.mp hi, answerTo, plus_nil]
          | malformed => rw [receiveFrom, reject_healthy h]
          | failed e => cases hi
        obtain ⟨passed, hpassed, hcases⟩ := ih (d := d.plus (answerTo i)) (h.plus _)
        refine ⟨i :: passed, List.forall_mem_cons.mpr ⟨hi, hpassed⟩, ?_⟩
        rw [hnext]
        rcases hcases with ⟨rfl, hreceive⟩ | ⟨j, rest, reply, rfl, hj, hreceive⟩
        · exact .inl ⟨rfl, by rw [hreceive, take_cons]; rfl⟩
        · exact .inr ⟨j, rest, reply, rfl, hj, by rw [hreceive, List.cons_append, take_cons]⟩
      · refine ⟨[], nofun, .inr ⟨i, queue, reply, rfl, hi, ?_⟩⟩
        rw [List.nil_append, take_cons]
        rcases decided_cases hi with ⟨f, text, rfl, hf, rfl⟩ | ⟨e, rfl, rfl⟩
        · rw [receiveFrom, hf, answerTo, plus_nil, take_nil]
        · rw [receiveFrom, answerTo, plus_nil, take_nil]

theorem passed_of_undecided {accept : Frame → Option Text} {is : List Inbound}
    (h : ∀ i ∈ is, decision accept i = none) : Passed accept is :=
  fun f hf => Option.map_eq_none_iff.mp (h (.frame f) hf)

/-- Before a prompt all lines are taken, unless one could not be read. -/
theorem discardFrom_cases (queue : List Inbound) {d : Duplex} (h : d.output.Healthy) :
    ∃ passed, (∀ i ∈ passed, decision (fun _ => none) i = none)
      ∧ ((queue = passed ∧ discardFrom queue d = (d.take passed [], .ok ()))
        ∨ ∃ e rest, queue = passed ++ .failed e :: rest
          ∧ discardFrom queue d = (d.take (passed ++ [.failed e]) rest, .error e)) := by
  induction queue generalizing d with
  | nil => exact ⟨[], nofun, .inl ⟨rfl, by rw [discardFrom, take_nil]⟩⟩
  | cons i queue ih =>
      rcases hi : decision (fun _ => none) i with _ | reply
      · -- The line is passed over, and answered if it is no frame.
        have hnext : discardFrom (i :: queue) d = discardFrom queue (d.plus (answerTo i)) := by
          cases i with
          | frame f => rw [discardFrom, answerTo, plus_nil]
          | malformed => rw [discardFrom, reject_healthy h]
          | failed e => cases hi
        obtain ⟨passed, hpassed, hcases⟩ := ih (d := d.plus (answerTo i)) (h.plus _)
        refine ⟨i :: passed, List.forall_mem_cons.mpr ⟨hi, hpassed⟩, ?_⟩
        rw [hnext]
        rcases hcases with ⟨rfl, hdiscard⟩ | ⟨e, rest, rfl, hdiscard⟩
        · exact .inl ⟨rfl, by rw [hdiscard, take_cons]⟩
        · exact .inr ⟨e, rest, rfl, by rw [hdiscard, List.cons_append, take_cons]⟩
      · rcases decided_cases hi with ⟨f, text, rfl, hf, -⟩ | ⟨e, rfl, -⟩
        · cases hf
        · refine ⟨[], nofun, .inr ⟨e, queue, rfl, ?_⟩⟩
          rw [discardFrom, List.nil_append, take_cons, answerTo, plus_nil, take_nil]

/-- What is queued is thrown away, and the prompt is written unless a line could not be
read. -/
theorem ask_cases {d : Duplex} (hopen : d.closed = false) (h : d.output.Healthy)
    (prompt : Text) :
    ∃ passed, (∀ i ∈ passed, decision (fun _ => none) i = none)
      ∧ ((d.queue = passed
          ∧ d.ask prompt = ((d.take passed []).plus [.prompt prompt], .ok ()))
        ∨ ∃ e rest, d.queue = passed ++ .failed e :: rest
          ∧ d.ask prompt = (d.take (passed ++ [.failed e]) rest, .error e)) := by
  obtain ⟨passed, hpassed, hcases⟩ := discardFrom_cases d.queue h
  refine ⟨passed, hpassed, ?_⟩
  rw [Duplex.ask, hopen, if_neg Bool.false_ne_true]
  rcases hcases with ⟨hqueue, hdiscard⟩ | ⟨e, rest, hqueue, hdiscard⟩ <;> rw [hdiscard]
  · exact .inl ⟨hqueue, write_healthy (d := d.take passed []) (h.plus _) _⟩
  · exact .inr ⟨e, rest, hqueue, rfl⟩

/-- Lines without an input frame. -/
def NoInput (is : List Inbound) : Prop :=
  ∀ text, .frame (.input text) ∉ is

theorem noInput_of_passed {is : List Inbound} (h : Passed inputOf is) : NoInput is :=
  fun text hmem => nomatch h (.input text) hmem

theorem NoInput.append {xs ys : List Inbound} (hx : NoInput xs) (hy : NoInput ys) :
    NoInput (xs ++ ys) := by
  intro text hmem
  rcases List.mem_append.mp hmem with hmem | hmem
  · exact hx text hmem
  · exact hy text hmem

end Duplex

end Dialogue
