import Dialogue.Proofs.Channel.Client
import Dialogue.Proofs.Channel.Talk

/-!
# Requests over a byte stream

Replies follow their prompts, in every talk over a byte stream whose writer does not fail
(`replies_follow_prompts`). The writer may be slow. Then lines can arrive between the moment
at which a request hands its prompt over and the one at which the writer is through with it,
and a reply among these answers the request; and a call that is abandoned while it writes
leaves a piece of a frame behind. Where a talk avoids this (`Talk.avoids`), the two moments
come to the same and every frame is whole.

`Duplex.emit` and `Duplex.request` are the calls of a writer that takes every frame at once:
moves of such a talk, one after another (`Sound.operates`).
-/

namespace Dialogue

namespace Duplex

variable {t u : Talk} {taken : List Inbound} {task : Task}

/-! ## What a talk avoids -/

/-- Whether the prompt of a request is being written. -/
def Stage.asks : Stage → Bool
  | .writing _ _ _ (.asking _) => true
  | _ => false

namespace Talk

/-- At such a stage no move of the kind is made. -/
def avoids (stage : Stage → Bool) (kind : Move → Bool) : List Move → Talk → Bool
  | [], _ => true
  | move :: moves, t => !(stage t.stage && kind move) && avoids stage kind moves (t.step move)

variable {stage : Stage → Bool} {kind : Move → Bool}

theorem avoids_cons {move : Move} {moves : List Move} :
    avoids stage kind (move :: moves) t ↔
      (stage t.stage → kind move = false) ∧ avoids stage kind moves (t.step move) := by
  cases hstage : stage t.stage <;> simp [avoids, hstage]

theorem avoids_append (xs ys : List Move) :
    avoids stage kind (xs ++ ys) t ↔
      avoids stage kind xs t ∧ avoids stage kind ys (t.play xs) := by
  induction xs generalizing t with
  | nil => simp [avoids, play]
  | cons move xs ih =>
      rw [List.cons_append, avoids_cons, avoids_cons, ih, and_assoc]
      rfl

theorem avoids_of_forall {moves : List Move} (h : ∀ move ∈ moves, kind move = false) :
    avoids stage kind moves t := by
  induction moves generalizing t with
  | nil => rfl
  | cons move moves ih =>
      obtain ⟨hmove, hmoves⟩ := List.forall_mem_cons.mp h
      exact avoids_cons.mpr ⟨fun _ => hmove, ih hmoves⟩

/-- To avoid more kinds of moves at more stages is to avoid these. -/
theorem avoids_mono {stage' : Stage → Bool} {kind' : Move → Bool} {moves : List Move}
    (hstage : ∀ s, stage' s → stage s) (hkind : ∀ move, kind move = false → kind' move = false)
    (h : avoids stage kind moves t) : avoids stage' kind' moves t := by
  induction moves generalizing t with
  | nil => rfl
  | cons move moves ih =>
      obtain ⟨hmove, hmoves⟩ := avoids_cons.mp h
      exact avoids_cons.mpr ⟨fun hs => hkind move (hmove (hstage _ hs)), ih hmoves⟩

@[simp] theorem conclude_handed (task : Task) (answer : Option Reply) (t : Talk) :
    (t.conclude task answer).handed = t.handed := by
  cases task <;> rfl

theorem consume_handed {accept : Frame → Option Text} {drained : Talk → Talk}
    (hdrained : ∀ u : Talk, (drained u).handed = u.handed) (task : Task) (t : Talk) :
    (t.consume accept task drained).handed = t.handed := by
  rw [consume]
  split
  · exact hdrained _
  · rfl
  · exact conclude_handed ..

@[simp] theorem clear_handed (text : Text) (t : Talk) : (t.clear text).handed = t.handed :=
  consume_handed (fun u => show (u.prompt text).handed = u.handed from rfl) _ t

@[simp] theorem receive_handed (asked prompted : List Inbound) (t : Talk) :
    (t.receive asked prompted).handed = t.handed := by
  refine consume_handed (fun u => ?_) _ t
  rw [wait]
  split
  · rfl
  · exact conclude_handed ..

@[simp] theorem proceed_handed (task : Task) (t : Talk) : (t.proceed task).handed = t.handed := by
  cases task <;> simp [proceed]

@[simp] theorem say_handed (f : Frame) (t : Talk) : (t.say f).handed = t.handed := by
  rw [say]
  split <;> rfl

@[simp] theorem ask_handed (text : Text) (t : Talk) : (t.ask text).handed = t.handed := by
  rw [ask]
  split <;> simp

theorem abandon_handed (t : Talk) : t.abandon.handed = t.handed ++ t.stage.current := by
  rw [abandon]
  rcases hstage : t.stage with _ | ⟨frame, done, left, task⟩ | ⟨asked, prompted⟩ <;>
    simp [Stage.task?, Stage.current, frames, hstage]

/-- The writer was through with every frame before the next one was handed to it. -/
def Whole (t : Talk) : Prop :=
  ∀ h ∈ t.handed, h.through = true

/-- A call that is interrupted while it does not write leaves no piece of a frame. -/
theorem Whole.abandon (h : t.Whole) (hwrites : t.stage.writes = false) : t.abandon.Whole := by
  rw [Whole, abandon_handed]
  rcases hstage : t.stage with _ | ⟨frame, done, left, task⟩ | ⟨asked, prompted⟩
  · show ∀ h ∈ t.handed ++ [], h.through = true
    rwa [List.append_nil]
  · rw [hstage] at hwrites
    cases hwrites
  · show ∀ h ∈ t.handed ++ [], h.through = true
    rwa [List.append_nil]

theorem Whole.step (h : t.Whole) (move : Move)
    (hmove : t.stage.writes → move.interrupts = false) : (t.step move).Whole := by
  have habandon (hinterrupts : move.interrupts = true) : t.abandon.Whole := by
    refine h.abandon (Bool.eq_false_iff.mpr fun hwrites => ?_)
    rw [hmove hwrites] at hinterrupts
    cases hinterrupts
  cases move with
  | arrive bytes =>
      rw [Talk.step]
      split <;> exact h
  | finish =>
      rw [Talk.step]
      split <;> exact h
  | message text => simpa [Talk.step, Whole] using habandon rfl
  | error text => simpa [Talk.step, Whole] using habandon rfl
  | ask text => simpa [Talk.step, Whole] using habandon rfl
  | accept count =>
      rw [Talk.step, accept]
      split <;> exact h
  | flush =>
      rw [Talk.step, flush]
      split
      · rw [Whole, proceed_handed]
        exact List.forall_mem_append.mpr ⟨h, List.forall_mem_singleton.mpr rfl⟩
      · exact h
  | poll =>
      rw [Talk.step, poll]
      split
      · rwa [Whole, receive_handed]
      · exact h
  | abandon => exact habandon rfl

end Talk

/-! ## Prompts that are written at once -/

/-- The lines that had been read when the prompt was handed over are those that have been
read since, as long as it was being written. -/
def Task.Timely (heard : List Inbound) : Task → Prop
  | .asking asked => asked = heard
  | .awaiting asked prompted => prompted = asked
  | _ => True

namespace Talk

/-- No line was read while a prompt was being written. -/
structure Timely (t : Talk) : Prop where
  requests : ∀ r ∈ t.requests, ∀ prompted, r.prompted = some prompted → prompted = r.asked
  task : ∀ task, t.stage.task? = some task → task.Timely t.heard

theorem Timely.conclude (h : t.Timely) (task : Task) (htask : task.Timely t.heard)
    (answer : Option Reply) : (t.conclude task answer).Timely := by
  have hsettle (asked : List Inbound) (prompted : Option (List Inbound))
      (hprompted : ∀ p, prompted = some p → p = asked) :
      (t.settle asked prompted answer).Timely :=
    ⟨List.forall_mem_append.mpr ⟨h.requests, List.forall_mem_singleton.mpr hprompted⟩, nofun⟩
  cases task with
  | saying => exact ⟨h.requests, nofun⟩
  | clearing text => exact hsettle _ _ nofun
  | asking asked => exact hsettle _ _ nofun
  | awaiting asked prompted =>
      refine hsettle _ _ ?_
      rintro _ ⟨⟩
      exact htask

theorem Timely.consume (h : t.Timely) {accept : Frame → Option Text} {drained : Talk → Talk}
    (htask : task.Timely t.heard)
    (hdrained : ∀ rest, (t.leave rest).Timely → (drained (t.leave rest)).Timely) :
    (t.consume accept task drained).Timely := by
  have hleave (rest : List Inbound) : (t.leave rest).Timely := ⟨h.requests, h.task⟩
  rw [Talk.consume]
  rcases heed accept t.stream.queue with ⟨_ | _ | reply, rest⟩
  · exact hdrained rest (hleave rest)
  · refine ⟨h.requests, ?_⟩
    rintro _ ⟨⟩
    exact htask
  · exact (hleave rest).conclude task htask (some reply)

theorem Timely.clear (h : t.Timely) (text : Text) : (t.clear text).Timely := by
  refine h.consume trivial fun rest hleave => ⟨hleave.requests, ?_⟩
  rintro _ ⟨⟩
  rfl

theorem Timely.receive (h : t.Timely) (asked : List Inbound) : (t.receive asked asked).Timely := by
  refine h.consume rfl fun rest hleave => ?_
  rw [wait]
  split
  · refine ⟨hleave.requests, ?_⟩
    rintro _ ⟨⟩
    rfl
  · exact hleave.conclude (.awaiting asked asked) rfl _

theorem Timely.proceed (h : t.Timely) (htask : task.Timely t.heard) : (t.proceed task).Timely := by
  cases task with
  | saying => exact ⟨h.requests, nofun⟩
  | clearing text => exact h.clear text
  | asking asked =>
      obtain rfl : asked = t.heard := htask
      exact h.receive _
  | awaiting asked prompted =>
      obtain rfl : prompted = asked := htask
      exact h.receive _

theorem Timely.abandon (h : t.Timely) : t.abandon.Timely := by
  rw [Talk.abandon]
  rcases htask : t.stage.task? with _ | task
  · exact h
  · exact Timely.conclude (t := { t with handed := t.frames }) ⟨h.requests, h.task⟩ task
      (h.task task htask) none

theorem Timely.say (h : t.Timely) (f : Frame) : (t.say f).Timely := by
  rw [Talk.say]
  split
  · exact h
  · refine ⟨h.requests, ?_⟩
    rintro _ ⟨⟩
    trivial

theorem Timely.ask (h : t.Timely) (text : Text) : (t.ask text).Timely := by
  rw [Talk.ask]
  split
  · exact h.conclude (.clearing text) trivial _
  · exact h.clear text

/-- More is read, and no prompt is being written. -/
theorem Timely.reads (h : t.Timely) {stream : Duplex} {arrived : Bytes} {ended : Bool}
    (hasks : t.stage.asks = false) : Timely { t with stream, arrived, ended } := by
  refine ⟨h.requests, fun task htask => ?_⟩
  have hprompt := h.task task htask
  rcases hstage : t.stage with _ | ⟨frame, done, left, current⟩ | ⟨asked, prompted⟩ <;>
    simp only [hstage, Stage.task?, Option.some_inj, reduceCtorEq] at htask <;> subst htask
  · cases current with
    | asking asked =>
        rw [hstage] at hasks
        cases hasks
    | _ => exact hprompt
  · exact hprompt

theorem Timely.step (h : t.Timely) (move : Move)
    (hmove : t.stage.asks → move.brings = false) : (t.step move).Timely := by
  have hasks (hbrings : move.brings = true) : t.stage.asks = false := by
    refine Bool.eq_false_iff.mpr fun hasks => ?_
    rw [hmove hasks] at hbrings
    cases hbrings
  cases move with
  | arrive bytes =>
      rw [Talk.step]
      split
      · exact h
      · exact h.reads (hasks rfl)
  | finish =>
      rw [Talk.step]
      split
      · exact h
      · exact h.reads (hasks rfl)
  | message text => exact h.abandon.say _
  | error text => exact h.abandon.say _
  | ask text => exact h.abandon.ask text
  | accept count =>
      rw [Talk.step, accept]
      rcases hstage : t.stage with _ | ⟨frame, done, left, task⟩ | ⟨asked, prompted⟩
      · exact h
      · refine ⟨h.requests, ?_⟩
        rintro _ ⟨⟩
        exact h.task task (by rw [hstage]; rfl)
      · exact h
  | flush =>
      rw [Talk.step, flush]
      rcases hstage : t.stage with _ | ⟨frame, done, _ | ⟨b, left⟩, task⟩ | ⟨asked, prompted⟩
      · exact h
      · exact Timely.proceed (t := { t with handed := t.handed ++ [⟨frame, done, true⟩] })
          ⟨h.requests, h.task⟩ (h.task task (by rw [hstage]; rfl))
      · exact h
      · exact h
  | poll =>
      rw [Talk.step, poll]
      rcases hstage : t.stage with _ | ⟨frame, done, left, task⟩ | ⟨asked, prompted⟩
      · exact h
      · exact h
      · obtain rfl : prompted = asked := h.task (.awaiting asked prompted) (by rw [hstage]; rfl)
        exact h.receive _
  | abandon => exact h.abandon

end Talk

/-! ## Operations are moves -/

/-- A later state of a talk with the same requests, to which nothing has arrived since. -/
structure Talk.Later (t u : Talk) (stream : Duplex) : Prop where
  stream : u.stream = stream
  arrived : u.arrived = t.arrived
  requests : u.requests = t.requests

/-- A later state of a talk, at which a request has come to an answer or waits, having
been given some batches. -/
structure Talk.Reaches (t t' : Talk) (stream : Duplex) (delivered : List Bytes)
    (answer : Option Reply) : Prop where
  stream : t'.stream = stream
  arrived : t'.arrived = t.arrived ++ delivered.flatten
  waits : answer = none → (∃ asked prompted, t'.stage = .waiting asked prompted)
    ∧ t'.requests = t.requests
  answered : ∀ reply, answer = some reply →
    t'.stage = .idle ∧ ∃ r, t'.requests = t.requests ++ [r] ∧ r.answer = some reply

/-- Moves of the writer alone. -/
def OfWriter (moves : List Move) : Prop :=
  ∀ move ∈ moves, move.ofWriter = true

/-- What the writer does with a frame that it takes at once. -/
def atOnce (frame : Frame) : List Move :=
  [.accept (frameLine frame).length, .flush]

theorem atOnce_ofWriter (frame : Frame) : OfWriter (atOnce frame) := by
  simp [OfWriter, atOnce, Move.ofWriter]

/-- While a frame is being written, nothing but the writer moves. -/
abbrev Talk.Unhindered (moves : List Move) (t : Talk) : Prop :=
  t.avoids Stage.writes (fun move => !move.ofWriter) moves

namespace Talk

/-- What is reached from a state is reached from an earlier one with the same requests. -/
theorem Reaches.after {t' : Talk} {stream : Duplex} {delivered : List Bytes}
    {answer : Option Reply} (h : u.Reaches t' stream delivered answer) (first : List Bytes)
    (harrived : u.arrived = t.arrived ++ first.flatten) (hrequests : u.requests = t.requests) :
    t.Reaches t' stream (first ++ delivered) answer := by
  refine ⟨h.stream, ?_, hrequests ▸ h.waits, hrequests ▸ h.answered⟩
  rw [h.arrived, harrived, List.flatten_append, List.append_assoc]

theorem Later.leave {stream : Duplex} (h : t.Later u stream) (rest : List Inbound) :
    t.Later (u.leave rest) { stream with queue := rest } :=
  ⟨congrArg (fun d : Duplex => { d with queue := rest }) h.stream, h.arrived, h.requests⟩

theorem Later.settle {stream : Duplex} (h : t.Later u stream) (asked : List Inbound)
    (prompted : Option (List Inbound)) (reply : Reply) :
    t.Reaches (u.settle asked prompted (some reply)) stream [] (some reply) := by
  refine ⟨h.stream, h.arrived.trans (List.append_nil _).symm, fun hnone => ?_, ?_⟩
  · cases hnone
  · rintro _ ⟨⟩
    exact ⟨rfl, _, congrArg (· ++ _) h.requests, rfl⟩

/-- A request that has taken all lines waits, or nothing is read any more. -/
theorem Later.wait {stream : Duplex} (h : t.Later u stream) (asked prompted : List Inbound) :
    t.Reaches (u.wait asked prompted) stream []
      (if stream.reading then none else some (.error .closed)) := by
  rw [Talk.wait, show u.stream.reading = stream.reading from congrArg reading h.stream]
  cases stream.reading with
  | true =>
      rw [if_pos rfl, if_pos rfl]
      refine ⟨h.stream, h.arrived.trans (List.append_nil _).symm, fun _ => ?_, fun _ hsome => ?_⟩
      · exact ⟨⟨_, _, rfl⟩, h.requests⟩
      · cases hsome
  | false =>
      rw [if_neg Bool.false_ne_true, if_neg Bool.false_ne_true]
      exact h.settle asked (some prompted) (.error .closed)

theorem Unhindered.append {xs ys : List Move} (hx : t.Unhindered xs)
    (hy : (t.play xs).Unhindered ys) : t.Unhindered (xs ++ ys) :=
  (avoids_append xs ys).mpr ⟨hx, hy⟩

/-- If nothing happens while a frame is being written, then nothing of either kind. -/
theorem Unhindered.avoids {moves : List Move} (h : t.Unhindered moves) :
    t.avoids Stage.asks Move.brings moves ∧ t.avoids Stage.writes Move.interrupts moves := by
  refine ⟨avoids_mono (fun s hasks => ?_) (fun move hwriter => ?_) h,
    avoids_mono (fun _ => id) (fun move hwriter => ?_) h⟩
  · cases s with
    | writing => rfl
    | _ => cases hasks
  all_goals
    cases move with
    | accept | flush => rfl
    | _ => cases hwriter

theorem unhindered_of_writer {moves : List Move} (h : OfWriter moves) : t.Unhindered moves :=
  avoids_of_forall fun move hmove => by rw [h move hmove]; rfl

/-- The writer is through with a frame. -/
def written (frame : Frame) (task : Task) (t : Talk) : Talk :=
  { t with
    stream := t.stream.plus [frame]
    stage := .writing frame (frameLine frame) [] task
    handed := t.handed ++ [⟨frame, frameLine frame, true⟩] }

theorem play_hand (hhealthy : t.stream.output.Healthy) (frame : Frame) (task : Task) :
    (t.hand frame task).play (atOnce frame) = (t.written frame task).proceed task := by
  show ((t.hand frame task).accept _).flush = _
  simp only [hand, accept, hhealthy.write, List.take_length, List.drop_length, List.nil_append,
    flush, written, Duplex.plus, List.flatMap_singleton]

/-- A call passes over lines that do not decide. The writer takes the answers to those that
are no frames. -/
theorem consume_pass {accept : Frame → Option Text} {drained : Talk → Talk}
    (hproceed : ∀ u : Talk, u.proceed task = u.consume accept task drained)
    {passed rest : List Inbound} (hundecided : ∀ i ∈ passed, decision accept i = none)
    (hhealthy : t.stream.output.Healthy) (hqueue : t.stream.queue = passed ++ rest) :
    ∃ moves u, OfWriter moves
      ∧ (t.consume accept task drained).play moves = u.consume accept task drained
      ∧ t.Later u (t.stream.take passed rest) := by
  induction passed generalizing t with
  | nil =>
      refine ⟨[], t, nofun, rfl, ?_, rfl, rfl⟩
      rw [take_nil, ← show t.stream.queue = rest from hqueue]
  | cons i passed ih =>
      obtain ⟨hi, hmore⟩ := List.forall_mem_cons.mp hundecided
      cases i with
      | frame f =>
          have hf : accept f = none := Option.map_eq_none_iff.mp hi
          have hnext : t.consume accept task drained =
              (t.leave (passed ++ rest)).consume accept task drained := by
            simp only [consume, hqueue, List.cons_append, heed, hf, leave]
          obtain ⟨moves, u, hwriter, hplay, hlater⟩ :=
            ih (t := t.leave (passed ++ rest)) hmore hhealthy rfl
          refine ⟨moves, u, hwriter, hnext ▸ hplay, ?_, hlater.arrived, hlater.requests⟩
          rw [hlater.stream, take_cons, answerTo, plus_nil]
          rfl
      | malformed =>
          have hnext : t.consume accept task drained =
              (t.leave (passed ++ rest)).hand rejection task := by
            simp only [consume, hqueue, List.cons_append, heed]
          have hhand := play_hand (t := t.leave (passed ++ rest)) hhealthy rejection task
          rw [hproceed] at hhand
          obtain ⟨moves, u, hwriter, hplay, hlater⟩ :=
            ih (t := (t.leave (passed ++ rest)).written rejection task) hmore (hhealthy.plus _) rfl
          refine ⟨atOnce rejection ++ moves, u, ?_, ?_, ?_, hlater.arrived, hlater.requests⟩
          · exact List.forall_mem_append.mpr ⟨atOnce_ofWriter rejection, hwriter⟩
          · rw [hnext, play_append, hhand]
            exact hplay
          · rw [hlater.stream, take_cons]
            rfl
      | failed e => cases hi

theorem heed_decided {accept : Frame → Option Text} {i : Inbound} {reply : Reply}
    (h : decision accept i = some reply) (rest : List Inbound) :
    heed accept (i :: rest) = (.settled reply, rest) := by
  rcases decided_cases h with ⟨f, text, rfl, hf, rfl⟩ | ⟨e, rfl, rfl⟩
  · rw [heed, hf]
  · rfl

/-- Nothing is written about a line that decides. -/
theorem take_decided {accept : Frame → Option Text} {i : Inbound} {reply : Reply}
    (h : decision accept i = some reply) (passed rest : List Inbound) (d : Duplex) :
    { d.take passed (i :: rest) with queue := rest } = d.take (passed ++ [i]) rest := by
  have hanswer : answerTo i = [] := by
    rcases decided_cases h with ⟨f, text, rfl, hf, rfl⟩ | ⟨e, rfl, rfl⟩ <;> rfl
  simp only [Duplex.take, List.flatMap_append, List.flatMap_singleton, hanswer, List.append_nil,
    Duplex.plus]

/-- A request that has asked takes what has arrived. -/
theorem receive_play {stream : Duplex} {answer : Option Reply}
    (hhealthy : t.stream.output.Healthy) (hreceive : t.stream.receive inputOf = (stream, answer))
    (asked prompted : List Inbound) :
    ∃ moves, OfWriter moves
      ∧ t.Reaches ((t.receive asked prompted).play moves) stream [] answer := by
  obtain ⟨passed, hundecided, hcases⟩ := receiveFrom_cases inputOf t.stream.queue hhealthy
  have hproceed (u : Talk) : u.proceed (.awaiting asked prompted) =
      u.consume inputOf (.awaiting asked prompted) (wait asked prompted) := rfl
  rcases hcases with ⟨hqueue, hcases⟩ | ⟨i, rest, reply, hqueue, hi, hcases⟩
  all_goals
    obtain ⟨rfl, rfl⟩ := Prod.mk.inj (hreceive.symm.trans hcases)
  · obtain ⟨moves, u, hwriter, hplay, hlater⟩ := consume_pass hproceed hundecided hhealthy
      (hqueue.trans (List.append_nil _).symm)
    have hdrained : u.consume inputOf (.awaiting asked prompted) (wait asked prompted) =
        (u.leave []).wait asked prompted := by
      simp only [consume, hlater.stream, show (t.stream.take passed []).queue = [] from rfl, heed]
    refine ⟨moves, hwriter, ?_⟩
    rw [Talk.receive, hplay, hdrained]
    exact (hlater.leave []).wait asked prompted
  · obtain ⟨moves, u, hwriter, hplay, hlater⟩ :=
      consume_pass hproceed hundecided hhealthy hqueue
    have hsettled : u.consume inputOf (.awaiting asked prompted) (wait asked prompted) =
        (u.leave rest).conclude (.awaiting asked prompted) (some reply) := by
      simp only [consume, hlater.stream, heed_decided hi rest,
        show (t.stream.take passed (i :: rest)).queue = i :: rest from rfl]
    refine ⟨moves, hwriter, ?_⟩
    rw [Talk.receive, hplay, hsettled, ← take_decided hi]
    exact (hlater.leave rest).settle asked (some prompted) reply

/-- A request throws away what is queued, and its prompt is written; or a line could not be
read, and it fails. -/
theorem ask_play (hopen : t.stream.closed = false) (hhealthy : t.stream.output.Healthy)
    (text : Text) :
    ∃ moves, OfWriter moves
      ∧ ((∃ d e, t.stream.ask text = (d, .error e)
          ∧ t.Reaches ((t.ask text).play moves) d [] (some (.error e)))
        ∨ ∃ (u : Talk) (asked : List Inbound), t.stream.ask text = (u.stream, .ok ())
          ∧ (t.ask text).play moves = u.receive asked u.heard
          ∧ u.arrived = t.arrived ∧ u.requests = t.requests) := by
  obtain ⟨passed, hundecided, hcases⟩ := ask_cases hopen hhealthy text
  have hclear : t.ask text = t.consume (fun _ => none) (.clearing text) (prompt text) := by
    rw [ask, hopen, if_neg Bool.false_ne_true, clear]
  have hproceed (u : Talk) : u.proceed (.clearing text) =
      u.consume (fun _ => none) (.clearing text) (prompt text) := rfl
  rw [hclear]
  rcases hcases with ⟨hqueue, hask⟩ | ⟨e, rest, hqueue, hask⟩
  · obtain ⟨moves, u, hwriter, hplay, hlater⟩ := consume_pass hproceed hundecided hhealthy
      (hqueue.trans (List.append_nil _).symm)
    have hdrained : u.consume (fun _ => none) (.clearing text) (prompt text) =
        (u.leave []).prompt text := by
      simp only [consume, hlater.stream, show (t.stream.take passed []).queue = [] from rfl, heed]
    have hstream : (u.leave []).stream = t.stream.take passed [] := (hlater.leave []).stream
    have hhealthy' : (u.leave []).stream.output.Healthy := by
      rw [hstream]
      exact hhealthy.plus _
    let asking : Talk := { u.leave [] with sent := u.sent ++ [.prompt text] }
    let asked : Talk := asking.written (.prompt text) (.asking asking.heard)
    have hhand : ((u.leave []).prompt text).play (atOnce (.prompt text)) =
        asked.receive asking.heard asked.heard :=
      play_hand (t := asking) hhealthy' (.prompt text) (.asking asking.heard)
    refine ⟨moves ++ atOnce (.prompt text), ?_, .inr ⟨asked, asking.heard, ?_, ?_, ?_⟩⟩
    · exact List.forall_mem_append.mpr ⟨hwriter, atOnce_ofWriter _⟩
    · rw [hask, ← hstream]
      rfl
    · rw [play_append, hplay, hdrained]
      exact hhand
    · exact ⟨hlater.arrived, hlater.requests⟩
  · obtain ⟨moves, u, hwriter, hplay, hlater⟩ :=
      consume_pass hproceed hundecided hhealthy hqueue
    have hi : decision (fun _ => none) (.failed e) = some (.error e) := rfl
    have hsettled : u.consume (fun _ => none) (.clearing text) (prompt text) =
        (u.leave rest).conclude (.clearing text) (some (.error e)) := by
      simp only [consume, hlater.stream, heed_decided hi rest,
        show (t.stream.take passed (.failed e :: rest)).queue = .failed e :: rest from rfl]
    refine ⟨moves, hwriter, .inl ⟨_, e, hask, ?_⟩⟩
    rw [hplay, hsettled, ← take_decided hi]
    exact (hlater.leave rest).settle _ none (.error e)

end Talk

/-- A request that is not answered goes on only while lines are being read. -/
theorem reading_of_receive_none {d d' : Duplex} (h : d.output.Healthy)
    (hreceive : d.receive inputOf = (d', none)) : d'.reading = true := by
  obtain ⟨passed, -, ⟨-, hcases⟩ | ⟨i, rest, reply, -, -, hcases⟩⟩ :=
    receiveFrom_cases inputOf d.queue h
  all_goals rw [Duplex.receive, hcases] at hreceive
  · cases hreading : d.reading with
    | true =>
        rw [hreading, if_pos rfl] at hreceive
        cases hreceive
        exact hreading
    | false =>
        rw [hreading, if_neg Bool.false_ne_true] at hreceive
        cases hreceive
  · cases hreceive

theorem Sound.ended_of_reading (h : Sound taken t) (hreading : t.stream.reading = true) :
    t.ended = false := by
  have hlistens := h.listens.reading
  cases hended : t.ended with
  | false => rfl
  | true =>
      rw [hreading, hended] at hlistens
      cases hlistens

section Waiting

variable {v : Talk} {asked prompted : List Inbound}

theorem play_arrive (hstage : v.stage = .waiting asked prompted) (hended : v.ended = false)
    (bytes : Bytes) :
    v.play [.arrive bytes, .poll] = Talk.receive asked prompted
      { v with stream := v.stream.deliver bytes, arrived := v.arrived ++ bytes } := by
  show (v.step (.arrive bytes)).poll = _
  rw [Talk.step, hended, if_neg Bool.false_ne_true, Talk.poll]
  simp only [hstage]

theorem play_finish (hstage : v.stage = .waiting asked prompted) (hended : v.ended = false) :
    v.play [.finish, .poll] = Talk.receive asked prompted
      { v with stream := v.stream.finish, ended := true } := by
  show (v.step .finish).poll = _
  rw [Talk.step, hended, if_neg Bool.false_ne_true, Talk.poll]
  simp only [hstage]

/-- A waiting request is not writing. -/
theorem unhindered_of_waiting (hstage : v.stage = .waiting asked prompted) {first : Move}
    (hfirst : first.brings = true) : v.Unhindered [first, .poll] := by
  have hnext : (v.step first).stage = .waiting asked prompted := by
    cases first with
    | arrive bytes =>
        rw [Talk.step]
        split <;> exact hstage
    | finish =>
        rw [Talk.step]
        split <;> exact hstage
    | _ => cases hfirst
  refine Talk.avoids_cons.mpr ⟨?_, Talk.avoids_cons.mpr ⟨?_, rfl⟩⟩
  · rw [hstage]
    exact fun hwrites => absurd hwrites Bool.false_ne_true
  · rw [hnext]
    exact fun hwrites => absurd hwrites Bool.false_ne_true

/-- A request that is not answered comes to wait. -/
theorem Sound.receive_waits {stream : Duplex} (h : Sound taken (t.receive asked prompted))
    (hhealthy : t.stream.output.Healthy) (hreceive : t.stream.receive inputOf = (stream, none)) :
    ∃ moves v asked' prompted', (t.receive asked prompted).Unhindered moves
      ∧ (t.receive asked prompted).play moves = v ∧ t.Later v stream
      ∧ v.stage = .waiting asked' prompted' ∧ v.ended = false := by
  obtain ⟨moves, hwriter, hreaches⟩ := Talk.receive_play hhealthy hreceive asked prompted
  obtain ⟨⟨asked', prompted', hstage⟩, hrequests⟩ := hreaches.waits rfl
  obtain ⟨taken', h'⟩ := h.play moves
  have hreading := reading_of_receive_none hhealthy hreceive
  rw [← hreaches.stream] at hreading
  refine ⟨moves, _, asked', prompted', Talk.unhindered_of_writer hwriter, rfl, ?_, hstage,
    h'.ended_of_reading hreading⟩
  exact ⟨hreaches.stream, hreaches.arrived.trans (List.append_nil _), hrequests⟩

theorem receive_healthy {d d' : Duplex} {answer : Option Reply} (h : d.output.Healthy)
    (hreceive : d.receive inputOf = (d', answer)) : d'.output.Healthy := by
  obtain ⟨passed, -, ⟨-, hcases⟩ | ⟨i, rest, reply, -, -, hcases⟩⟩ :=
    receiveFrom_cases inputOf d.queue h
  all_goals
    rw [Duplex.receive, hcases] at hreceive
    obtain rfl : _ = d' := congrArg Prod.fst hreceive
    exact h

theorem ask_healthy {d d' : Duplex} {text : Text} {result : Except ChannelError Unit}
    (hopen : d.closed = false) (h : d.output.Healthy) (hask : d.ask text = (d', result)) :
    d'.output.Healthy := by
  obtain ⟨passed, -, ⟨-, hcases⟩ | ⟨e, rest, -, hcases⟩⟩ := ask_cases hopen h text
  all_goals
    rw [hcases] at hask
    obtain rfl : _ = d' := congrArg Prod.fst hask
    exact h

/-- Waiting is polling, with deliveries in between. -/
theorem Sound.wait {d d' : Duplex} {delivered : List Bytes} {answer : Option Reply}
    (hwaits : (Duplex.waiting inputOf).Waits d delivered d' answer)
    (h : Sound taken (t.receive asked prompted)) (hhealthy : t.stream.output.Healthy)
    (hd : t.stream = d) :
    ∃ moves, (t.receive asked prompted).Unhindered moves
      ∧ t.Reaches ((t.receive asked prompted).play moves) d' delivered answer := by
  induction hwaits generalizing t taken asked prompted with
  | received hreceive =>
      obtain ⟨moves, hwriter, hreaches⟩ :=
        Talk.receive_play hhealthy (hd ▸ hreceive) asked prompted
      exact ⟨moves, Talk.unhindered_of_writer hwriter, hreaches⟩
  | held hreceive =>
      obtain ⟨moves, hwriter, hreaches⟩ :=
        Talk.receive_play hhealthy (hd ▸ hreceive) asked prompted
      exact ⟨moves, Talk.unhindered_of_writer hwriter, hreaches⟩
  | @finished s s' hreceive =>
      replace hreceive : t.stream.receive inputOf = (s', none) := hd ▸ hreceive
      obtain ⟨moves, v, asked', prompted', hfree, hplay, hlater, hstage, hended⟩ :=
        h.receive_waits hhealthy hreceive
      have hfinish := play_finish hstage hended
      have hhealthy' : v.stream.finish.output.Healthy := by
        rw [finish_output, hlater.stream]
        exact receive_healthy hhealthy hreceive
      obtain ⟨more, hwriter, hreaches⟩ := Talk.receive_play
        (t := { v with stream := v.stream.finish, ended := true }) hhealthy' rfl asked' prompted'
      refine ⟨moves ++ ([.finish, .poll] ++ more), ?_, ?_⟩
      · refine hfree.append ((unhindered_of_waiting (hplay ▸ hstage) rfl).append ?_)
        exact Talk.unhindered_of_writer hwriter
      · rw [Talk.play_append, hplay, Talk.play_append, hfinish]
        rw [← hlater.stream]
        exact hreaches.after [] (by rw [hlater.arrived]; simp) hlater.requests
  | @batch s s' _ batch _ _ hreceive _ ih =>
      replace hreceive : t.stream.receive inputOf = (s', none) := hd ▸ hreceive
      obtain ⟨moves, v, asked', prompted', hfree, hplay, hlater, hstage, hended⟩ :=
        h.receive_waits hhealthy hreceive
      have harrive := play_arrive hstage hended batch
      have hhealthy' : (v.stream.deliver batch).output.Healthy := by
        rw [deliver_output, hlater.stream]
        exact receive_healthy hhealthy hreceive
      obtain ⟨taken', h'⟩ := h.play (moves ++ [.arrive batch, .poll])
      rw [Talk.play_append, hplay, harrive] at h'
      obtain ⟨more, hfree', hreaches⟩ := ih h' hhealthy' (by rw [hlater.stream]; rfl)
      refine ⟨moves ++ ([.arrive batch, .poll] ++ more), ?_, ?_⟩
      · refine hfree.append ((unhindered_of_waiting (hplay ▸ hstage) rfl).append ?_)
        rwa [hplay, harrive]
      · rw [Talk.play_append, hplay, Talk.play_append, harrive]
        exact hreaches.after [batch] (by rw [hlater.arrived]; simp) hlater.requests

end Waiting

theorem Talk.abandon_idle (hidle : t.stage = .idle) : t.abandon = t := by
  rw [abandon, hidle]
  rfl

theorem unhindered_cons (hidle : t.stage = .idle) {move : Move} {moves : List Move}
    (h : (t.step move).Unhindered moves) : t.Unhindered (move :: moves) := by
  refine Talk.avoids_cons.mpr ⟨?_, h⟩
  rw [hidle]
  exact fun hwrites => absurd hwrites Bool.false_ne_true

/-- A message or an error is sent, and the writer takes it. -/
theorem Sound.say (h : Sound taken t) (hidle : t.stage = .idle) (f : Frame) (move : Move)
    (hmove : ∀ u : Talk, u.step move = u.abandon.say f) :
    ∃ more, t.Unhindered (move :: more) ∧ (t.play (move :: more)).stage = .idle
      ∧ (t.play (move :: more)).stream = t.stream.emit f := by
  have hplay : t.play (move :: atOnce f) =
      (Talk.written f .saying { t with sent := t.sent ++ [f] }).proceed .saying := by
    rw [← Talk.play_hand (t := { t with sent := t.sent ++ [f] }) h.healthy f .saying]
    show (t.step move).play (atOnce f) = _
    rw [hmove, Talk.abandon_idle hidle, Talk.say, h.opened, if_neg Bool.false_ne_true]
  refine ⟨atOnce f, unhindered_cons hidle (Talk.unhindered_of_writer (atOnce_ofWriter f)), ?_⟩
  rw [hplay, emit_healthy h.opened h.healthy]
  exact ⟨rfl, rfl⟩

/-- A request is its prompt and then waiting. -/
theorem Sound.request (h : Sound taken t) (hidle : t.stage = .idle) (text : Text)
    (client : Client Bytes) :
    ∃ more delivered, t.Unhindered (.ask text :: more)
      ∧ client.batches = delivered ++ (request text (t.stream, client)).1.2.batches
      ∧ t.Reaches (t.play (.ask text :: more)) (request text (t.stream, client)).1.1 delivered
        (request text (t.stream, client)).2 := by
  have hstep : t.step (.ask text) = t.ask text := by rw [Talk.step, Talk.abandon_idle hidle]
  have hplays (moves : List Move) : t.play (.ask text :: moves) = (t.ask text).play moves := by
    rw [← hstep]
    rfl
  obtain ⟨moves, hwriter, ⟨d, e, hask, hreaches⟩ | ⟨u, asked, hask, hplay, harrived, hrequests⟩⟩ :=
    Talk.ask_play h.opened h.healthy text
  all_goals rw [Duplex.request, hask]
  · refine ⟨moves, [], unhindered_cons hidle (Talk.unhindered_of_writer hwriter), rfl, ?_⟩
    rwa [hplays]
  · obtain ⟨delivered, hbatches, hwaits⟩ :=
      (Duplex.waiting inputOf).waits_wait client.holds client.batches u.stream
    obtain ⟨taken', h'⟩ := h.play (.ask text :: moves)
    rw [hplays, hplay] at h'
    obtain ⟨more, hfree, hreaches⟩ := h'.wait hwaits (ask_healthy h.opened h.healthy hask) rfl
    refine ⟨moves ++ more, delivered, unhindered_cons hidle ?_, hbatches, ?_⟩
    · refine (Talk.unhindered_of_writer hwriter).append ?_
      rwa [hstep, hplay]
    · rw [hplays, Talk.play_append, hplay]
      exact hreaches.after [] (by rw [harrived]; simp) hrequests

/-- A reply came after the prompt was handed over. It came after the writer was through with
the prompt, too, unless an input frame was read in the meantime. -/
theorem Request.Right.reply {r : Request} {heard : List Inbound} (h : r.Right heard taken)
    (hheard : taken <+: heard) {reply : Text} (hreply : r.answer = some (.ok reply)) :
    ∃ meanwhile passed, r.prompted = some (r.asked ++ meanwhile)
      ∧ r.taken = r.asked ++ passed ++ [.frame (.input reply)] ∧ NoInput passed
      ∧ (meanwhile <+: passed ∨ passed ++ [.frame (.input reply)] <+: meanwhile) := by
  obtain ⟨hsome, passed, htaken, hpassed⟩ := h.answered reply hreply
  obtain ⟨prompted, hprompted⟩ := Option.isSome_iff_exists.mp hsome
  obtain ⟨⟨meanwhile, rfl⟩, hlater⟩ := h.prompted prompted hprompted
  refine ⟨meanwhile, passed, hprompted, htaken, hpassed, ?_⟩
  have hall := h.taken.trans hheard
  rw [htaken, List.append_assoc] at hall
  rcases List.prefix_or_prefix_of_prefix hlater hall with hfirst | hfirst
  · rcases List.prefix_concat_iff.mp ((List.prefix_append_right_inj _).mp hfirst) with rfl | hbefore
    · exact .inr List.prefix_rfl
    · exact .inl hbefore
  · exact .inr ((List.prefix_append_right_inj _).mp hfirst)

/-- The writer is slow: the reply is there before the prompt is through, and answers it. -/
example :
    (Talk.play [.ask ['A'], .accept 3, .arrive (frameLine (.input ['x'])), .accept 99, .flush]
      {}).requests = [⟨[], some [.frame (.input ['x'])], [.frame (.input ['x'])],
        some (.ok ['x'])⟩] := by
  decide +kernel

/-- The request is abandoned while it answers a line that is no frame: a piece of the answer
is written. -/
example :
    (Talk.play [.arrive (lineOf ['?']), .ask ['A'], .accept 3, .abandon] {}).handed =
      [⟨rejection, (frameLine rejection).take 3, false⟩] := by
  decide +kernel

end Duplex

end Dialogue
