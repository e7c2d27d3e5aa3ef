import Dialogue.Proofs.Channel.Inbox

/-!
# Talks over a byte stream

A talk over a byte stream goes on by moves in any order: bytes arrive, the stream ends, a
message or an error is sent, a reply is asked for. A call takes its time. While it writes
a frame, it waits for the writer, which takes the line bit by bit and may flush late; and
a request that has asked waits for lines. While a call waits, more may arrive, and it may
be abandoned: then what the writer has taken stays written, and the rest of the line is
never written. Between two waits nothing else happens.

Here the writer is slow, but it does not fail. The invariant `Sound` ties the state to the
bytes that have arrived and to those that were written: the lines that were read are those
taken, followed by those in the queue; it says of each request which of the lines taken has
answered it; and what was written are the frames that were handed to the writer, each as
far as the writer has taken it. One move preserves it (`Sound.step`), so whole talks do
(`Sound.play`).
-/

namespace Dialogue

namespace Duplex

/-! ## Calls -/

/-- What a frame is written for. It says how the call goes on when the writer is through
with the frame. -/
inductive Task where
  /-- The frame is a message or an error. -/
  | saying
  /-- It answers a line that was there before the prompt. -/
  | clearing (prompt : Text)
  /-- It is the prompt, with the lines that had been read when it was handed over. -/
  | asking (asked : List Inbound)
  /-- It answers a line behind the prompt, with the lines that had been read when the
  prompt was handed over, and those when the writer was through with it. -/
  | awaiting (asked prompted : List Inbound)
  deriving DecidableEq

/-- Where the call under way waits. -/
inductive Stage where
  /-- No call is under way. -/
  | idle
  /-- For the writer, which has taken some of a line. -/
  | writing (frame : Frame) (taken left : Bytes) (task : Task)
  /-- For a reply to a prompt. -/
  | waiting (asked prompted : List Inbound)
  deriving DecidableEq

/-- A frame that was handed to the writer. -/
structure Handed where
  frame : Frame
  /-- What the writer has taken of its line. -/
  taken : Bytes
  /-- The writer has taken the whole line and flushed. -/
  through : Bool
  deriving DecidableEq

namespace Stage

/-- What the call under way is doing. -/
def task? : Stage → Option Task
  | .idle => none
  | .writing _ _ _ task => some task
  | .waiting asked prompted => some (.awaiting asked prompted)

/-- The frame that is being written. -/
def current : Stage → List Handed
  | .writing frame taken _ _ => [⟨frame, taken, false⟩]
  | _ => []

/-- Whether a frame is being written. -/
def writes : Stage → Bool
  | .writing _ _ _ _ => true
  | _ => false

end Stage

/-- A request that is over. -/
structure Request where
  /-- The lines that had been read when it handed its prompt to the writer; if it did not
  come so far, those that had been taken when it was over. -/
  asked : List Inbound
  /-- The lines that had been read when the writer was through with the prompt. -/
  prompted : Option (List Inbound)
  /-- The lines that had been taken when it was over. -/
  taken : List Inbound
  /-- The reply or the error; nothing if it was abandoned. -/
  answer : Option Reply
  deriving DecidableEq

/-- Why a call takes no more lines. -/
inductive Halt where
  /-- None is left. -/
  | drained
  /-- A line is no frame, and is to be answered. -/
  | malformed
  /-- A line decides. -/
  | settled (reply : Reply)
  deriving DecidableEq

/-- Takes lines up to the first that has to be answered or decides. -/
def heed (accept : Frame → Option Text) : List Inbound → Halt × List Inbound
  | [] => (.drained, [])
  | .frame frame :: rest =>
    match accept frame with
    | some text => (.settled (.ok text), rest)
    | none => heed accept rest
  | .malformed :: rest => (.malformed, rest)
  | .failed e :: rest => (.settled (.error e), rest)

/-! ## Talks -/

/-- A stream and its call under way, with what has happened so far. -/
structure Talk where
  stream : Duplex := {}
  stage : Stage := .idle
  arrived : Bytes := []
  ended : Bool := false
  /-- The messages, errors and prompts that were to be sent. -/
  sent : List Frame := []
  /-- The frames that were handed to the writer, without the one being written. -/
  handed : List Handed := []
  requests : List Request := []
  deriving DecidableEq

/-- What can happen next. -/
inductive Move where
  | arrive (bytes : Bytes)
  /-- The client ends its stream. -/
  | finish
  | message (text : Text)
  | error (text : Text)
  | ask (prompt : Text)
  /-- The writer takes so many bytes more, or as many as are left. -/
  | accept (count : Nat)
  /-- The writer has flushed what it was given. -/
  | flush
  /-- The request takes what has arrived. -/
  | poll
  /-- The call under way is abandoned. -/
  | abandon

namespace Move

/-- A move of the writer. -/
def ofWriter : Move → Bool
  | .accept _ | .flush => true
  | _ => false

/-- A move that brings lines. -/
def brings : Move → Bool
  | .arrive _ | .finish => true
  | _ => false

/-- A move that ends the call under way, wherever it waits. -/
def interrupts : Move → Bool
  | .message _ | .error _ | .ask _ | .abandon => true
  | _ => false

end Move

namespace Talk

/-- The lines that have been read. -/
def heard (t : Talk) : List Inbound :=
  heardIn t.arrived t.ended

/-- The lines that are not in the queue any more. -/
def taken (t : Talk) : List Inbound :=
  t.heard.take (t.heard.length - t.stream.queue.length)

/-- The frames that were handed to the writer. -/
def frames (t : Talk) : List Handed :=
  t.handed ++ t.stage.current

/-! ### What a call does between two waits -/

/-- A frame is handed to the writer. -/
def hand (frame : Frame) (task : Task) (t : Talk) : Talk :=
  { t with stage := .writing frame [] (frameLine frame) task }

/-- A request is over. -/
def settle (asked : List Inbound) (prompted : Option (List Inbound)) (answer : Option Reply)
    (t : Talk) : Talk :=
  { t with stage := .idle, requests := t.requests ++ [⟨asked, prompted, t.taken, answer⟩] }

/-- The call with a task is over. -/
def conclude (task : Task) (answer : Option Reply) (t : Talk) : Talk :=
  match task with
  | .saying => { t with stage := .idle }
  | .clearing _ => t.settle t.taken none answer
  | .asking asked => t.settle asked none answer
  | .awaiting asked prompted => t.settle asked (some prompted) answer

/-- The lines that are left in the queue. -/
def leave (rest : List Inbound) (t : Talk) : Talk :=
  { t with stream := { t.stream with queue := rest } }

/-- The call with a task takes lines, and goes on in the given way when none is left. -/
def consume (accept : Frame → Option Text) (task : Task) (drained : Talk → Talk) (t : Talk) :
    Talk :=
  match heed accept t.stream.queue with
  | (.drained, rest) => drained (t.leave rest)
  | (.malformed, rest) => (t.leave rest).hand rejection task
  | (.settled reply, rest) => (t.leave rest).conclude task (some reply)

/-- A request hands its prompt to the writer. -/
def prompt (text : Text) (t : Talk) : Talk :=
  hand (.prompt text) (.asking t.heard) { t with sent := t.sent ++ [.prompt text] }

/-- A request throws away what is queued, and asks when nothing is left. -/
def clear (text : Text) (t : Talk) : Talk :=
  t.consume (fun _ => none) (.clearing text) (prompt text)

/-- A request has taken all lines without a reply among them. -/
def wait (asked prompted : List Inbound) (t : Talk) : Talk :=
  if t.stream.reading then { t with stage := .waiting asked prompted }
  else t.conclude (.awaiting asked prompted) (some (.error .closed))

/-- A request that has asked takes lines up to a reply. -/
def receive (asked prompted : List Inbound) (t : Talk) : Talk :=
  t.consume inputOf (.awaiting asked prompted) (wait asked prompted)

/-- The call goes on behind a frame that was written. -/
def proceed (t : Talk) : Task → Talk
  | .saying => { t with stage := .idle }
  | .clearing text => t.clear text
  | .asking asked => t.receive asked t.heard
  | .awaiting asked prompted => t.receive asked prompted

/-! ### Moves -/

/-- The call under way is over without an answer. The frame it was writing stays as it is. -/
def abandon (t : Talk) : Talk :=
  match t.stage.task? with
  | none => t
  | some task => conclude task none { t with handed := t.frames }

/-- A message or an error is sent, unless the channel is closed. -/
def say (frame : Frame) (t : Talk) : Talk :=
  if t.stream.closed then t else hand frame .saying { t with sent := t.sent ++ [frame] }

/-- A reply is asked for. -/
def ask (text : Text) (t : Talk) : Talk :=
  if t.stream.closed then t.conclude (.clearing text) (some (.error .closed)) else t.clear text

/-- The writer takes some of the line that is being written. -/
def accept (count : Nat) (t : Talk) : Talk :=
  match t.stage with
  | .writing frame taken left task =>
    let output := (t.stream.output.write (left.take count)).1
    { t with
      stream := { t.stream with output }
      stage := .writing frame (taken ++ left.take count) (left.drop count) task }
  | _ => t

/-- The writer has flushed. If it has taken the whole line, the call goes on. -/
def flush (t : Talk) : Talk :=
  match t.stage with
  | .writing frame taken [] task =>
    proceed { t with handed := t.handed ++ [⟨frame, taken, true⟩] } task
  | _ => t

/-- The waiting request takes what has arrived. -/
def poll (t : Talk) : Talk :=
  match t.stage with
  | .waiting asked prompted => t.receive asked prompted
  | _ => t

/-- One move. Nothing arrives after the end of the stream, and a new call is made only when
the one before it is over. -/
def step (t : Talk) : Move → Talk
  | .arrive bytes =>
    if t.ended then t
    else { t with stream := t.stream.deliver bytes, arrived := t.arrived ++ bytes }
  | .finish =>
    if t.ended then t else { t with stream := t.stream.finish, ended := true }
  | .message text => t.abandon.say (.message text)
  | .error text => t.abandon.say (.error text)
  | .ask text => t.abandon.ask text
  | .accept count => t.accept count
  | .flush => t.flush
  | .poll => t.poll
  | .abandon => t.abandon

/-- Moves one after another. -/
def play (moves : List Move) (t : Talk) : Talk :=
  moves.foldl step t

theorem play_append (xs ys : List Move) (t : Talk) :
    t.play (xs ++ ys) = (t.play xs).play ys :=
  List.foldl_append

end Talk

/-! ## Taking lines -/

/-- A call passes over frames up to a line that is no frame or decides. -/
theorem heed_cases (accept : Frame → Option Text) (queue : List Inbound) :
    ∃ passed, (∀ i ∈ passed, decision accept i = none) ∧ passed.count .malformed = 0
      ∧ ((queue = passed ∧ heed accept queue = (.drained, []))
        ∨ (∃ rest, queue = passed ++ .malformed :: rest
          ∧ heed accept queue = (.malformed, rest))
        ∨ ∃ i rest reply, queue = passed ++ i :: rest ∧ decision accept i = some reply
          ∧ heed accept queue = (.settled reply, rest)) := by
  induction queue with
  | nil => exact ⟨[], nofun, rfl, .inl ⟨rfl, rfl⟩⟩
  | cons i queue ih =>
      cases i with
      | frame f =>
          rcases hf : accept f with _ | text
          · obtain ⟨passed, hpassed, hcount, hcases⟩ := ih
            have hdecision : decision accept (.frame f) = none := by rw [decision, hf]; rfl
            refine ⟨.frame f :: passed, List.forall_mem_cons.mpr ⟨hdecision, hpassed⟩, ?_, ?_⟩
            · have hne : Inbound.frame f ≠ .malformed := nofun
              exact (List.count_cons_of_ne hne).trans hcount
            · rw [heed, hf]
              rcases hcases with ⟨rfl, hheed⟩ | ⟨rest, rfl, hheed⟩
                | ⟨j, rest, reply, rfl, hj, hheed⟩
              · exact .inl ⟨rfl, hheed⟩
              · exact .inr (.inl ⟨rest, rfl, hheed⟩)
              · exact .inr (.inr ⟨j, rest, reply, rfl, hj, hheed⟩)
          · refine ⟨[], nofun, rfl, .inr (.inr ⟨.frame f, queue, .ok text, rfl, ?_, ?_⟩)⟩
            · rw [decision, hf]
              rfl
            · rw [heed, hf]
      | malformed => exact ⟨[], nofun, rfl, .inr (.inl ⟨queue, rfl, rfl⟩)⟩
      | failed e => exact ⟨[], nofun, rfl, .inr (.inr ⟨.failed e, queue, .error e, rfl, rfl, rfl⟩)⟩

/-! ## What is written -/

/-- What was written when some lines had been taken: the frames that were handed to the
writer, each as far as it was taken. These are what was to be sent, and one rejection for
every line taken that was no frame. -/
structure Wrote (written : Bytes) (taken : List Inbound) (sent : List Frame)
    (frames : List Handed) : Prop where
  bytes : written = frames.flatMap Handed.taken
  lines : ∀ h ∈ frames, h.taken <+: frameLine h.frame
  whole : ∀ h ∈ frames, h.through = true → h.taken = frameLine h.frame
  others : (frames.map Handed.frame).filter (· ≠ rejection) = sent.filter (· ≠ rejection)
  rejections : (frames.map Handed.frame).count rejection =
    taken.count .malformed + sent.count rejection

namespace Wrote

variable {written more done : Bytes} {taken front : List Inbound} {sent : List Frame}
  {frames : List Handed} {f : Frame} {through through' : Bool}

theorem pass (h : Wrote written taken sent frames) (hfront : front.count .malformed = 0) :
    Wrote written (taken ++ front) sent frames := by
  refine ⟨h.bytes, h.lines, h.whole, h.others, ?_⟩
  rw [List.count_append, hfront, Nat.add_zero]
  exact h.rejections

/-- A frame is handed over, of which the writer has taken nothing yet. -/
theorem hand {taken' : List Inbound} {sent' : List Frame} (h : Wrote written taken sent frames)
    (hothers : sent'.filter (· ≠ rejection) =
      sent.filter (· ≠ rejection) ++ [f].filter (· ≠ rejection))
    (hrejections : taken'.count .malformed + sent'.count rejection =
      taken.count .malformed + sent.count rejection + [f].count rejection) :
    Wrote written taken' sent' (frames ++ [⟨f, [], false⟩]) := by
  refine ⟨?_, ?_, ?_, ?_, ?_⟩
  · rw [List.flatMap_append, List.flatMap_singleton, List.append_nil]
    exact h.bytes
  · exact List.forall_mem_append.mpr ⟨h.lines, by simp⟩
  · exact List.forall_mem_append.mpr ⟨h.whole, by simp⟩
  · rw [List.map_append, List.filter_append, h.others, hothers]
    rfl
  · rw [List.map_append, List.count_append, h.rejections, hrejections]
    rfl

theorem send (h : Wrote written taken sent frames) (f : Frame) :
    Wrote written taken (sent ++ [f]) (frames ++ [⟨f, [], false⟩]) :=
  h.hand (by rw [List.filter_append]) (by rw [List.count_append, Nat.add_assoc])

theorem reject (h : Wrote written taken sent frames) :
    Wrote written (taken ++ [.malformed]) sent (frames ++ [⟨rejection, [], false⟩]) := by
  refine h.hand ?_ ?_
  · rw [show [rejection].filter (· ≠ rejection) = [] by decide, List.append_nil]
  · rw [List.count_append, List.count_singleton_self, List.count_singleton_self]
    omega

/-- The writer goes on with the last frame. -/
theorem goOn (h : Wrote written taken sent (frames ++ [⟨f, done, through⟩]))
    (hline : done ++ more <+: frameLine f)
    (hwhole : through' = true → done ++ more = frameLine f) :
    Wrote (written ++ more) taken sent (frames ++ [⟨f, done ++ more, through'⟩]) := by
  have hframes : (frames ++ [Handed.mk f (done ++ more) through']).map Handed.frame =
      (frames ++ [Handed.mk f done through]).map Handed.frame := by simp
  refine ⟨?_, ?_, ?_, ?_, ?_⟩
  · rw [h.bytes]
    simp
  · refine List.forall_mem_append.mpr ⟨(List.forall_mem_append.mp h.lines).1, ?_⟩
    simpa using hline
  · refine List.forall_mem_append.mpr ⟨(List.forall_mem_append.mp h.whole).1, ?_⟩
    simpa using hwhole
  · rw [hframes, h.others]
  · rw [hframes, h.rejections]

end Wrote

/-! ## The invariant -/

/-- What the lines that were heard and taken say of a request: the prompt was handed over
before it was through, and if the request was answered, then by the first input frame among
the lines read after the prompt was handed over. -/
structure Request.Right (heard taken : List Inbound) (r : Request) : Prop where
  asked : r.asked <+: r.taken
  taken : r.taken <+: taken
  prompted : ∀ prompted, r.prompted = some prompted → r.asked <+: prompted ∧ prompted <+: heard
  answered : ∀ reply, r.answer = some (.ok reply) → r.prompted.isSome
    ∧ ∃ passed, r.taken = r.asked ++ passed ++ [.frame (.input reply)] ∧ NoInput passed

/-- A request has asked: after the requests before it had taken their lines. No reply has
been taken since. -/
structure Asked (taken : List Inbound) (requests : List Request) (asked : List Inbound) :
    Prop where
  before : ∀ r ∈ requests, r.taken <+: asked
  passed : ∃ passed, taken = asked ++ passed ∧ NoInput passed

/-- What the lines that were heard and taken say of a call under way. -/
def Task.Fits (heard taken : List Inbound) (requests : List Request) : Task → Prop
  | .saying => True
  | .clearing _ => True
  | .asking asked => Asked taken requests asked
  | .awaiting asked prompted =>
    Asked taken requests asked ∧ asked <+: prompted ∧ prompted <+: heard

/-- A talk in order, with the lines that were taken, but for the frames and the call under
way. -/
structure Lawful (taken : List Inbound) (t : Talk) : Prop where
  opened : t.stream.closed = false
  healthy : t.stream.output.Healthy
  listens : t.stream.Listens t.arrived t.ended taken
  right : ∀ r ∈ t.requests, r.Right t.heard taken
  order : t.requests.Pairwise fun r r' => r.taken <+: r'.asked

/-- A talk in order while no frame is being written, whatever its stage says. -/
structure Rests (taken : List Inbound) (t : Talk) : Prop extends Lawful taken t where
  wrote : Wrote t.stream.output.written taken t.sent t.handed

/-- A talk in order. -/
structure Sound (taken : List Inbound) (t : Talk) : Prop extends Lawful taken t where
  wrote : Wrote t.stream.output.written taken t.sent t.frames
  line : ∀ frame done left task, t.stage = .writing frame done left task →
    done ++ left = frameLine frame
  task : ∀ task, t.stage.task? = some task → task.Fits t.heard taken t.requests

variable {d : Duplex} {t : Talk} {front rest taken heard : List Inbound} {task : Task}
  {answer : Option Reply}

theorem Listens.taken_eq (h : t.stream.Listens t.arrived t.ended taken) : t.taken = taken := by
  have hheard : t.heard = taken ++ t.stream.queue := h.queue
  rw [Talk.taken, hheard, List.length_append, Nat.add_sub_cancel, List.take_left]

theorem Listens.leave {arrived : Bytes} {ended : Bool} (h : d.Listens arrived ended taken)
    (hqueue : d.queue = front ++ rest) :
    Listens { d with queue := rest } arrived ended (taken ++ front) := by
  refine ⟨?_, h.pending, h.reading⟩
  rw [h.queue, hqueue, List.append_assoc]

theorem Lawful.taken_heard (h : Lawful taken t) : taken <+: t.heard :=
  ⟨t.stream.queue, h.listens.queue.symm⟩

theorem Lawful.leave (h : Lawful taken t) (hqueue : t.stream.queue = front ++ rest) :
    Lawful (taken ++ front) (t.leave rest) :=
  ⟨h.opened, h.healthy, h.listens.leave hqueue,
    fun r hr => { h.right r hr with taken := (h.right r hr).taken.trans (List.prefix_append ..) },
    h.order⟩

theorem Rests.leave (h : Rests taken t) (hqueue : t.stream.queue = front ++ rest)
    (hfront : front.count .malformed = 0) : Rests (taken ++ front) (t.leave rest) :=
  ⟨h.toLawful.leave hqueue, h.wrote.pass hfront⟩

/-- Nothing is being written, and a call may be waiting. -/
theorem Rests.stay (h : Rests taken t) {stage : Stage} (hcurrent : stage.current = [])
    (htask : ∀ task, stage.task? = some task → task.Fits t.heard taken t.requests) :
    Sound taken { t with stage } := by
  refine ⟨⟨h.opened, h.healthy, h.listens, h.right, h.order⟩, ?_, ?_, htask⟩
  · show Wrote _ _ _ (t.handed ++ stage.current)
    rw [hcurrent, List.append_nil]
    exact h.wrote
  · rintro frame done left task rfl
    cases hcurrent

/-- A frame is handed to the writer. -/
theorem Lawful.hand (h : Lawful taken t) {frame : Frame}
    (hwrote : Wrote t.stream.output.written taken t.sent (t.handed ++ [⟨frame, [], false⟩]))
    (htask : task.Fits t.heard taken t.requests) : Sound taken (t.hand frame task) := by
  refine ⟨⟨h.opened, h.healthy, h.listens, h.right, h.order⟩, hwrote, ?_, ?_⟩
  · rintro _ _ _ _ ⟨⟩
    rfl
  · rintro _ ⟨⟩
    exact htask

/-- A request is over. It was asked after the ones before it were. -/
theorem Rests.settle (h : Rests taken t) {asked : List Inbound} {prompted : Option (List Inbound)}
    (hbefore : ∀ r ∈ t.requests, r.taken <+: asked)
    (hright : Request.Right t.heard taken ⟨asked, prompted, taken, answer⟩) :
    Sound taken (t.settle asked prompted answer) := by
  rw [Talk.settle, h.listens.taken_eq]
  refine ⟨⟨h.opened, h.healthy, h.listens, ?_, ?_⟩, ?_, nofun, nofun⟩
  · exact List.forall_mem_append.mpr ⟨h.right, List.forall_mem_singleton.mpr hright⟩
  · refine List.pairwise_append.mpr ⟨h.order, List.pairwise_singleton .., ?_⟩
    intro r hr r' hr'
    rw [List.mem_singleton.mp hr']
    exact hbefore r hr
  · show Wrote _ _ _ (t.handed ++ [])
    rw [List.append_nil]
    exact h.wrote

theorem Asked.starts {requests : List Request} {asked : List Inbound}
    (h : Asked taken requests asked) : asked <+: taken := by
  obtain ⟨passed, rfl, -⟩ := h.passed
  exact List.prefix_append ..

/-- A call is over without a reply. -/
theorem Rests.conclude (h : Rests taken t) {earlier : List Inbound} (hearlier : earlier <+: taken)
    (htask : task.Fits t.heard earlier t.requests)
    (hanswer : ∀ reply, answer ≠ some (.ok reply)) : Sound taken (t.conclude task answer) := by
  have hunanswered {P : Prop} : ∀ reply, answer = some (.ok reply) → P :=
    fun reply hreply => absurd hreply (hanswer reply)
  cases task with
  | saying => exact h.stay rfl nofun
  | clearing text =>
      rw [Talk.conclude, h.listens.taken_eq]
      exact h.settle (fun r hr => (h.right r hr).taken)
        ⟨List.prefix_rfl, List.prefix_rfl, nofun, fun reply => hunanswered reply⟩
  | asking asked =>
      exact h.settle htask.before
        ⟨htask.starts.trans hearlier, List.prefix_rfl, nofun, fun reply => hunanswered reply⟩
  | awaiting asked prompted =>
      obtain ⟨hasked, hprompted⟩ := htask
      refine h.settle hasked.before
        ⟨hasked.starts.trans hearlier, List.prefix_rfl, ?_, fun reply => hunanswered reply⟩
      rintro _ ⟨⟩
      exact hprompted

/-! ## Between two waits -/

/-- A call takes lines. The first that is no frame is answered; the first that decides ends
the call; and if there is neither, the call goes on. -/
theorem Rests.consume (h : Rests taken t) {accept : Frame → Option Text} {drained : Talk → Talk}
    (hpassed : ∀ passed, (∀ i ∈ passed, decision accept i = none) →
      task.Fits t.heard (taken ++ passed) t.requests)
    (hdrained : ∀ passed, (∀ i ∈ passed, decision accept i = none) →
      Rests (taken ++ passed) (t.leave []) → Sound (taken ++ passed) (drained (t.leave [])))
    (hsettled : ∀ passed i rest reply, (∀ i ∈ passed, decision accept i = none) →
      decision accept i = some reply → Rests (taken ++ (passed ++ [i])) (t.leave rest) →
      Sound (taken ++ (passed ++ [i])) ((t.leave rest).conclude task (some reply))) :
    ∃ taken', Sound taken' (t.consume accept task drained) := by
  obtain ⟨passed, hundecided, hcount, hcases⟩ := heed_cases accept t.stream.queue
  rw [Talk.consume]
  rcases hcases with ⟨hqueue, hheed⟩ | ⟨rest, hqueue, hheed⟩ | ⟨i, rest, reply, hqueue, hi, hheed⟩
  all_goals rw [hheed]
  · have hrests := h.leave (hqueue.trans (List.append_nil _).symm) hcount
    exact ⟨_, hdrained passed hundecided hrests⟩
  · rw [List.append_cons] at hqueue
    have hundecided' : ∀ i ∈ passed ++ [.malformed], decision accept i = none :=
      List.forall_mem_append.mpr ⟨hundecided, List.forall_mem_singleton.mpr rfl⟩
    have hwrote := (h.wrote.pass hcount).reject
    rw [List.append_assoc] at hwrote
    exact ⟨_, (h.toLawful.leave hqueue).hand hwrote (hpassed _ hundecided')⟩
  · rw [List.append_cons] at hqueue
    have hcount' : (passed ++ [i]).count .malformed = 0 := by
      rw [List.count_append, hcount, Nat.zero_add, List.count_eq_zero]
      rintro hmem
      rw [← List.mem_singleton.mp hmem] at hi
      cases hi
    exact ⟨_, hsettled passed i rest reply hundecided hi (h.leave hqueue hcount')⟩

/-- What is queued is thrown away, and then the prompt is handed over. -/
theorem Rests.clear (h : Rests taken t) (text : Text) :
    ∃ taken', Sound taken' (t.clear text) := by
  refine h.consume (fun _ _ => trivial) (fun passed _ hrests => ?_) ?_
  · -- All that was read has been taken.
    have hheard : (t.leave []).heard = taken ++ passed := by
      have hqueue : (t.leave []).heard = taken ++ passed ++ [] := hrests.listens.queue
      rwa [List.append_nil] at hqueue
    refine Lawful.hand (t := { t.leave [] with sent := t.sent ++ [.prompt text] })
      ⟨hrests.opened, hrests.healthy, hrests.listens, hrests.right, hrests.order⟩
      (hrests.wrote.send (.prompt text)) ?_
    rw [hheard]
    exact ⟨fun r hr => (hrests.right r hr).taken, [], (List.append_nil _).symm, fun _ => nofun⟩
  · intro passed i rest reply _ hi hrests
    refine hrests.conclude List.prefix_rfl trivial ?_
    rintro text ⟨⟩
    rcases decided_cases hi with ⟨f, _, _, hf, _⟩ | ⟨e, _, he⟩
    · cases hf
    · cases he

/-- A request that has asked takes lines up to a reply. -/
theorem Rests.receive (h : Rests taken t) {asked prompted : List Inbound}
    (htask : (Task.awaiting asked prompted).Fits t.heard taken t.requests) :
    ∃ taken', Sound taken' (t.receive asked prompted) := by
  obtain ⟨hasked, hprompted⟩ := htask
  obtain ⟨before, hbefore, hnone⟩ := hasked.passed
  have hpassed (passed : List Inbound) (hundecided : ∀ i ∈ passed, decision inputOf i = none) :
      Asked (taken ++ passed) t.requests asked := by
    refine ⟨hasked.before, before ++ passed, ?_, ?_⟩
    · rw [hbefore, List.append_assoc]
    · exact hnone.append (noInput_of_passed (passed_of_undecided hundecided))
  refine h.consume (fun passed hundecided => ⟨hpassed passed hundecided, hprompted⟩)
    (fun passed hundecided hrests => ?_) ?_
  · have hfits : (Task.awaiting asked prompted).Fits t.heard (taken ++ passed) t.requests :=
      ⟨hpassed passed hundecided, hprompted⟩
    rw [Talk.wait]
    split
    · refine hrests.stay rfl ?_
      rintro _ ⟨⟩
      exact hfits
    · exact hrests.conclude List.prefix_rfl hfits fun _ => nofun
  · intro passed i rest reply hundecided hi hrests
    rcases decided_cases hi with ⟨f, text, rfl, hf, rfl⟩ | ⟨e, rfl, rfl⟩
    · cases f with
      | input text =>
          cases hf
          refine hrests.settle hasked.before ⟨?_, List.prefix_rfl, ?_, ?_⟩
          · exact hasked.starts.trans (List.prefix_append ..)
          · rintro _ ⟨⟩
            exact hprompted
          · rintro _ ⟨⟩
            obtain ⟨all, hall, hno⟩ := (hpassed passed hundecided).passed
            refine ⟨rfl, all, ?_, hno⟩
            rw [← hall, List.append_assoc]
      | _ => cases hf
    · exact hrests.conclude (List.prefix_append ..) ⟨hasked, hprompted⟩ fun _ => nofun

/-! ## One move -/

/-- What was heard stays heard. -/
theorem Request.Right.mono {r : Request} {heard' : List Inbound} (h : r.Right heard taken)
    (hheard : heard <+: heard') : r.Right heard' taken :=
  { h with prompted := fun p hp => (h.prompted p hp).imp_right (·.trans hheard) }

theorem Task.Fits.mono {heard' : List Inbound} {requests : List Request}
    (h : task.Fits heard taken requests) (hheard : heard <+: heard') :
    task.Fits heard' taken requests := by
  cases task with
  | saying => trivial
  | clearing text => trivial
  | asking asked => exact h
  | awaiting asked prompted => exact ⟨h.1, h.2.1, h.2.2.trans hheard⟩

theorem Sound.rests (h : Sound taken t) : Rests taken { t with handed := t.frames } :=
  ⟨⟨h.opened, h.healthy, h.listens, h.right, h.order⟩, h.wrote⟩

theorem Sound.rests_of_current (h : Sound taken t) (hcurrent : t.stage.current = []) :
    Rests taken t := by
  refine ⟨h.toLawful, ?_⟩
  have hwrote : Wrote _ _ _ (t.handed ++ t.stage.current) := h.wrote
  rwa [hcurrent, List.append_nil] at hwrote

/-- The stream reads on; what is read is queued and not taken yet. -/
theorem Sound.reads {stream : Duplex} {arrived : Bytes} {ended : Bool} (h : Sound taken t)
    (hclosed : stream.closed = t.stream.closed) (houtput : stream.output = t.stream.output)
    (hqueue : t.stream.queue <+: stream.queue) (hlistens : stream.Listens arrived ended taken) :
    Sound taken { t with stream, arrived, ended } := by
  have hheard : t.heard <+: heardIn arrived ended := by
    rw [Talk.heard, h.listens.queue, hlistens.queue]
    exact (List.prefix_append_right_inj taken).mpr hqueue
  refine ⟨⟨hclosed.trans h.opened, ?_, hlistens, fun r hr => (h.right r hr).mono hheard, h.order⟩,
    ?_, h.line, fun task htask => (h.task task htask).mono hheard⟩
  · show stream.output.Healthy
    rw [houtput]
    exact h.healthy
  · show Wrote stream.output.written _ _ _
    rw [houtput]
    exact h.wrote

theorem Sound.arrive (h : Sound taken t) (bytes : Bytes) :
    Sound taken (t.step (.arrive bytes)) := by
  rw [Talk.step]
  cases hended : t.ended with
  | true =>
      rw [if_pos rfl]
      exact h
  | false =>
      rw [if_neg Bool.false_ne_true, ← hended]
      have hlistens := h.listens
      rw [hended] at hlistens
      exact h.reads (deliver_closed ..) (deliver_output ..) (queue_deliver ..)
        (hended ▸ hlistens.deliver bytes)

theorem Sound.finish (h : Sound taken t) : Sound taken (t.step .finish) := by
  rw [Talk.step]
  cases hended : t.ended with
  | true =>
      rw [if_pos rfl]
      exact h
  | false =>
      have hlistens := h.listens
      rw [hended] at hlistens
      exact h.reads (finish_closed _) (finish_output _) (queue_finish _) hlistens.finish

theorem Talk.abandon_stage (t : Talk) : t.abandon.stage = .idle := by
  rw [abandon]
  rcases hstage : t.stage with _ | ⟨frame, done, left, task⟩ | ⟨asked, prompted⟩
  · exact hstage
  · cases task <;> rfl
  · rfl

theorem Sound.abandon (h : Sound taken t) : Sound taken t.abandon := by
  rw [Talk.abandon]
  rcases htask : t.stage.task? with _ | task
  · exact h
  · exact h.rests.conclude List.prefix_rfl (h.task task htask) fun _ => nofun

/-- Nothing is being written when a new call is made. -/
theorem Sound.abandon_rests (h : Sound taken t) : Rests taken t.abandon :=
  h.abandon.rests_of_current (by rw [t.abandon_stage]; rfl)

theorem Rests.say (h : Rests taken t) (f : Frame) : Sound taken (t.say f) := by
  rw [Talk.say, h.opened, if_neg Bool.false_ne_true]
  exact Lawful.hand (t := { t with sent := t.sent ++ [f] })
    ⟨h.opened, h.healthy, h.listens, h.right, h.order⟩ (h.wrote.send f) trivial

theorem Rests.ask (h : Rests taken t) (text : Text) : ∃ taken', Sound taken' (t.ask text) := by
  rw [Talk.ask, h.opened, if_neg Bool.false_ne_true]
  exact h.clear text

theorem Sound.accept (h : Sound taken t) (count : Nat) : Sound taken (t.accept count) := by
  rw [Talk.accept]
  rcases hstage : t.stage with _ | ⟨frame, done, left, task⟩ | ⟨asked, prompted⟩
  · exact h
  · have hline := h.line frame done left task hstage
    have hwrote : Wrote _ _ _ (t.handed ++ t.stage.current) := h.wrote
    rw [hstage] at hwrote
    dsimp only
    rw [h.healthy.write]
    refine ⟨⟨h.opened, h.healthy.plus _, ?_, h.right, h.order⟩, ?_, ?_, ?_⟩
    · exact ⟨h.listens.queue, h.listens.pending, h.listens.reading⟩
    · refine hwrote.goOn ?_ nofun
      rw [← hline, List.prefix_append_right_inj]
      exact List.take_prefix ..
    · rintro _ _ _ _ ⟨⟩
      rw [List.append_assoc, List.take_append_drop, hline]
    · rintro _ ⟨⟩
      exact h.task task (by rw [hstage]; rfl)
  · exact h

/-- The writer is through with a frame, and the call goes on. -/
theorem Sound.flush (h : Sound taken t) : ∃ taken', Sound taken' t.flush := by
  rw [Talk.flush]
  rcases hstage : t.stage with _ | ⟨frame, done, _ | ⟨b, left⟩, task⟩ | ⟨asked, prompted⟩
  · exact ⟨taken, h⟩
  · have hline := h.line frame done [] task hstage
    have htask := h.task task (by rw [hstage]; rfl)
    have hwrote : Wrote _ _ _ (t.handed ++ t.stage.current) := h.wrote
    rw [hstage] at hwrote
    have hthrough : Wrote t.stream.output.written taken t.sent
        (t.handed ++ [⟨frame, done, true⟩]) := by
      have hnothing : Wrote (t.stream.output.written ++ []) taken t.sent
          (t.handed ++ [⟨frame, done ++ [], true⟩]) :=
        hwrote.goOn ⟨[], by rw [← hline]; simp⟩ fun _ => hline
      rwa [List.append_nil, List.append_nil] at hnothing
    have hrests : Rests taken { t with handed := t.handed ++ [⟨frame, done, true⟩] } :=
      ⟨⟨h.opened, h.healthy, h.listens, h.right, h.order⟩, hthrough⟩
    cases task with
    | saying => exact ⟨taken, hrests.stay rfl nofun⟩
    | clearing text => exact hrests.clear text
    | asking asked =>
        exact hrests.receive ⟨htask, htask.starts.trans h.taken_heard, List.prefix_rfl⟩
    | awaiting asked prompted => exact hrests.receive htask
  · exact ⟨taken, h⟩
  · exact ⟨taken, h⟩

theorem Sound.poll (h : Sound taken t) : ∃ taken', Sound taken' t.poll := by
  rw [Talk.poll]
  rcases hstage : t.stage with _ | ⟨frame, done, left, task⟩ | ⟨asked, prompted⟩
  · exact ⟨taken, h⟩
  · exact ⟨taken, h⟩
  · refine (h.rests_of_current (by rw [hstage]; rfl)).receive ?_
    exact h.task (.awaiting asked prompted) (by rw [hstage]; rfl)

/-- **One move preserves the invariant.** -/
theorem Sound.step (h : Sound taken t) (move : Move) :
    ∃ taken', Sound taken' (t.step move) := by
  cases move with
  | arrive bytes => exact ⟨taken, h.arrive bytes⟩
  | finish => exact ⟨taken, h.finish⟩
  | message text => exact ⟨taken, h.abandon_rests.say (.message text)⟩
  | error text => exact ⟨taken, h.abandon_rests.say (.error text)⟩
  | ask text => exact h.abandon_rests.ask text
  | accept count => exact ⟨taken, h.accept count⟩
  | flush => exact h.flush
  | poll => exact h.poll
  | abandon => exact ⟨taken, h.abandon⟩

/-! ## Whole talks -/

theorem sound_start : Sound [] {} where
  opened := rfl
  healthy := ⟨rfl, rfl⟩
  listens := ⟨rfl, fun _ => rfl, rfl⟩
  wrote := ⟨rfl, nofun, nofun, rfl, rfl⟩
  right := nofun
  order := .nil
  line := nofun
  task := nofun

theorem Sound.play (h : Sound taken t) (moves : List Move) :
    ∃ taken', Sound taken' (t.play moves) := by
  induction moves generalizing taken t with
  | nil => exact ⟨taken, h⟩
  | cons move moves ih =>
      obtain ⟨taken₁, h₁⟩ := h.step move
      exact ih h₁

end Duplex

end Dialogue
