import Dialogue.Session.Step

/-!
# Runs

An environment answers the calls of a conversation, each at once or never. A run
takes a session on until its ending has been reported, or until a call stays
without an answer. A run that was abandoned can be followed by another one, which
enters the current block again.

A conversation may go round for ever without asking anything, so a run is given
the number of blocks that it may enter.
-/

namespace Dialogue

/-- Who answers calls: what comes of a call, and the answer if there is one. -/
structure Environment (σ : Type) where
  answer : (request : Call) → σ → σ × Option request.Answer

/-- A call that was answered. -/
structure Exchange where
  request : Call
  answer : request.Answer

/-! ## Performing activities -/

/-- What comes of performing an activity. -/
structure Performance (σ α : Type) where
  world : σ
  session : Session
  /-- The calls that were answered, in order. -/
  exchanges : List Exchange
  /-- The result, or the call that was not answered. -/
  outcome : Except Call α

variable {σ : Type}

/-- Performs an activity in an environment. -/
def Activity.performIn {α : Type} (env : Environment σ) :
    Activity α → σ → Performance σ α
  | .done session a, world => ⟨world, session, [], .ok a⟩
  | .call session request resume, world =>
    match env.answer request world with
    | (world, none) => ⟨world, session, [], .error request⟩
    | (world, some answer) =>
      let rest := (resume answer).performIn env world
      { rest with exchanges := ⟨request, answer⟩ :: rest.exchanges }

/-! ## Runs -/

/-- How a run stops. -/
inductive Stop where
  /-- The ending has been reported. -/
  | returned (termination : Termination)
  /-- A call is not answered. -/
  | pending (request : Call)
  /-- As many blocks as allowed have been entered. -/
  | exhausted
  deriving DecidableEq, Repr

/-- What comes of a run. -/
structure Run (σ : Type) where
  world : σ
  session : Session
  exchanges : List Exchange
  stop : Stop

/-- A run that begins with other calls. -/
def Run.after (exchanges : List Exchange) (r : Run σ) : Run σ :=
  { r with exchanges := exchanges ++ r.exchanges }

namespace Session

/-- Reports the ending of a session that has ended. -/
def conclude (env : Environment σ) (termination : Termination) (s : Session)
    (world : σ) : Run σ :=
  let p := (Conversation.finish termination s).performIn env world
  ⟨p.world, p.session, p.exchanges,
    match p.outcome with
    | .ok _ => .returned termination
    | .error request => .pending request⟩

/-- The block that a session is at, or how it has ended. -/
def position (s : Session) : Except Termination Text :=
  match s.standing with
  | .running block => .ok block
  | .awaiting block _ => .ok block
  | .terminated termination => .error termination

/-- Runs a session, entering at most so many blocks. -/
def run (env : Environment σ) : Nat → Session → σ → Run σ
  | 0, s, world =>
    match s.position with
    | .error termination => s.conclude env termination world
    | .ok _ => ⟨world, s, [], .exhausted⟩
  | blocks + 1, s, world =>
    match s.position with
    | .error termination => s.conclude env termination world
    | .ok block =>
      let p := (Conversation.step block s).performIn env world
      match p.outcome with
      | .error request => ⟨p.world, p.session, p.exchanges, .pending request⟩
      | .ok result =>
        (run env blocks (p.session.settle result) p.world).after p.exchanges

end Session

/-! ## Channels and fetchers as environments -/

/-- The environment of a channel and of whoever answers external calls. -/
def Channel.environmentWith {τ φ : Type} (channel : Channel τ)
    (fetch : Text → φ → φ × Option Response) : Environment (τ × φ) where
  answer request world :=
    match request with
    | .message text =>
      let (state, a) := channel.message text world.1
      ((state, world.2), a)
    | .error text =>
      let (state, a) := channel.error text world.1
      ((state, world.2), a)
    | .input prompt =>
      let (state, a) := channel.input prompt world.1
      ((state, world.2), a)
    | .fetch url =>
      let (fetcher, a) := fetch url world.2
      ((world.1, fetcher), a)
    | .close =>
      let (state, a) := channel.close world.1
      ((state, world.2), a)

/-- The environment of a channel and a fetcher. -/
def Channel.environment {τ : Type} (channel : Channel τ) :
    Environment (τ × Fetcher) :=
  channel.environmentWith Fetcher.fetch

end Dialogue
