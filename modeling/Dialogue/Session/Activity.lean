import Dialogue.Session.State

/-!
# Activities

An activity is what a conversation does next: it comes to a result, or it makes a
call to the outside world and goes on with the answer. It is a tree, so what a
conversation does is told without saying who answers. At every call it holds the
session as it stands while the call is open; if no answer comes, that session is
what remains.

`Conversation` is the monad of activities that read and change the session and
may fail.
-/

namespace Dialogue

/-- A call to the outside world. -/
inductive Call where
  | message (text : Text)
  | error (text : Text)
  | input (prompt : Text)
  | fetch (url : Text)
  | close
  deriving DecidableEq, Repr

/-- The answers to a call. -/
@[reducible] def Call.Answer : Call → Type
  | .message _ => Unit
  | .error _ => Unit
  | .input _ => Reply
  | .fetch _ => Response
  | .close => Unit

/-- What a conversation does next. -/
inductive Activity (α : Type) where
  | done (session : Session) (result : α)
  | call (session : Session) (request : Call) (resume : request.Answer → Activity α)

namespace Activity

variable {α β : Type}

/-- Goes on after an activity has come to its result. -/
def bind (next : Session → α → Activity β) : Activity α → Activity β
  | .done session a => next session a
  | .call session request resume =>
    .call session request fun answer => bind next (resume answer)

end Activity

/-- An activity from a session on, which may fail. -/
def Conversation (α : Type) : Type :=
  Session → Activity (Except Failure α)

namespace Conversation

variable {α β : Type}

/-- Comes to a result at once. -/
def pure (a : α) : Conversation α := fun session =>
  .done session (.ok a)

/-- Goes on with a result; a failure ends it. -/
def bind (c : Conversation α) (next : α → Conversation β) : Conversation β :=
  fun session =>
    (c session).bind fun session result =>
      match result with
      | .ok a => next a session
      | .error failure => .done session (.error failure)

instance : Monad Conversation where
  pure := pure
  bind := bind

/-- Fails. -/
def fail (failure : Failure) : Conversation α := fun session =>
  .done session (.error failure)

/-- The session as it stands. -/
def session : Conversation Session := fun session =>
  .done session (.ok session)

/-- Changes the session. -/
def update (f : Session → Session) : Conversation Unit := fun session =>
  .done (f session) (.ok ())

/-- Makes a call. -/
def call (request : Call) : Conversation request.Answer := fun session =>
  .call session request fun answer => .done session (.ok answer)

end Conversation

end Dialogue
