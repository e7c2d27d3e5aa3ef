import Dialogue.Channel.Basic

/-!
# Sinks

A sink takes the bytes that a channel writes. It may have room for only so many:
what does not fit is cut off, and the write fails, as does every later one that
is not empty. Flushing and shutting down may fail as well.
-/

namespace Dialogue

/-- Where bytes are written to. -/
structure Sink where
  /-- What has been written and not yet been looked at. -/
  written : Bytes := []
  /-- How many more bytes fit; any number if absent. -/
  room : Option Nat := none
  flushFails : Bool := false
  shutdownFails : Bool := false
  /-- How often the writing has been ended. -/
  shutdowns : Nat := 0
  deriving DecidableEq, Repr

namespace Sink

/-- The error of a failed operation on a sink. -/
def failure (cause : String) : ChannelError :=
  .io cause.toList

/-- Writes all the bytes, or as many as fit. -/
def write (bytes : Bytes) (s : Sink) : Sink × Except ChannelError Unit :=
  match s.room with
  | none => ({ s with written := s.written ++ bytes }, .ok ())
  | some room =>
    let fitting := bytes.take room
    ({ s with written := s.written ++ fitting, room := some (room - fitting.length) },
      if fitting.length = bytes.length then .ok () else .error (failure "sink full"))

/-- Makes sure that what was written is seen. -/
def flush (s : Sink) : Sink × Except ChannelError Unit :=
  (s, if s.flushFails then .error (failure "flush failed") else .ok ())

/-- Ends the writing. -/
def shutdown (s : Sink) : Sink × Except ChannelError Unit :=
  ({ s with shutdowns := s.shutdowns + 1 },
    if s.shutdownFails then .error (failure "shutdown failed") else .ok ())

/-- Writes pieces one after another and flushes, up to the first failure. -/
def writeFlush : List Bytes → Sink → Sink × Except ChannelError Unit
  | [], s => s.flush
  | piece :: rest, s =>
    match s.write piece with
    | (s, .ok ()) => writeFlush rest s
    | (s, .error e) => (s, .error e)

/-- What has been written since the last look. -/
def collect (s : Sink) : Bytes × Sink :=
  (s.written, { s with written := [] })

end Sink

end Dialogue
