import Dialogue.Channel.Client

/-!
# Waiting, move by move

A channel that waits takes what has arrived; else it is given the next batch, and after
the last one it waits in vain or learns that no more will come. These are the moves of
`Waiting.wait`, one lemma each.
-/

namespace Dialogue.Waiting

variable {τ β α : Type} {w : Waiting τ β α} {state state' : τ} {holds : Bool}

theorem wait_received {a : α} (h : w.receive state = (state', some a)) (batches : List β) :
    w.wait holds batches state = ((state', batches), some a) := by
  cases batches <;> rw [wait, h]

theorem wait_batch (h : w.receive state = (state', none)) (batch : β) (rest : List β) :
    w.wait holds (batch :: rest) state = w.wait holds rest (w.deliver batch state') := by
  rw [wait, h]

theorem wait_finish (h : w.receive state = (state', none)) :
    w.wait false [] state =
      (((w.receive (w.finish state')).1, []), (w.receive (w.finish state')).2) := by
  rw [wait, h]
  rfl

theorem wait_hold (h : w.receive state = (state', none)) :
    w.wait true [] state = ((state', []), none) := by
  rw [wait, h]
  rfl

/-- A wait during which some batches are delivered, with what comes of it. -/
inductive Waits (w : Waiting τ β α) : τ → List β → τ → Option α → Prop
  | received {s s' : τ} {a : α} (h : w.receive s = (s', some a)) : Waits w s [] s' (some a)
  | held {s s' : τ} (h : w.receive s = (s', none)) : Waits w s [] s' none
  | finished {s s' : τ} (h : w.receive s = (s', none)) :
      Waits w s [] (w.receive (w.finish s')).1 (w.receive (w.finish s')).2
  | batch {s s' s'' : τ} {batch : β} {delivered : List β} {a : Option α}
      (h : w.receive s = (s', none)) (rest : Waits w (w.deliver batch s') delivered s'' a) :
      Waits w s (batch :: delivered) s'' a

theorem waits_wait (w : Waiting τ β α) (holds : Bool) (batches : List β) (state : τ) :
    ∃ delivered, batches = delivered ++ (w.wait holds batches state).1.2
      ∧ w.Waits state delivered (w.wait holds batches state).1.1
        (w.wait holds batches state).2 := by
  induction batches generalizing state with
  | nil =>
      rcases hreceive : w.receive state with ⟨state', _ | a⟩
      · cases holds with
        | true =>
            rw [wait_hold hreceive]
            exact ⟨[], rfl, .held hreceive⟩
        | false =>
            rw [wait_finish hreceive]
            exact ⟨[], rfl, .finished hreceive⟩
      · rw [wait_received hreceive]
        exact ⟨[], rfl, .received hreceive⟩
  | cons batch rest ih =>
      rcases hreceive : w.receive state with ⟨state', _ | a⟩
      · rw [wait_batch hreceive]
        obtain ⟨delivered, hrest, hwaits⟩ := ih (w.deliver batch state')
        exact ⟨batch :: delivered, congrArg (batch :: ·) hrest, .batch hreceive hwaits⟩
      · rw [wait_received hreceive]
        exact ⟨[], rfl, .received hreceive⟩

end Dialogue.Waiting
