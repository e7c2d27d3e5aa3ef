import Dialogue.Proofs.Session.Whole

/-!
# Sessions side by side

Two activities run in parallel if they make the same calls and come to the same results,
whatever they are answered, with sessions that are related at every call and at the end
(`Activity.Parallel`). In one environment they are then one and the same to everybody outside
(`Activity.Parallel.performIn`).

A conversation respects a relation of sessions if it runs in parallel from any two that are
related. That is kept when conversations are put in a row (`Respects.bind`), so it is shown for
what blocks do part by part, and from one block it is carried over to whole runs
(`Session.Accords.run`). Only the blocks that the sessions come to have to do the same.
-/

namespace Dialogue

variable {σ α β : Type} {R R' : Session → Session → Prop}

/-- The same calls and results, with related sessions all the time. -/
inductive Activity.Parallel (R : Session → Session → Prop) : Activity α → Activity α → Prop
  | done {s t : Session} (h : R s t) (a : α) : Parallel R (.done s a) (.done t a)
  | call {s t : Session} {request : Call} {resume resume' : request.Answer → Activity α}
      (h : R s t) (rest : ∀ answer, Parallel R (resume answer) (resume' answer)) :
      Parallel R (.call s request resume) (.call t request resume')

namespace Activity.Parallel

theorem mono {a b : Activity α} (h : Parallel R a b) (hR : ∀ s t, R s t → R' s t) :
    Parallel R' a b := by
  induction h with
  | done h r => exact .done (hR _ _ h) r
  | call h rest ih => exact .call (hR _ _ h) ih

/-- What comes next has to run in parallel only behind results that the first one comes to. -/
theorem bind {a b : Activity α} {next next' : Session → α → Activity β}
    (h : Parallel R a b)
    (hnext : ∀ xs s t r, a.Path xs s (.ok r) → R s t → Parallel R (next s r) (next' t r)) :
    Parallel R (a.bind next) (b.bind next') := by
  induction h with
  | done h r => exact hnext [] _ _ r (.done _ r) h
  | call h rest ih =>
      exact .call h fun answer => ih answer fun xs s t r hpath =>
        hnext _ s t r (.answered answer hpath)

/-- Who answers cannot tell one from the other. -/
theorem performIn {a b : Activity α} (h : Parallel R a b) (env : Environment σ) (w : σ) :
    (a.performIn env w).world = (b.performIn env w).world
      ∧ (a.performIn env w).exchanges = (b.performIn env w).exchanges
      ∧ (a.performIn env w).outcome = (b.performIn env w).outcome
      ∧ R (a.performIn env w).session (b.performIn env w).session := by
  induction h generalizing w with
  | done h r => exact ⟨rfl, rfl, rfl, h⟩
  | @call s t request _ _ h rest ih =>
      rw [Activity.performIn, Activity.performIn]
      rcases env.answer request w with ⟨w', _ | answer⟩
      · exact ⟨rfl, rfl, rfl, h⟩
      · obtain ⟨hworld, hexchanges, houtcome, hsession⟩ := ih answer w'
        exact ⟨hworld, congrArg (⟨request, answer⟩ :: ·) hexchanges, houtcome, hsession⟩

end Activity.Parallel

/-! ## Conversations -/

namespace Conversation

/-- From related sessions on, the conversation runs in parallel. -/
def Respects (R : Session → Session → Prop) (c : Conversation α) : Prop :=
  ∀ s t, R s t → Activity.Parallel R (c s) (c t)

theorem respects_pure (a : α) : Respects R (Pure.pure a : Conversation α) :=
  fun _ _ h => Activity.Parallel.done h (Except.ok a)

theorem respects_fail (failure : Failure) : Respects R (fail failure : Conversation α) :=
  fun _ _ h => Activity.Parallel.done h (Except.error failure)

theorem respects_update {f : Session → Session} (hf : ∀ s t, R s t → R (f s) (f t)) :
    Respects R (update f) :=
  fun s t h => Activity.Parallel.done (hf s t h) (Except.ok ())

theorem respects_call (request : Call) : Respects R (call request) :=
  fun _ _ h => Activity.Parallel.call h fun answer => Activity.Parallel.done h (Except.ok answer)

theorem Respects.bind {c : Conversation α} {next : α → Conversation β} (hc : Respects R c)
    (hnext : ∀ a, Respects R (next a)) : Respects R (c >>= next) := by
  refine fun s t h => (hc s t h).bind fun _ s t r _ h => ?_
  cases r with
  | ok a => exact hnext a s t h
  | error failure => exact Activity.Parallel.done h (Except.error failure)

/-- A conversation that looks at its session does the same in a related one. -/
theorem respects_session_bind {next : Session → Conversation β}
    (hsame : ∀ s t, R s t → next s = next t) (hnext : ∀ s t, R s t → Respects R (next s)) :
    Respects R (session >>= next) := by
  intro s t h
  rw [session_bind_apply, session_bind_apply, ← hsame s t h]
  exact hnext s t h s t h

end Conversation

/-! ## Runs -/

namespace Session

open Conversation

/-- Related sessions are at the same place, they do the same there, and where it leads them
they are related again. -/
structure Accords (R : Session → Session → Prop) : Prop where
  position : ∀ s t, R s t → s.position = t.position
  step : ∀ s t id, R s t → s.position = .ok id → Activity.Parallel R (step id s) (step id t)
  finish : ∀ t, Respects R (finish t)
  settle : ∀ s t id xs s' t' result, R s t → s.position = .ok id →
    (Conversation.step id s).Path xs s' (.ok result) → R s' t' →
      R (s'.settle result) (t'.settle result)

theorem Accords.conclude (hR : Accords R) (u : Termination) {s t : Session} (h : R s t) :
    Activity.Parallel R ((Conversation.finish u s).bind fun s _ => .done s (some u))
      ((Conversation.finish u t).bind fun s _ => .done s (some u)) :=
  (hR.finish u s t h).bind fun _ _ _ _ _ h => .done h (some u)

theorem Accords.whole (hR : Accords R) (blocks : Nat) {s t : Session} (h : R s t) :
    Activity.Parallel R (s.whole blocks) (t.whole blocks) := by
  induction blocks generalizing s t with
  | zero =>
      rw [Session.whole, Session.whole, ← hR.position s t h]
      rcases s.position with u | id
      · exact hR.conclude u h
      · exact .done h none
  | succ blocks ih =>
      rw [Session.whole, Session.whole, ← hR.position s t h]
      rcases hpos : s.position with u | id
      · exact hR.conclude u h
      · exact (hR.step s t id h hpos).bind fun xs s' t' result hpath h' =>
          ih (hR.settle s t id xs s' t' result h hpos hpath h')

/-- **Related sessions have the same runs.** -/
theorem Accords.run (hR : Accords R) (env : Environment σ) (blocks : Nat) (w : σ)
    {s t : Session} (h : R s t) :
    (s.run env blocks w).world = (t.run env blocks w).world
      ∧ (s.run env blocks w).exchanges = (t.run env blocks w).exchanges
      ∧ (s.run env blocks w).stop = (t.run env blocks w).stop
      ∧ R (s.run env blocks w).session (t.run env blocks w).session := by
  obtain ⟨hworld, hexchanges, houtcome, hsession⟩ := (hR.whole blocks h).performIn env w
  rw [run_eq_performIn, run_eq_performIn]
  exact ⟨hworld, hexchanges, congrArg Stop.ofOutcome houtcome, hsession⟩

end Session

end Dialogue
