import Dialogue.Proofs.Session.History

/-!
# Runs as activities

A run that may enter so many blocks is one activity, `whole`: the blocks in a row, and the
report behind them. Performing it is the run (`run_eq_performIn`), so a statement on all
activities is one on all runs.

While a call is open the session stands still. Such a moment is a call together with that
session, and `moments` lists those of a run in order, whether the calls were answered or not:
their requests are the calls of the run (`moments_calls`), and each of them is where the run
would have stopped if it had been abandoned there (`course_of_moments`).
-/

namespace Dialogue

variable {σ α β : Type}

/-! ## The calls that were made -/

def Call.isInput : Call → Bool
  | .input _ => true
  | _ => false

/-- The calls of a performance, and behind them the one that was not answered. -/
def Performance.calls (p : Performance σ α) : List Call :=
  p.exchanges.map Exchange.request ++
    match p.outcome with
    | .error request => [request]
    | .ok _ => []

/-- The calls of a run, and behind them the one that was not answered. -/
def Run.calls (r : Run σ) : List Call :=
  r.exchanges.map Exchange.request ++
    match r.stop with
    | .pending request => [request]
    | _ => []

/-- A call, with the session as it stands while the call is open. -/
structure Moment where
  session : Session
  request : Call

namespace Activity

/-- The moments of an activity in an environment. -/
def moments (env : Environment σ) : Activity α → σ → List Moment
  | .done _ _, _ => []
  | .call session request resume, world =>
    ⟨session, request⟩ ::
      match env.answer request world with
      | (_, none) => []
      | (world, some answer) => (resume answer).moments env world

theorem calls_call (env : Environment σ) (s : Session) (request : Call)
    (resume : request.Answer → Activity α) (w : σ) :
    ((call s request resume).performIn env w).calls =
      request ::
        match env.answer request w with
        | (_, none) => []
        | (w', some answer) => ((resume answer).performIn env w').calls := by
  rw [performIn]
  rcases env.answer request w with ⟨w', _ | answer⟩ <;> rfl

theorem moments_calls (env : Environment σ) (a : Activity α) (w : σ) :
    (a.moments env w).map Moment.request = (a.performIn env w).calls := by
  induction a generalizing w with
  | done s r => rfl
  | call s request resume ih =>
      rw [moments, calls_call]
      rcases env.answer request w with ⟨w', _ | answer⟩
      · rfl
      · exact congrArg (request :: ·) (ih answer w')

theorem performIn_bind (env : Environment σ) (a : Activity α)
    (next : Session → α → Activity β) (w : σ) :
    (a.bind next).performIn env w =
      let p := a.performIn env w
      match p.outcome with
      | .error request => ⟨p.world, p.session, p.exchanges, .error request⟩
      | .ok r =>
        let rest := (next p.session r).performIn env p.world
        { rest with exchanges := p.exchanges ++ rest.exchanges } := by
  induction a generalizing w with
  | done s r => rfl
  | call s request resume ih =>
      rw [bind, performIn, performIn]
      rcases env.answer request w with ⟨w', _ | answer⟩
      · rfl
      · dsimp only
        rw [ih answer w']
        obtain ⟨w'', s', xs, q | r⟩ := (resume answer).performIn env w' <;> rfl

theorem moments_bind (env : Environment σ) (a : Activity α)
    (next : Session → α → Activity β) (w : σ) :
    (a.bind next).moments env w =
      let p := a.performIn env w
      a.moments env w ++
        match p.outcome with
        | .error _ => []
        | .ok r => (next p.session r).moments env p.world := by
  induction a generalizing w with
  | done s r => rfl
  | call s request resume ih =>
      rw [bind, moments, moments, performIn]
      rcases env.answer request w with ⟨w', _ | answer⟩
      · rfl
      · exact congrArg (⟨s, request⟩ :: ·) (ih answer w')

/-- An activity could have stopped at each of its moments: a path leads there, with as many
exchanges as there are moments before. -/
theorem path_of_moments {env : Environment σ} {a : Activity α} {w : σ} {m : Moment}
    {before after : List Moment} (h : a.moments env w = before ++ m :: after) :
    ∃ xs, xs.length = before.length ∧ a.Path xs m.session (.error m.request) := by
  induction a generalizing w before with
  | done s r =>
      rw [moments] at h
      simp at h
  | call s request resume ih =>
      rw [moments] at h
      rcases before with _ | ⟨first, before⟩
      · obtain ⟨rfl, -⟩ := List.cons_eq_cons.mp h
        exact ⟨[], rfl, .pending s request resume⟩
      · obtain ⟨rfl, hrest⟩ := List.cons_eq_cons.mp h
        rcases hans : env.answer request w with ⟨w', _ | answer⟩ <;> rw [hans] at hrest
        · simp at hrest
        · obtain ⟨xs, hlength, hpath⟩ := ih answer hrest
          refine ⟨⟨request, answer⟩ :: xs, ?_, .answered answer hpath⟩
          rw [List.length_cons, List.length_cons, hlength]

end Activity

/-! ## The activity of a run -/

def Stop.ofOutcome : Except Call (Option Termination) → Stop
  | .ok (some termination) => .returned termination
  | .ok none => .exhausted
  | .error request => .pending request

namespace Session

open Conversation

/-- What a session does until its ending is reported, or until it has entered so many
blocks. -/
def whole : Nat → Session → Activity (Option Termination)
  | 0, s =>
    match s.position with
    | .error termination => (finish termination s).bind fun s _ => .done s (some termination)
    | .ok _ => .done s none
  | blocks + 1, s =>
    match s.position with
    | .error termination => (finish termination s).bind fun s _ => .done s (some termination)
    | .ok block => (step block s).bind fun s result => whole blocks (s.settle result)

def moments (env : Environment σ) (blocks : Nat) (s : Session) (world : σ) : List Moment :=
  (s.whole blocks).moments env world

theorem conclude_eq_performIn (env : Environment σ) (t : Termination) (s : Session) (w : σ) :
    s.conclude env t w =
      let p := ((finish t s).bind fun s _ => .done s (some t)).performIn env w
      ⟨p.world, p.session, p.exchanges, .ofOutcome p.outcome⟩ := by
  rw [conclude, Activity.performIn_bind]
  dsimp only
  rcases ((finish t s).performIn env w).outcome with request | u
  · rfl
  · dsimp only [Activity.performIn]
    rw [List.append_nil]
    rfl

/-- **A run is the performance of one activity.** -/
theorem run_eq_performIn (env : Environment σ) (blocks : Nat) (s : Session) (w : σ) :
    s.run env blocks w =
      let p := (s.whole blocks).performIn env w
      ⟨p.world, p.session, p.exchanges, .ofOutcome p.outcome⟩ := by
  induction blocks generalizing s w with
  | zero =>
      rw [run, whole]
      rcases s.position with t | id
      · exact conclude_eq_performIn env t s w
      · rfl
  | succ blocks ih =>
      rw [run, whole]
      rcases s.position with t | id
      · exact conclude_eq_performIn env t s w
      dsimp only
      rw [Activity.performIn_bind]
      dsimp only
      rcases ((step id s).performIn env w).outcome with request | result
      · rfl
      · dsimp only
        rw [ih]
        rfl

theorem calls_run (env : Environment σ) (blocks : Nat) (s : Session) (w : σ) :
    (s.run env blocks w).calls = ((s.whole blocks).performIn env w).calls := by
  rw [run_eq_performIn, Run.calls, Performance.calls]
  dsimp only
  rcases ((s.whole blocks).performIn env w).outcome with request | _ | t <;> rfl

theorem moments_calls (env : Environment σ) (blocks : Nat) (s : Session) (w : σ) :
    (s.moments env blocks w).map Moment.request = (s.run env blocks w).calls := by
  rw [calls_run, moments, Activity.moments_calls]

theorem course_of_finish_path {t : Termination} {s s' : Session} {xs : List Exchange}
    {o : Except Call (Option Termination)} (hpos : s.position = .error t)
    (h : ((finish t s).bind fun s _ => .done s (some t)).Path xs s' o) :
    s.Course xs s' (.ofOutcome o) := by
  rcases Activity.path_bind h with ⟨request, rfl, hpath⟩ | ⟨ys, zs, u, r, rfl, hpath, hdone⟩
  · exact .unconcluded hpos (finished_of_path hpath)
  · obtain ⟨rfl, rfl, rfl⟩ := Activity.path_done_iff.mp hdone
    rw [List.append_nil]
    cases r with
    | ok r => exact .concluded hpos (finished_of_path hpath)
    | error failure => cases finished_of_path hpath

/-- Every path of a run's activity is a course of the session. -/
theorem course_of_path {blocks : Nat} {s s' : Session} {xs : List Exchange}
    {o : Except Call (Option Termination)} (h : (s.whole blocks).Path xs s' o) :
    s.Course xs s' (.ofOutcome o) := by
  induction blocks generalizing s xs with
  | zero =>
      rw [whole] at h
      rcases hpos : s.position with t | id <;> rw [hpos] at h
      · exact course_of_finish_path hpos h
      · obtain ⟨rfl, rfl, rfl⟩ := Activity.path_done_iff.mp h
        exact .exhausted hpos
  | succ blocks ih =>
      rw [whole] at h
      rcases hpos : s.position with t | id <;> rw [hpos] at h
      · exact course_of_finish_path hpos h
      rcases Activity.path_bind h with ⟨request, rfl, hpath⟩ | ⟨ys, zs, u, r, rfl, hpath, hrest⟩
      · exact .halted hpos (entered_of_path hpath)
      · exact .went hpos (entered_of_path hpath) (ih hrest)

/-- A run could have stopped at each of its moments. -/
theorem course_of_moments {env : Environment σ} {blocks : Nat} {s : Session} {w : σ}
    {m : Moment} {before after : List Moment}
    (h : s.moments env blocks w = before ++ m :: after) :
    ∃ xs, xs.length = before.length ∧ s.Course xs m.session (.pending m.request) := by
  obtain ⟨xs, hlength, hpath⟩ := Activity.path_of_moments h
  exact ⟨xs, hlength, course_of_path hpath⟩

end Session

end Dialogue
