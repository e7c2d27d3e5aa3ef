import Dialogue.Proofs.Session.Rules

/-!
# Courses of runs

A course is what a run can come to, whoever answers: blocks entered one after
another, and at the end the report. Every run is a course of its session
(`course_run`), so what is proved by induction over courses holds of every run,
in every environment and for every number of blocks that it may enter.
-/

namespace Dialogue

variable {σ : Type}

namespace Conversation

/-- An ending is reported by a message or by an error. -/
theorem reportOf_cases (prompts : Prompts) (t : Termination) :
    (∃ text, reportOf prompts t = .message text)
      ∨ ∃ text, reportOf prompts t = .error text := by
  rcases t with (_ | _) | failure
  · exact Or.inl ⟨_, rfl⟩
  · exact Or.inl ⟨_, rfl⟩
  · rw [reportOf]
    split
    · exact Or.inr ⟨_, rfl⟩
    · exact Or.inl ⟨_, rfl⟩

theorem finish_apply (t : Termination) (s : Session) :
    finish t s =
      if s.closed then .done s (.ok ())
      else .call s (reportOf s.settings.prompts t) fun _ =>
        .call s .close fun _ => .done { s with closed := true } (.ok ()) := by
  rw [finish, session_bind_apply]
  split <;> rfl

/-- What can come of reporting an ending. -/
inductive Finished (t : Termination) (s : Session) :
    List Exchange → Session → Ending Unit → Prop
  | silent (hclosed : s.closed = true) : Finished t s [] s (.ok (.ok ()))
  | unreported (hopen : s.closed = false) :
      Finished t s [] s (.error (reportOf s.settings.prompts t))
  | unclosed (hopen : s.closed = false) (taken : (reportOf s.settings.prompts t).Answer) :
      Finished t s [⟨reportOf s.settings.prompts t, taken⟩] s (.error .close)
  | reported (hopen : s.closed = false) (taken : (reportOf s.settings.prompts t).Answer) :
      Finished t s [⟨reportOf s.settings.prompts t, taken⟩, ⟨.close, ()⟩]
        { s with closed := true } (.ok (.ok ()))

theorem finished_of_path {t : Termination} {s s' : Session} {xs : List Exchange}
    {o : Ending Unit} (h : (finish t s).Path xs s' o) : Finished t s xs s' o := by
  rw [finish_apply] at h
  cases hclosed : s.closed with
  | true =>
      rw [hclosed, if_pos rfl] at h
      obtain ⟨rfl, rfl, rfl⟩ := Activity.path_done_iff.mp h
      exact .silent hclosed
  | false =>
      rw [hclosed, if_neg Bool.false_ne_true] at h
      rcases Activity.path_call_iff.mp h with ⟨rfl, rfl, rfl⟩ | ⟨taken, ys, rfl, rest⟩
      · exact .unreported hclosed
      rcases Activity.path_call_iff.mp rest with ⟨rfl, rfl, rfl⟩ | ⟨_, zs, rfl, hdone⟩
      · exact .unclosed hclosed taken
      · obtain ⟨rfl, rfl, rfl⟩ := Activity.path_done_iff.mp hdone
        exact .reported hclosed taken

end Conversation

open Conversation

namespace Session

/-- What a run of a session can come to. -/
inductive Course : Session → List Exchange → Session → Stop → Prop
  | concluded {s s' t xs u} (hpos : s.position = .error t)
      (hfin : Finished t s xs s' (.ok u)) : Course s xs s' (.returned t)
  | unconcluded {s s' t xs request} (hpos : s.position = .error t)
      (hfin : Finished t s xs s' (.error request)) : Course s xs s' (.pending request)
  | halted {s s' id xs request} (hpos : s.position = .ok id)
      (hent : Entered id s xs s' (.error request)) : Course s xs s' (.pending request)
  | went {s s' s'' id xs ys result stop} (hpos : s.position = .ok id)
      (hent : Entered id s xs s' (.ok result))
      (rest : Course (s'.settle result) ys s'' stop) : Course s (xs ++ ys) s'' stop
  | exhausted {s id} (hpos : s.position = .ok id) : Course s [] s .exhausted

theorem course_conclude (env : Environment σ) {t : Termination} {s : Session}
    (world : σ) (hpos : s.position = .error t) :
    Course s (s.conclude env t world).exchanges (s.conclude env t world).session
      (s.conclude env t world).stop := by
  have hpath := Activity.path_performIn env (finish t s) world
  rw [conclude]
  rcases hout : ((finish t s).performIn env world).outcome with request | u
  · rw [hout] at hpath
    exact .unconcluded hpos (finished_of_path hpath)
  · rw [hout] at hpath
    exact .concluded hpos (finished_of_path hpath)

/-- Every run is a course of its session. -/
theorem course_run (env : Environment σ) (blocks : Nat) (s : Session) (world : σ) :
    Course s (s.run env blocks world).exchanges (s.run env blocks world).session
      (s.run env blocks world).stop := by
  induction blocks generalizing s world with
  | zero =>
      rw [run]
      rcases hpos : s.position with t | id
      · exact course_conclude env world hpos
      · exact .exhausted hpos
  | succ blocks ih =>
      rw [run]
      rcases hpos : s.position with t | id
      · exact course_conclude env world hpos
      have hpath := Activity.path_performIn env (step id s) world
      dsimp only
      rcases hout : ((step id s).performIn env world).outcome with request | result
      · rw [hout] at hpath
        exact .halted hpos (entered_of_path hpath)
      · rw [hout] at hpath
        exact .went hpos (entered_of_path hpath) (ih _ _)

/-- A session that has ended visits and keeps nothing more. -/
theorem Course.of_ended {s s' : Session} {xs : List Exchange} {stop : Stop} {t : Termination}
    (h : Course s xs s' stop) (hpos : s.position = .error t) :
    s'.visited = s.visited ∧ s'.store = s.store ∧ ∀ u, stop = .returned u → u = t := by
  cases h with
  | concluded hpos' hfin =>
      obtain rfl := Except.error.inj (hpos.symm.trans hpos')
      cases hfin <;> exact ⟨rfl, rfl, fun u hu => (Stop.returned.inj hu).symm⟩
  | unconcluded _ hfin => cases hfin <;> exact ⟨rfl, rfl, fun _ hu => nomatch hu⟩
  | halted hpos' => cases hpos.symm.trans hpos'
  | went hpos' => cases hpos.symm.trans hpos'
  | exhausted hpos' => cases hpos.symm.trans hpos'

end Session

end Dialogue
