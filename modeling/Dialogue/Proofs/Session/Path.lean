import Dialogue.Session.Run

/-!
# Paths of activities

An activity is a tree, and a path is one way down the tree: the calls that are
answered on it, the session at its end, and the result there or the call that
stays without an answer. A path does not say who answers, so what holds of every
path holds in every environment (`path_performIn`).

A path through two conversations in a row is a path through the first one, which
goes on through the second if the first comes to a value (`path_bind`).
-/

namespace Dialogue

variable {σ α β : Type}

/-- A way down an activity. -/
inductive Activity.Path : Activity α → List Exchange → Session → Except Call α → Prop
  | done (s : Session) (a : α) : Path (.done s a) [] s (.ok a)
  | pending (s : Session) (request : Call) (resume : request.Answer → Activity α) :
      Path (.call s request resume) [] s (.error request)
  | answered {s s' : Session} {request : Call} {resume : request.Answer → Activity α}
      {xs : List Exchange} {o : Except Call α} (answer : request.Answer)
      (rest : Path (resume answer) xs s' o) :
      Path (.call s request resume) (⟨request, answer⟩ :: xs) s' o

namespace Activity

/-- Whatever an environment makes of an activity is a path of it. -/
theorem path_performIn (env : Environment σ) (a : Activity α) (world : σ) :
    a.Path (a.performIn env world).exchanges (a.performIn env world).session
      (a.performIn env world).outcome := by
  induction a generalizing world with
  | done s a => exact .done s a
  | call s request resume ih =>
      rw [performIn]
      rcases hans : env.answer request world with ⟨world', _ | answer⟩
      · exact .pending s request resume
      · exact .answered answer (ih answer world')

theorem path_done_iff {s s' : Session} {a : α} {xs : List Exchange}
    {o : Except Call α} :
    (done s a).Path xs s' o ↔ xs = [] ∧ s' = s ∧ o = .ok a := by
  constructor
  · intro h
    cases h
    exact ⟨rfl, rfl, rfl⟩
  · rintro ⟨rfl, rfl, rfl⟩
    exact .done s' a

theorem path_call_iff {s s' : Session} {request : Call}
    {resume : request.Answer → Activity α} {xs : List Exchange} {o : Except Call α} :
    (call s request resume).Path xs s' o ↔
      (xs = [] ∧ s' = s ∧ o = .error request)
        ∨ ∃ answer ys, xs = ⟨request, answer⟩ :: ys ∧ (resume answer).Path ys s' o := by
  constructor
  · intro h
    cases h with
    | pending => exact Or.inl ⟨rfl, rfl, rfl⟩
    | answered answer rest => exact Or.inr ⟨answer, _, rfl, rest⟩
  · rintro (⟨rfl, rfl, rfl⟩ | ⟨answer, ys, rfl, rest⟩)
    · exact .pending s' request resume
    · exact .answered answer rest

/-- A path through one activity and then another. -/
theorem path_bind {a : Activity α} {next : Session → α → Activity β}
    {xs : List Exchange} {s' : Session} {o : Except Call β}
    (h : (a.bind next).Path xs s' o) :
    (∃ request, o = .error request ∧ a.Path xs s' (.error request))
      ∨ ∃ ys zs t r, xs = ys ++ zs ∧ a.Path ys t (.ok r) ∧ (next t r).Path zs s' o := by
  induction a generalizing xs with
  | done s r => exact Or.inr ⟨[], xs, s, r, rfl, .done s r, h⟩
  | call s request resume ih =>
      rw [Activity.bind] at h
      rcases path_call_iff.mp h with ⟨rfl, rfl, rfl⟩ | ⟨answer, ys, rfl, rest⟩
      · exact Or.inl ⟨request, rfl, .pending s' request resume⟩
      · rcases ih answer rest with ⟨q, ho, hq⟩ | ⟨ys', zs, t, r, rfl, hr, hnext⟩
        · exact Or.inl ⟨q, ho, .answered answer hq⟩
        · exact Or.inr ⟨⟨request, answer⟩ :: ys', zs, t, r, rfl, .answered answer hr, hnext⟩

end Activity

namespace Conversation

/-! ## Conversations in a row

A conversation that makes no call gives way to what follows it at once. -/

theorem session_bind_apply (next : Session → Conversation β) (s : Session) :
    (session >>= next : Conversation β) s = next s s := rfl

theorem update_bind_apply (f : Session → Session) (next : Unit → Conversation β)
    (s : Session) : (update f >>= next : Conversation β) s = next () (f s) := rfl

theorem call_bind_apply (request : Call) (next : request.Answer → Conversation β)
    (s : Session) :
    (call request >>= next : Conversation β) s = .call s request fun answer => next answer s :=
  rfl

/-- A path through one conversation and then another: the first stays without an
answer, or fails, or comes to a value with which the second goes on. -/
theorem path_bind {c : Conversation α} {next : α → Conversation β} {s s' : Session}
    {xs : List Exchange} {o : Except Call (Except Failure β)}
    (h : ((c >>= next : Conversation β) s).Path xs s' o) :
    (∃ request, o = .error request ∧ (c s).Path xs s' (.error request))
      ∨ (∃ failure, o = .ok (.error failure) ∧ (c s).Path xs s' (.ok (.error failure)))
      ∨ ∃ ys zs t a, xs = ys ++ zs ∧ (c s).Path ys t (.ok (.ok a))
          ∧ (next a t).Path zs s' o := by
  rcases Activity.path_bind (h : ((c s).bind _).Path xs s' o) with
    hpending | ⟨ys, zs, t, r, rfl, hc, hnext⟩
  · exact Or.inl hpending
  · cases r with
    | ok a => exact Or.inr (Or.inr ⟨ys, zs, t, a, rfl, hc, hnext⟩)
    | error failure =>
        obtain ⟨rfl, rfl, rfl⟩ := Activity.path_done_iff.mp hnext
        refine Or.inr (Or.inl ⟨failure, rfl, ?_⟩)
        rwa [List.append_nil]

end Conversation

end Dialogue
