import Dialogue.Proofs.Session.History

/-!
# Runs in two environments

A run learns of its environment by the answers alone: in another environment that
gives the same answers it goes the same way (`run_of_gives`). So a channel that
keeps up with another one, call by call, has the same runs (`Follows.run`). Nothing
has to be kept up after the channel is closed, since nothing is called then.
-/

namespace Dialogue

variable {σ τ φ α : Type}

/-- An environment gives the answers of a log, one call after another. -/
inductive Environment.Gives (env : Environment σ) : σ → List Exchange → σ → Prop
  | nil (w : σ) : Gives env w [] w
  | cons {w w' w'' : σ} {x : Exchange} {xs : List Exchange}
      (hanswer : env.answer x.request w = (w', some x.answer)) (rest : Gives env w' xs w'') :
      Gives env w (x :: xs) w''

theorem Environment.gives_cons_iff {env : Environment σ} {w w'' : σ} {x : Exchange}
    {xs : List Exchange} :
    env.Gives w (x :: xs) w'' ↔
      ∃ w', env.answer x.request w = (w', some x.answer) ∧ env.Gives w' xs w'' := by
  constructor
  · intro h
    cases h with
    | cons hanswer rest => exact ⟨_, hanswer, rest⟩
  · rintro ⟨w', hanswer, rest⟩
    exact .cons hanswer rest

theorem Environment.gives_append_iff {env : Environment σ} {w w'' : σ}
    {xs ys : List Exchange} :
    env.Gives w (xs ++ ys) w'' ↔ ∃ w', env.Gives w xs w' ∧ env.Gives w' ys w'' := by
  induction xs generalizing w with
  | nil =>
      constructor
      · exact fun h => ⟨w, .nil w, h⟩
      · rintro ⟨w', hnil, h⟩
        cases hnil
        exact h
  | cons x xs ih =>
      constructor
      · intro h
        obtain ⟨w₁, hanswer, rest⟩ := gives_cons_iff.mp h
        obtain ⟨w', hxs, hys⟩ := ih.mp rest
        exact ⟨w', .cons hanswer hxs, hys⟩
      · rintro ⟨w', h, hys⟩
        obtain ⟨w₁, hanswer, rest⟩ := gives_cons_iff.mp h
        exact .cons hanswer (ih.mpr ⟨w', rest, hys⟩)

/-! ## Activities and runs follow the answers -/

theorem Activity.gives_performIn (env : Environment σ) {a : Activity α} {w : σ} {r : α}
    (h : (a.performIn env w).outcome = .ok r) :
    env.Gives w (a.performIn env w).exchanges (a.performIn env w).world := by
  induction a generalizing w with
  | done s r => exact .nil w
  | call s request resume ih =>
      rw [performIn] at h ⊢
      rcases hans : env.answer request w with ⟨w', _ | answer⟩
      · rw [hans] at h
        cases h
      · rw [hans] at h
        exact .cons hans (ih answer h)

/-- An environment that gives the answers of a path takes the activity down it. -/
theorem Activity.Path.performIn_eq {env : Environment σ} {a : Activity α}
    {xs : List Exchange} {s : Session} {r : α} {w w' : σ} (h : a.Path xs s (.ok r))
    (hgives : env.Gives w xs w') : a.performIn env w = ⟨w', s, xs, .ok r⟩ := by
  generalize ho : (Except.ok r : Except Call α) = o at h
  induction h generalizing w with
  | done s r =>
      cases ho
      cases hgives
      rfl
  | pending => cases ho
  | answered answer rest ih =>
      obtain ⟨w₁, hanswer, hrest⟩ := Environment.gives_cons_iff.mp hgives
      rw [performIn, show env.answer _ w = _ from hanswer]
      dsimp only
      rw [ih hrest ho]

namespace Session

open Conversation

variable {s : Session} {t : Termination}

theorem gives_conclude (env : Environment σ) {u : Termination} {w : σ}
    (h : (s.conclude env u w).stop = .returned t) :
    env.Gives w (s.conclude env u w).exchanges (s.conclude env u w).world := by
  rw [conclude] at h ⊢
  rcases hout : ((finish u s).performIn env w).outcome with request | r
  · rw [hout] at h
    cases h
  · exact Activity.gives_performIn env hout

/-- A run that returns was given the answers of its log. -/
theorem gives_run (env : Environment σ) {blocks : Nat} {w : σ}
    (h : (s.run env blocks w).stop = .returned t) :
    env.Gives w (s.run env blocks w).exchanges (s.run env blocks w).world := by
  induction blocks generalizing s w with
  | zero =>
      rw [run] at h ⊢
      rcases hpos : s.position with u | id <;> rw [hpos] at h
      · exact gives_conclude env h
      · cases h
  | succ blocks ih =>
      rw [run] at h ⊢
      rcases hpos : s.position with u | id <;> rw [hpos] at h
      · exact gives_conclude env h
      dsimp only at h ⊢
      rcases hout : ((step id s).performIn env w).outcome with request | result
      · rw [hout] at h
        cases h
      · rw [hout] at h
        exact Environment.gives_append_iff.mpr
          ⟨_, Activity.gives_performIn env hout, ih h⟩

theorem conclude_of_gives {env : Environment σ} {env' : Environment τ} {u : Termination}
    {w : σ} {v v' : τ} (h : (s.conclude env u w).stop = .returned t)
    (hgives : env'.Gives v (s.conclude env u w).exchanges v') :
    s.conclude env' u v =
      ⟨v', (s.conclude env u w).session, (s.conclude env u w).exchanges, .returned t⟩ := by
  have hpath := Activity.path_performIn env (finish u s) w
  rw [conclude] at h hgives ⊢
  rcases hout : ((finish u s).performIn env w).outcome with request | r
  · rw [hout] at h
    cases h
  · rw [hout] at hpath h
    rw [hpath.performIn_eq hgives, conclude, ← h]

/-- **A run that returns goes the same way in every environment that gives the same
answers.** -/
theorem run_of_gives {env : Environment σ} {env' : Environment τ} {blocks : Nat} {w : σ}
    {v v' : τ} (h : (s.run env blocks w).stop = .returned t)
    (hgives : env'.Gives v (s.run env blocks w).exchanges v') :
    s.run env' blocks v =
      ⟨v', (s.run env blocks w).session, (s.run env blocks w).exchanges, .returned t⟩ := by
  induction blocks generalizing s w v with
  | zero =>
      rw [run] at h hgives ⊢
      rw [run]
      rcases hpos : s.position with u | id <;> rw [hpos] at h hgives
      · exact conclude_of_gives h hgives
      · cases h
  | succ blocks ih =>
      rw [run] at h hgives ⊢
      rw [run]
      rcases hpos : s.position with u | id <;> rw [hpos] at h hgives
      · exact conclude_of_gives h hgives
      have hpath := Activity.path_performIn env (step id s) w
      dsimp only at h hgives ⊢
      rcases hout : ((step id s).performIn env w).outcome with request | result
      · rw [hout] at h
        cases h
      · rw [hout] at h hgives hpath
        obtain ⟨v₁, hstep, hrest⟩ := Environment.gives_append_iff.mp hgives
        rw [hpath.performIn_eq hstep]
        dsimp only
        rw [ih h hrest]
        rfl

end Session

/-! ## Channels that follow one another -/

/-- A channel gives the answers that another one gives. `Open` relates their states
until both are closed, and `Shut` relates them afterwards. -/
structure Channel.Follows (second : Channel τ) (first : Channel σ)
    (Open Shut : σ → τ → Prop) : Prop where
  message {c c' : σ} {d : τ} (text : Text) (hopen : Open c d)
    (h : first.message text c = (c', some ())) :
    ∃ d', second.message text d = (d', some ()) ∧ Open c' d'
  error {c c' : σ} {d : τ} (text : Text) (hopen : Open c d)
    (h : first.error text c = (c', some ())) :
    ∃ d', second.error text d = (d', some ()) ∧ Open c' d'
  input {c c' : σ} {d : τ} {reply : Reply} (prompt : Text) (hopen : Open c d)
    (h : first.input prompt c = (c', some reply)) :
    ∃ d', second.input prompt d = (d', some reply) ∧ Open c' d'
  close {c c' : σ} {d : τ} (hopen : Open c d) (h : first.close c = (c', some ())) :
    ∃ d', second.close d = (d', some ()) ∧ Shut c' d'

namespace Channel

variable {first : Channel σ} {second : Channel τ} {Open Shut : σ → τ → Prop}
  {fetch : Text → φ → φ × Option Response} {c c' : σ} {d : τ} {f f' : φ}

/-- One call, which is no close; fetches do not touch the channels. -/
theorem Follows.exchange (hfollows : second.Follows first Open Shut) {x : Exchange}
    (hx : x.request ≠ .close) (hopen : Open c d)
    (h : (first.environmentWith fetch).answer x.request (c, f) = ((c', f'), some x.answer)) :
    ∃ d', (second.environmentWith fetch).answer x.request (d, f) = ((d', f'), some x.answer)
      ∧ Open c' d' := by
  obtain ⟨request, answer⟩ := x
  cases request with
  | message text =>
      obtain ⟨hstate, hanswer⟩ := Prod.mk.inj h
      obtain ⟨hc, rfl⟩ := Prod.mk.inj hstate
      obtain ⟨d', hd, hopen'⟩ := hfollows.message text hopen (Prod.ext hc hanswer)
      refine ⟨d', ?_, hopen'⟩
      show (((second.message text d).1, f), (second.message text d).2) = _
      rw [hd]
  | error text =>
      obtain ⟨hstate, hanswer⟩ := Prod.mk.inj h
      obtain ⟨hc, rfl⟩ := Prod.mk.inj hstate
      obtain ⟨d', hd, hopen'⟩ := hfollows.error text hopen (Prod.ext hc hanswer)
      refine ⟨d', ?_, hopen'⟩
      show (((second.error text d).1, f), (second.error text d).2) = _
      rw [hd]
  | input prompt =>
      obtain ⟨hstate, hanswer⟩ := Prod.mk.inj h
      obtain ⟨hc, rfl⟩ := Prod.mk.inj hstate
      obtain ⟨d', hd, hopen'⟩ := hfollows.input prompt hopen (Prod.ext hc hanswer)
      refine ⟨d', ?_, hopen'⟩
      show (((second.input prompt d).1, f), (second.input prompt d).2) = _
      rw [hd]
  | fetch url =>
      obtain ⟨hstate, hanswer⟩ := Prod.mk.inj h
      obtain ⟨rfl, rfl⟩ := Prod.mk.inj hstate
      exact ⟨d, Prod.ext rfl hanswer, hopen⟩
  | close => exact absurd rfl hx

theorem Follows.exchanges (hfollows : second.Follows first Open Shut) {xs : List Exchange}
    {w : σ × φ} (hxs : ∀ x ∈ xs, x.request ≠ .close) (hopen : Open c d)
    (h : (first.environmentWith fetch).Gives (c, f) xs w) :
    ∃ d', (second.environmentWith fetch).Gives (d, f) xs (d', w.2) ∧ Open w.1 d' := by
  induction xs generalizing c d f with
  | nil =>
      cases h
      exact ⟨d, .nil _, hopen⟩
  | cons x xs ih =>
      obtain ⟨⟨c₁, f₁⟩, hanswer, rest⟩ := Environment.gives_cons_iff.mp h
      obtain ⟨hx, hxs⟩ := List.forall_mem_cons.mp hxs
      obtain ⟨d₁, hd₁, hopen₁⟩ := hfollows.exchange hx hopen hanswer
      obtain ⟨d', hd', hopen'⟩ := ih hxs hopen₁ rest
      exact ⟨d', .cons hd₁ hd', hopen'⟩

theorem Follows.closing (hfollows : second.Follows first Open Shut) {w : σ × φ}
    (hopen : Open c d)
    (h : (first.environmentWith fetch).Gives (c, f) [⟨.close, ()⟩] w) :
    ∃ d', (second.environmentWith fetch).Gives (d, f) [⟨.close, ()⟩] (d', w.2)
      ∧ Shut w.1 d' := by
  obtain ⟨w₁, hanswer, rest⟩ := Environment.gives_cons_iff.mp h
  cases rest
  obtain ⟨hstate, hclosed⟩ := Prod.mk.inj hanswer
  subst hstate
  obtain ⟨d', hd, hshut⟩ := hfollows.close hopen (Prod.ext rfl hclosed)
  refine ⟨d', .cons ?_ (.nil _), hshut⟩
  show (((second.close d).1, f), (second.close d).2) = _
  rw [hd]

/-- **A channel that follows another one has the same runs.** A run of an open session
that returns over the first channel does so over the second one, with the same
exchanges and the same session at the end. -/
theorem Follows.run (hfollows : second.Follows first Open Shut) {s : Session}
    {t : Termination} {blocks : Nat} {r : Run (σ × φ)}
    (hr : s.run (first.environmentWith fetch) blocks (c, f) = r)
    (hreturned : r.stop = .returned t) (hsession : s.closed = false) (hopen : Open c d) :
    ∃ d', s.run (second.environmentWith fetch) blocks (d, f) =
        ⟨(d', r.world.2), r.session, r.exchanges, .returned t⟩
      ∧ Shut r.world.1 d' := by
  subst hr
  have hgives := Session.gives_run _ hreturned
  have hcourse := Session.course_run (first.environmentWith fetch) blocks s (c, f)
  rw [hreturned] at hcourse
  obtain ⟨-, -, -, ys, hys, report, hreport, hxs⟩ := hcourse.open_returned hsession
  -- Before the close at the end of the log there is none.
  have hopening : ∀ y ∈ ys ++ [report], y.request ≠ .close := by
    intro y hy hclose
    rcases List.mem_append.mp hy with hmem | hmem
    · have hord := hys y hmem
      rw [hclose] at hord
      exact hord
    · rw [List.mem_singleton.mp hmem, hreport] at hclose
      rcases Conversation.reportOf_cases s.settings.prompts t with ⟨text, htext⟩ | ⟨text, htext⟩
      all_goals
        rw [htext] at hclose
        cases hclose
  have hsplit : ys ++ [report, ⟨.close, ()⟩] = (ys ++ [report]) ++ [⟨.close, ()⟩] := by
    rw [List.append_assoc]
    rfl
  rw [hxs, hsplit] at hgives
  obtain ⟨w, hopened, hclosed⟩ := Environment.gives_append_iff.mp hgives
  obtain ⟨d₁, hd₁, hopen₁⟩ := hfollows.exchanges hopening hopen hopened
  obtain ⟨d', hd', hshut⟩ := hfollows.closing (f := w.2) hopen₁ hclosed
  refine ⟨d', Session.run_of_gives hreturned ?_, hshut⟩
  rw [hxs, hsplit]
  exact Environment.gives_append_iff.mpr ⟨_, hd₁, hd'⟩

end Channel

end Dialogue
