import Dialogue.Proofs.Session.Course

/-!
# Histories of runs

A session can be run again and again. A run that was abandoned at a pending call
leaves a session for the next run to go on with, and so does a run that returned.
A history is such a sequence of runs.

Until the ending is reported, blocks make messages, requests for input and fetches
and nothing else, and leave the flow, the settings and the closed mark alone
(`Entered.keeps`). So a run of an open session either returns, and then has made
ordinary calls, one report and one close (`Course.open_returned`), or is abandoned
at an ordinary call and is still open (`Course.open_pending`). A closed session is
not changed by any run (`run_of_closed`).
-/

namespace Dialogue

variable {σ α : Type}

/-- The calls that blocks make: messages, requests for input and fetches. -/
def Call.Ordinary : Call → Prop
  | .message _ => True
  | .input _ => True
  | .fetch _ => True
  | .error _ => False
  | .close => False

/-- A run has returned, or it has been abandoned at an ordinary call. -/
def Stop.Settled : Stop → Prop
  | .returned _ => True
  | .pending request => request.Ordinary
  | .exhausted => False

/-- Runs of one session, each going on with the session that the one before has
left. What happens to the world between the runs is not said. -/
inductive Session.History (env : Environment σ) : Session → List (Run σ) → Prop
  | nil (s : Session) : History env s []
  | cons {s : Session} {rs : List (Run σ)} (blocks : Nat) (world : σ)
      (hstop : (s.run env blocks world).stop.Settled)
      (rest : History env (s.run env blocks world).session rs) :
      History env s (s.run env blocks world :: rs)

/-! ## What blocks leave alone -/

/-- The same flow, settings and closed mark. -/
def Session.Alike (s s' : Session) : Prop :=
  s'.flow = s.flow ∧ s'.settings = s.settings ∧ s'.closed = s.closed

theorem Session.alike_self (s : Session) : s.Alike s := ⟨rfl, rfl, rfl⟩

theorem Session.Alike.trans {s t u : Session} (h : s.Alike t) (h' : t.Alike u) :
    s.Alike u :=
  ⟨h'.1.trans h.1, h'.2.1.trans h.2.1, h'.2.2.trans h.2.2⟩

theorem Session.alike_standing (s : Session) (standing : Standing) :
    s.Alike { s with standing } := ⟨rfl, rfl, rfl⟩

theorem Session.alike_write (s : Session) (standing : Standing) (store : Variables) :
    s.Alike { s with standing, store } := ⟨rfl, rfl, rfl⟩

theorem Session.alike_settle (s : Session) (r : Except Failure Transition) :
    s.Alike (s.settle r) := by
  rcases r with _ | _ | _ <;> exact ⟨rfl, rfl, rfl⟩

@[simp] theorem Session.settle_store (s : Session) (r : Except Failure Transition) :
    (s.settle r).store = s.store := by
  rcases r with _ | _ | _ <;> rfl

@[simp] theorem Session.settle_visited (s : Session) (r : Except Failure Transition) :
    (s.settle r).visited = s.visited := by
  rcases r with _ | _ | _ <;> rfl

namespace Conversation

/-- A part of a conversation that is not its end: it makes ordinary calls and
leaves alone what is fixed for the conversation, and the closed mark. -/
structure Keeps (s : Session) (xs : List Exchange) (s' : Session) (o : Ending α) :
    Prop where
  alike : s.Alike s'
  calls : ∀ x ∈ xs, x.request.Ordinary
  pending : ∀ request, o = .error request → request.Ordinary

variable {s s' t : Session} {xs : List Exchange} {b : Block} {id : Text}

/-- Nothing was called and a result was reached. -/
theorem Keeps.result (h : s.Alike s') (r : Except Failure α) : Keeps s [] s' (.ok r) :=
  ⟨h, fun _ hx => absurd hx List.not_mem_nil, fun _ ho => nomatch ho⟩

/-- A call was left open. -/
theorem Keeps.left (h : s.Alike s') {request : Call} (hq : request.Ordinary) :
    Keeps s [] s' (.error request : Ending α) :=
  ⟨h, fun _ hx => absurd hx List.not_mem_nil, fun _ ho => Except.error.inj ho ▸ hq⟩

/-- One more ordinary call. -/
theorem Keeps.cons {x : Exchange} {o : Ending α} (ht : s.Alike t)
    (hx : x.request.Ordinary) (h : Keeps t xs s' o) : Keeps s (x :: xs) s' o :=
  ⟨ht.trans h.alike, List.forall_mem_cons.mpr ⟨hx, h.calls⟩, h.pending⟩

theorem Asked.keeps {prompt : Text} {purpose : Purpose} {r : Ending Text}
    (h : Asked id purpose prompt s xs s' r) : Keeps s xs s' r := by
  cases h with
  | replied reply => exact .cons s.alike_self trivial (.result (s.alike_standing _) _)
  | refused e => exact .cons s.alike_self trivial (.result (s.alike_standing _) _)
  | unanswered => exact .left (s.alike_standing _) trivial

theorem Keeps.map {r : Ending α} (h : Keeps s xs s' r)
    (f : Except Failure α → Except Failure Transition) :
    Keeps s xs s' (r.map f : Ending Transition) := by
  refine ⟨h.alike, h.calls, fun request ho => h.pending request ?_⟩
  cases r with
  | error q => exact congrArg _ (Except.error.inj ho)
  | ok r => cases ho

theorem Followed.keeps {o : Ending Transition} (h : Followed b s xs s' o) :
    Keeps s xs s' o := by
  cases h with
  | ended _ => exact .result s.alike_self _
  | single _ => exact .result s.alike_self _
  | offered _ hask => exact hask.keeps.map _

theorem Performed.keeps {o : Ending Transition} (h : Performed b s xs s' o) :
    Keeps s xs s' o := by
  cases h with
  | start _ hnext => exact hnext.keeps
  | unsaid _ => exact .left s.alike_self trivial
  | said _ hnext => exact .cons s.alike_self trivial hnext.keeps
  | saveNameless _ => exact .result s.alike_self _
  | saveRefused e _ => exact .cons s.alike_self trivial (.result (s.alike_standing _) _)
  | saveUnanswered _ => exact .left (s.alike_standing _) trivial
  | saved reply _ hnext => exact .cons (s.alike_write _ _) trivial hnext.keeps
  | branched _ => exact .result s.alike_self _
  | optionless _ => exact .result s.alike_self _
  | chose _ _ hask => exact hask.keeps.map _
  | callUrlless _ => exact .result s.alike_self _
  | callNameless _ => exact .result s.alike_self _
  | unavailable _ _ => exact .result s.alike_self _
  | unfetched _ _ => exact .left s.alike_self trivial
  | fetchFailed e _ _ => exact .cons s.alike_self trivial (.result s.alike_self _)
  | fetched response _ _ hnext => exact .cons (s.alike_write _ _) trivial hnext.keeps
  | finished _ => exact .result s.alike_self _
  | unknown _ => exact .result s.alike_self _

theorem Asked.visited {prompt : Text} {purpose : Purpose} {r : Ending Text}
    (h : Asked id purpose prompt s xs s' r) : s'.visited = s.visited := by
  cases h <;> rfl

theorem Followed.visited {o : Ending Transition} (h : Followed b s xs s' o) :
    s'.visited = s.visited := by
  cases h with
  | ended _ => rfl
  | single _ => rfl
  | offered _ hask => exact hask.visited

/-- A block does not note visits; entering it does. -/
theorem Performed.visited {o : Ending Transition} (h : Performed b s xs s' o) :
    s'.visited = s.visited := by
  cases h with
  | start _ hnext => exact hnext.visited
  | said _ hnext => exact hnext.visited
  | saved _ _ hnext => exact hnext.visited
  | chose _ _ hask => exact hask.visited
  | fetched _ _ _ hnext => exact hnext.visited
  | _ => rfl

/-- Entering a block makes ordinary calls and leaves the rest of the session alone. -/
theorem Entered.keeps {o : Ending Transition} (h : Entered id s xs s' o) :
    Keeps s xs s' o := by
  cases h with
  | nowhere _ => exact .result s.alike_self _
  | block _ hdone => exact ⟨hdone.keeps.alike, hdone.keeps.calls, hdone.keeps.pending⟩

end Conversation

/-! ## Refused requests -/

namespace Conversation

variable {s s' : Session} {xs : List Exchange} {b : Block} {id prompt : Text}
  {e : ChannelError}

/-- The channel's error is the failure that a refused request comes to. -/
theorem Asked.refused_failure {purpose : Purpose} {text : Text} {r : Ending Text}
    (h : Asked id purpose text s xs s' r) (hx : ⟨.input prompt, .error e⟩ ∈ xs) :
    r = .ok (.error (.channel e)) := by
  cases h with
  | replied reply => cases List.mem_singleton.mp hx
  | refused e' =>
      cases List.mem_singleton.mp hx
      rfl
  | unanswered => exact absurd hx List.not_mem_nil

theorem Followed.refused_failure {o : Ending Transition} (h : Followed b s xs s' o)
    (hx : ⟨.input prompt, .error e⟩ ∈ xs) : o = .ok (.error (.channel e)) := by
  cases h with
  | ended _ => exact absurd hx List.not_mem_nil
  | single _ => exact absurd hx List.not_mem_nil
  | offered _ hask =>
      rw [hask.refused_failure hx]
      rfl

theorem Performed.refused_failure {o : Ending Transition} (h : Performed b s xs s' o)
    (hx : ⟨.input prompt, .error e⟩ ∈ xs) : o = .ok (.error (.channel e)) := by
  cases h with
  | start _ hnext => exact hnext.refused_failure hx
  | said _ hnext =>
      rcases List.mem_cons.mp hx with hx | hx
      · cases hx
      · exact hnext.refused_failure hx
  | saveRefused e' _ =>
      cases List.mem_singleton.mp hx
      rfl
  | saved reply _ hnext =>
      rcases List.mem_cons.mp hx with hx | hx
      · cases hx
      · exact hnext.refused_failure hx
  | chose _ _ hask =>
      rw [hask.refused_failure hx]
      rfl
  | fetchFailed _ _ _ => cases List.mem_singleton.mp hx
  | fetched _ _ _ hnext =>
      rcases List.mem_cons.mp hx with hx | hx
      · cases hx
      · exact hnext.refused_failure hx
  | _ => exact absurd hx List.not_mem_nil

theorem Entered.refused_failure {o : Ending Transition} (h : Entered id s xs s' o)
    (hx : ⟨.input prompt, .error e⟩ ∈ xs) : o = .ok (.error (.channel e)) := by
  cases h with
  | nowhere _ => exact absurd hx List.not_mem_nil
  | block _ hdone => exact hdone.refused_failure hx

end Conversation

/-! ## Runs of open and of closed sessions -/

namespace Session

open Conversation

variable {s s' : Session} {xs : List Exchange} {t : Termination}

theorem standing_of_position (h : s.position = .error t) : s.standing = .terminated t := by
  rw [position] at h
  split at h
  · cases h
  · cases h
  · next hstanding =>
      rw [hstanding]
      exact congrArg _ (Except.error.inj h)

theorem position_of_standing (h : s.standing = .terminated t) : s.position = .error t := by
  rw [position, h]

/-- No run changes what is fixed for a conversation. -/
theorem Course.fixed {stop : Stop} (h : Course s xs s' stop) :
    s'.flow = s.flow ∧ s'.settings = s.settings := by
  induction h with
  | concluded hpos hfin => cases hfin <;> exact ⟨rfl, rfl⟩
  | unconcluded hpos hfin => cases hfin <;> exact ⟨rfl, rfl⟩
  | halted hpos hent => exact ⟨hent.keeps.alike.1, hent.keeps.alike.2.1⟩
  | @went s₁ s₂ _ _ _ _ result _ _ hent rest ih =>
      have halike := hent.keeps.alike.trans (alike_settle s₂ result)
      exact ⟨ih.1.trans halike.1, ih.2.trans halike.2.1⟩
  | exhausted => exact ⟨rfl, rfl⟩

/-- What a run of an open session has done when it returns: ordinary calls, one
report, one close. -/
structure Reported (s : Session) (xs : List Exchange) (s' : Session) (t : Termination) :
    Prop where
  alike : s'.flow = s.flow ∧ s'.settings = s.settings
  standing : s'.standing = .terminated t
  closed : s'.closed = true
  calls : ∃ ys, (∀ y ∈ ys, y.request.Ordinary)
    ∧ ∃ report : Exchange, report.request = reportOf s.settings.prompts t
      ∧ xs = ys ++ [report, ⟨.close, ()⟩]

theorem Course.open_returned (h : Course s xs s' (.returned t)) (hopen : s.closed = false) :
    Reported s xs s' t := by
  generalize hstop : Stop.returned t = stop at h
  induction h with
  | concluded hpos hfin =>
      cases hstop
      cases hfin with
      | silent hclosed =>
          rw [hopen] at hclosed
          cases hclosed
      | reported _ taken =>
          exact ⟨⟨rfl, rfl⟩, standing_of_position hpos, rfl, [],
            fun _ hy => absurd hy List.not_mem_nil, _, rfl, rfl⟩
  | unconcluded => cases hstop
  | halted => cases hstop
  | @went s₁ s₂ _ _ xs ys result _ _ hent rest ih =>
      have halike := hent.keeps.alike.trans (alike_settle s₂ result)
      obtain ⟨⟨hflow, hsettings⟩, hstanding, hclosed, zs, hzs, report, hreport, rfl⟩ :=
        ih (halike.2.2.trans hopen) hstop
      refine ⟨⟨hflow.trans halike.1, hsettings.trans halike.2.1⟩, hstanding, hclosed,
        xs ++ zs, ?_, report, ?_, (List.append_assoc ..).symm⟩
      · exact List.forall_mem_append.mpr ⟨hent.keeps.calls, hzs⟩
      · rw [hreport, halike.2.1]
  | exhausted => cases hstop

/-- A refused request ends the conversation with the channel's error. -/
theorem Course.refused_failure {prompt : Text} {e : ChannelError}
    (h : Course s xs s' (.returned t)) (hx : ⟨.input prompt, .error e⟩ ∈ xs) :
    t = .failed (.channel e) := by
  generalize hstop : Stop.returned t = stop at h
  induction h with
  | @concluded s₁ _ u _ _ hpos hfin =>
      -- A report is no request for input.
      cases hfin with
      | silent _ => exact absurd hx List.not_mem_nil
      | reported _ taken =>
          rcases List.mem_cons.mp hx with hx | hx
          · have hreport : .input prompt = reportOf s₁.settings.prompts u :=
              congrArg Exchange.request hx
            rcases reportOf_cases s₁.settings.prompts u with ⟨text, htext⟩ | ⟨text, htext⟩
            all_goals
              rw [htext] at hreport
              cases hreport
          · cases List.mem_singleton.mp hx
  | unconcluded => cases hstop
  | halted => cases hstop
  | @went s₁ s₂ _ _ _ _ result _ _ hent rest ih =>
      rcases List.mem_append.mp hx with hx | hx
      · cases hent.refused_failure hx
        -- The session has ended, so what is left of the run is the report.
        cases rest with
        | concluded hpos _ =>
            cases hpos
            cases hstop
            rfl
        | unconcluded => cases hstop
        | halted hpos => cases hpos
        | went hpos => cases hpos
        | exhausted => cases hstop
      · exact ih hx hstop
  | exhausted => cases hstop

/-- A run of an open session that is abandoned at an ordinary call has made
ordinary calls, and the session is still open. -/
theorem Course.open_pending {request : Call} (h : Course s xs s' (.pending request))
    (hq : request.Ordinary) (hopen : s.closed = false) :
    s.Alike s' ∧ ∀ x ∈ xs, x.request.Ordinary := by
  generalize hstop : Stop.pending request = stop at h
  induction h with
  | concluded => cases hstop
  | unconcluded hpos hfin =>
      cases hstop
      cases hfin with
      | unreported _ => exact ⟨alike_self _, fun _ hx => absurd hx List.not_mem_nil⟩
      | unclosed _ _ => exact absurd hq id
  | halted hpos hent => exact ⟨hent.keeps.alike, hent.keeps.calls⟩
  | @went s₁ s₂ _ _ _ _ result _ _ hent rest ih =>
      have halike := hent.keeps.alike.trans (alike_settle s₂ result)
      obtain ⟨hrest, hcalls⟩ := ih (halike.2.2.trans hopen) hstop
      exact ⟨halike.trans hrest, List.forall_mem_append.mpr ⟨hent.keeps.calls, hcalls⟩⟩
  | exhausted => cases hstop

/-- A run of a closed session returns at once and changes nothing. -/
theorem run_of_closed (env : Environment σ) (blocks : Nat) (world : σ)
    (hstanding : s.standing = .terminated t) (hclosed : s.closed = true) :
    s.run env blocks world = ⟨world, s, [], .returned t⟩ := by
  have hpos := position_of_standing hstanding
  have hfinish : finish t s = .done s (.ok ()) := by
    rw [finish, session_bind_apply, hclosed, if_pos rfl]
    rfl
  have hconclude : s.conclude env t world = ⟨world, s, [], .returned t⟩ := by
    rw [conclude, hfinish]
    rfl
  cases blocks <;> rw [run, hpos] <;> exact hconclude

end Session

/-- Asks for a name and greets: the flow at which statements on runs are shown. -/
def greetingFlow : Flow :=
  .ofParts
    [⟨['s'], none, .start⟩,
      ⟨['q'], none, .save (some ['n'])⟩,
      ⟨['m'], some ['H', 'i', ' ', '{', 'n', '}'], .message⟩,
      ⟨['e'], none, .finish⟩]
    [⟨['s'], ['q'], none, none⟩,
      ⟨['q'], ['m'], none, none⟩,
      ⟨['m'], ['e'], none, none⟩]

end Dialogue
