import Dialogue.Channel.Script
import Dialogue.Proofs.Session.Prescription
import Dialogue.Proofs.Session.Whole

/-!
# Cues are taken one by one

A scripted channel answers every request with the next cue and nothing else with any. So two
scripts that begin with the same `k` cues cannot be told apart before the request behind those
(`Activity.calls_agree`), and not at all by who asks no more often than that
(`Activity.performIn_agree`): a run that finds its script long enough goes the same way with a
longer one, and leaves what was added (`replies_read_in_order`).
-/

namespace Dialogue

variable {φ α : Type}

/-! ## Requests for input among calls -/

def inputCount (calls : List Call) : Nat :=
  calls.countP Call.isInput

/-- The calls up to the n-th one that asks for input, and this one with them. -/
def throughInput : Nat → List Call → List Call
  | 0, _ => []
  | _ + 1, [] => []
  | n + 1, c :: calls => c :: throughInput (if c.isInput then n else n + 1) calls

theorem inputCount_cons (c : Call) (calls : List Call) :
    inputCount (c :: calls) = inputCount calls + if c.isInput then 1 else 0 :=
  List.countP_cons

theorem Call.exists_prompt {request : Call} (h : request.isInput = true) :
    ∃ prompt, request = .input prompt := by
  cases request with
  | input prompt => exact ⟨prompt, rfl⟩
  | _ => cases h

theorem Exchange.reply?_eq_none {x : Exchange} (h : x.request.isInput = false) :
    x.reply? = none := by
  obtain ⟨request, answer⟩ := x
  cases request with
  | input prompt => cases h
  | _ => rfl

/-! ## What a script answers -/

/-- The answer that is written down, if there is to be one. -/
def Cue.answer? : Cue → Option Reply
  | .reply text => some (.ok text)
  | .failure cause => some (.error (.io cause))
  | .silence => none

namespace Script

/-- What a request hears of the next cue, or of there being none. -/
def heard : Option Cue → Option Reply
  | some cue => cue.answer?
  | none => some (.error .closed)

/-- The same world with other cues. -/
def recue (w : Script × φ) (cues : List Cue) : Script × φ :=
  ({ w.1 with cues }, w.2)

variable {fetch : Text → φ → φ × Option Response} {w : Script × φ} {cues first second : List Cue}
  {k : Nat}

theorem answer_input (prompt : Text) (w : Script × φ) (cues : List Cue) :
    (channel.environmentWith fetch).answer (.input prompt) (recue w cues) =
      (recue (w.1.record (.prompt prompt), w.2) cues.tail, heard cues.head?) := by
  rcases cues with _ | ⟨_ | _ | _, cues⟩ <;> rfl

/-- A call that is no request has nothing to do with the cues. -/
theorem answer_other {request : Call} (h : request.isInput = false) (w : Script × φ)
    (cues : List Cue) :
    (channel.environmentWith fetch).answer request (recue w cues) =
      (recue ((channel.environmentWith fetch).answer request w).1 cues,
        ((channel.environmentWith fetch).answer request w).2) := by
  obtain ⟨⟨cues', limit, log⟩, fetcher⟩ := w
  cases request with
  | message text => rcases limit with _ | _ | limit <;> rfl
  | error text => rfl
  | input prompt => cases h
  | fetch url => rfl
  | close => rfl

theorem head?_tail_of_take (h : first.take (k + 1) = second.take (k + 1)) :
    first.head? = second.head? ∧ first.tail.take k = second.tail.take k := by
  rcases first with _ | ⟨a, first⟩ <;> rcases second with _ | ⟨c, second⟩
  · exact ⟨rfl, rfl⟩
  · cases h
  · cases h
  · obtain ⟨rfl, htail⟩ := List.cons_eq_cons.mp h
    exact ⟨rfl, htail⟩

end Script

namespace Activity

open Script

variable {fetch : Text → φ → φ × Option Response} {first second : List Cue} {k : Nat}

/-- Scripts that begin with the same `k` cues hear the same calls up to the request behind
these. -/
theorem calls_agree (a : Activity α) (w : Script × φ) (h : first.take k = second.take k) :
    throughInput (k + 1)
        (a.performIn (channel.environmentWith fetch) (recue w first)).calls =
      throughInput (k + 1)
        (a.performIn (channel.environmentWith fetch) (recue w second)).calls := by
  induction a generalizing w first second k with
  | done s r => rfl
  | call s request resume ih =>
      rw [calls_call, calls_call, throughInput, throughInput]
      congr 1
      cases hinput : request.isInput with
      | false =>
          rw [answer_other hinput, answer_other hinput, if_neg Bool.false_ne_true]
          rcases (channel.environmentWith fetch).answer request w with ⟨w', _ | answer⟩
          · rfl
          · exact ih answer w' h
      | true =>
          obtain ⟨prompt, rfl⟩ := Call.exists_prompt hinput
          rw [if_pos rfl]
          cases k with
          | zero => rw [throughInput, throughInput]
          | succ k =>
              obtain ⟨hhead, htail⟩ := head?_tail_of_take h
              rw [answer_input, answer_input, hhead]
              rcases heard second.head? with _ | answer
              · rfl
              · exact ih answer _ htail

/-- Who asks no more than `k` times does not notice which cues come behind the first `k`. -/
theorem performIn_agree (a : Activity α) (w : Script × φ) (h : first.take k = second.take k)
    (hfew : inputCount (a.performIn (channel.environmentWith fetch) (recue w first)).calls ≤ k) :
    a.performIn (channel.environmentWith fetch) (recue w second) =
      let p := a.performIn (channel.environmentWith fetch) (recue w first)
      { p with world := recue p.world (second.drop (inputCount p.calls)) } := by
  induction a generalizing w first second k with
  | done s r => rfl
  | call s request resume ih =>
      dsimp only
      rw [calls_call, inputCount_cons] at hfew
      rw [calls_call, inputCount_cons, performIn, performIn]
      cases hinput : request.isInput with
      | false =>
          rw [answer_other hinput] at hfew ⊢
          rw [answer_other hinput]
          rcases hans : (channel.environmentWith fetch).answer request w with ⟨w', _ | answer⟩
          · rfl
          · rw [hans] at hfew
            have hrest := ih answer w' h (Nat.le_trans (Nat.le_add_right _ _) hfew)
            dsimp only
            rw [hrest]
            rfl
      | true =>
          obtain ⟨prompt, rfl⟩ := Call.exists_prompt hinput
          rw [if_pos hinput] at hfew
          cases k with
          | zero => cases hfew
          | succ k =>
              obtain ⟨hhead, htail⟩ := head?_tail_of_take h
              rw [answer_input] at hfew ⊢
              rw [answer_input, hhead]
              rw [hhead] at hfew
              rcases hheard : heard second.head? with _ | answer
              · rw [← List.drop_one]
                rfl
              · rw [hheard] at hfew
                have hrest := ih answer _ htail (Nat.le_of_succ_le_succ hfew)
                dsimp only at hrest ⊢
                rw [hrest, List.drop_tail]
                rfl

/-- Each request has used up one cue. -/
theorem cues_performIn (a : Activity α) (w : Script × φ) (cues : List Cue) :
    (a.performIn (channel.environmentWith fetch) (recue w cues)).world.1.cues =
      cues.drop (inputCount
        (a.performIn (channel.environmentWith fetch) (recue w cues)).calls) := by
  let p := a.performIn (channel.environmentWith fetch) (recue w cues)
  have hsame := performIn_agree a w (Eq.refl (cues.take (inputCount p.calls))) (Nat.le_refl _)
  exact congrArg (fun p => p.world.1.cues) hsame

/-- What was replied is what was heard of the cues, in their order. -/
theorem replies_performIn (a : Activity α) (w : Script × φ) (cues : List Cue) {i : Nat}
    {reply : Reply}
    (h : ((a.performIn (channel.environmentWith fetch) (recue w cues)).exchanges.filterMap
      Exchange.reply?)[i]? = some reply) :
    heard cues[i]? = some reply := by
  induction a generalizing w cues i with
  | done s r => cases h
  | call s request resume ih =>
      rw [performIn] at h
      cases hinput : request.isInput with
      | false =>
          rw [answer_other hinput] at h
          rcases hans : (channel.environmentWith fetch).answer request w with ⟨w', _ | answer⟩
          · rw [hans] at h
            cases h
          · rw [hans] at h
            rw [List.filterMap_cons_none (Exchange.reply?_eq_none hinput)] at h
            exact ih answer w' cues h
      | true =>
          obtain ⟨prompt, rfl⟩ := Call.exists_prompt hinput
          rw [answer_input] at h
          rcases hheard : heard cues.head? with _ | answer
          · rw [hheard] at h
            cases h
          · rw [hheard] at h
            have hreplied : Exchange.reply? ⟨.input prompt, answer⟩ = some answer := rfl
            rw [List.filterMap_cons_some hreplied] at h
            cases i with
            | zero =>
                obtain rfl := Option.some.inj h
                rw [← List.head?_eq_getElem?]
                exact hheard
            | succ i =>
                have hlater := ih answer _ cues.tail h
                rwa [List.getElem?_tail] at hlater

end Activity

namespace Session

open Script

/-- **Replies are read in order and not before they are asked for.** Let scripts differ in their
cues alone.

If they begin with the same `k` cues, their runs make the same calls up to the request behind
these, and if a run makes no more than `k` requests, the other one is the same, the cues that
are left aside. Each request takes one cue, the next one, and is answered by it. What is put
behind a script that is long enough changes nothing and is left over. -/
theorem replies_read_in_order (fetch : Text → φ → φ × Option Response) (fetcher : φ)
    (script : Script) (s : Session) (blocks : Nat) :
    let run (cues : List Cue) : Run (Script × φ) :=
      s.run (channel.environmentWith fetch) blocks ({ script with cues }, fetcher)
    (∀ k (first second : List Cue), first.take k = second.take k →
        throughInput (k + 1) (run first).calls = throughInput (k + 1) (run second).calls
          ∧ (inputCount (run first).calls ≤ k →
              run second = { run first with
                world := recue (run first).world
                  (second.drop (inputCount (run first).calls)) }))
      ∧ (∀ cues : List Cue, (run cues).world.1.cues = cues.drop (inputCount (run cues).calls)
          ∧ ∀ (i : Nat) reply, ((run cues).exchanges.filterMap Exchange.reply?)[i]? = some reply →
              heard cues[i]? = some reply)
      ∧ ∀ cues more : List Cue, inputCount (run cues).calls ≤ cues.length →
          run (cues ++ more) = { run cues with
            world := recue (run cues).world ((run cues).world.1.cues ++ more) } := by
  intro run
  have hcalls (cues : List Cue) : (run cues).calls =
      ((s.whole blocks).performIn (channel.environmentWith fetch)
        (recue (script, fetcher) cues)).calls := calls_run _ _ _ _
  have hrun (cues : List Cue) : run cues =
      let p := (s.whole blocks).performIn (channel.environmentWith fetch)
        (recue (script, fetcher) cues)
      ⟨p.world, p.session, p.exchanges, .ofOutcome p.outcome⟩ := run_eq_performIn _ _ _ _
  have hsame {k : Nat} {first second : List Cue} (h : first.take k = second.take k)
      (hfew : inputCount (run first).calls ≤ k) :
      run second = { run first with
        world := recue (run first).world (second.drop (inputCount (run first).calls)) } := by
    rw [hcalls] at hfew
    rw [hcalls, hrun, hrun, Activity.performIn_agree _ _ h hfew]
  have hleft (cues : List Cue) :
      (run cues).world.1.cues = cues.drop (inputCount (run cues).calls) := by
    rw [hcalls, hrun]
    exact Activity.cues_performIn _ _ cues
  refine ⟨fun k first second h => ⟨?_, hsame h⟩, fun cues => ⟨hleft cues, ?_⟩, ?_⟩
  · rw [hcalls, hcalls]
    exact Activity.calls_agree _ _ h
  · intro i reply hreply
    rw [hrun] at hreply
    exact Activity.replies_performIn _ _ cues hreply
  · intro cues more hfew
    have htake : cues.take cues.length = (cues ++ more).take cues.length := by
      rw [List.take_length, List.take_left]
    rw [hsame htake hfew, hleft, List.drop_append_of_le_length hfew]

def greetingFrom (cues : List Cue) : Run (Script × Fetcher) :=
  (Session.start greetingFlow {}).run Script.channel.environment 5 ({ cues }, .offline)

/-- The greeting reads one reply, and the other one is left. -/
theorem greeting_leaves_reply :
    inputCount (greetingFrom [.reply ['A']]).calls ≤ 1
      ∧ [Cue.reply ['A']].take 1 = [Cue.reply ['A'], .reply ['B']].take 1
      ∧ throughInput 2 (greetingFrom [.reply ['A']]).calls =
        throughInput 2 (greetingFrom [.reply ['A'], .reply ['B']]).calls
      ∧ (greetingFrom [.reply ['A'], .reply ['B']]).stop =
        (greetingFrom [.reply ['A']]).stop
      ∧ (greetingFrom [.reply ['A'], .reply ['B']]).world.1.cues = [.reply ['B']] := by
  obtain ⟨hagree, -, hlonger⟩ := replies_read_in_order Fetcher.fetch .offline {}
    (Session.start greetingFlow {}) 5
  have hfew : inputCount (greetingFrom [.reply ['A']]).calls ≤ 1 := by decide
  have hsame : greetingFrom [.reply ['A'], .reply ['B']] =
      { greetingFrom [.reply ['A']] with
        world := recue (greetingFrom [.reply ['A']]).world [.reply ['B']] } :=
    hlonger [.reply ['A']] [.reply ['B']] hfew
  refine ⟨hfew, rfl, (hagree 1 [.reply ['A']] [.reply ['A'], .reply ['B']] rfl).1, ?_, ?_⟩
  · rw [hsame]
  · rw [hsame]
    rfl

end Session

end Dialogue
