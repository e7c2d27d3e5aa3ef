import Dialogue.Channel.Script
import Dialogue.Proofs.Session.Branching
import Dialogue.Proofs.Session.Whole
import Dialogue.Proofs.Session.Writes

/-!
# What variables hold

Blocks keep replies and summaries, so in all sessions that come up in runs every variable holds a
text. That tells of some conditions how they come out: one that compares with a truth value is
met exactly if its variable is set and it asks for a difference, and one that compares with a
number and does not ask for a difference is met by no reply without a numeric reading
(`reached_holds_texts`).
-/

namespace Dialogue

/-! ## Texts -/

/-- Every variable that is set holds a text. -/
def Variables.Textual (vars : Variables) : Prop :=
  ∀ name value, vars.get? name = some value → ∃ s, value = .text s

namespace Variables

variable {vars : Variables}

theorem textual_empty : empty.Textual := by
  intro name value h
  simp at h

theorem Textual.set (h : vars.Textual) (name s : Text) : (vars.set name (.text s)).Textual := by
  intro other value hvalue
  by_cases hname : other = name
  · subst hname
    rw [get?_set_self] at hvalue
    exact ⟨s, (Option.some.inj hvalue).symm⟩
  · rw [get?_set_of_ne hname] at hvalue
    exact h other value hvalue

theorem Textual.keepAll (h : vars.Textual) (writes : List (Text × Text)) :
    (vars.keepAll writes).Textual := by
  induction writes generalizing vars with
  | nil => exact h
  | cons w writes ih => exact ih (h.set w.1 w.2)

end Variables

/-! ## Conditions on texts -/

namespace Condition

variable {vars : Variables} {c : Condition}

theorem met_bool (h : vars.Textual) {t : Bool} (hc : c.comparand = .bool t) :
    c.met vars ↔ (vars.get? c.variableName).isSome ∧ c.operator = .notEqual := by
  unfold met
  rw [hc]
  rcases hvalue : vars.get? c.variableName with _ | value
  · simp [Operator.holds]
  · obtain ⟨s, rfl⟩ := h _ _ hvalue
    simp [Operator.holds, Value.asNumber, Value.orderNative]

theorem not_met_number {x : Binary64} {reply : Text} (hc : c.comparand = .number x)
    (hoperator : c.operator ≠ .notEqual) (hreply : vars.get? c.variableName = some (.text reply))
    (hreading : (Value.text reply).asNumber = none) : ¬ c.met vars := by
  unfold met
  rw [hc, hreply]
  simp [Operator.holds, hreading, Value.orderNative, hoperator]

end Condition

/-- A condition that is not met might as well be left out. -/
theorem branchLink?_unmet {s : Session} {c : Condition} (h : ¬ c.met s.store) (id : Text)
    (before after : List Condition) :
    Conversation.branchLink? s id (before ++ c :: after) =
      Conversation.branchLink? s id (before ++ after) := by
  rw [Conversation.branchLink?_eq, Conversation.branchLink?_eq, List.filter_append,
    List.filter_cons_of_neg h, List.filter_append]

/-! ## Sessions that come up -/

namespace Session

/-- The sessions that come up in runs of a session, whoever answers. A bound on the blocks stops
a run between any two of them; an abandoned run leaves the session of the open call. -/
inductive Reached (first : Session) : Session → Prop
  | here : Reached first first
  | ran {σ : Type} {s : Session} (h : Reached first s) (env : Environment σ) (blocks : Nat)
      (world : σ) : Reached first (s.run env blocks world).session
  | calling {σ : Type} {s : Session} (h : Reached first s) (env : Environment σ) (blocks : Nat)
      (world : σ) {m : Moment} (hm : m ∈ s.moments env blocks world) : Reached first m.session

variable {first s s' : Session} {xs : List Exchange} {stop : Stop}

theorem Course.textual (h : Course s xs s' stop) (hs : s.store.Textual) : s'.store.Textual := by
  obtain ⟨ids, -, hstore⟩ := h.kept
  rw [hstore]
  exact hs.keepAll _

theorem Reached.textual (h : Reached first s) (hfirst : first.store.Textual) :
    s.store.Textual := by
  induction h with
  | here => exact hfirst
  | ran _ env blocks world ih => exact (course_run env blocks _ world).textual ih
  | calling _ env blocks world hm ih =>
      obtain ⟨earlier, later, hmoments⟩ := List.append_of_mem hm
      obtain ⟨ys, -, hcourse⟩ := course_of_moments hmoments
      exact hcourse.textual ih

/-- **Variables hold texts.** In all sessions that come up in runs of a new one, every variable
holds a text. So a condition that compares with a truth value is met exactly if its variable is
set and its operator asks for a difference, whatever the truth value and the text are; and a
condition that compares with a number, by another operator, is met by no reply that has no
numeric reading. A run that comes to a conditional block goes on as if the block did not have a
condition that is not met. -/
theorem reached_holds_texts {flow : Flow} {settings : Settings} {s : Session}
    (h : (Session.start flow settings).Reached s) :
    s.store.Textual
      ∧ (∀ (c : Condition) (t : Bool), c.comparand = .bool t →
          (c.met s.store ↔
            (s.store.get? c.variableName).isSome ∧ c.operator = .notEqual))
      ∧ (∀ (c : Condition) (x : Binary64) (reply : Text), c.comparand = .number x →
          c.operator ≠ .notEqual → s.store.get? c.variableName = some (.text reply) →
          (Value.text reply).asNumber = none → ¬ c.met s.store)
      ∧ ∀ (id : Text) (b : Block) (before : List Condition) (c : Condition)
          (after : List Condition), s.flow.block? id = some b →
          b.kind = .conditional (before ++ c :: after) → ¬ c.met s.store →
          Conversation.step id s = .done { s with visited := s.visited ++ [id] }
            (Conversation.leadTo (.noDefaultLink id)
              (Conversation.branchLink? s id (before ++ after))) := by
  have htextual : s.store.Textual := h.textual Variables.textual_empty
  refine ⟨htextual, fun c t hc => Condition.met_bool htextual hc,
    fun c x reply hc hoperator hreply hreading =>
      Condition.not_met_number hc hoperator hreply hreading, ?_⟩
  intro id b before c after hblock hkind hunmet
  rw [Conversation.step_conditional hblock hkind, branchLink?_unmet hunmet]

/-- Asks a question and branches on the answer: whether it is a truth value, whether it is a
number above three, and whether there is one. -/
def pollFlow : Flow :=
  .ofParts
    [⟨['s'], none, .start⟩,
      ⟨['q'], none, .save (some ['n'])⟩,
      ⟨['c'], none, .conditional [
        ⟨['n'], .equal, .bool true, ['A']⟩,
        ⟨['n'], .greater, .number ⟨0x4008000000000000⟩, ['A']⟩,
        ⟨['n'], .notEqual, .bool true, ['B']⟩]⟩]
    [⟨['s'], ['q'], none, none⟩,
      ⟨['q'], ['c'], none, none⟩,
      ⟨['c'], ['q'], some ['A'], none⟩,
      ⟨['c'], ['s'], some ['B'], none⟩]

/-- The answer is `true`, and the run is at the conditional block. -/
def pollAnswered : Session :=
  ((Session.start pollFlow {}).run Script.channel.environment 2
    ({ cues := [.reply ['t', 'r', 'u', 'e']] }, .offline)).session

theorem poll_holds_text :
    (Session.start pollFlow {}).Reached pollAnswered
      ∧ pollAnswered.store.get? ['n'] = some (.text ['t', 'r', 'u', 'e'])
      ∧ ¬ Condition.met pollAnswered.store ⟨['n'], .equal, .bool true, ['A']⟩
      ∧ Condition.met pollAnswered.store ⟨['n'], .notEqual, .bool true, ['B']⟩
      ∧ (Value.text ['t', 'r', 'u', 'e']).asNumber = none
      ∧ ¬ Condition.met pollAnswered.store
          ⟨['n'], .greater, .number ⟨0x4008000000000000⟩, ['A']⟩
      ∧ Conversation.step ['c'] pollAnswered =
          .done { pollAnswered with visited := [['s'], ['q'], ['c']] } (.ok (.goto ['s'])) := by
  have hreached : (Session.start pollFlow {}).Reached pollAnswered := .ran .here _ 2 _
  obtain ⟨-, hbool, hnumber, hstep⟩ := reached_holds_texts hreached
  have hvalue : pollAnswered.store.get? ['n'] = some (.text ['t', 'r', 'u', 'e']) := rfl
  have hreading : (Value.text ['t', 'r', 'u', 'e']).asNumber = none := rfl
  have hequal := (hbool ⟨['n'], .equal, .bool true, ['A']⟩ true rfl).not.mpr (by simp)
  have hdifferent := (hbool ⟨['n'], .notEqual, .bool true, ['B']⟩ true rfl).mpr ⟨rfl, rfl⟩
  have hgreater := hnumber ⟨['n'], .greater, .number ⟨0x4008000000000000⟩, ['A']⟩ _ _ rfl
    (by decide) hvalue hreading
  refine ⟨hreached, hvalue, hequal, hdifferent, hreading, hgreater, ?_⟩
  exact hstep ['c'] _ [] _ _ rfl rfl hequal

end Session

end Dialogue
