import Dialogue.Channel.Script
import Dialogue.Proofs.Session.Simulation

/-!
# Following a script

A script of replies answers each request with the next reply and, when there is none
left, with a closed channel. A channel that does the same with what it is given, and
shows what it was asked to do, interprets scripts (`Channel.Interprets`); then it
follows the scripted channel.

A run that asks more often than there are replies ends because the channel is closed
(`closed_of_more_prompts`).
-/

namespace Dialogue

variable {τ φ : Type}

namespace Script

/-- The script of the given replies. -/
def ofReplies (replies : List Text) : Script where
  cues := replies.map .reply

/-- A script that has the given replies left and takes every message. -/
structure Answering (s : Script) (replies : List Text) : Prop where
  cues : s.cues = replies.map .reply
  unlimited : s.messageLimit = none

theorem answering_ofReplies (replies : List Text) :
    (ofReplies replies).Answering replies := ⟨rfl, rfl⟩

variable {s s' : Script} {replies : List Text} {prompt text : Text} {reply : Reply}

theorem Answering.record (h : s.Answering replies) (action : Action) :
    (s.record action).Answering replies := ⟨h.cues, h.unlimited⟩

theorem Answering.of_message (h : s.Answering replies)
    (hmessage : channel.message text s = (s', some ())) : s' = s.record (.message text) := by
  have hdone : channel.message text s = completed (s.record (.message text)) := by
    show message text s = _
    rw [message, h.unlimited]
  rw [hdone] at hmessage
  exact (congrArg Prod.fst hmessage).symm

theorem Answering.of_input (h : s.Answering replies)
    (hinput : channel.input prompt s = (s', some reply)) :
    s'.log = s.log ++ [.prompt prompt]
      ∧ ((replies = [] ∧ reply = .error .closed ∧ s'.Answering [])
        ∨ ∃ text rest, replies = text :: rest ∧ reply = .ok text ∧ s'.Answering rest) := by
  have hrequest : request prompt s = (s', some reply) := hinput
  rw [request] at hrequest
  rw [show (s.record (.prompt prompt)).cues = s.cues from rfl, h.cues] at hrequest
  cases replies with
  | nil =>
      obtain ⟨rfl, hreply⟩ := Prod.mk.inj hrequest
      exact ⟨rfl, .inl ⟨rfl, (Option.some.inj hreply).symm, h.record _⟩⟩
  | cons text rest =>
      obtain ⟨rfl, hreply⟩ := Prod.mk.inj hrequest
      exact ⟨rfl, .inr ⟨text, rest, rfl, (Option.some.inj hreply).symm, rfl, h.unlimited⟩⟩

end Script

/-! ## Channels that interpret scripts -/

/-- A channel plays a script through. `Turn replies log d` says that `d` is to be given
these replies and shows a log of what it was asked to do, and `Over log d` that `d` is
closed and shows a log. -/
structure Channel.Interprets (channel : Channel τ)
    (Turn : List Text → List Action → τ → Prop) (Over : List Action → τ → Prop) :
    Prop where
  message {replies log d} (text : Text) (h : Turn replies log d) :
    ∃ d', channel.message text d = (d', some ()) ∧ Turn replies (log ++ [.message text]) d'
  error {replies log d} (text : Text) (h : Turn replies log d) :
    ∃ d', channel.error text d = (d', some ()) ∧ Turn replies (log ++ [.error text]) d'
  answer {reply replies log d} (prompt : Text) (h : Turn (reply :: replies) log d) :
    ∃ d', channel.input prompt d = (d', some (.ok reply))
      ∧ Turn replies (log ++ [.prompt prompt]) d'
  refuse {log d} (prompt : Text) (h : Turn [] log d) :
    ∃ d', channel.input prompt d = (d', some (.error .closed))
      ∧ Turn [] (log ++ [.prompt prompt]) d'
  close {replies log d} (h : Turn replies log d) :
    ∃ d', channel.close d = (d', some ()) ∧ Over (log ++ [.closed]) d'

/-- A channel that interprets scripts follows the scripted channel. -/
theorem Channel.Interprets.follows {channel : Channel τ}
    {Turn : List Text → List Action → τ → Prop} {Over : List Action → τ → Prop}
    (h : channel.Interprets Turn Over) :
    channel.Follows Script.channel
      (fun s d => ∃ replies, s.Answering replies ∧ Turn replies s.log d)
      (fun s d => Over s.log d) where
  message := by
    rintro s s' d text ⟨replies, hs, hd⟩ hmessage
    obtain rfl := hs.of_message hmessage
    obtain ⟨d', hd', hturn⟩ := h.message text hd
    exact ⟨d', hd', replies, hs.record _, hturn⟩
  error := by
    rintro s s' d text ⟨replies, hs, hd⟩ herror
    obtain rfl : s.record (.error text) = s' := congrArg Prod.fst herror
    obtain ⟨d', hd', hturn⟩ := h.error text hd
    exact ⟨d', hd', replies, hs.record _, hturn⟩
  input := by
    rintro s s' d reply prompt ⟨replies, hs, hd⟩ hinput
    obtain ⟨hlog, ⟨rfl, rfl, hs'⟩ | ⟨text, rest, rfl, rfl, hs'⟩⟩ := hs.of_input hinput
    · obtain ⟨d', hd', hturn⟩ := h.refuse prompt hd
      exact ⟨d', hd', [], hs', hlog ▸ hturn⟩
    · obtain ⟨d', hd', hturn⟩ := h.answer prompt hd
      exact ⟨d', hd', rest, hs', hlog ▸ hturn⟩
  close := by
    rintro s s' d ⟨replies, hs, hd⟩ hclose
    obtain rfl : s.record .closed = s' := congrArg Prod.fst hclose
    exact h.close hd

/-! ## Running out of replies -/

/-- Whether a channel was asked for input. -/
def Action.isPrompt : Action → Bool
  | .prompt _ => true
  | _ => false

/-- How often a script has been asked for input. -/
def Script.prompts (s : Script) : Nat :=
  s.log.countP Action.isPrompt

theorem Script.prompts_record (s : Script) {action : Action} (h : action.isPrompt = false) :
    (s.record action).prompts = s.prompts := by
  rw [prompts, record, List.countP_append, List.countP_singleton, h, if_neg Bool.false_ne_true]
  rfl

/-- One exchange uses up a reply if it is a request, unless that is refused. -/
theorem Script.Answering.prompts_exchange {fetch : Text → φ → φ × Option Response} {s : Script}
    {f : φ} {w : Script × φ} {x : Exchange} {replies : List Text} (hs : s.Answering replies)
    (hanswer : (Script.channel.environmentWith fetch).answer x.request (s, f) =
      (w, some x.answer)) :
    (∃ prompt, x = ⟨.input prompt, .error .closed⟩)
      ∨ ∃ rest, w.1.Answering rest
        ∧ w.1.prompts + rest.length = s.prompts + replies.length := by
  have hrecorded {action : Action} (hquiet : action.isPrompt = false)
      (hw : w.1 = s.record action) :
      ∃ rest, w.1.Answering rest ∧ w.1.prompts + rest.length = s.prompts + replies.length :=
    ⟨replies, hw ▸ hs.record action, by rw [hw, s.prompts_record hquiet]⟩
  obtain ⟨request, answer⟩ := x
  obtain ⟨hstate, hreply⟩ := Prod.mk.inj hanswer
  have hfirst := congrArg Prod.fst hstate
  cases request with
  | message text => exact .inr (hrecorded rfl (hs.of_message (Prod.ext hfirst hreply)))
  | error text => exact .inr (hrecorded rfl hfirst.symm)
  | input prompt =>
      obtain ⟨hlog, ⟨-, rfl, -⟩ | ⟨text, rest, rfl, -, hrest⟩⟩ :=
        hs.of_input (Prod.ext hfirst hreply)
      · exact .inl ⟨prompt, rfl⟩
      · refine .inr ⟨rest, hrest, ?_⟩
        rw [prompts, hlog, List.countP_append, List.length_cons]
        show s.prompts + 1 + _ = _
        omega
  | fetch url =>
      have hw : s = w.1 := hfirst
      exact .inr ⟨replies, hw ▸ hs, by rw [hw]⟩
  | close => exact .inr (hrecorded rfl hfirst.symm)

/-- Every request uses up a reply, unless one is refused. -/
theorem Script.Answering.prompts_le {fetch : Text → φ → φ × Option Response} {s : Script}
    {f : φ} {w : Script × φ} {xs : List Exchange} {replies : List Text}
    (hs : s.Answering replies)
    (h : (Script.channel.environmentWith fetch).Gives (s, f) xs w) :
    (∃ prompt, ⟨.input prompt, .error .closed⟩ ∈ xs)
      ∨ w.1.prompts ≤ s.prompts + replies.length := by
  induction xs generalizing s f replies with
  | nil =>
      cases h
      exact .inr (Nat.le_add_right _ _)
  | cons x xs ih =>
      obtain ⟨w₁, hanswer, hgives⟩ := Environment.gives_cons_iff.mp h
      rcases hs.prompts_exchange hanswer with ⟨prompt, rfl⟩ | ⟨rest, hrest, hcount⟩
      · exact .inl ⟨prompt, List.mem_cons_self⟩
      · rcases ih hrest hgives with ⟨prompt, hmem⟩ | hle
        · exact .inl ⟨prompt, List.mem_cons_of_mem _ hmem⟩
        · exact .inr (hcount ▸ hle)

/-- **A run that asks more often than there are replies ends because the channel is
closed.** -/
theorem Session.closed_of_more_prompts {fetch : Text → φ → φ × Option Response} {f : φ}
    {s : Session} {blocks : Nat} {replies : List Text} {t : Termination}
    {r : Run (Script × φ)}
    (hr : s.run (Script.channel.environmentWith fetch) blocks (.ofReplies replies, f) = r)
    (hreturned : r.stop = .returned t)
    (hmore : replies.length < r.world.1.log.countP Action.isPrompt) :
    t = .failed (.channel .closed) := by
  subst hr
  have hcourse := Session.course_run (Script.channel.environmentWith fetch) blocks s
    (.ofReplies replies, f)
  rw [hreturned] at hcourse
  rcases (Script.answering_ofReplies replies).prompts_le (Session.gives_run _ hreturned) with
    ⟨prompt, hmem⟩ | hle
  · exact hcourse.refused_failure hmem
  · have hprompts : (Script.ofReplies replies).prompts = 0 := rfl
    rw [hprompts, Nat.zero_add] at hle
    exact absurd hmore (Nat.not_lt.mpr hle)

end Dialogue
