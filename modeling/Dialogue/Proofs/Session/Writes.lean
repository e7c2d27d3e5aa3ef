import Dialogue.Channel.Script
import Dialogue.Proofs.Session.History

/-!
# What a conversation keeps

Only two kinds of blocks write variables: one keeps the reply to its own request, the other
the summary of the response to its own fetch. `Block.kept` tells the write of a block by the
exchange that it begins with, and `keptAlong` the writes of a run by the blocks that it
visited and by its log, of which every block takes as many exchanges as it has calls to make.

The variables after any runs of a session are these writes, one after another
(`variables_are_writes`). So a request or a fetch that fails or stays without an answer
writes nothing, and a menu that fails afterwards takes no write back.
-/

namespace Dialogue

variable {σ : Type}

/-! ## Writes, told from visits and logs -/

/-- Sets variables to texts, one after another. -/
def Variables.keepAll (vars : Variables) (writes : List (Text × Text)) : Variables :=
  writes.foldl (fun vars w => vars.set w.1 (.text w.2)) vars

theorem Variables.keepAll_append (vars : Variables) (xs ys : List (Text × Text)) :
    vars.keepAll (xs ++ ys) = (vars.keepAll xs).keepAll ys :=
  List.foldl_append

/-- The reply to a request, if it was given. -/
def Exchange.given? : Exchange → Option Text
  | ⟨.input _, .ok reply⟩ => some reply
  | _ => none

theorem Exchange.given?_eq_some {x : Exchange} {reply : Text} (h : x.given? = some reply) :
    ∃ prompt, x = ⟨.input prompt, .ok reply⟩ := by
  obtain ⟨request, answer⟩ := x
  cases request with
  | input prompt =>
      cases answer with
      | ok text =>
          cases h
          exact ⟨prompt, rfl⟩
      | error e => cases h
  | _ => cases h

/-- The summary of the response to a fetch, if it came. -/
def Exchange.summary? : Exchange → Option Text
  | ⟨.fetch _, .ok response⟩ => some response.summarize
  | _ => none

/-- The write of a block that begins with an exchange: the reply as it is, or the summary of
the response. -/
def Block.kept (b : Block) (own : Option Exchange) : List (Text × Text) :=
  match b.kind with
  | .save (some name) => ((own.bind Exchange.given?).map fun reply => (name, reply)).toList
  | .externalCall (some _) (some name) =>
    ((own.bind Exchange.summary?).map fun summary => (name, summary)).toList
  | _ => []

section Told

variable (flow : Flow) (settings : Settings)

/-- How many requests the links of a block take. -/
def menuCount (b : Block) : Nat :=
  if 2 ≤ (flow.linksFrom b.id).length then 1 else 0

/-- How many calls a block makes if none of them fails. -/
def callCount (b : Block) : Nat :=
  match b.kind with
  | .start => menuCount flow b
  | .message => 1 + menuCount flow b
  | .save (some _) => 1 + menuCount flow b
  | .externalCall (some _) (some _) =>
    if settings.canFetch then 1 + menuCount flow b else 0
  | .choice (_ :: _) => 1
  | _ => 0

/-- The writes of the blocks with the given ids, whose exchanges stand in a log. -/
def keptAlong : List Text → List Exchange → List (Text × Text)
  | [], _ => []
  | id :: ids, log =>
    match flow.block? id with
    | none => keptAlong ids log
    | some b =>
      let count := callCount flow settings b
      b.kept (log.take count).head? ++ keptAlong ids (log.drop count)

/-- The writes of runs one after another, when some blocks have been visited before. -/
def keptOver : List Text → List (Run σ) → List (Text × Text)
  | _, [] => []
  | seen, r :: rs =>
    keptAlong flow settings (r.session.visited.drop seen.length) r.exchanges
      ++ keptOver r.session.visited rs

end Told

/-! ## What one block writes -/

namespace Conversation

variable {s s' : Session} {xs : List Exchange} {b : Block} {id : Text}

theorem Asked.store {prompt : Text} {purpose : Purpose} {r : Ending Text}
    (h : Asked id purpose prompt s xs s' r) : s'.store = s.store := by
  cases h <;> rfl

theorem Followed.store {o : Ending Transition} (h : Followed b s xs s' o) :
    s'.store = s.store := by
  cases h with
  | ended _ => rfl
  | single _ => rfl
  | offered _ hask => exact hask.store

/-- A block writes what it keeps of its first exchange, however it ends. -/
theorem Performed.store {o : Ending Transition} (h : Performed b s xs s' o) :
    s'.store = s.store.keepAll (b.kept xs.head?) := by
  cases h with
  | start hkind hnext => rw [Block.kept, hkind]; exact hnext.store
  | unsaid hkind => rw [Block.kept, hkind]; rfl
  | said hkind hnext => rw [Block.kept, hkind]; exact hnext.store
  | saveNameless hkind => rw [Block.kept, hkind]; rfl
  | saveRefused e hkind => rw [Block.kept, hkind]; rfl
  | saveUnanswered hkind => rw [Block.kept, hkind]; rfl
  | saved reply hkind hnext => rw [Block.kept, hkind]; exact hnext.store
  | branched hkind => rw [Block.kept, hkind]; rfl
  | optionless hkind => rw [Block.kept, hkind]; rfl
  | chose hkind _ hask => rw [Block.kept, hkind]; exact hask.store
  | callUrlless hkind => rw [Block.kept, hkind]; rfl
  | callNameless hkind => rw [Block.kept, hkind]; rfl
  | unavailable hkind => rw [Block.kept, hkind]; rfl
  | unfetched hkind => rw [Block.kept, hkind]; rfl
  | fetchFailed e hkind => rw [Block.kept, hkind]; rfl
  | fetched response hkind _ hnext => rw [Block.kept, hkind]; exact hnext.store
  | finished hkind => rw [Block.kept, hkind]; rfl
  | unknown hkind => rw [Block.kept, hkind]; rfl

/-! ## How many exchanges belong to one block -/

theorem Asked.length_le {prompt : Text} {purpose : Purpose} {r : Ending Text}
    (h : Asked id purpose prompt s xs s' r) : xs.length ≤ 1 := by
  cases h <;> simp

theorem Asked.length_eq {prompt : Text} {purpose : Purpose} {r : Except Failure Text}
    (h : Asked id purpose prompt s xs s' (.ok r)) : xs.length = 1 := by
  cases h <;> rfl

theorem Followed.length_le {o : Ending Transition} (h : Followed b s xs s' o) :
    xs.length ≤ menuCount s.flow b := by
  cases h with
  | ended _ => exact Nat.zero_le _
  | single _ => exact Nat.zero_le _
  | offered hlinks hask =>
      rw [menuCount, if_pos hlinks]
      exact hask.length_le

theorem Followed.length_eq {o : Ending Transition} {result : Except Failure Transition}
    (h : Followed b s xs s' o) (ho : .ok result = o) : xs.length = menuCount s.flow b := by
  cases h with
  | ended hlinks => rw [menuCount, hlinks]; rfl
  | single hlinks => rw [menuCount, hlinks]; rfl
  | @offered _ _ r hlinks hask =>
      rw [menuCount, if_pos hlinks]
      cases r with
      | error request => cases ho
      | ok r => exact hask.length_eq

/-- A block never makes more calls than it has to make. -/
theorem Performed.length_le {o : Ending Transition} (h : Performed b s xs s' o) :
    xs.length ≤ callCount s.flow s.settings b := by
  cases h with
  | start hkind hnext => rw [callCount, hkind]; exact hnext.length_le
  | said hkind hnext =>
      rw [callCount, hkind, List.length_cons, Nat.add_comm]
      exact Nat.add_le_add_left hnext.length_le 1
  | saveRefused e hkind => rw [callCount, hkind]; exact Nat.le_add_right 1 _
  | saved reply hkind hnext =>
      rw [callCount, hkind, List.length_cons, Nat.add_comm]
      exact Nat.add_le_add_left hnext.length_le 1
  | @chose choices _ _ _ hkind hne hask =>
      obtain ⟨first, rest, rfl⟩ := List.exists_cons_of_ne_nil hne
      rw [callCount, hkind]
      exact hask.length_le
  | fetchFailed e hkind hfetch =>
      rw [callCount, hkind]
      dsimp only
      rw [if_pos hfetch]
      exact Nat.le_add_right 1 _
  | fetched response hkind hfetch hnext =>
      rw [callCount, hkind]
      dsimp only
      rw [if_pos hfetch, List.length_cons, Nat.add_comm]
      exact Nat.add_le_add_left hnext.length_le 1
  | _ => exact Nat.zero_le _

/-- A block that comes to a result has made all its calls, or else it has failed at its
first one. -/
theorem Performed.length_eq {o : Ending Transition} {result : Except Failure Transition}
    (h : Performed b s xs s' o) (ho : .ok result = o) :
    xs.length = callCount s.flow s.settings b
      ∨ xs ≠ [] ∧ ∃ failure, result = .error failure := by
  cases h with
  | start hkind hnext => rw [callCount, hkind]; exact Or.inl (hnext.length_eq ho)
  | unsaid => cases ho
  | said hkind hnext =>
      rw [callCount, hkind, List.length_cons, hnext.length_eq ho, Nat.add_comm]
      exact Or.inl rfl
  | saveNameless hkind => rw [callCount, hkind]; exact Or.inl rfl
  | saveRefused e hkind => exact Or.inr ⟨List.cons_ne_nil _ _, _, Except.ok.inj ho⟩
  | saveUnanswered => cases ho
  | saved reply hkind hnext =>
      have hmenu : _ = menuCount s.flow b := hnext.length_eq ho
      rw [callCount, hkind, List.length_cons, hmenu, Nat.add_comm]
      exact Or.inl rfl
  | branched hkind => rw [callCount, hkind]; exact Or.inl rfl
  | optionless hkind => rw [callCount, hkind]; exact Or.inl rfl
  | @chose choices _ _ r hkind hne hask =>
      obtain ⟨first, rest, rfl⟩ := List.exists_cons_of_ne_nil hne
      rw [callCount, hkind]
      cases r with
      | error request => cases ho
      | ok r => exact Or.inl hask.length_eq
  | callUrlless hkind => rw [callCount, hkind]; exact Or.inl rfl
  | callNameless hkind => rw [callCount, hkind]; exact Or.inl rfl
  | unavailable hkind hfetch =>
      rw [callCount, hkind]
      dsimp only
      rw [if_neg (by simp [hfetch])]
      exact Or.inl rfl
  | unfetched => cases ho
  | fetchFailed e hkind hfetch => exact Or.inr ⟨List.cons_ne_nil _ _, _, Except.ok.inj ho⟩
  | fetched response hkind hfetch hnext =>
      have hmenu : _ = menuCount s.flow b := hnext.length_eq ho
      rw [callCount, hkind]
      dsimp only
      rw [if_pos hfetch, List.length_cons, hmenu, Nat.add_comm]
      exact Or.inl rfl
  | finished hkind => rw [callCount, hkind]; exact Or.inl rfl
  | unknown hkind => rw [callCount, hkind]; exact Or.inl rfl

/-- What a block keeps can be told from a log that begins with its exchanges; behind them
the log goes on if the block has come to a result. -/
theorem Performed.kept_take {o : Ending Transition} (h : Performed b s xs s' o)
    (log : List Exchange) (hlog : log = [] ∨ ∃ result, .ok result = o) :
    b.kept ((xs ++ log).take (callCount s.flow s.settings b)).head? = b.kept xs.head? := by
  have hle := h.length_le
  cases xs with
  | cons x xs =>
      -- The first exchange is among those that are taken.
      obtain ⟨more, hmore⟩ := Nat.exists_eq_add_of_le' hle
      rw [hmore]
      rfl
  | nil =>
      rcases hlog with rfl | ⟨result, ho⟩
      · rw [List.append_nil, List.take_nil]
      · rcases h.length_eq ho with hcount | ⟨hne, -⟩
        · rw [← hcount]
          rfl
        · exact absurd rfl hne

end Conversation

/-! ## What runs write -/

namespace Session

open Conversation

variable {s s' : Session} {xs : List Exchange}

/-- The writes of a run are told by the blocks that it has visited and by its log. -/
theorem Course.kept {stop : Stop} (h : Course s xs s' stop) :
    ∃ ids, s'.visited = s.visited ++ ids
      ∧ s'.store = s.store.keepAll (keptAlong s.flow s.settings ids xs) := by
  induction h with
  | concluded hpos hfin => cases hfin <;> exact ⟨[], (List.append_nil _).symm, rfl⟩
  | unconcluded hpos hfin => cases hfin <;> exact ⟨[], (List.append_nil _).symm, rfl⟩
  | @halted s₁ s₂ id xs request hpos hent =>
      cases hent with
      | @block b _ _ _ hblock hdone =>
          refine ⟨[id], hdone.visited, ?_⟩
          have htake := hdone.kept_take [] (Or.inl rfl)
          rw [List.append_nil] at htake
          simp only [keptAlong, hblock, List.append_nil]
          rw [htake]
          exact hdone.store
  | @went s₁ s₂ s₃ id xs ys result stop hpos hent rest ih =>
      have halike := hent.keeps.alike.trans (alike_settle s₂ result)
      obtain ⟨ids, hvisited, hstore⟩ := ih
      rw [settle_visited] at hvisited
      rw [halike.1, halike.2.1, settle_store] at hstore
      cases hent with
      | nowhere hblock => exact ⟨ids, hvisited, hstore⟩
      | @block b _ _ _ hblock hdone =>
          refine ⟨id :: ids, ?_, ?_⟩
          · rw [hvisited, hdone.visited, List.append_assoc, List.singleton_append]
          have htake := hdone.kept_take ys (Or.inr ⟨result, rfl⟩)
          have hown := hdone.store
          have hdrop : keptAlong s₁.flow s₁.settings ids
              ((xs ++ ys).drop (callCount s₁.flow s₁.settings b)) =
                keptAlong s₁.flow s₁.settings ids ys := by
            rcases hdone.length_eq rfl with hcount | ⟨-, failure, rfl⟩
            · rw [← hcount, List.drop_left]
            · -- After a failure nothing more is visited.
              obtain ⟨hnone, -⟩ := rest.of_ended rfl
              rw [settle_visited, hvisited] at hnone
              obtain rfl := List.append_right_eq_self.mp hnone
              rfl
          simp only [keptAlong, hblock]
          rw [htake, hdrop, Variables.keepAll_append, hstore, hown]
  | exhausted => exact ⟨[], (List.append_nil _).symm, rfl⟩

/-- Runs of one session one after another, each with a bound on the blocks that it may enter
and in the world that it finds; each goes on where the one before has stopped. -/
def runs (env : Environment σ) : List (Nat × σ) → Session → List (Run σ)
  | [], _ => []
  | (blocks, world) :: tries, s =>
    let r := s.run env blocks world
    r :: runs env tries r.session

theorem store_of_runs {env : Environment σ} {tries : List (Nat × σ)}
    {before after : List (Run σ)} {r : Run σ} (hruns : s.runs env tries = before ++ r :: after) :
    r.session.store = s.store.keepAll
      (keptOver s.flow s.settings s.visited (before ++ [r])) := by
  induction before generalizing s tries with
  | nil =>
      rcases tries with _ | ⟨⟨blocks, world⟩, tries⟩
      · cases hruns
      obtain ⟨rfl, -⟩ := List.cons_eq_cons.mp hruns
      obtain ⟨ids, hvisited, hstore⟩ := (course_run env blocks s world).kept
      rw [List.nil_append, keptOver, hvisited, List.drop_left, keptOver, List.append_nil]
      exact hstore
  | cons first before ih =>
      rcases tries with _ | ⟨⟨blocks, world⟩, tries⟩
      · cases hruns
      obtain ⟨rfl, hrest⟩ := List.cons_eq_cons.mp hruns
      have hcourse := course_run env blocks s world
      obtain ⟨ids, hvisited, hstore⟩ := hcourse.kept
      obtain ⟨hflow, hsettings⟩ := hcourse.fixed
      have hlater := ih hrest
      rw [hflow, hsettings, hstore, ← Variables.keepAll_append] at hlater
      rw [List.cons_append, keptOver, hlater, hvisited, List.drop_left]

/-- **The variables are the writes of the visited blocks.** After any runs of a new session,
wherever each of them has stopped, the variables are those that no one has set with these
writes in the order of the visits: the reply to the request of a block that keeps it, if it
was given, and the summary of the response to the fetch of a block that keeps that, if it
came. In particular, whatever else a block does and however it ends, it leaves the variables
as they were but for that one write, which depends on its first exchange alone. -/
theorem variables_are_writes {env : Environment σ} {flow : Flow} {settings : Settings}
    {tries : List (Nat × σ)} {before after : List (Run σ)} {r : Run σ}
    (hruns : (Session.start flow settings).runs env tries = before ++ r :: after) :
    r.session.store = Variables.empty.keepAll (keptOver flow settings [] (before ++ [r]))
      ∧ ∀ (s : Session) (id : Text) (world : σ),
        let p := (Conversation.step id s).performIn env world
        (s.flow.block? id = none → p.session.store = s.store)
          ∧ ∀ b, s.flow.block? id = some b →
            p.session.store = s.store.keepAll (b.kept p.exchanges.head?) := by
  refine ⟨store_of_runs hruns, fun s id world => ?_⟩
  have hent := entered_of_path (Activity.path_performIn env (Conversation.step id s) world)
  generalize (Conversation.step id s).performIn env world = p at hent
  obtain ⟨world', s', xs, outcome⟩ := p
  cases hent with
  | nowhere hnone => exact ⟨fun _ => rfl, fun b hb => nomatch hnone.symm.trans hb⟩
  | @block b _ _ _ hblock hdone =>
      refine ⟨fun hnone => (nomatch hblock.symm.trans hnone), fun b' hb' => ?_⟩
      obtain rfl := Option.some.inj (hblock.symm.trans hb')
      exact hdone.store

/-- Keeps a reply and then asks whether to do so again. -/
def retryFlow : Flow :=
  .ofParts
    [⟨['s'], none, .start⟩,
      ⟨['q'], none, .save (some ['n'])⟩,
      ⟨['e'], none, .finish⟩]
    [⟨['s'], ['q'], none, none⟩,
      ⟨['q'], ['q'], none, none⟩,
      ⟨['q'], ['e'], none, none⟩]

/-- A run of that conversation with the given cues. -/
def retryRun (s : Session) (cues : List Cue) : Run (Script × Fetcher) :=
  s.run Script.channel.environment 5 ({ cues }, .offline)

/-- The first request is abandoned. -/
def retryFirst : Run (Script × Fetcher) :=
  retryRun (Session.start retryFlow {}) [.silence]

/-- The second request is answered, and the menu behind it is abandoned. -/
def retrySecond : Run (Script × Fetcher) :=
  retryRun retryFirst.session [.reply [' ', 'A'], .silence]

/-- The third request is answered, and the reply to the menu behind it picks nothing. -/
def retryLast : Run (Script × Fetcher) :=
  retryRun retrySecond.session [.reply ['B'], .reply ['7']]

/-- The bounds and the cues of these runs. -/
def retryTries : List (Nat × Script × Fetcher) := [
  (5, { cues := [.silence] }, .offline),
  (5, { cues := [.reply [' ', 'A'], .silence] }, .offline),
  (5, { cues := [.reply ['B'], .reply ['7']] }, .offline)]

theorem retry_variables :
    (Session.start retryFlow {}).runs Script.channel.environment retryTries
        = [retryFirst, retrySecond] ++ retryLast :: []
      ∧ retryLast.stop = .returned (.failed (.invalidChoice ['q'] ['7']))
      ∧ retryLast.session.visited = [['s'], ['q'], ['q'], ['q']]
      ∧ retryLast.session.store
        = Variables.empty.keepAll [(['n'], [' ', 'A']), (['n'], ['B'])] := by
  have hruns : (Session.start retryFlow {}).runs Script.channel.environment retryTries =
      [retryFirst, retrySecond] ++ retryLast :: [] := rfl
  exact ⟨hruns, rfl, rfl, (variables_are_writes hruns).1⟩

end Session

end Dialogue
