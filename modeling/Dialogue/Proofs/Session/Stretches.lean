import Mathlib.Data.List.Chain
import Mathlib.Data.List.Perm.Subperm
import Dialogue.Proofs.Channel.Cues
import Dialogue.Proofs.Session.Trail

/-!
# Runs that end

Between two blocks that have been granted a reply, a run cannot come back to a block without
going round a cycle of the flow. So if every cycle passes a block that always asks, what a run
visits falls into stretches in which no block stands twice, one stretch more than there were
replies (`Course.stretches`), and a script of `n` cues makes an end of the run within
`(n + 1) * B` visits to `B` blocks (`run_ends_within`). Without cycles there is one stretch,
whoever answers.
-/

namespace Dialogue

variable {σ φ α : Type}

/-! ## Cycles and stretches -/

namespace Flow

/-- Blocks that are there, none of them twice. -/
structure Stretch (f : Flow) (ids : List Text) : Prop where
  nodup : ids.Nodup
  resolved : ∀ id ∈ ids, ∃ b, f.block? id = some b

/-- Blocks that are joined in a ring. -/
structure Cycle (f : Flow) (first : Text) (rest : List Text) : Prop where
  stretch : f.Stretch (first :: rest)
  joined : (first :: rest ++ [first]).IsChain f.Joined

/-- Some block among these has the property. -/
def Passes (f : Flow) (P : Block → Prop) (ids : List Text) : Prop :=
  ∃ id ∈ ids, ∃ b, f.block? id = some b ∧ P b

/-- A conversation goes on from the block only when it has been given a reply there. -/
def AlwaysAsks (f : Flow) (b : Block) : Prop :=
  (∃ name, b.kind = .save (some name)) ∨ OffersOptions b
    ∨ ((b.kind = .start ∨ b.kind = .message ∨ (∃ name, b.kind = .save name)
          ∨ ∃ url name, b.kind = .externalCall url name)
        ∧ 2 ≤ (f.linksFrom b.id).length)

theorem AlwaysAsks.two_le_links {f : Flow} {b : Block} (h : f.AlwaysAsks b)
    (hsave : ∀ name, b.kind ≠ .save name) (hchoice : ∀ choices, b.kind ≠ .choice choices) :
    2 ≤ (f.linksFrom b.id).length := by
  rcases h with ⟨name, hkind⟩ | ⟨choices, -, hkind⟩ | ⟨-, hlinks⟩
  · exact absurd hkind (hsave _)
  · exact absurd hkind (hchoice choices)
  · exact hlinks

/-- So many stretches and another one, where each but the last passes a block with the
property. -/
inductive Stretches (f : Flow) (P : Block → Prop) : Nat → List Text → Prop
  | last {ids} (h : f.Stretch ids) : Stretches f P 0 ids
  | cons {n ids more} (h : f.Stretch ids) (hpass : f.Passes P ids)
      (rest : Stretches f P n more) : Stretches f P (n + 1) (ids ++ more)

variable {f : Flow} {P : Block → Prop} {ids : List Text} {id next : Text} {b : Block} {n : Nat}

theorem stretch_nil (f : Flow) : f.Stretch [] :=
  ⟨.nil, fun _ hid => absurd hid List.not_mem_nil⟩

theorem Stretch.length_le (h : f.Stretch ids) : ids.length ≤ f.blocks.length := by
  have hsubset : ids ⊆ f.blocks.map Block.id := by
    intro id hid
    obtain ⟨b, hb⟩ := h.resolved id hid
    have hmem : b ∈ f.blocks := mem_of_block? hb
    exact id_of_block? hb ▸ List.mem_map_of_mem hmem
  have hle := (List.subperm_of_subset h.nodup hsubset).length_le
  rwa [List.length_map] at hle

theorem Stretch.snoc (h : f.Stretch ids) (hblock : f.block? id = some b) (hnew : id ∉ ids) :
    f.Stretch (ids ++ [id]) where
  nodup := by
    refine List.nodup_append.mpr ⟨h.nodup, List.pairwise_singleton _ id, fun a ha c hc => ?_⟩
    obtain rfl := List.mem_singleton.mp hc
    rintro rfl
    exact hnew ha
  resolved := by
    intro a ha
    rcases List.mem_append.mp ha with ha | ha
    · exact h.resolved a ha
    · obtain rfl := List.mem_singleton.mp ha
      exact ⟨b, hblock⟩

theorem Stretches.length_le (h : f.Stretches P n ids) :
    ids.length ≤ (n + 1) * f.blocks.length := by
  induction h with
  | last h =>
      rw [Nat.zero_add, Nat.one_mul]
      exact h.length_le
  | @cons n ids more h _ _ ih =>
      have hfirst := h.length_le
      rw [List.length_append, Nat.add_one_mul, Nat.add_comm]
      exact Nat.add_le_add ih hfirst

theorem Stretches.nodup (h : f.Stretches P 0 ids) : ids.Nodup := by
  cases h with
  | last h => exact h.nodup

theorem Stretches.eq_zero (h : f.Stretches P n ids) (hP : ∀ b, ¬ P b) : n = 0 := by
  cases h with
  | last => rfl
  | cons _ hpass _ =>
      obtain ⟨_, _, b, _, hb⟩ := hpass
      exact absurd hb (hP b)

/-- Where links lead upwards only, there are no cycles. -/
theorem not_cycle_of_rank (rank : Text → Nat) (hrank : ∀ a c, f.Joined a c → rank a < rank c)
    (first : Text) (rest : List Text) : ¬ f.Cycle first rest := by
  intro hcycle
  have hchain : ((first :: rest ++ [first]).map rank).IsChain (· < ·) :=
    (List.isChain_map rank).mpr (hcycle.joined.imp hrank)
  have hpairs := List.isChain_iff_pairwise.mp hchain
  have hlater : rank first ∈ (rest ++ [first]).map rank :=
    List.mem_map_of_mem (List.mem_append_right rest (List.mem_singleton_self first))
  exact Nat.lt_irrefl _ ((List.pairwise_cons.mp hpairs).1 _ hlater)

/-- Blocks without the property, each joined to the next one, and the last to the one that
follows. -/
structure Approach (f : Flow) (P : Block → Prop) (ids : List Text) (next : Text) : Prop where
  stretch : f.Stretch ids
  quiet : ¬ f.Passes P ids
  joined : (ids ++ [next]).IsChain f.Joined

theorem approach_nil (f : Flow) (P : Block → Prop) (next : Text) : f.Approach P [] next where
  stretch := f.stretch_nil
  quiet := by
    rintro ⟨id, hid, -⟩
    cases hid
  joined := List.isChain_singleton next

/-- If every cycle passes a block with the property, blocks without it do not lead back to one
of them. -/
theorem Approach.not_mem (h : f.Approach P ids next)
    (hcycles : ∀ first rest, f.Cycle first rest → f.Passes P (first :: rest)) : next ∉ ids := by
  intro hmem
  obtain ⟨before, rest, rfl⟩ := List.append_of_mem hmem
  have hring : (next :: rest ++ [next]).IsChain f.Joined := by
    have hjoined := h.joined
    rw [List.append_assoc] at hjoined
    exact (List.isChain_append.mp hjoined).2.1
  have hstretch : f.Stretch (next :: rest) :=
    ⟨(List.nodup_append.mp h.stretch.nodup).2.1,
      fun id hid => h.stretch.resolved id (List.mem_append_right before hid)⟩
  obtain ⟨id, hid, hb⟩ := hcycles next rest ⟨hstretch, hring⟩
  exact h.quiet ⟨id, List.mem_append_right before hid, hb⟩

theorem Approach.snoc (h : f.Approach P ids id) (hstretch : f.Stretch (ids ++ [id]))
    (hblock : f.block? id = some b) (hquiet : ¬ P b) (hjoined : f.Joined id next) :
    f.Approach P (ids ++ [id]) next where
  stretch := hstretch
  quiet := by
    rintro ⟨a, ha, b', hb', hP⟩
    rcases List.mem_append.mp ha with ha | ha
    · exact h.quiet ⟨a, ha, b', hb', hP⟩
    · obtain rfl := List.mem_singleton.mp ha
      obtain rfl := Option.some.inj (hblock.symm.trans hb')
      exact hquiet hP
  joined := by
    refine List.isChain_append.mpr ⟨h.joined, List.isChain_singleton next, ?_⟩
    intro a ha c hc
    rw [List.getLast?_concat] at ha
    obtain rfl : id = a := Option.some.inj ha
    obtain rfl : next = c := Option.some.inj hc
    exact hjoined

end Flow

/-! ## Replies that were given -/

/-- How many requests were given a reply. -/
def granted (xs : List Exchange) : Nat :=
  (xs.filterMap Exchange.reply?).countP Except.isOk

theorem granted_append (xs ys : List Exchange) :
    granted (xs ++ ys) = granted xs + granted ys := by
  rw [granted, List.filterMap_append, List.countP_append]
  rfl

theorem granted_cons (x : Exchange) (xs : List Exchange) :
    granted (x :: xs) = granted [x] + granted xs :=
  granted_append [x] xs

theorem granted_eq_zero {xs : List Exchange} (h : ∀ x ∈ xs, x.request.isInput = false) :
    granted xs = 0 := by
  have hnone : xs.filterMap Exchange.reply? = [] :=
    List.filterMap_eq_nil_iff.mpr fun x hx => Exchange.reply?_eq_none (h x hx)
  rw [granted, hnone]
  rfl

namespace Conversation

variable {s s' : Session} {xs : List Exchange} {b : Block} {id : Text}

theorem Asked.granted_pos {block prompt : Text} {purpose : Purpose} {r : Ending Text}
    {select : Text → Except Failure Transition} {t : Transition}
    (h : Asked block purpose prompt s xs s' r)
    (ho : .ok (.ok t) = (r.map fun reply => reply.bind select : Ending Transition)) :
    1 ≤ granted xs := by
  cases h with
  | replied reply => exact Nat.le_refl 1
  | refused e => cases ho
  | unanswered => cases ho

theorem Followed.granted_pos {o : Ending Transition} {t : Transition}
    (h : Followed b s xs s' o) (ho : .ok (.ok t) = o)
    (hlinks : 2 ≤ (s.flow.linksFrom b.id).length) : 1 ≤ granted xs := by
  obtain ⟨r, hask, rfl⟩ := h.offered_of_two_le hlinks
  exact hask.granted_pos ho

/-- A block that always asks leads on only when it has been given a reply. -/
theorem Performed.granted_pos {o : Ending Transition} (h : Performed b s xs s' o)
    (ho : .ok (.ok (.goto id)) = o) (hasks : s.flow.AlwaysAsks b) : 1 ≤ granted xs := by
  have hcount {x : Exchange} {ys : List Exchange} (h : 1 ≤ granted ys) :
      1 ≤ granted (x :: ys) := by
    rw [granted_cons]
    exact Nat.le_add_left_of_le h
  cases h with
  | start hkind hnext =>
      have hlinks := hasks.two_le_links (by simp [hkind]) (by simp [hkind])
      exact hnext.granted_pos ho hlinks
  | said hkind hnext =>
      have hlinks := hasks.two_le_links (by simp [hkind]) (by simp [hkind])
      exact hcount (hnext.granted_pos ho hlinks)
  | saved reply hkind hnext =>
      rw [granted_cons]
      exact Nat.le_add_right 1 _
  | branched hkind => simp [Flow.AlwaysAsks, Flow.OffersOptions, hkind] at hasks
  | chose hkind hne hask => exact hask.granted_pos ho
  | fetched response hkind hfetch hnext =>
      have hlinks := hasks.two_le_links (by simp [hkind]) (by simp [hkind])
      exact hcount (hnext.granted_pos ho hlinks)
  | _ => cases ho

end Conversation

/-! ## Courses -/

namespace Session

open Conversation

variable {s s' : Session} {xs : List Exchange} {stop : Stop} {P : Block → Prop}
  {before : List Text} {id : Text}

/-- The session has come by these blocks to where it stands. -/
structure CameBy (P : Block → Prop) (before : List Text) (s : Session) : Prop where
  stretch : s.flow.Stretch before
  next : ∀ id, s.position = .ok id → s.flow.Approach P before id

/-- Entering a block takes a stretch one block further, and if the block has the property and
leads on, a reply was given there, and another stretch begins. -/
theorem CameBy.entered {result : Except Failure Transition} (h : s.CameBy P before)
    (hcycles : ∀ first rest, s.flow.Cycle first rest → s.flow.Passes P (first :: rest))
    (hasks : ∀ b, P b → s.flow.AlwaysAsks b) (hpos : s.position = .ok id)
    (hent : Entered id s xs s' (.ok result)) :
    (s'.visited = s.visited ∧ (s'.settle result).CameBy P before)
      ∨ (s'.visited = s.visited ++ [id] ∧ (s'.settle result).CameBy P (before ++ [id]))
      ∨ (s'.visited = s.visited ++ [id] ∧ (s'.settle result).CameBy P []
          ∧ s.flow.Stretch (before ++ [id]) ∧ s.flow.Passes P (before ++ [id])
          ∧ 1 ≤ granted xs) := by
  have hflow := hent.keeps.alike.1
  cases hent with
  | nowhere hblock => exact Or.inl ⟨rfl, h.stretch, fun _ hgoes => nomatch hgoes⟩
  | @block b _ _ _ hblock hdone =>
      have hvisited : s'.visited = s.visited ++ [id] := hdone.visited
      have hnew := (h.next id hpos).not_mem hcycles
      have hstretch := h.stretch.snoc hblock hnew
      have hstretch' : s'.flow.Stretch (before ++ [id]) := hflow ▸ hstretch
      rcases result with failure | target | completion
      · exact Or.inr (Or.inl ⟨hvisited, hstretch', fun _ hgoes => nomatch hgoes⟩)
      · by_cases hP : P b
        · have hgranted : 1 ≤ granted xs := hdone.granted_pos rfl (hasks b hP)
          have hpass : s.flow.Passes P (before ++ [id]) :=
            ⟨id, List.mem_append_right before (List.mem_singleton_self id), b, hblock, hP⟩
          have hfresh : (s'.settle (.ok (.goto target))).CameBy P [] :=
            ⟨Flow.stretch_nil _, fun a _ => Flow.approach_nil _ P a⟩
          exact Or.inr (Or.inr ⟨hvisited, hfresh, hstretch, hpass, hgranted⟩)
        · have hjoined : s.flow.Joined id target :=
            Flow.id_of_block? hblock ▸ (hdone.allows rfl).2
          have hnext := (h.next id hpos).snoc hstretch hblock hP hjoined
          refine Or.inr (Or.inl ⟨hvisited, hstretch', fun a hgoes => ?_⟩)
          obtain rfl := Except.ok.inj hgoes
          exact hflow ▸ hnext
      · exact Or.inr (Or.inl ⟨hvisited, hstretch', fun _ hgoes => nomatch hgoes⟩)

/-- What a run visits falls into stretches, one more than it was granted replies, if every cycle
passes a block with a property that only blocks have that always ask. -/
theorem Course.stretches (h : Course s xs s' stop)
    (hcycles : ∀ first rest, s.flow.Cycle first rest → s.flow.Passes P (first :: rest))
    (hasks : ∀ b, P b → s.flow.AlwaysAsks b) (hbefore : s.CameBy P before) :
    ∃ ids n, s'.visited = s.visited ++ ids ∧ s.flow.Stretches P n (before ++ ids)
      ∧ n ≤ granted xs := by
  have hnone {t : Session} {ys : List Exchange} {before : List Text}
      (hstretch : t.flow.Stretch before) :
      ∃ ids n, t.visited = t.visited ++ ids ∧ t.flow.Stretches P n (before ++ ids)
        ∧ n ≤ granted ys := by
    refine ⟨[], 0, (List.append_nil _).symm, ?_, Nat.zero_le _⟩
    rw [List.append_nil]
    exact .last hstretch
  induction h generalizing before with
  | concluded hpos hfin => cases hfin <;> exact hnone hbefore.stretch
  | unconcluded hpos hfin => cases hfin <;> exact hnone hbefore.stretch
  | exhausted hpos => exact hnone hbefore.stretch
  | @halted s₁ s₂ id xs request hpos hent =>
      cases hent with
      | @block b _ _ _ hblock hdone =>
          have hnew := (hbefore.next id hpos).not_mem hcycles
          exact ⟨[id], 0, hdone.visited, .last (hbefore.stretch.snoc hblock hnew), Nat.zero_le _⟩
  | @went s₁ s₂ s₃ id xs ys result stop hpos hent rest ih =>
      have hflow := (hent.keeps.alike.trans (alike_settle s₂ result)).1
      rw [hflow, settle_visited] at ih
      rw [granted_append]
      rcases hbefore.entered hcycles hasks hpos hent with
        ⟨hvisit, hafter⟩ | ⟨hvisit, hafter⟩ | ⟨hvisit, hafter, hstretch, hpass, hgranted⟩
      · obtain ⟨ids, n, hvisited, hrest, hn⟩ := ih hcycles hasks hafter
        exact ⟨ids, n, hvisit ▸ hvisited, hrest, Nat.le_add_left_of_le hn⟩
      · obtain ⟨ids, n, hvisited, hrest, hn⟩ := ih hcycles hasks hafter
        rw [hvisit, List.append_assoc] at hvisited
        rw [List.append_assoc] at hrest
        exact ⟨id :: ids, n, hvisited, hrest, Nat.le_add_left_of_le hn⟩
      · obtain ⟨ids, n, hvisited, hrest, hn⟩ := ih hcycles hasks hafter
        rw [hvisit, List.append_assoc] at hvisited
        have hall := Flow.Stretches.cons hstretch hpass hrest
        rw [List.nil_append, List.append_assoc] at hall
        refine ⟨id :: ids, n + 1, hvisited, hall, ?_⟩
        rw [Nat.add_comm]
        exact Nat.add_le_add hgranted hn

theorem Course.position_of_exhausted (h : Course s xs s' stop) (hstop : stop = .exhausted) :
    ∃ id, s.position = .ok id := by
  cases h with
  | concluded => cases hstop
  | unconcluded => cases hstop
  | halted => cases hstop
  | went hpos => exact ⟨_, hpos⟩
  | exhausted hpos => exact ⟨_, hpos⟩

/-- A run that is stopped by its bound has visited as many blocks. -/
theorem visited_of_exhausted {env : Environment σ} {blocks : Nat} {w : σ}
    (h : (s.run env blocks w).stop = .exhausted) :
    (s.run env blocks w).session.visited.length = s.visited.length + blocks := by
  induction blocks generalizing s w with
  | zero =>
      obtain ⟨id, hpos⟩ := (course_run env 0 s w).position_of_exhausted h
      rw [run, hpos]
      rfl
  | succ blocks ih =>
      obtain ⟨id, hpos⟩ := (course_run env (blocks + 1) s w).position_of_exhausted h
      have hpath := Activity.path_performIn env (step id s) w
      rw [run, hpos] at h ⊢
      dsimp only at h ⊢
      generalize (step id s).performIn env w = p at h hpath ⊢
      obtain ⟨w', t, ys, request | result⟩ := p
      · cases h
      have hstop : ((t.settle result).run env blocks w').stop = .exhausted := h
      have hlength := ih hstop
      cases entered_of_path hpath with
      | nowhere hblock =>
          obtain ⟨_, hgoes⟩ := (course_run env blocks _ w').position_of_exhausted hstop
          cases hgoes
      | block hblock hdone =>
          have hvisit : t.visited = s.visited ++ [id] := hdone.visited
          rw [settle_visited, hvisit, List.length_append, List.length_singleton, Nat.add_assoc,
            Nat.add_comm 1] at hlength
          exact hlength

end Session

/-! ## Environments that answer -/

/-- Every call is answered in the worlds that have a property, and leaves them so. -/
def Environment.Answers (env : Environment σ) (I : σ → Prop) : Prop :=
  ∀ request w, I w → ∃ w' answer, env.answer request w = (w', some answer) ∧ I w'

theorem Environment.Answers.outcome {env : Environment σ} {I : σ → Prop} (henv : env.Answers I)
    (a : Activity α) {w : σ} (hw : I w) : ∃ r, (a.performIn env w).outcome = .ok r := by
  induction a generalizing w with
  | done s r => exact ⟨r, rfl⟩
  | call s request resume ih =>
      obtain ⟨w', answer, hans, hw'⟩ := henv request w hw
      rw [Activity.performIn, hans]
      exact ih answer hw'

/-- Where every call is answered, a first run returns if it may visit more blocks than it
does. -/
theorem Environment.Answers.returned {env : Environment σ} {I : σ → Prop}
    (henv : env.Answers I) {s : Session} {blocks : Nat} {w : σ} (hw : I w)
    (hfirst : s.visited = []) (hfew : (s.run env blocks w).session.visited.length < blocks) :
    ∃ t, (s.run env blocks w).stop = .returned t := by
  obtain ⟨r, hr⟩ := henv.outcome (s.whole blocks) hw
  have hstop : (s.run env blocks w).stop = .ofOutcome (.ok r) := by
    rw [Session.run_eq_performIn, ← hr]
  cases r with
  | none =>
      have hall := Session.visited_of_exhausted hstop
      rw [hfirst, List.length_nil, Nat.zero_add] at hall
      exact absurd hall (Nat.ne_of_lt hfew)
  | some t => exact ⟨t, hstop⟩

/-- External calls are answered in the states that have a property, and leave them so. -/
def Answered (fetch : Text → φ → φ × Option Response) (F : φ → Prop) : Prop :=
  ∀ url fetcher, F fetcher →
    ∃ fetcher' response, fetch url fetcher = (fetcher', some response) ∧ F fetcher'

namespace Script

/-- Each cue is an answer, and every message is taken. -/
structure Willing (s : Script) : Prop where
  cues : ∀ cue ∈ s.cues, cue ≠ .silence
  unlimited : s.messageLimit = none

variable {fetch : Text → φ → φ × Option Response}

theorem answers_environmentWith {F : φ → Prop} (hfetch : Answered fetch F) :
    (channel.environmentWith fetch).Answers fun w => w.1.Willing ∧ F w.2 := by
  rintro request ⟨⟨cues, limit, log⟩, fetcher⟩ ⟨⟨hcues, hlimit⟩, hF⟩
  obtain rfl : limit = none := hlimit
  cases request with
  | message text => exact ⟨_, (), rfl, ⟨hcues, rfl⟩, hF⟩
  | error text => exact ⟨_, (), rfl, ⟨hcues, rfl⟩, hF⟩
  | input prompt =>
      rcases cues with _ | ⟨cue, cues⟩
      · exact ⟨_, .error .closed, rfl, ⟨hcues, rfl⟩, hF⟩
      have hrest : ∀ cue ∈ cues, cue ≠ .silence :=
        fun cue hcue => hcues cue (List.mem_cons_of_mem _ hcue)
      cases cue with
      | reply text => exact ⟨_, .ok text, rfl, ⟨hrest, rfl⟩, hF⟩
      | failure cause => exact ⟨_, .error (.io cause), rfl, ⟨hrest, rfl⟩, hF⟩
      | silence => exact absurd rfl (hcues .silence List.mem_cons_self)
  | fetch url =>
      obtain ⟨fetcher', response, hresponse, hF'⟩ := hfetch url fetcher hF
      refine ⟨({ cues, log }, fetcher'), response, ?_, ⟨hcues, rfl⟩, hF'⟩
      rw [Channel.environmentWith]
      dsimp only
      rw [hresponse]
  | close => exact ⟨_, (), rfl, ⟨hcues, rfl⟩, hF⟩

/-- No more replies are granted than there are cues. -/
theorem granted_le (a : Activity α) (w : Script × φ) :
    granted (a.performIn (channel.environmentWith fetch) w).exchanges ≤ w.1.cues.length := by
  let replies := (a.performIn (channel.environmentWith fetch) w).exchanges.filterMap
    Exchange.reply?
  have hheard {i : Nat} {reply : Reply} (h : replies[i]? = some reply) :
      heard w.1.cues[i]? = some reply := a.replies_performIn w w.1.cues h
  -- Behind the last cue the channel is closed.
  have hclosed : (replies.drop w.1.cues.length).countP Except.isOk = 0 := by
    refine List.countP_eq_zero.mpr fun reply hreply => ?_
    obtain ⟨i, hi⟩ := List.mem_iff_getElem?.mp hreply
    rw [List.getElem?_drop] at hi
    have hlater := hheard hi
    rw [List.getElem?_eq_none (Nat.le_add_right _ i)] at hlater
    obtain rfl : .error .closed = reply := Option.some.inj hlater
    exact Bool.false_ne_true
  calc granted (a.performIn (channel.environmentWith fetch) w).exchanges
      = (replies.take w.1.cues.length ++ replies.drop w.1.cues.length).countP Except.isOk := by
        rw [List.take_append_drop]
        rfl
    _ = (replies.take w.1.cues.length).countP Except.isOk := by
        rw [List.countP_append, hclosed, Nat.add_zero]
    _ ≤ (replies.take w.1.cues.length).length := List.countP_le_length
    _ ≤ w.1.cues.length := List.length_take_le _ _

end Script

namespace Session

theorem stretches_run {P : Block → Prop} (env : Environment σ) (flow : Flow)
    (settings : Settings) (blocks : Nat) (w : σ)
    (hcycles : ∀ first rest, flow.Cycle first rest → flow.Passes P (first :: rest))
    (hasks : ∀ b, P b → flow.AlwaysAsks b) :
    ∃ n, flow.Stretches P n ((Session.start flow settings).run env blocks w).session.visited
      ∧ n ≤ granted ((Session.start flow settings).run env blocks w).exchanges := by
  have hcourse := course_run env blocks (Session.start flow settings) w
  have hbefore : (Session.start flow settings).CameBy P [] :=
    ⟨flow.stretch_nil, fun id _ => flow.approach_nil P id⟩
  obtain ⟨ids, n, hvisited, hstretches, hn⟩ := hcourse.stretches hcycles hasks hbefore
  have hvisited : _ = ids := hvisited
  rw [hvisited]
  exact ⟨n, hstretches, hn⟩

/-- **Runs end.** If every cycle of a flow passes a block that always asks, then a new session's
run with a script of answers returns, whatever the fetcher answers: it visits at most
`(n + 1) * B` blocks, where there are `n` cues and `B` blocks, and none of them twice if it makes
no request. If the flow has no cycle at all, the run visits no block twice and returns wherever
its calls are answered. -/
theorem run_ends_within (flow : Flow) (settings : Settings) :
    ((∀ first rest, flow.Cycle first rest → flow.Passes flow.AlwaysAsks (first :: rest)) →
        ∀ (fetch : Text → φ → φ × Option Response) (F : φ → Prop) (fetcher : φ)
          (script : Script) (blocks : Nat), Answered fetch F → F fetcher → script.Willing →
        let r := (Session.start flow settings).run (Script.channel.environmentWith fetch) blocks
          (script, fetcher)
        let most := (script.cues.length + 1) * flow.blocks.length
        r.session.visited.length ≤ most
          ∧ (most < blocks → ∃ t, r.stop = .returned t)
          ∧ ((∀ c ∈ r.calls, c.isInput = false) → r.session.visited.Nodup))
      ∧ ((∀ first rest, ¬ flow.Cycle first rest) →
        ∀ (env : Environment σ) (I : σ → Prop) (world : σ) (blocks : Nat),
        let r := (Session.start flow settings).run env blocks world
        r.session.visited.Nodup
          ∧ (env.Answers I → I world → flow.blocks.length < blocks →
              ∃ t, r.stop = .returned t)) := by
  refine ⟨fun hcycles fetch F fetcher script blocks hfetch hfetcher hscript => ?_,
    fun hcycles env I world blocks => ?_⟩
  · intro r most
    obtain ⟨n, hstretches, hn⟩ := stretches_run (Script.channel.environmentWith fetch) flow
      settings blocks (script, fetcher) hcycles fun _ hb => hb
    have hgranted : granted r.exchanges ≤ script.cues.length := by
      simp only [r]
      rw [run_eq_performIn]
      exact Script.granted_le _ (script, fetcher)
    have hvisited : r.session.visited.length ≤ most :=
      hstretches.length_le.trans
        (Nat.mul_le_mul_right _ (Nat.add_le_add_right (hn.trans hgranted) 1))
    refine ⟨hvisited, fun hmost => ?_, fun hcalls => ?_⟩
    · have henv := Script.answers_environmentWith hfetch
      exact henv.returned ⟨hscript, hfetcher⟩ rfl (Nat.lt_of_le_of_lt hvisited hmost)
    · have hquiet : granted r.exchanges = 0 := granted_eq_zero fun x hx =>
        hcalls x.request (List.mem_append_left _ (List.mem_map_of_mem hx))
      obtain rfl : n = 0 := Nat.le_zero.mp (hquiet ▸ hn)
      exact hstretches.nodup
  · intro r
    obtain ⟨n, hstretches, -⟩ := stretches_run env flow settings blocks world
      (P := fun _ => False) (fun first rest h => absurd h (hcycles first rest)) fun _ hb => hb.elim
    obtain rfl := hstretches.eq_zero fun _ => id
    have hle := hstretches.length_le
    rw [Nat.zero_add, Nat.one_mul] at hle
    exact ⟨hstretches.nodup, fun henv hworld hblocks =>
      henv.returned hworld rfl (Nat.lt_of_le_of_lt hle hblocks)⟩

/-- The echo is heard as often as it is asked for: its only cycle goes through the menu of
links. -/
theorem echo_cycles (first : Text) (rest : List Text) (h : echoFlow.Cycle first rest) :
    echoFlow.Passes echoFlow.AlwaysAsks (first :: rest) := by
  have hjoined {a c : Text} (h : echoFlow.Joined a c) : a = ['m'] ∨ c = ['m'] := by
    obtain ⟨link, hlink, rfl⟩ := h
    obtain ⟨hlink, hsource⟩ := Flow.mem_linksFrom_iff.mp hlink
    simp only [echoFlow, Flow.ofParts, List.mem_cons, List.not_mem_nil, or_false] at hlink
    rcases hlink with rfl | rfl | rfl
    · exact Or.inr rfl
    · exact Or.inr rfl
    · exact Or.inl hsource.symm
  have hasks : echoFlow.AlwaysAsks ⟨['m'], some ['M'], .message⟩ :=
    Or.inr (Or.inr ⟨Or.inr (Or.inl rfl), Nat.le_refl 2⟩)
  refine ⟨['m'], ?_, _, rfl, hasks⟩
  have hring := h.joined
  cases rest with
  | nil =>
      rcases hjoined (List.isChain_cons_cons.mp hring).1 with rfl | rfl
      all_goals exact List.mem_singleton_self _
  | cons second rest =>
      rcases hjoined (List.isChain_cons_cons.mp hring).1 with rfl | rfl
      · exact List.mem_cons_self
      · exact List.mem_cons_of_mem _ List.mem_cons_self

theorem greeting_not_cycle (first : Text) (rest : List Text) :
    ¬ greetingFlow.Cycle first rest := by
  let rank (id : Text) : Nat :=
    if id = ['s'] then 0 else if id = ['q'] then 1 else if id = ['m'] then 2 else 3
  refine Flow.not_cycle_of_rank rank ?_ first rest
  rintro a c ⟨link, hlink, rfl⟩
  obtain ⟨hlink, hsource⟩ := Flow.mem_linksFrom_iff.mp hlink
  simp only [greetingFlow, Flow.ofParts, List.mem_cons, List.not_mem_nil, or_false] at hlink
  rcases hlink with rfl | rfl | rfl
  all_goals
    obtain rfl := hsource
    decide

def twiceAnswered (flow : Flow) (blocks : Nat) : Run (Script × Fetcher) :=
  (Session.start flow {}).run Script.channel.environment blocks
    ({ cues := [.reply ['1'], .reply ['2']] }, .offline)

theorem echo_ends :
    (∀ first rest, echoFlow.Cycle first rest →
        echoFlow.Passes echoFlow.AlwaysAsks (first :: rest))
      ∧ (∀ first rest, ¬ greetingFlow.Cycle first rest)
      ∧ Answered Fetcher.fetch (· = .offline)
      ∧ Script.Willing { cues := [.reply ['1'], .reply ['2']] }
      ∧ (twiceAnswered echoFlow 7).session.visited.length ≤ 3 * 2
      ∧ (∃ t, (twiceAnswered echoFlow 7).stop = .returned t)
      ∧ (twiceAnswered greetingFlow 5).session.visited.Nodup
      ∧ ∃ t, (twiceAnswered greetingFlow 5).stop = .returned t := by
  have hfetch : Answered Fetcher.fetch (· = .offline) := by
    rintro url _ rfl
    exact ⟨.offline, _, rfl, rfl⟩
  have hscript : Script.Willing { cues := [.reply ['1'], .reply ['2']] } := by
    refine ⟨?_, rfl⟩
    decide
  obtain ⟨hechoes, -⟩ := run_ends_within (σ := Script × Fetcher) echoFlow {}
  obtain ⟨-, hgreets⟩ := run_ends_within (φ := Fetcher) greetingFlow {}
  obtain ⟨hlength, hreturned, -⟩ :=
    hechoes echo_cycles Fetcher.fetch _ .offline _ 7 hfetch rfl hscript
  obtain ⟨hnodup, hends⟩ := hgreets greeting_not_cycle Script.channel.environment
    (fun w => w.1.Willing ∧ w.2 = .offline)
    ({ cues := [.reply ['1'], .reply ['2']] }, .offline) 5
  exact ⟨echo_cycles, greeting_not_cycle, hfetch, hscript, hlength,
    hreturned (Nat.le_refl 7), hnodup,
    hends (Script.answers_environmentWith hfetch) ⟨hscript, rfl⟩ (Nat.le_refl 5)⟩

end Session

end Dialogue
