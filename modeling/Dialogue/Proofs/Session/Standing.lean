import Dialogue.Proofs.Session.Trail
import Dialogue.Proofs.Session.Whole

/-!
# Where a session stands

At the moments of its runs, and between them, a session stands at the block that it has
visited last, and if it awaits a reply, the purpose is one that this block has
(`standing_describes_block`). Once it has ended it stays so.

A block asks in the standing that `ask` sets, and says and fetches in the one that it was
entered with. So a session that stands at a request for input is awaiting, and at other calls
it is not, with one exception: when a run was abandoned at the menu behind a message or a
fetch, the block is entered again with the session awaiting still, and its own call is made so
(`awaiting_iff_input`, `echo_speaks_while_awaiting`).
-/

namespace Dialogue

variable {σ : Type}

namespace Session

/-- The session awaits a reply. -/
def Awaiting (s : Session) : Prop :=
  ∃ id purpose, s.standing = .awaiting id purpose

/-- The block asks for replies with this purpose. -/
def AsksFor (s : Session) (b : Block) : Purpose → Prop
  | .capture name => b.kind = .save (some name)
  | .choice options => 1 ≤ options ∧ ∃ choices, b.kind = .choice choices ∧ choices.length = options
  | .advance targets =>
    b.FollowsLinks ∧ 2 ≤ targets ∧ (s.flow.linksFrom b.id).length = targets
      ∧ ∀ url name, b.kind = .externalCall url name → s.settings.canFetch = true

/-- A session that awaits a reply is at a block that asks for it. -/
def Purposeful (s : Session) : Prop :=
  ∀ id purpose, s.standing = .awaiting id purpose →
    ∃ b, s.flow.block? id = some b ∧ s.AsksFor b purpose

/-- A session is where it was last, and awaits what the block there asks for. -/
structure Placed (s : Session) : Prop where
  last : ∀ id, s.position = .ok id → s.visited ≠ [] →
    s.visited.getLast? = some id ∧ ∃ b, s.flow.block? id = some b
  purposeful : s.Purposeful

theorem not_awaiting_settle (s : Session) (r : Except Failure Transition) :
    ¬ (s.settle r).Awaiting := by
  rintro ⟨id, purpose, hstanding⟩
  rcases r with _ | _ | _ <;> cases hstanding

theorem purposeful_of_not_awaiting {s : Session} (h : ¬ s.Awaiting) : s.Purposeful :=
  fun id purpose hstanding => absurd ⟨id, purpose, hstanding⟩ h

theorem not_awaiting_of_ended {s : Session} {t : Termination} (h : s.position = .error t) :
    ¬ s.Awaiting := by
  rintro ⟨id, purpose, hstanding⟩
  rw [position, hstanding] at h
  cases h

theorem placed_of_ended {s : Session} {t : Termination} (h : s.position = .error t) :
    s.Placed where
  last := by
    intro id hpos
    rw [h] at hpos
    cases hpos
  purposeful := purposeful_of_not_awaiting (not_awaiting_of_ended h)

end Session

/-! ## Blocks -/

namespace Conversation

open Session

variable {s s' : Session} {xs : List Exchange} {b : Block} {id : Text} {request : Call}
  {result : Except Failure Transition}

theorem Asked.of_open {prompt : Text} {purpose : Purpose} {r : Ending Text}
    (h : Asked id purpose prompt s xs s' r) (hr : r = .error request) :
    request = .input prompt ∧ s' = { s with standing := .awaiting id purpose } := by
  cases h with
  | replied reply => cases hr
  | refused e => cases hr
  | unanswered =>
      cases hr
      exact ⟨rfl, rfl⟩

theorem map_eq_error {r : Ending Text} {f : Except Failure Text → Except Failure Transition}
    (h : .error request = (r.map f : Ending Transition)) : r = .error request := by
  cases r with
  | error q =>
      cases h
      rfl
  | ok u => cases h

/-- While a block asks which link to follow, the session awaits the choice. -/
theorem Followed.of_open {o : Ending Transition} (h : Followed b s xs s' o)
    (ho : .error request = o) (hb : b.FollowsLinks)
    (hfetch : ∀ url name, b.kind = .externalCall url name → s.settings.canFetch = true) :
    request.isInput = true
      ∧ ∃ purpose, s'.standing = .awaiting b.id purpose ∧ s'.AsksFor b purpose := by
  cases h with
  | ended hlinks => cases ho
  | single hlinks => cases ho
  | offered hlinks hask =>
      obtain ⟨rfl, rfl⟩ := hask.of_open (map_eq_error ho)
      exact ⟨rfl, _, rfl, hb, hlinks, rfl, hfetch⟩

/-- At an open call a block awaits a reply that it asks for, or it has not done anything
yet. -/
theorem Performed.of_open {o : Ending Transition} (h : Performed b s xs s' o)
    (ho : .error request = o) :
    (request.isInput = true
        ∧ ∃ purpose, s'.standing = .awaiting b.id purpose ∧ s'.AsksFor b purpose)
      ∨ (request.isInput = false ∧ xs = [] ∧ s' = s) := by
  cases h with
  | start hkind hnext =>
      have hb : b.FollowsLinks := Or.inl hkind
      refine Or.inl (hnext.of_open ho hb fun url name hcall => ?_)
      rw [hkind] at hcall
      cases hcall
  | unsaid hkind =>
      cases ho
      exact Or.inr ⟨rfl, rfl, rfl⟩
  | said hkind hnext =>
      have hb : b.FollowsLinks := Or.inr (Or.inl hkind)
      refine Or.inl (hnext.of_open ho hb fun url name hcall => ?_)
      rw [hkind] at hcall
      cases hcall
  | saveUnanswered hkind =>
      cases ho
      exact Or.inl ⟨rfl, _, rfl, hkind⟩
  | saved reply hkind hnext =>
      have hb : b.FollowsLinks := Or.inr (Or.inr (Or.inl ⟨_, hkind⟩))
      refine Or.inl (hnext.of_open ho hb fun url name hcall => ?_)
      rw [hkind] at hcall
      cases hcall
  | @chose choices _ _ _ hkind hne hask =>
      obtain ⟨rfl, rfl⟩ := hask.of_open (map_eq_error ho)
      have hpos : 1 ≤ choices.length := List.length_pos_iff.mpr hne
      exact Or.inl ⟨rfl, _, rfl, hpos, choices, hkind, rfl⟩
  | unfetched hkind hfetch =>
      cases ho
      exact Or.inr ⟨rfl, rfl, rfl⟩
  | fetched response hkind hfetch hnext =>
      have hb : b.FollowsLinks := Or.inr (Or.inr (Or.inr ⟨_, _, hkind⟩))
      exact Or.inl (hnext.of_open ho hb fun _ _ _ => hfetch)
  | _ => cases ho

theorem Followed.ne_nil {o : Ending Transition} (h : Followed b s xs s' o)
    (ho : .ok result = o) (hlinks : 2 ≤ (s.flow.linksFrom b.id).length) : xs ≠ [] := by
  rintro rfl
  obtain ⟨r, hask, rfl⟩ := h.offered_of_two_le hlinks
  cases hask
  cases ho

/-- A block that asks for replies makes a call before it comes to a result. -/
theorem Performed.ne_nil {purpose : Purpose} {o : Ending Transition}
    (h : Performed b s xs s' o) (ho : .ok result = o) (hasks : s.AsksFor b purpose) :
    xs ≠ [] := by
  rintro rfl
  cases h with
  | start hkind hnext =>
      cases purpose with
      | advance targets =>
          obtain ⟨-, htwo, hlinks, -⟩ := hasks
          exact hnext.ne_nil ho (hlinks ▸ htwo) rfl
      | _ => simp [AsksFor, hkind] at hasks
  | optionless hkind =>
      cases purpose with
      | choice options =>
          obtain ⟨hpos, choices, hchoices, hlength⟩ := hasks
          cases hkind.symm.trans hchoices
          rw [← hlength] at hpos
          cases hpos
      | _ => simp [AsksFor, Block.FollowsLinks, hkind] at hasks
  | chose hkind hne hask =>
      cases hask
      cases ho
  | unavailable hkind hfetch =>
      cases purpose with
      | advance targets =>
          obtain ⟨-, -, -, hcan⟩ := hasks
          rw [hcan _ _ hkind] at hfetch
          cases hfetch
      | _ => simp [AsksFor, hkind] at hasks
  | saveNameless hkind | branched hkind | callUrlless hkind | callNameless hkind
    | finished hkind | unknown hkind =>
      cases purpose <;> simp [AsksFor, Block.FollowsLinks, hkind] at hasks
  | unsaid | saveUnanswered | unfetched => cases ho

end Conversation

/-! ## Runs -/

namespace Session

open Conversation

variable {s s' : Session} {xs : List Exchange} {id : Text} {request : Call} {stop : Stop}
  {t : Termination}

theorem position_eq_of_awaiting {purpose : Purpose} (h : s.standing = .awaiting id purpose) :
    s.position = .ok id := by
  rw [position, h]

/-- At a call of the block with an id, the session awaits a reply that this block asks for,
or it stands as it did when the block was entered. -/
theorem entered_open (h : Entered id s xs s' (.error request)) :
    s'.visited = s.visited ++ [id] ∧ ∃ b, s.flow.block? id = some b
      ∧ ((request.isInput = true
            ∧ ∃ purpose, s'.standing = .awaiting id purpose ∧ s'.AsksFor b purpose)
          ∨ (request.isInput = false ∧ xs = [] ∧ s'.standing = s.standing)) := by
  cases h with
  | @block b _ _ _ hblock hdone =>
      refine ⟨hdone.visited, b, hblock, ?_⟩
      rw [← Flow.id_of_block? hblock]
      rcases hdone.of_open rfl with hasking | ⟨hinput, hnil, rfl⟩
      · exact Or.inl hasking
      · exact Or.inr ⟨hinput, hnil, rfl⟩

theorem finished_open (h : Finished t s xs s' (.error request)) :
    s' = s ∧ request.isInput = false := by
  cases h with
  | unreported _ =>
      refine ⟨rfl, ?_⟩
      rcases reportOf_cases s.settings.prompts t with ⟨text, htext⟩ | ⟨text, htext⟩
      all_goals
        rw [htext]
        rfl
  | unclosed _ _ => exact ⟨rfl, rfl⟩

/-- At an open call of a run the session is awaiting if the call asks for input, and else only
if it is the first call and the run began so. -/
theorem Course.awaiting_iff (h : Course s xs s' (.pending request)) (hs : s.Purposeful) :
    s'.Awaiting ↔ request.isInput = true ∨ (xs = [] ∧ s.Awaiting) := by
  generalize hstop : Stop.pending request = stop at h
  induction h with
  | concluded => cases hstop
  | unconcluded hpos hfin =>
      cases hstop
      obtain ⟨rfl, hinput⟩ := finished_open hfin
      have hnot := not_awaiting_of_ended hpos
      simp [hinput, hnot]
  | @halted s₁ s₂ id xs _ hpos hent =>
      cases hstop
      obtain ⟨-, b, -, ⟨hinput, purpose, hstanding, -⟩ | ⟨hinput, rfl, hstanding⟩⟩ :=
        entered_open hent
      · have hawaiting : s₂.Awaiting := ⟨id, purpose, hstanding⟩
        simp [hinput, hawaiting]
      · have hsame : s₂.Awaiting ↔ s₁.Awaiting := by rw [Awaiting, hstanding, Awaiting]
        simp [hinput, hsame]
  | @went s₁ s₂ s₃ id xs ys result _ hpos hent rest ih =>
      have hnot := not_awaiting_settle s₂ result
      have hrest := ih (purposeful_of_not_awaiting hnot) hstop
      -- A block that is entered while the session awaits a reply does make a call.
      have hfirst : ¬ (xs ++ ys = [] ∧ s₁.Awaiting) := by
        rintro ⟨hnil, id', purpose, hstanding⟩
        obtain rfl : id' = id :=
          Except.ok.inj ((position_eq_of_awaiting hstanding).symm.trans hpos)
        obtain ⟨b, hb, hasks⟩ := hs id' purpose hstanding
        cases hent with
        | nowhere hnone => cases hnone.symm.trans hb
        | block hblock hdone =>
            obtain rfl := Option.some.inj (hb.symm.trans hblock)
            have hasks' : Session.AsksFor { s₁ with visited := s₁.visited ++ [id'] } b
                purpose := by
              cases purpose <;> exact hasks
            exact hdone.ne_nil rfl hasks' (List.append_eq_nil_iff.mp hnil).1
      have hnone : ¬ (ys = [] ∧ (s₂.settle result).Awaiting) := fun hlater => hnot hlater.2
      rw [hrest, or_iff_left hnone, or_iff_left hfirst]
  | exhausted => cases hstop

/-- Wherever a run stops, by returning or at an open call, the session is placed. -/
theorem Course.placed (h : Course s xs s' stop) (hstop : stop ≠ .exhausted)
    (hs : s.Purposeful) : s'.Placed := by
  induction h with
  | @concluded s₁ s₂ u _ _ hpos hfin =>
      have hended : s₂.position = .error u := by cases hfin <;> exact hpos
      exact placed_of_ended hended
  | unconcluded hpos hfin =>
      obtain ⟨rfl, -⟩ := finished_open hfin
      exact placed_of_ended hpos
  | @halted s₁ s₂ id xs request hpos hent =>
      have hflow := hent.keeps.alike.1
      have hsettings := hent.keeps.alike.2.1
      obtain ⟨hvisited, b, hb, hcases⟩ := entered_open hent
      rw [← hflow] at hb
      have hlast : ∀ id', s₂.position = .ok id' → id' = id := by
        intro id' hpos'
        rcases hcases with ⟨-, purpose, hstanding, -⟩ | ⟨-, -, hstanding⟩
        · rw [position_eq_of_awaiting hstanding] at hpos'
          exact (Except.ok.inj hpos').symm
        · rw [position, hstanding] at hpos'
          exact (Except.ok.inj (hpos.symm.trans hpos')).symm
      refine ⟨fun id' hpos' _ => ?_, fun id' purpose hstanding => ?_⟩
      · rw [hlast id' hpos', hvisited, List.getLast?_concat]
        exact ⟨rfl, b, hb⟩
      · obtain rfl := hlast id' (position_eq_of_awaiting hstanding)
        rcases hcases with ⟨-, purpose', hstanding', hasks⟩ | ⟨-, -, hsame⟩
        · cases hstanding.symm.trans hstanding'
          exact ⟨b, hb, hasks⟩
        · obtain ⟨b', hb', hasks⟩ := hs id' purpose (hsame.symm.trans hstanding)
          refine ⟨b', hflow ▸ hb', ?_⟩
          cases purpose with
          | advance targets =>
              rw [AsksFor, hflow, hsettings]
              exact hasks
          | _ => exact hasks
  | @went s₁ s₂ _ _ _ _ result _ hpos hent rest ih =>
      exact ih hstop (purposeful_of_not_awaiting (not_awaiting_settle s₂ result))
  | exhausted => exact absurd rfl hstop

theorem Course.standing_of_ended (h : Course s xs s' stop)
    (hstanding : s.standing = .terminated t) : s'.standing = .terminated t := by
  have hended := position_of_standing hstanding
  cases h with
  | concluded _ hfin => cases hfin <;> exact hstanding
  | unconcluded _ hfin => cases hfin <;> exact hstanding
  | halted hpos => cases hended.symm.trans hpos
  | went hpos => cases hended.symm.trans hpos
  | exhausted => exact hstanding

/-! ## Moments -/

section Moments

variable {env : Environment σ} {blocks : Nat} {w : σ} {m : Moment} {earlier later : List Moment}

theorem placed_of_moments (h : s.moments env blocks w = earlier ++ m :: later)
    (hs : s.Purposeful) : m.session.flow = s.flow ∧ m.session.Placed := by
  obtain ⟨xs, -, hcourse⟩ := course_of_moments h
  exact ⟨hcourse.fixed.1, hcourse.placed (by simp) hs⟩

theorem standing_of_moments (h : s.moments env blocks w = earlier ++ m :: later)
    (hstanding : s.standing = .terminated t) : m.session.standing = .terminated t := by
  obtain ⟨xs, -, hcourse⟩ := course_of_moments h
  exact hcourse.standing_of_ended hstanding

/-- A session that has ended has the same ending at all its moments and after its runs. -/
theorem ended_stays (env : Environment σ) (blocks : Nat) (w : σ)
    (hstanding : s.standing = .terminated t) :
    (s.run env blocks w).session.standing = .terminated t
      ∧ ∀ m ∈ s.moments env blocks w, m.session.standing = .terminated t := by
  refine ⟨(course_run env blocks s w).standing_of_ended hstanding, fun m hm => ?_⟩
  obtain ⟨earlier, later, h⟩ := List.append_of_mem hm
  exact standing_of_moments h hstanding

theorem append_eq_append_cons {α : Type} {xs ys before rest : List α} {a : α}
    (h : xs ++ ys = before ++ a :: rest) :
    (∃ back, xs = before ++ a :: back) ∨ ∃ front, ys = front ++ a :: rest := by
  rcases List.append_eq_append_iff.mp h with ⟨front, -, hys⟩ | ⟨back, hxs, hback⟩
  · exact Or.inr ⟨front, hys⟩
  · rcases back with _ | ⟨first, back⟩
    · exact Or.inr ⟨[], hback.symm⟩
    · obtain ⟨rfl, -⟩ := List.cons_eq_cons.mp hback
      exact Or.inl ⟨back, hxs⟩

theorem not_ended_of_step {a : Moment} (hpos : s.position = .ok id)
    (h : ((step id s).moments env w) = earlier ++ a :: later) :
    a.session.standing ≠ .terminated t := by
  intro hended
  obtain ⟨xs, -, hpath⟩ := Activity.path_of_moments h
  obtain ⟨-, b, -, ⟨-, purpose, hstanding, -⟩ | ⟨-, -, hstanding⟩⟩ :=
    entered_open (entered_of_path hpath)
  · cases hended.symm.trans hstanding
  · have hs := position_of_standing (hstanding.symm.trans hended)
    cases hpos.symm.trans hs

theorem ended_from_start {u : Termination} (hpos : s.position = .error u)
    (h : s.moments env blocks w = earlier ++ m :: later)
    (hended : m.session.standing = .terminated t) :
    (s.run env blocks w).session.standing = .terminated t
      ∧ ∀ m' ∈ later, m'.session.standing = .terminated t := by
  have hstanding := standing_of_position hpos
  obtain rfl : u = t :=
    Standing.terminated.inj ((standing_of_moments h hstanding).symm.trans hended)
  obtain ⟨hrun, hmoments⟩ := ended_stays env blocks w hstanding
  refine ⟨hrun, fun m' hm' => hmoments m' ?_⟩
  rw [h]
  exact List.mem_append_right _ (List.mem_cons_of_mem _ hm')

/-- Once a session has ended in the midst of a run, it has the same ending at the later moments
of the run and behind it. -/
theorem ended_from_moment (h : s.moments env blocks w = earlier ++ m :: later)
    (hended : m.session.standing = .terminated t) :
    (s.run env blocks w).session.standing = .terminated t
      ∧ ∀ m' ∈ later, m'.session.standing = .terminated t := by
  induction blocks generalizing s w earlier with
  | zero =>
      rcases hpos : s.position with u | id
      · exact ended_from_start hpos h hended
      · rw [moments, whole, hpos, Activity.moments] at h
        simp at h
  | succ blocks ih =>
      rcases hpos : s.position with u | id
      · exact ended_from_start hpos h hended
      rw [moments, whole, hpos, Activity.moments_bind] at h
      dsimp only at h
      -- The moment belongs to the block that is entered, or to what follows it.
      rcases append_eq_append_cons h with ⟨back, hstep⟩ | ⟨front, hrest⟩
      · exact absurd hended (not_ended_of_step hpos hstep)
      rw [run, hpos]
      dsimp only
      rcases hout : ((step id s).performIn env w).outcome with request | result
      · rw [hout] at hrest
        simp at hrest
      · rw [hout] at hrest
        exact ih hrest

end Moments

/-! ## Histories -/

/-- The session that runs have left. -/
def after (s : Session) (rs : List (Run σ)) : Session :=
  rs.foldl (fun _ r => r.session) s

theorem History.split {env : Environment σ} {before later : List (Run σ)}
    (h : s.History env (before ++ later)) :
    s.History env before ∧ (s.after before).History env later := by
  induction before generalizing s with
  | nil => exact ⟨.nil s, h⟩
  | cons r before ih =>
      cases h with
      | cons blocks world hstop rest =>
          obtain ⟨hbefore, hlater⟩ := ih rest
          exact ⟨.cons blocks world hstop hbefore, hlater⟩

theorem History.placed {env : Environment σ} {rs : List (Run σ)} (h : s.History env rs)
    (hs : s.Placed) : (s.after rs).flow = s.flow ∧ (s.after rs).Placed := by
  induction h with
  | nil s => exact ⟨rfl, hs⟩
  | @cons s rs blocks world hstop rest ih =>
      have hcourse := course_run env blocks s world
      have hexhausted : (s.run env blocks world).stop ≠ .exhausted := by
        intro hstopped
        rw [hstopped] at hstop
        exact hstop
      obtain ⟨hflow, hplaced⟩ := ih (hcourse.placed hexhausted hs.purposeful)
      exact ⟨hflow.trans hcourse.fixed.1, hplaced⟩

theorem History.ended {env : Environment σ} {rs : List (Run σ)} (h : s.History env rs)
    (hstanding : s.standing = .terminated t) : (s.after rs).standing = .terminated t := by
  induction h with
  | nil s => exact hstanding
  | cons blocks world hstop rest ih => exact ih (ended_stays env blocks world hstanding).1

theorem placed_start (flow : Flow) (settings : Settings) :
    (Session.start flow settings).Placed := by
  refine ⟨fun id _ hvisited => absurd rfl hvisited, purposeful_of_not_awaiting ?_⟩
  rintro ⟨id, purpose, hstanding⟩
  have hfirst : firstStanding flow = .awaiting id purpose := hstanding
  rw [firstStanding] at hfirst
  split at hfirst <;> cases hfirst

/-- **Where a session stands.** After any runs of a new session, and at every moment of the next
one, the session is at the block that it has visited last, and if it awaits a reply, it is for
what this block asks. When it has ended, by then or in the midst of the next run, it has the
same ending from there on. -/
theorem standing_describes_block {env : Environment σ} {flow : Flow} {settings : Settings}
    {before later : List (Run σ)}
    (hruns : (Session.start flow settings).History env (before ++ later)) :
    let s := (Session.start flow settings).after before
    (s.flow = flow ∧ s.Placed)
      ∧ (∀ blocks world, ∀ m ∈ s.moments env blocks world,
          m.session.flow = flow ∧ m.session.Placed)
      ∧ (∀ t, s.standing = .terminated t →
          ((Session.start flow settings).after (before ++ later)).standing = .terminated t
            ∧ ∀ blocks world, ∀ m ∈ s.moments env blocks world,
              m.session.standing = .terminated t)
      ∧ ∀ blocks world earlier m rest t, s.moments env blocks world = earlier ++ m :: rest →
          m.session.standing = .terminated t →
            (s.run env blocks world).session.standing = .terminated t
              ∧ ∀ m' ∈ rest, m'.session.standing = .terminated t := by
  intro s
  obtain ⟨hbefore, hlater⟩ := hruns.split
  obtain ⟨hflow, hplaced⟩ := hbefore.placed (placed_start flow settings)
  refine ⟨⟨hflow, hplaced⟩, fun blocks world m hm => ?_, fun t hstanding => ⟨?_, ?_⟩, ?_⟩
  · obtain ⟨earlier, rest, h⟩ := List.append_of_mem hm
    obtain ⟨hmflow, hmplaced⟩ := placed_of_moments h hplaced.purposeful
    exact ⟨hmflow.trans hflow, hmplaced⟩
  · have hafter : (Session.start flow settings).after (before ++ later) = s.after later :=
      List.foldl_append
    rw [hafter]
    exact hlater.ended hstanding
  · exact fun blocks world => (ended_stays env blocks world hstanding).2
  · exact fun blocks world earlier m rest t h hended => ended_from_moment h hended

/-- **When a session is awaiting.** At a moment of a run that follows any runs of a new session,
the session is awaiting exactly if the call asks for input, or if it is the first call of the
run and the session was awaiting when the run began. -/
theorem awaiting_iff_input {env : Environment σ} {flow : Flow} {settings : Settings}
    {before : List (Run σ)} (hruns : (Session.start flow settings).History env before)
    (blocks : Nat) (world : σ) {earlier later : List Moment} {m : Moment}
    (hm : ((Session.start flow settings).after before).moments env blocks world =
      earlier ++ m :: later) :
    m.session.Awaiting ↔ m.request.isInput = true
      ∨ (earlier = [] ∧ ((Session.start flow settings).after before).Awaiting) := by
  obtain ⟨-, hplaced⟩ := hruns.placed (placed_start flow settings)
  obtain ⟨xs, hlength, hcourse⟩ := course_of_moments hm
  have hnil : xs = [] ↔ earlier = [] := by
    rw [← List.length_eq_zero_iff, hlength, List.length_eq_zero_iff]
  rw [hcourse.awaiting_iff hplaced.purposeful, hnil]

/-! ## A message that is said while a choice is awaited -/

/-- The message is heard once, and the menu behind it is abandoned. -/
def echoAsked : Run (Script × Fetcher) :=
  (Session.start echoFlow {}).run Script.channel.environment 5
    ({ cues := [.silence], messageLimit := some 1 }, .offline)

/-- The moment at which the next run says the message again. -/
def echoSpeaking : Moment where
  session := { echoAsked.session with visited := [['s'], ['m'], ['m']] }
  request := .message ['M']

theorem echo_speaks_while_awaiting :
    (Session.start echoFlow {}).History Script.channel.environment [echoAsked]
      ∧ echoAsked.session.moments Script.channel.environment 5 echoAsked.world = [echoSpeaking]
      ∧ echoSpeaking.session.standing = .awaiting ['m'] (.advance 2)
      ∧ ¬ (echoSpeaking.session.Awaiting ↔ echoSpeaking.request.isInput = true) := by
  refine ⟨.cons 5 _ trivial (.nil _), rfl, rfl, fun h => ?_⟩
  have hinput : echoSpeaking.request.isInput = true := h.mp ⟨['m'], .advance 2, rfl⟩
  cases hinput

theorem echo_awaits_from_before :
    (Session.start echoFlow {}).History Script.channel.environment [echoAsked]
      ∧ echoAsked.session.moments Script.channel.environment 5 echoAsked.world
        = [] ++ echoSpeaking :: []
      ∧ (echoSpeaking.session.Awaiting ↔ echoSpeaking.request.isInput = true
          ∨ (([] : List Moment) = [] ∧ echoAsked.session.Awaiting)) := by
  have hruns : (Session.start echoFlow {}).History Script.channel.environment [echoAsked] :=
    .cons 5 _ trivial (.nil _)
  exact ⟨hruns, rfl, awaiting_iff_input hruns 5 echoAsked.world rfl⟩

theorem echo_standing_described :
    (Session.start echoFlow {}).History Script.channel.environment ([echoAsked] ++ [])
      ∧ echoAsked.session.standing = .awaiting ['m'] (.advance 2)
      ∧ echoAsked.session.visited.getLast? = some ['m']
      ∧ ∃ b, echoFlow.block? ['m'] = some b ∧ echoAsked.session.AsksFor b (.advance 2) := by
  have hruns : (Session.start echoFlow {}).History Script.channel.environment
      ([echoAsked] ++ []) := .cons 5 _ trivial (.nil _)
  obtain ⟨⟨-, hplaced⟩, -⟩ := standing_describes_block hruns
  have hstanding : echoAsked.session.standing = .awaiting ['m'] (.advance 2) := rfl
  have hlast := (hplaced.last ['m'] rfl (List.cons_ne_nil _ _)).1
  exact ⟨hruns, hstanding, hlast, hplaced.purposeful _ _ hstanding⟩

end Session

end Dialogue
