import Mathlib.Data.List.Chain
import Dialogue.Channel.Script
import Dialogue.Proofs.Flow.Built
import Dialogue.Proofs.Session.History

/-!
# The blocks on the way

The blocks that a run visits make a trail through the flow: it begins at the start block,
goes along links, and comes to end blocks and blocks of unknown types only where it ends.
How the conversation ends fits the block where the trail ends (`Flow.EndsAt`).

Entering a block takes a trail one block further or ends it (`OnTrail.entered`), so what a
run that returns has visited is a trail to its end (`Course.trail`). There are no visits
only if there is not exactly one start block (`visited_makes_trail`).
-/

namespace Dialogue

/-! ## What a flow has a block do -/

/-- Blocks at which every conversation ends. -/
def Block.IsLast (b : Block) : Prop :=
  b.kind = .finish ∨ ∃ typeName, b.kind = .unknown typeName

/-- Blocks that follow their links when they have done what they are there for. -/
def Block.FollowsLinks (b : Block) : Prop :=
  b.kind = .start ∨ b.kind = .message ∨ (∃ name, b.kind = .save (some name))
    ∨ ∃ url name, b.kind = .externalCall (some url) (some name)

namespace Flow

/-- A link leads from one block to the other. -/
def Joined (f : Flow) (source target : Text) : Prop :=
  ∃ link ∈ f.linksFrom source, link.target = target

/-- A link leads on from a block that is there and at which conversations go on. -/
def LeadsOn (f : Flow) (source target : Text) : Prop :=
  ∃ b, f.block? source = some b ∧ ¬ b.IsLast ∧ f.Joined source target

/-- The block offers its links in a menu. -/
def OffersLinks (f : Flow) (b : Block) : Prop :=
  b.FollowsLinks ∧ 2 ≤ (f.linksFrom b.id).length

/-- The block offers its own options in a menu. -/
def OffersOptions (b : Block) : Prop :=
  ∃ choices, choices ≠ [] ∧ b.kind = .choice choices

/-- The block can be where a conversation ends so. -/
def EndsAt (f : Flow) (b : Block) : Termination → Prop
  | .completed .noFurtherLinks => b.FollowsLinks ∧ f.linksFrom b.id = []
  | .completed .endBlock => b.kind = .finish
  | .failed (.startBlocks _) => False
  | .failed (.blockNotFound id) => f.Joined b.id id ∧ ∀ other ∈ f.blocks, other.id ≠ id
  | .failed (.noDefaultLink id) => id = b.id ∧ ∃ conditions, b.kind = .conditional conditions
  | .failed (.invalidChoice id _) => id = b.id ∧ (OffersOptions b ∨ f.OffersLinks b)
  | .failed (.noChoices id) => id = b.id ∧ b.kind = .choice []
  | .failed (.missingPart id .variableName) =>
    id = b.id ∧ (b.kind = .save none ∨ ∃ url, b.kind = .externalCall (some url) none)
  | .failed (.missingPart id .url) => id = b.id ∧ ∃ name, b.kind = .externalCall none name
  | .failed (.externalCall url _) => ∃ name, b.kind = .externalCall (some url) (some name)
  | .failed (.unknownBlockType id typeName) => id = b.id ∧ b.kind = .unknown typeName
  | .failed (.channel _) =>
    (∃ name, b.kind = .save (some name)) ∨ OffersOptions b ∨ f.OffersLinks b

/-- What can come of the block: it leads on along a link, or the conversation ends. -/
def Allows (f : Flow) (b : Block) : Except Failure Transition → Prop
  | .ok (.goto id) => ¬ b.IsLast ∧ f.Joined b.id id
  | .ok (.complete completion) => f.EndsAt b (.completed completion)
  | .error failure => f.EndsAt b (.failed failure)

theorem mem_of_linkOnPort? {f : Flow} {id port : Text} {link : Link}
    (h : f.linkOnPort? id port = some link) : link ∈ f.linksFrom id :=
  List.mem_of_find?_eq_some h

end Flow

theorem Block.FollowsLinks.not_isLast {b : Block} (h : b.FollowsLinks) : ¬ b.IsLast := by
  rintro (hlast | ⟨typeName, hlast⟩) <;> simp [Block.FollowsLinks, hlast] at h

namespace Conversation

variable {s s' : Session} {xs : List Exchange} {b : Block} {f : Flow}
  {result : Except Failure Transition}

/-! ## What comes of a block is what the flow allows -/

theorem allows_leadTo {failure : Failure} {link? : Option Link} (hlast : ¬ b.IsLast)
    (hlink : ∀ link ∈ link?, link ∈ f.linksFrom b.id) (hfails : f.EndsAt b (.failed failure)) :
    f.Allows b (leadTo failure link?) := by
  cases link? with
  | none => exact hfails
  | some link => exact ⟨hlast, link, hlink link rfl, rfl⟩

/-- A request fails, or its reply decides what comes of the block. -/
theorem Asked.allows {block prompt : Text} {purpose : Purpose} {r : Ending Text}
    {select : Text → Except Failure Transition} (h : Asked block purpose prompt s xs s' r)
    (ho : .ok result = r.map fun reply => reply.bind select)
    (hselect : ∀ reply, f.Allows b (select reply))
    (hfails : ∀ e, f.EndsAt b (.failed (.channel e))) : f.Allows b result := by
  cases h with
  | replied reply =>
      cases ho
      exact hselect reply
  | refused e =>
      cases ho
      exact hfails e
  | unanswered => cases ho

theorem Followed.allows {o : Ending Transition} (h : Followed b s xs s' o)
    (ho : .ok result = o) (hb : b.FollowsLinks) : s.flow.Allows b result := by
  cases h with
  | ended hlinks =>
      cases ho
      exact ⟨hb, hlinks⟩
  | @single link hlinks =>
      cases ho
      refine ⟨hb.not_isLast, link, ?_, rfl⟩
      rw [hlinks]
      exact List.mem_singleton_self link
  | offered hlinks hask =>
      have hoffers : s.flow.OffersLinks b := ⟨hb, hlinks⟩
      refine hask.allows ho (fun reply => ?_) fun e => Or.inr (Or.inr hoffers)
      refine allows_leadTo hb.not_isLast (fun link hlink => ?_) ⟨rfl, Or.inr hoffers⟩
      obtain ⟨i, -, hi⟩ := Option.bind_eq_some_iff.mp hlink
      exact List.mem_of_getElem? hi

theorem allows_selectOption {choices : List Choice} (hkind : b.kind = .choice choices)
    (hne : choices ≠ []) (reply : Text) : s.flow.Allows b (selectOption s b choices reply) := by
  have hlast : ¬ b.IsLast := by simp [Block.IsLast, hkind]
  refine allows_leadTo hlast (fun link hlink => ?_) ⟨rfl, Or.inl ⟨choices, hne, hkind⟩⟩
  obtain ⟨i, -, hi⟩ := Option.bind_eq_some_iff.mp hlink
  obtain ⟨choice, -, hport⟩ := Option.bind_eq_some_iff.mp hi
  exact Flow.mem_of_linkOnPort? hport

theorem allows_selectBranch {conditions : List Condition}
    (hkind : b.kind = .conditional conditions) :
    s.flow.Allows b (selectBranch s b conditions) := by
  have hlast : ¬ b.IsLast := by simp [Block.IsLast, hkind]
  refine allows_leadTo hlast (fun link hlink => ?_) ⟨rfl, conditions, hkind⟩
  rcases Option.or_eq_some_iff.mp hlink with hfulfilled | ⟨-, hdefault⟩
  · obtain ⟨condition, -, hport⟩ := List.exists_of_findSome?_eq_some hfulfilled
    exact Flow.mem_of_linkOnPort? hport
  · exact Flow.mem_of_linkOnPort? hdefault

theorem Performed.allows {o : Ending Transition} (h : Performed b s xs s' o)
    (ho : .ok result = o) : s.flow.Allows b result := by
  cases h with
  | start hkind hnext => exact hnext.allows ho (Or.inl hkind)
  | unsaid => cases ho
  | said hkind hnext => exact hnext.allows ho (Or.inr (Or.inl hkind))
  | saveNameless hkind =>
      cases ho
      exact ⟨rfl, Or.inl hkind⟩
  | saveRefused e hkind =>
      cases ho
      exact Or.inl ⟨_, hkind⟩
  | saveUnanswered => cases ho
  | saved reply hkind hnext =>
      exact hnext.allows ho (Or.inr (Or.inr (Or.inl ⟨_, hkind⟩)))
  | branched hkind =>
      cases ho
      exact allows_selectBranch hkind
  | optionless hkind =>
      cases ho
      exact ⟨rfl, hkind⟩
  | chose hkind hne hask =>
      exact hask.allows ho (allows_selectOption hkind hne)
        fun e => Or.inr (Or.inl ⟨_, hne, hkind⟩)
  | callUrlless hkind =>
      cases ho
      exact ⟨rfl, _, hkind⟩
  | callNameless hkind =>
      cases ho
      exact ⟨rfl, Or.inr ⟨_, hkind⟩⟩
  | unavailable hkind =>
      cases ho
      exact ⟨_, hkind⟩
  | unfetched => cases ho
  | fetchFailed e hkind =>
      cases ho
      exact ⟨_, hkind⟩
  | fetched response hkind _ hnext =>
      exact hnext.allows ho (Or.inr (Or.inr (Or.inr ⟨_, _, hkind⟩)))
  | finished hkind =>
      cases ho
      exact hkind
  | unknown hkind =>
      cases ho
      exact ⟨rfl, hkind⟩

end Conversation

/-! ## Trails -/

/-- Blocks that are there, from the start block on, each leading on to the next one. -/
structure Flow.Trail (f : Flow) (start : Text) (visited : List Text) : Prop where
  resolved : ∀ id ∈ visited, ∃ b, f.block? id = some b
  joined : visited.IsChain f.LeadsOn
  first : ∀ id ∈ visited.head?, id = start

theorem Flow.trail_nil (f : Flow) (start : Text) : f.Trail start [] :=
  ⟨fun _ hid => absurd hid List.not_mem_nil, .nil, fun _ hid => nomatch hid⟩

/-- A trail goes on to a block that its last one leads on to. -/
theorem Flow.Trail.snoc {f : Flow} {start id : Text} {visited : List Text} {b : Block}
    (h : f.Trail start visited) (hblock : f.block? id = some b)
    (hfirst : visited = [] → id = start) (hlast : ∀ a ∈ visited.getLast?, f.LeadsOn a id) :
    f.Trail start (visited ++ [id]) where
  resolved := by
    intro a ha
    rcases List.mem_append.mp ha with ha | ha
    · exact h.resolved a ha
    · obtain rfl := List.mem_singleton.mp ha
      exact ⟨b, hblock⟩
  joined := by
    refine List.isChain_append.mpr ⟨h.joined, List.isChain_singleton id, ?_⟩
    intro a ha c hc
    obtain rfl : id = c := Option.some.inj hc
    exact hlast a ha
  first := by
    cases visited with
    | nil =>
        intro a ha
        obtain rfl : id = a := Option.some.inj ha
        exact hfirst rfl
    | cons _ _ => exact h.first

theorem Flow.Trail.head?_eq {f : Flow} {start : Text} {visited : List Text}
    (h : f.Trail start visited) (hne : visited ≠ []) : visited.head? = some start := by
  obtain ⟨first, hfirst⟩ := Option.isSome_iff_exists.mp (List.isSome_head?.mpr hne)
  rw [hfirst, h.first first hfirst]

/-- All blocks on a trail but the last one lead on. -/
theorem Flow.Trail.leadsOn_of_mem_dropLast {f : Flow} {start a : Text} {visited : List Text}
    (h : f.Trail start visited) (ha : a ∈ visited.dropLast) : ∃ id, f.LeadsOn a id := by
  have hjoined := h.joined
  clear h
  induction visited with
  | nil => exact absurd ha List.not_mem_nil
  | cons first rest ih =>
      cases rest with
      | nil => exact absurd ha List.not_mem_nil
      | cons second rest =>
          obtain ⟨hfirst, hrest⟩ := List.isChain_cons_cons.mp hjoined
          rcases List.mem_cons.mp ha with rfl | ha
          · exact ⟨second, hfirst⟩
          · exact ih ha hrest

theorem Flow.Trail.not_isLast {f : Flow} {start a : Text} {visited : List Text} {b : Block}
    (h : f.Trail start visited) (ha : a ∈ visited.dropLast) (hb : f.block? a = some b) :
    ¬ b.IsLast := by
  obtain ⟨next, b', hb', hlast, -⟩ := h.leadsOn_of_mem_dropLast ha
  obtain rfl := Option.some.inj (hb.symm.trans hb')
  exact hlast

open Conversation

namespace Session

/-- The visits of a session are a trail from the start block, and where the session stands
is the next block on it or its end. -/
structure OnTrail (start : Text) (s : Session) : Prop where
  trail : s.flow.Trail start s.visited
  next : ∀ id, s.position = .ok id →
    (s.visited = [] → id = start) ∧ ∀ a ∈ s.visited.getLast?, s.flow.LeadsOn a id
  ending : ∀ t, s.position = .error t →
    ∃ a b, s.visited.getLast? = some a ∧ s.flow.block? a = some b ∧ s.flow.EndsAt b t

variable {s s' : Session} {xs : List Exchange} {id start : Text}
  {result : Except Failure Transition}

/-- After a block the session stands where the flow allows. -/
theorem onTrail_settle {b : Block} (htrail : s.flow.Trail start s.visited)
    (hlast : s.visited.getLast? = some id) (hblock : s.flow.block? id = some b)
    (hallows : s.flow.Allows b result) : (s.settle result).OnTrail start := by
  have hne : s.visited ≠ [] := by
    intro hempty
    rw [hempty] at hlast
    cases hlast
  rcases result with failure | target | completion
  · refine ⟨htrail, by rintro _ ⟨⟩, ?_⟩
    rintro t ⟨⟩
    exact ⟨id, b, hlast, hblock, hallows⟩
  · refine ⟨htrail, ?_, by rintro _ ⟨⟩⟩
    rintro target ⟨⟩
    refine ⟨fun hempty => absurd hempty hne, fun a ha => ?_⟩
    obtain rfl : id = a := Option.some.inj (hlast.symm.trans ha)
    exact ⟨b, hblock, hallows.1, Flow.id_of_block? hblock ▸ hallows.2⟩
  · refine ⟨htrail, by rintro _ ⟨⟩, ?_⟩
    rintro t ⟨⟩
    exact ⟨id, b, hlast, hblock, hallows⟩

/-- Where there is no block the trail ends, at the block before. -/
theorem OnTrail.nowhere (h : s.OnTrail start) (hstart : ∃ b, s.flow.block? start = some b)
    (hpos : s.position = .ok id) (hblock : s.flow.block? id = none) :
    (s.settle (.error (.blockNotFound id))).OnTrail start := by
  obtain ⟨hfirst, hlast⟩ := h.next id hpos
  rcases hvisited : s.visited.getLast? with _ | a
  · obtain ⟨b, hb⟩ := hstart
    rw [← hfirst (List.getLast?_eq_none_iff.mp hvisited), hblock] at hb
    cases hb
  · obtain ⟨b, hb, -, hjoined⟩ := hlast a hvisited
    rw [← Flow.id_of_block? hb] at hjoined
    exact onTrail_settle h.trail hvisited hb ⟨hjoined, Flow.not_mem_of_block? hblock⟩

/-- Entering a block takes the trail further, or ends it. -/
theorem OnTrail.entered (h : s.OnTrail start) (hstart : ∃ b, s.flow.block? start = some b)
    (hpos : s.position = .ok id) (hent : Entered id s xs s' (.ok result)) :
    (s'.settle result).OnTrail start := by
  have hflow := hent.keeps.alike.1
  cases hent with
  | nowhere hblock => exact h.nowhere hstart hpos hblock
  | @block b _ _ _ hblock hdone =>
      have hallows : s.flow.Allows b result := hdone.allows rfl
      have hvisited : s'.visited = s.visited ++ [id] := hdone.visited
      obtain ⟨hfirst, hlast⟩ := h.next id hpos
      have htrail := h.trail.snoc hblock hfirst hlast
      rw [← hvisited, ← hflow] at htrail
      rw [← hflow] at hblock hallows
      exact onTrail_settle htrail (by rw [hvisited, List.getLast?_concat]) hblock hallows

/-- A run from a trail on that returns has gone a trail to its end. -/
theorem Course.trail {t : Termination} {stop : Stop} (h : Course s xs s' stop)
    (hreturned : stop = .returned t) (hstart : ∃ b, s.flow.block? start = some b)
    (htrail : s.OnTrail start) :
    s'.OnTrail start ∧ s'.flow = s.flow ∧ s'.position = .error t := by
  induction h with
  | concluded hpos hfin =>
      cases hreturned
      cases hfin with
      | silent _ => exact ⟨htrail, rfl, hpos⟩
      | reported _ _ => exact ⟨⟨htrail.trail, htrail.next, htrail.ending⟩, rfl, hpos⟩
  | unconcluded => cases hreturned
  | halted => cases hreturned
  | @went s₁ s₂ s₃ _ _ _ result _ hpos hent rest ih =>
      have hflow := (hent.keeps.alike.trans (alike_settle s₂ result)).1
      obtain ⟨hs₃, hflow₃, hpos₃⟩ :=
        ih hreturned (hflow ▸ hstart) (htrail.entered hstart hpos hent)
      exact ⟨hs₃, hflow₃.trans hflow, hpos₃⟩
  | exhausted => cases hreturned

/-! ## From the beginning -/

theorem firstStanding_of_single {flow : Flow} {b : Block} (h : flow.startBlocks = [b]) :
    firstStanding flow = .running b.id := by
  rw [firstStanding, h]

theorem firstStanding_of_not_single {flow : Flow} (h : flow.startBlocks.length ≠ 1) :
    firstStanding flow = .terminated (.failed (.startBlocks flow.startBlocks.length)) := by
  rw [firstStanding]
  split
  · next b hsingle => exact absurd (by rw [hsingle]; rfl) h
  · rfl

theorem exists_block?_of_start {flow : Flow} {b : Block} (h : flow.startBlocks = [b]) :
    ∃ found, flow.block? b.id = some found := by
  have hmem : b ∈ flow.startBlocks := by rw [h]; exact List.mem_singleton_self b
  have hblock : b ∈ flow.blocks := (List.mem_filter.mp hmem).1
  exact ⟨b, Flow.block?_of_mem hblock⟩

theorem onTrail_start {flow : Flow} {b : Block} (h : flow.startBlocks = [b])
    (settings : Settings) : (Session.start flow settings).OnTrail b.id := by
  have hpos : (Session.start flow settings).position = .ok b.id := by
    rw [position, Session.start, firstStanding_of_single h]
  refine ⟨flow.trail_nil b.id, fun id hid => ?_, fun t ht => ?_⟩
  · obtain rfl := Except.ok.inj (hpos.symm.trans hid)
    refine ⟨fun _ => rfl, fun a ha => ?_⟩
    cases ha
  · cases hpos.symm.trans ht

/-- A run that returns has gone a trail from the start block to an end that fits. -/
theorem Course.trail_from_start {flow : Flow} {settings : Settings} {b : Block}
    {t : Termination} (h : Course (Session.start flow settings) xs s' (.returned t))
    (hb : flow.startBlocks = [b]) :
    flow.Trail b.id s'.visited
      ∧ ∃ last found, s'.visited.getLast? = some last ∧ flow.block? last = some found
        ∧ flow.EndsAt found t := by
  obtain ⟨⟨htrail, -, hending⟩, hflow, hpos⟩ :=
    h.trail rfl (exists_block?_of_start hb) (onTrail_start hb settings)
  have hflow : s'.flow = flow := hflow
  rw [hflow] at htrail hending
  exact ⟨htrail, hending t hpos⟩

/-- Without a single start block nothing is visited. -/
theorem Course.nothing_visited {flow : Flow} {settings : Settings} {t : Termination}
    (h : Course (Session.start flow settings) xs s' (.returned t))
    (hnot : flow.startBlocks.length ≠ 1) :
    s'.visited = [] ∧ t = .failed (.startBlocks flow.startBlocks.length) := by
  have hpos : (Session.start flow settings).position =
      .error (.failed (.startBlocks flow.startBlocks.length)) :=
    position_of_standing (firstStanding_of_not_single hnot)
  obtain ⟨hvisited, -, hended⟩ := h.of_ended hpos
  exact ⟨hvisited, hended t rfl⟩

/-- **A run goes a trail through the flow and ends where that is fitting.** If there is one
start block, a new session's run that returns has visited it first and then blocks that
are there, each joined to the next one by a link; end blocks and blocks of unknown types
were visited only as the last one, and the ending is one that the last one can have. If
there is not exactly one start block, and only then, nothing was visited, and the ending
tells how many there are. -/
theorem visited_makes_trail {σ : Type} (env : Environment σ) (flow : Flow)
    (settings : Settings) (blocks : Nat) (world : σ) {t : Termination} {r : Run σ}
    (hrun : r = (Session.start flow settings).run env blocks world)
    (hreturned : r.stop = .returned t) :
    (r.session.visited = [] ↔ flow.startBlocks.length ≠ 1)
      ∧ (flow.startBlocks.length ≠ 1 → t = .failed (.startBlocks flow.startBlocks.length))
      ∧ (∀ b, flow.startBlocks = [b] → r.session.visited.head? = some b.id)
      ∧ (∀ id ∈ r.session.visited, ∃ b, flow.block? id = some b)
      ∧ r.session.visited.IsChain flow.Joined
      ∧ (∀ id ∈ r.session.visited.dropLast, ∀ b, flow.block? id = some b → ¬ b.IsLast)
      ∧ ∀ id ∈ r.session.visited.getLast?, ∃ b, flow.block? id = some b ∧ flow.EndsAt b t := by
  have hcourse := course_run env blocks (Session.start flow settings) world
  rw [← hrun, hreturned] at hcourse
  by_cases hsingle : flow.startBlocks.length = 1
  · obtain ⟨b, hb⟩ := List.length_eq_one_iff.mp hsingle
    obtain ⟨htrail, last, found, hlast, hfound, hends⟩ := hcourse.trail_from_start hb
    have hne : r.session.visited ≠ [] := by
      intro hempty
      rw [hempty] at hlast
      cases hlast
    refine ⟨?_, fun h => absurd hsingle h, ?_, htrail.resolved, ?_, ?_, ?_⟩
    · exact ⟨fun hempty => absurd hempty hne, fun h => absurd hsingle h⟩
    · intro b' hb'
      obtain rfl : b = b' := List.head_eq_of_cons_eq (hb.symm.trans hb')
      exact htrail.head?_eq hne
    · exact htrail.joined.imp fun _ _ ⟨_, _, _, hjoined⟩ => hjoined
    · exact fun id hid b' hb' => htrail.not_isLast hid hb'
    · intro id hid
      obtain rfl := Option.some.inj (hlast.symm.trans hid)
      exact ⟨found, hfound, hends⟩
  · obtain ⟨hvisited, rfl⟩ := hcourse.nothing_visited hsingle
    rw [hvisited]
    refine ⟨⟨fun _ => hsingle, fun _ => rfl⟩, fun _ => rfl, ?_, ?_, .nil, ?_, ?_⟩
    · intro b hb
      rw [hb] at hsingle
      exact absurd rfl hsingle
    all_goals
      intro id hid
      cases hid

/-- A message that can be heard again and again, until the user takes the link that leads
nowhere. -/
def echoFlow : Flow :=
  .ofParts [⟨['s'], none, .start⟩, ⟨['m'], some ['M'], .message⟩]
    [⟨['s'], ['m'], none, none⟩, ⟨['m'], ['m'], none, none⟩, ⟨['m'], ['x'], none, none⟩]

/-- The message is heard twice. -/
def echoRun : Run (Script × Fetcher) :=
  (Session.start echoFlow {}).run Script.channel.environment 5
    ({ cues := [.reply ['1'], .reply ['2']] }, .offline)

theorem echo_makes_trail :
    echoRun.stop = .returned (.failed (.blockNotFound ['x']))
      ∧ echoRun.session.visited = [['s'], ['m'], ['m']]
      ∧ echoRun.session.visited.IsChain echoFlow.Joined
      ∧ ∃ b, echoFlow.block? ['m'] = some b
        ∧ echoFlow.EndsAt b (.failed (.blockNotFound ['x'])) := by
  have hreturned : echoRun.stop = .returned (.failed (.blockNotFound ['x'])) := rfl
  have hvisited : echoRun.session.visited = [['s'], ['m'], ['m']] := rfl
  obtain ⟨-, -, -, -, hchain, -, hlast⟩ :=
    visited_makes_trail Script.channel.environment echoFlow {} 5 _ rfl hreturned
  exact ⟨hreturned, hvisited, hchain, hlast ['m'] rfl⟩

end Session

end Dialogue
