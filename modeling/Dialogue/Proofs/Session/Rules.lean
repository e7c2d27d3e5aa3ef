import Dialogue.Proofs.Session.Path

/-!
# What can come of a block

The rules of the conversation, one for each way in which a request for input, the
following of links, a block, and the entering of a block can go: the exchanges
made, the session at the end, and the result or the call left open. Every path
obeys them (`entered_of_path`), so a fact about what a block does is a case
analysis over the rules.
-/

namespace Dialogue

/-- How a performance of a conversation ends: in a result or failure, or at a call
that stays without an answer. -/
abbrev Ending (α : Type) := Except Call (Except Failure α)

namespace Conversation

/-! ## Texts and choices that depend on the session -/

/-- The menu of the links that lead from a block. -/
def linkMenu (s : Session) (b : Block) : Text :=
  Menu.render s.settings.prompts.chooseAction ((s.flow.linksFrom b.id).map (linkLabel s))

/-- The menu of options. -/
def optionMenu (s : Session) (choices : List Choice) : Text :=
  Menu.render s.settings.prompts.chooseOption (choices.map Choice.label)

/-- Where a link leads, if there is one. -/
def leadTo (failure : Failure) : Option Link → Except Failure Transition
  | some link => .ok (.goto link.target)
  | none => .error failure

/-- Where a reply to the menu of links leads. -/
def selectLink (s : Session) (b : Block) (reply : Text) : Except Failure Transition :=
  leadTo (.invalidChoice b.id reply)
    ((Menu.pick? reply (s.flow.linksFrom b.id).length).bind
      fun i => (s.flow.linksFrom b.id)[i]?)

/-- Where a reply to the menu of options leads. -/
def selectOption (s : Session) (b : Block) (choices : List Choice) (reply : Text) :
    Except Failure Transition :=
  leadTo (.invalidChoice b.id reply)
    ((Menu.pick? reply choices.length).bind
      fun i => choices[i]?.bind fun choice => s.flow.linkOnPort? b.id choice.port)

/-- Where conditions lead. -/
def selectBranch (s : Session) (b : Block) (conditions : List Condition) :
    Except Failure Transition :=
  leadTo (.noDefaultLink b.id) (branchLink? s b.id conditions)

/-! ## The rules -/

/-- What can come of asking for input. -/
inductive Asked (block : Text) (purpose : Purpose) (prompt : Text) (s : Session) :
    List Exchange → Session → Ending Text → Prop
  | replied (reply : Text) :
      Asked block purpose prompt s [⟨.input prompt, .ok reply⟩]
        { s with standing := .running block } (.ok (.ok reply))
  | refused (e : ChannelError) :
      Asked block purpose prompt s [⟨.input prompt, .error e⟩]
        { s with standing := .awaiting block purpose } (.ok (.error (.channel e)))
  | unanswered :
      Asked block purpose prompt s [] { s with standing := .awaiting block purpose }
        (.error (.input prompt))

/-- What can come of following the links of a block. -/
inductive Followed (b : Block) (s : Session) :
    List Exchange → Session → Ending Transition → Prop
  | ended (hlinks : s.flow.linksFrom b.id = []) :
      Followed b s [] s (.ok (.ok (.complete .noFurtherLinks)))
  | single {link : Link} (hlinks : s.flow.linksFrom b.id = [link]) :
      Followed b s [] s (.ok (.ok (.goto link.target)))
  | offered {xs : List Exchange} {s' : Session} {r : Ending Text}
      (hlinks : 2 ≤ (s.flow.linksFrom b.id).length)
      (hask : Asked b.id (.advance (s.flow.linksFrom b.id).length) (linkMenu s b) s xs s' r) :
      Followed b s xs s' (r.map fun reply => reply.bind (selectLink s b))

/-- What can come of a block. -/
inductive Performed (b : Block) (s : Session) :
    List Exchange → Session → Ending Transition → Prop
  | start {xs s' o} (hkind : b.kind = .start) (hnext : Followed b s xs s' o) :
      Performed b s xs s' o
  | unsaid (hkind : b.kind = .message) :
      Performed b s [] s (.error (.message (Template.fill (b.text.getD []) s.store)))
  | said {xs s' o} (hkind : b.kind = .message) (hnext : Followed b s xs s' o) :
      Performed b s (⟨.message (Template.fill (b.text.getD []) s.store), ()⟩ :: xs) s' o
  | saveNameless (hkind : b.kind = .save none) :
      Performed b s [] s (.ok (.error (.missingPart b.id .variableName)))
  | saveRefused {name : Text} (e : ChannelError) (hkind : b.kind = .save (some name)) :
      Performed b s [⟨.input (s.settings.prompts.capturePrompt name), .error e⟩]
        { s with standing := .awaiting b.id (.capture name) } (.ok (.error (.channel e)))
  | saveUnanswered {name : Text} (hkind : b.kind = .save (some name)) :
      Performed b s [] { s with standing := .awaiting b.id (.capture name) }
        (.error (.input (s.settings.prompts.capturePrompt name)))
  | saved {name xs s' o} (reply : Text) (hkind : b.kind = .save (some name))
      (hnext : Followed b { s with standing := .running b.id,
                                   store := s.store.set name (.text reply) } xs s' o) :
      Performed b s
        (⟨.input (s.settings.prompts.capturePrompt name), .ok reply⟩ :: xs) s' o
  | branched {conditions : List Condition} (hkind : b.kind = .conditional conditions) :
      Performed b s [] s (.ok (selectBranch s b conditions))
  | optionless (hkind : b.kind = .choice []) :
      Performed b s [] s (.ok (.error (.noChoices b.id)))
  | chose {choices xs s' r} (hkind : b.kind = .choice choices) (hne : choices ≠ [])
      (hask : Asked b.id (.choice choices.length) (optionMenu s choices) s xs s' r) :
      Performed b s xs s' (r.map fun reply => reply.bind (selectOption s b choices))
  | callUrlless {name : Option Text} (hkind : b.kind = .externalCall none name) :
      Performed b s [] s (.ok (.error (.missingPart b.id .url)))
  | callNameless {url : Text} (hkind : b.kind = .externalCall (some url) none) :
      Performed b s [] s (.ok (.error (.missingPart b.id .variableName)))
  | unavailable {url name : Text} (hkind : b.kind = .externalCall (some url) (some name))
      (hfetch : s.settings.canFetch = false) :
      Performed b s [] s (.ok (.error (.externalCall url .unavailable)))
  | unfetched {url name : Text} (hkind : b.kind = .externalCall (some url) (some name))
      (hfetch : s.settings.canFetch = true) :
      Performed b s [] s (.error (.fetch url))
  | fetchFailed {url name : Text} (e : FetchError)
      (hkind : b.kind = .externalCall (some url) (some name))
      (hfetch : s.settings.canFetch = true) :
      Performed b s [⟨.fetch url, .error e⟩] s (.ok (.error (.externalCall url e)))
  | fetched {url name xs s' o} (response : Json)
      (hkind : b.kind = .externalCall (some url) (some name))
      (hfetch : s.settings.canFetch = true)
      (hnext : Followed b { s with store := s.store.set name (.text response.summarize) }
        xs s' o) :
      Performed b s (⟨.fetch url, .ok response⟩ :: xs) s' o
  | finished (hkind : b.kind = .finish) :
      Performed b s [] s (.ok (.ok (.complete .endBlock)))
  | unknown {typeName : Text} (hkind : b.kind = .unknown typeName) :
      Performed b s [] s (.ok (.error (.unknownBlockType b.id typeName)))

/-- What can come of entering the block with an id. -/
inductive Entered (id : Text) (s : Session) :
    List Exchange → Session → Ending Transition → Prop
  | nowhere (hblock : s.flow.block? id = none) :
      Entered id s [] s (.ok (.error (.blockNotFound id)))
  | block {b xs s' o} (hblock : s.flow.block? id = some b)
      (hdone : Performed b { s with visited := s.visited ++ [id] } xs s' o) :
      Entered id s xs s' o

variable {s s' : Session} {xs : List Exchange}

/-- Where several links leave a block, following them is to offer them. -/
theorem Followed.offered_of_two_le {b : Block} {o : Ending Transition} (h : Followed b s xs s' o)
    (hlinks : 2 ≤ (s.flow.linksFrom b.id).length) :
    ∃ r, Asked b.id (.advance (s.flow.linksFrom b.id).length) (linkMenu s b) s xs s' r
      ∧ o = r.map fun reply => reply.bind (selectLink s b) := by
  cases h with
  | ended hnone => simp [hnone] at hlinks
  | single hone => simp [hone] at hlinks
  | offered _ hask => exact ⟨_, hask, rfl⟩

/-! ## Every path obeys the rules -/

theorem ask_apply (block : Text) (purpose : Purpose) (prompt : Text) (s : Session) :
    ask block purpose prompt s =
      .call { s with standing := .awaiting block purpose } (.input prompt) fun
        | .ok reply => .done { s with standing := .running block } (.ok reply)
        | .error e =>
          .done { s with standing := .awaiting block purpose } (.error (.channel e)) := by
  rw [ask, update_bind_apply, call_bind_apply]
  congr 1
  funext answer
  cases answer <;> rfl

theorem asked_of_path {block prompt : Text} {purpose : Purpose} {o : Ending Text}
    (h : (ask block purpose prompt s).Path xs s' o) :
    Asked block purpose prompt s xs s' o := by
  rw [ask_apply] at h
  rcases Activity.path_call_iff.mp h with ⟨rfl, rfl, rfl⟩ | ⟨answer, ys, rfl, rest⟩
  · exact .unanswered
  · cases answer with
    | ok reply =>
        obtain ⟨rfl, rfl, rfl⟩ := Activity.path_done_iff.mp rest
        exact .replied reply
    | error e =>
        obtain ⟨rfl, rfl, rfl⟩ := Activity.path_done_iff.mp rest
        exact .refused e

/-- A request for input whose reply decides, without a further call, what follows. -/
theorem asked_of_path_bind {block prompt : Text} {purpose : Purpose}
    {next : Text → Conversation Transition} {o : Ending Transition}
    (select : Text → Except Failure Transition)
    (hnext : ∀ reply t, next reply t = .done t (select reply))
    (h : ((ask block purpose prompt >>= next : Conversation Transition) s).Path xs s' o) :
    ∃ r, Asked block purpose prompt s xs s' r
      ∧ o = r.map fun reply => reply.bind select := by
  rcases path_bind h with ⟨q, rfl, hq⟩ | ⟨f, rfl, hf⟩ | ⟨ys, zs, t, reply, rfl, hr, hrest⟩
  · exact ⟨_, asked_of_path hq, rfl⟩
  · exact ⟨_, asked_of_path hf, rfl⟩
  · rw [hnext] at hrest
    obtain ⟨rfl, rfl, rfl⟩ := Activity.path_done_iff.mp hrest
    rw [List.append_nil]
    exact ⟨_, asked_of_path hr, rfl⟩

theorem followed_of_path {b : Block} {o : Ending Transition}
    (h : (advance b s).Path xs s' o) : Followed b s xs s' o := by
  rw [advance, session_bind_apply] at h
  rcases hlinks : s.flow.linksFrom b.id with _ | ⟨first, _ | ⟨second, rest⟩⟩
  · rw [hlinks] at h
    obtain ⟨rfl, rfl, rfl⟩ := Activity.path_done_iff.mp h
    exact .ended hlinks
  · rw [hlinks] at h
    obtain ⟨rfl, rfl, rfl⟩ := Activity.path_done_iff.mp h
    exact .single hlinks
  · have hmany : 2 ≤ (s.flow.linksFrom b.id).length := by
      rw [hlinks]
      exact Nat.le_add_left 2 rest.length
    rw [hlinks] at h
    obtain ⟨r, hask, rfl⟩ := asked_of_path_bind (selectLink s b)
      (fun reply t => by
        rw [selectLink, hlinks]
        cases (Menu.pick? reply (first :: second :: rest).length).bind
          fun i => (first :: second :: rest)[i]? <;> rfl) h
    rw [← hlinks] at hask
    exact .offered hmany hask

theorem branch_apply (b : Block) (conditions : List Condition) (s : Session) :
    branch b.id conditions s = .done s (selectBranch s b conditions) := by
  rw [branch, session_bind_apply, selectBranch]
  cases branchLink? s b.id conditions <;> rfl

theorem callExternal_apply (url : Text) (s : Session) :
    callExternal url s =
      if s.settings.canFetch then
        .call s (.fetch url) fun
          | .ok response => .done s (.ok response.summarize)
          | .error e => .done s (.error (.externalCall url e))
      else .done s (.error (.externalCall url .unavailable)) := by
  rw [callExternal, session_bind_apply]
  cases s.settings.canFetch with
  | false => rfl
  | true =>
      rw [if_pos rfl, if_pos rfl, call_bind_apply]
      congr 1
      funext answer
      cases answer <;> rfl

theorem chose_of_path {b : Block} {choices : List Choice} {o : Ending Transition}
    (hne : choices ≠ []) (h : (choose b.id choices s).Path xs s' o) :
    ∃ r, Asked b.id (.choice choices.length) (optionMenu s choices) s xs s' r
      ∧ o = r.map fun reply => reply.bind (selectOption s b choices) := by
  rw [choose, if_neg hne, session_bind_apply] at h
  refine asked_of_path_bind _ (fun reply t => ?_) h
  rw [selectOption]
  cases (Menu.pick? reply choices.length).bind
    fun i => choices[i]?.bind fun choice => s.flow.linkOnPort? b.id choice.port <;> rfl

theorem fetched_of_path {b : Block} {url name : Text} {o : Ending Transition}
    (hkind : b.kind = .externalCall (some url) (some name))
    (h : ((callExternal url >>= fun summary => keep name summary >>= fun _ => advance b
      : Conversation Transition) s).Path xs s' o) :
    Performed b s xs s' o := by
  change ((callExternal url s).bind _).Path xs s' o at h
  rw [callExternal_apply] at h
  cases hfetch : s.settings.canFetch with
  | false =>
      rw [hfetch, if_neg Bool.false_ne_true] at h
      obtain ⟨rfl, rfl, rfl⟩ := Activity.path_done_iff.mp h
      exact .unavailable hkind hfetch
  | true =>
      rw [hfetch, if_pos rfl] at h
      rcases Activity.path_call_iff.mp h with ⟨rfl, rfl, rfl⟩ | ⟨e | response, ys, rfl, rest⟩
      · exact .unfetched hkind hfetch
      · obtain ⟨rfl, rfl, rfl⟩ := Activity.path_done_iff.mp rest
        exact .fetchFailed e hkind hfetch
      · exact .fetched response hkind hfetch (followed_of_path rest)

theorem performed_of_path {b : Block} {o : Ending Transition}
    (h : (perform b s).Path xs s' o) : Performed b s xs s' o := by
  obtain ⟨id, text, kind⟩ := b
  cases kind with
  | start => exact .start rfl (followed_of_path h)
  | message =>
      rcases Activity.path_call_iff.mp h with ⟨rfl, rfl, rfl⟩ | ⟨_, ys, rfl, rest⟩
      · exact .unsaid rfl
      · exact .said rfl (followed_of_path rest)
  | save name =>
      cases name with
      | none =>
          obtain ⟨rfl, rfl, rfl⟩ := Activity.path_done_iff.mp h
          exact .saveNameless rfl
      | some name =>
          rcases path_bind (c := ask id (.capture name) _) h with
            ⟨q, rfl, hq⟩ | ⟨f, rfl, hf⟩ | ⟨ys, zs, t, reply, rfl, hr, hrest⟩
          · cases asked_of_path hq
            exact .saveUnanswered rfl
          · cases asked_of_path hf
            exact .saveRefused _ rfl
          · cases asked_of_path hr
            exact .saved reply rfl (followed_of_path hrest)
  | conditional conditions =>
      rw [show perform ⟨id, text, .conditional conditions⟩ s = _ from
        branch_apply ⟨id, text, .conditional conditions⟩ conditions s] at h
      obtain ⟨rfl, rfl, rfl⟩ := Activity.path_done_iff.mp h
      exact .branched rfl
  | choice choices =>
      by_cases hne : choices = []
      · subst hne
        obtain ⟨rfl, rfl, rfl⟩ := Activity.path_done_iff.mp h
        exact .optionless rfl
      · obtain ⟨r, hask, rfl⟩ := chose_of_path (b := ⟨id, text, .choice choices⟩) hne h
        exact .chose rfl hne hask
  | externalCall url name =>
      rcases url with _ | url
      · obtain ⟨rfl, rfl, rfl⟩ := Activity.path_done_iff.mp h
        exact .callUrlless rfl
      rcases name with _ | name
      · obtain ⟨rfl, rfl, rfl⟩ := Activity.path_done_iff.mp h
        exact .callNameless rfl
      · exact fetched_of_path rfl h
  | finish =>
      obtain ⟨rfl, rfl, rfl⟩ := Activity.path_done_iff.mp h
      exact .finished rfl
  | unknown typeName =>
      obtain ⟨rfl, rfl, rfl⟩ := Activity.path_done_iff.mp h
      exact .unknown rfl

/-- Every path through the entering of a block obeys the rules. -/
theorem entered_of_path {id : Text} {o : Ending Transition}
    (h : (step id s).Path xs s' o) : Entered id s xs s' o := by
  rw [step, session_bind_apply] at h
  rcases hblock : s.flow.block? id with _ | b
  · rw [hblock] at h
    obtain ⟨rfl, rfl, rfl⟩ := Activity.path_done_iff.mp h
    exact .nowhere hblock
  · rw [hblock] at h
    exact .block hblock (performed_of_path h)

end Conversation

end Dialogue
