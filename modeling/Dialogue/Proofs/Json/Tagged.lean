import Dialogue.Json.Tagged
import Dialogue.Proofs.Json.Refusal
import Dialogue.Proofs.Json.Values

/-!
# Tagged values are read in either order

What is known of a tagged value depends only on whether its tag and its content have been read
(`Tagging.progress`): content that comes first is held until the tag says what it is, and then is
the same value as if it had come last. So an object is read whatever the order of its members and
whatever other members it has (`Tagging.reads_object`), and so is the list of the two
(`Tagging.reads_pair`).

A key takes note of itself, whatever stands under it. So an object with the tag or the content twice
is refused, even if both times they are the same (`Tagging.refuses_repeated`).
-/

namespace Dialogue.Json

variable {α : Type}

/-! ## What is written -/

/-- What a payload makes of its content. -/
inductive Payload.Makes : Payload α → Option Text → α → Prop where
  | nothing (value : α) (name : Text) : Makes (.nothing value name) none value
  | text (make : Text → α) (content : Text) : Makes (.text make) (some content) (make content)

/-- The members of a tagged value. If it holds nothing, its content is null or left out. -/
def taggedFields (tagKey contentKey : String) (tag : Text) (content : Option Text) :
    List FieldSpelling := [
  ⟨[tagKey], SpellsText tag, False⟩,
  ⟨[contentKey], SpellsNullable SpellsText content, content = none⟩]

/-- A notation with these two keys. -/
structure Tagging.Keyed (t : Tagging α) (tagKey contentKey : String) : Prop where
  tagKey : t.tagKey = tagKey.toList
  contentKey : t.contentKey = contentKey.toList
  distinct : t.contentKey ≠ t.tagKey

/-- Whether there is a member with a name. -/
def hasMember (name : Text) (members : List Member) : Bool :=
  members.any fun m => m.name == name

theorem hasMember_append (name : Text) (members : List Member) (m : Member) :
    hasMember name (members ++ [m]) = (hasMember name members || m.name == name) := by
  simp [hasMember]

theorem hasMember_iff {name : Text} {members : List Member} :
    hasMember name members = true ↔ ∃ m ∈ members, m.name = name := by
  simp [hasMember]

/-- What `Holds` says of the members of a tagged value. -/
structure HoldsTagged (t : Tagging α) (tag : Text) (content : Option Text)
    (members : List Member) : Prop where
  keys : ∀ m ∈ members, SpellsText m.name m.key
  tags : ∀ m ∈ members, m.name = t.tagKey → SpellsText tag m.value
  contents : ∀ m ∈ members, m.name = t.contentKey → SpellsNullable SpellsText content m.value
  others : ∀ m ∈ members, m.name ≠ t.tagKey → m.name ≠ t.contentKey → IsValue m.value
  once : ∀ key ∈ [t.tagKey, t.contentKey],
    members.Pairwise fun m m' => ¬ (m.name = key ∧ m'.name = key)
  hasTag : hasMember t.tagKey members = true
  hasContent : hasMember t.contentKey members = true ∨ content = none

theorem Tagging.Keyed.holds {t : Tagging α} {tagKey contentKey : String}
    (ht : t.Keyed tagKey contentKey) {tag : Text} {content : Option Text} {members : List Member}
    (h : Holds (taggedFields tagKey contentKey tag content) members) :
    HoldsTagged t tag content members := by
  obtain ⟨hkeys, hvalues, hothers, honce, hcomplete⟩ := h
  simp only [taggedFields, FieldSpelling.Named, List.map_cons, List.map_nil, List.mem_cons,
    List.not_mem_nil, or_false, forall_eq_or_imp, forall_eq] at hvalues hothers honce hcomplete
  rw [← ht.tagKey, ← ht.contentKey] at hvalues hothers honce hcomplete
  exact ⟨hkeys, fun m hm => (hvalues m hm).1, fun m hm => (hvalues m hm).2,
    fun m hm htag hcontent => hothers m hm ⟨htag, hcontent⟩, by simpa using honce,
    hasMember_iff.mpr hcomplete.1, hcomplete.2.imp_left hasMember_iff.mpr⟩

/-! ## Tags and contents -/

section Reading

variable {t : Tagging α} {tag : Text} {v : Variant α} {content : Option Text} {a : α}
  (htag : t.ofTag tag = .ok v)

include htag in
theorem Tagging.reads_tagText {s : Text} (h : SpellsText tag s) : Reads t.readTagText s v := by
  refine ⟨h.begins, fun gap rest hgap _ => ?_⟩
  obtain ⟨body, rfl, hread⟩ := h.readQuoted
  rw [readTagText, skipBlanks_blanks hgap]
  show (Json.readQuoted (body ++ rest) >>= _) = _
  rw [hread]
  show (t.ofTag tag >>= _) = _
  rw [htag]
  rfl

include htag in
theorem Tagging.reads_tag {s : Text} (h : SpellsText tag s) (depth : Nat) :
    Reads (t.readTag depth) s v := by
  refine ⟨h.begins, fun gap rest hgap hrest => ?_⟩
  have hread := (t.reads_tagText htag h).eq [] rest blanks_nil hrest
  obtain ⟨body, rfl, -⟩ := h.readQuoted
  rw [readTag, skipBlanks_blanks hgap]
  exact hread

variable {p : Payload α} (hmakes : p.Makes content a)

include hmakes in
/-- Content behind its tag. -/
theorem Payload.Makes.reads {s : Text} (h : SpellsNullable SpellsText content s) :
    Reads p.read s a := by
  cases hmakes with
  | nothing value name =>
      obtain rfl : s = "null".toList := h
      refine ⟨⟨'n', _, rfl, by decide⟩, fun gap rest hgap _ => ?_⟩
      rw [Payload.read, skipBlanks_blanks hgap]
      rfl
  | text make content =>
      have htext : SpellsText content s := h
      exact htext.reads.bind fun _ => rfl

/-- Content that is held until its tag has been read. -/
def held : Option Text → Json
  | none => .null
  | some content => .text content

/-- Content before its tag. -/
theorem reads_held {s : Text} (h : SpellsNullable SpellsText content s) (depth : Nat) :
    Reads (readValue depth) s (held content) := by
  cases content with
  | none =>
      obtain rfl : s = "null".toList := h
      exact reads_null_value depth
  | some content =>
      have htext : SpellsText content s := h
      exact htext.reads_value depth

include hmakes in
theorem Payload.Makes.ofJson : p.ofJson (held content) = .ok a := by
  cases hmakes <;> rfl

include hmakes in
theorem Payload.Makes.withoutContent (hnone : content = none) (contentKey : Text) :
    p.withoutContent contentKey = .ok a := by
  subst hnone
  cases hmakes
  rfl

end Reading

/-! ## Objects -/

/-- What is known of a value, by whether its tag and its content have been read. -/
def Tagging.progress (v : Variant α) (content : Option Text) (a : α) : Bool → Bool → Progress α
  | false, false => .nothing
  | true, false => .tag v
  | false, true => .content (held content)
  | true, true => .both a

section Object

variable {t : Tagging α} {tag : Text} {v : Variant α} {content : Option Text} {a : α}
  {depth : Nat} (hkeys : t.contentKey ≠ t.tagKey) (htag : t.ofTag tag = .ok v)
  (hmakes : v.payload.Makes content a)

/-- What is known once some members have been read. -/
def Tagging.after (t : Tagging α) (v : Variant α) (content : Option Text) (a : α)
    (members : List Member) : Progress α :=
  progress v content a (hasMember t.tagKey members) (hasMember t.contentKey members)

include htag hmakes in
/-- The tag, before its content or behind it. -/
theorem Tagging.readMember_tagKey {s gap gap' rest : Text} (hs : SpellsText tag s)
    (hgap : Blanks gap) (hgap' : Blanks gap') (hrest : Ends rest) (hasContent : Bool) :
    t.readMember depth (progress v content a false hasContent) t.tagKey
        (gap ++ ':' :: (gap' ++ (s ++ rest))) =
      .ok (progress v content a true hasContent, rest) := by
  have hread := (t.reads_tag htag hs depth).eq gap' rest hgap' hrest
  unfold Tagging.readMember
  rw [if_pos rfl, readColon_blanks hgap]
  cases hasContent with
  | false =>
      show (t.readTag depth _ >>= _) = _
      rw [hread]
      rfl
  | true =>
      show (t.readTag depth _ >>= _) = _
      rw [hread]
      show (v.payload.ofJson (held content) >>= _) = _
      rw [hmakes.ofJson]
      rfl

include hkeys hmakes in
/-- The content, behind its tag or before it. -/
theorem Tagging.readMember_contentKey {s gap gap' rest : Text}
    (hs : SpellsNullable SpellsText content s) (hgap : Blanks gap) (hgap' : Blanks gap')
    (hrest : Ends rest) (hasTag : Bool) :
    t.readMember depth (progress v content a hasTag false) t.contentKey
        (gap ++ ':' :: (gap' ++ (s ++ rest))) =
      .ok (progress v content a hasTag true, rest) := by
  unfold Tagging.readMember
  rw [if_neg hkeys, if_pos rfl, readColon_blanks hgap]
  cases hasTag with
  | false =>
      show (readValue depth _ >>= _) = _
      rw [(reads_held hs depth).eq gap' rest hgap' hrest]
      rfl
  | true =>
      show (v.payload.read _ >>= _) = _
      rw [(hmakes.reads hs).eq gap' rest hgap' hrest]
      rfl

theorem Tagging.readMember_other {state : Progress α} {name s gap gap' rest : Text}
    (htagKey : name ≠ t.tagKey) (hcontentKey : name ≠ t.contentKey) (hs : IsValue s)
    (hgap : Blanks gap) (hgap' : Blanks gap') (hrest : Ends rest) :
    t.readMember depth state name (gap ++ ':' :: (gap' ++ (s ++ rest))) = .ok (state, rest) := by
  unfold Tagging.readMember
  rw [if_neg htagKey, if_neg hcontentKey, readColon_blanks hgap]
  show (skipValue _ >>= _) = _
  rw [skipValue_value hs hgap' hrest]
  rfl

/-- A key that stands in an object once has not been read before. -/
theorem hasMember_before {members before after : List Member} {m : Member}
    (honce : members.Pairwise fun n n' => ¬ (n.name = m.name ∧ n'.name = m.name))
    (hmembers : members = before ++ m :: after) : hasMember m.name before = false := by
  rw [Bool.eq_false_iff]
  intro hbefore
  obtain ⟨n, hn, hname⟩ := hasMember_iff.mp hbefore
  rw [hmembers] at honce
  exact (List.pairwise_append.mp honce).2.2 n hn m List.mem_cons_self ⟨hname, rfl⟩

include hkeys htag hmakes in
/-- Every member is read, and more is known if it is the tag or the content. -/
theorem Tagging.steps_member {members before after : List Member} {m : Member}
    (h : HoldsTagged t tag content members) (hmembers : members = before ++ m :: after) :
    Steps (t.readMember depth) (t.after v content a before) m
      (t.after v content a (before ++ [m])) := by
  intro gap gap' rest hgap hgap' hrest
  have hm : m ∈ members := by
    rw [hmembers]
    exact List.mem_append_right _ List.mem_cons_self
  rw [Tagging.after, Tagging.after, hasMember_append, hasMember_append]
  by_cases htagKey : m.name = t.tagKey
  · have hunread := hasMember_before (htagKey ▸ h.once t.tagKey List.mem_cons_self) hmembers
    have hother : (m.name == t.contentKey) = false := by
      rw [htagKey]
      exact beq_false_of_ne hkeys.symm
    rw [htagKey] at hunread hother ⊢
    rw [hunread, hother, beq_self_eq_true, Bool.or_false]
    exact readMember_tagKey htag hmakes (h.tags m hm htagKey) hgap hgap' hrest _
  by_cases hcontentKey : m.name = t.contentKey
  · have hunread := hasMember_before
      (hcontentKey ▸ h.once t.contentKey (List.mem_cons_of_mem _ List.mem_cons_self)) hmembers
    rw [hcontentKey] at hunread htagKey ⊢
    rw [hunread, beq_false_of_ne htagKey, beq_self_eq_true, Bool.or_false]
    exact readMember_contentKey hkeys hmakes (h.contents m hm hcontentKey) hgap hgap' hrest _
  · rw [beq_false_of_ne htagKey, beq_false_of_ne hcontentKey, Bool.or_false, Bool.or_false]
    exact readMember_other htagKey hcontentKey (h.others m hm htagKey hcontentKey) hgap hgap' hrest

include hmakes in
theorem Tagging.finish_after {members : List Member} (h : HoldsTagged t tag content members) :
    t.finish (t.after v content a members) = .ok a := by
  rw [Tagging.after, h.hasTag]
  cases hread : hasMember t.contentKey members with
  | true => rfl
  | false =>
      rcases h.hasContent with hcontent | hnone
      · exact absurd hcontent (Bool.eq_false_iff.mp hread)
      · exact hmakes.withoutContent hnone t.contentKey

include htag hmakes in
/-- **A tagged value is read from every object that holds it,** the tag before the content or behind
it. -/
theorem Tagging.reads_object {tagKey contentKey : String} (ht : t.Keyed tagKey contentKey)
    {s : Text} (h : SpellsRecord (taggedFields tagKey contentKey tag content) s) :
    Reads (t.read (depth + 1)) s a := by
  obtain ⟨members, hholds, inner, hinside, rfl⟩ := h
  have hholds := ht.holds hholds
  refine ⟨⟨'{', _, rfl, by decide⟩, fun gap rest hgap _ => ?_⟩
  have hthrough : Through (t.readMember depth) (t.after v content a []) members
      (t.after v content a members) :=
    through_of_steps (t.after v content a)
      fun _ _ _ hmembers => steps_member ht.distinct htag hmakes hholds hmembers
  have hread := foldMembers_object hthrough hholds.keys hinside rest
  rw [Tagging.read, skipBlanks_blanks hgap, List.cons_append, List.append_assoc]
  show (foldMembers (t.readMember depth) .nothing (inner ++ '}' :: rest) >>= _) = _
  rw [show Progress.nothing = t.after v content a [] from rfl, hread]
  show (t.finish (t.after v content a members) >>= _) = _
  rw [finish_after hmakes hholds]
  rfl

include htag hmakes in
/-- **A tagged value is read from the list of its tag and its content.** -/
theorem Tagging.reads_pair {tagText contentText s : Text} (htagText : SpellsText tag tagText)
    (hcontentText : SpellsNullable SpellsText content contentText)
    (h : IsList [tagText, contentText] s) : Reads (t.read (depth + 1)) s a := by
  obtain ⟨inner, hinside, rfl⟩ := h
  refine ⟨⟨'[', _, rfl, by decide⟩, fun gap rest hgap _ => ?_⟩
  cases hinside with | parts hcommas =>
  cases hcommas with | cons htagPart hcommas =>
  cases hcommas with
  | cons _ hnone => cases hnone
  | last hcontentPart =>
      obtain ⟨front, back, hfront, hback, rfl⟩ := htagPart
      obtain ⟨front', back', hfront', hback', rfl⟩ := hcontentPart
      have htagReads := t.reads_tagText htag htagText
      have hcontentReads := hmakes.reads hcontentText
      rw [Tagging.read, skipBlanks_blanks hgap]
      simp only [List.append_assoc, List.cons_append, List.nil_append]
      show t.readPair _ = _
      have hfirst := Lead.first.nextItem hfront (htagReads.begins.append
        (back ++ ',' :: (front' ++ (contentText ++ (back' ++ ']' :: rest)))))
      have hlater :=
        Lead.later.nextItem hfront' (hcontentReads.begins.append (back' ++ ']' :: rest))
      have htagRead :=
        htagReads.eq [] (back ++ ',' :: (front' ++ (contentText ++ (back' ++ ']' :: rest))))
          blanks_nil ((ends_comma _).blanks hback)
      have hcontentRead := hcontentReads.eq [] (back' ++ ']' :: rest) blanks_nil
        ((ends_bracket rest).blanks hback')
      rw [List.nil_append] at hfirst htagRead hcontentRead
      rw [Tagging.readPair, hfirst]
      show (t.readTagText _ >>= _) = _
      rw [htagRead]
      show (nextItem false _ >>= _) = _
      rw [nextItem_blanks hback]
      show (nextItem false ([','] ++ (front' ++ (contentText ++ (back' ++ ']' :: rest)))) >>= _) = _
      rw [hlater]
      show (v.payload.read _ >>= _) = _
      rw [hcontentRead]
      show (closeList (back' ++ ']' :: rest) >>= _) = _
      rw [closeList_blanks hback']
      rfl

end Object

/-! ## What is printed -/

/-- A tagged value as it is printed is one way to write it. -/
theorem Tagging.Keyed.spells_printTagged {t : Tagging α} {tagKey contentKey : String}
    (h : t.Keyed tagKey contentKey) (tag : Text) (content : Option Text) :
    SpellsRecord (taggedFields tagKey contentKey tag content)
      (printTagged t.tagKey tag t.contentKey content) := by
  have hdistinct := h.distinct
  rw [h.tagKey, h.contentKey] at hdistinct ⊢
  have htagPart := labelled_self (printText tagKey.toList) (printText tag)
  cases content with
  | none =>
      refine ⟨[⟨tagKey.toList, printText tagKey.toList, printText tag⟩], ⟨?_, ?_, ?_, ?_, ?_⟩, _,
        .parts (.last htagPart), ?_⟩
      · simp [spellsText_printText]
      · simp [taggedFields, FieldSpelling.Named, spellsText_printText, hdistinct]
      · simp [taggedFields, FieldSpelling.Named]
      · simp [taggedFields, FieldSpelling.Named]
      · simp [taggedFields, FieldSpelling.Named]
      · simp [printTagged]
  | some content =>
      have hcontentPart := labelled_self (printText contentKey.toList) (printText content)
      refine ⟨[⟨tagKey.toList, printText tagKey.toList, printText tag⟩,
        ⟨contentKey.toList, printText contentKey.toList, printText content⟩],
        ⟨?_, ?_, ?_, ?_, ?_⟩, _,
        .parts (.cons htagPart (.last hcontentPart)), ?_⟩
      · simp [spellsText_printText]
      · simp [taggedFields, FieldSpelling.Named, SpellsNullable, spellsText_printText, hdistinct,
          hdistinct.symm]
      · simp [taggedFields, FieldSpelling.Named]
      · simp [taggedFields, FieldSpelling.Named, hdistinct, hdistinct.symm]
      · simp [taggedFields, FieldSpelling.Named]
      · simp [printTagged]

/-! ## Repeated keys -/

/-- The keys whose members have been read. -/
def Progress.keys (t : Tagging α) : Progress α → List Text
  | .nothing => []
  | .tag _ => [t.tagKey]
  | .content _ => [t.contentKey]
  | .both _ => [t.tagKey, t.contentKey]

section Refusal

variable {t : Tagging α}

theorem readUnit_ok {gap value rest s : Text} (hvalue : IsValue value) (hgap : Blanks gap)
    (h : readUnit (gap ++ (value ++ rest)) = .ok s) : s = rest := by
  rw [readUnit, skipBlanks_blanks hgap, (hvalue.begins.append rest).skipBlanks] at h
  split at h
  · next hs =>
    obtain ⟨c, value, rfl, -⟩ := hvalue.begins
    obtain ⟨rfl, rfl⟩ := List.cons.inj hs
    obtain ⟨-, rfl⟩ := List.cons.inj (hvalue.opens.null rfl)
    exact (Except.ok.inj h).symm
  · cases h

/-- A tag that is a key is read to the end of its object. -/
theorem Tagging.readTag_member_ok {entry : Text × Text} (hkey : IsQuoted entry.1)
    (hvalue : IsValue entry.2) {part : Text} (h : Labelled entry part) {depth : Nat} {tail s : Text}
    {v : Variant α} (hread : t.readTag depth ('{' :: (part ++ tail)) = .ok (v, s)) :
    skipBlanks tail = '}' :: s := by
  obtain ⟨_, _, ⟨front, back, hfront, hback, rfl⟩, ⟨front', back', hfront', hback', rfl⟩, rfl⟩ := h
  cases depth with
  | zero => cases hread
  | succ depth =>
      simp only [List.append_assoc, List.cons_append] at hread
      replace hread : (nextKey true _ >>= _) = .ok (v, s) := hread
      obtain ⟨⟨o, s'⟩, hnext, hread⟩ := ok_of_bind hread
      obtain ⟨rfl, name, rfl, -⟩ := Lead.first.nextKey_ok hfront hkey hnext
      obtain ⟨v', -, hread⟩ := ok_of_bind hread
      rw [readColon_blanks hback] at hread
      replace hread : (readUnit (front' ++ (entry.2 ++ (back' ++ tail))) >>= _) = .ok (v, s) :=
        hread
      obtain ⟨s', hunit, hread⟩ := ok_of_bind hread
      obtain rfl := readUnit_ok hvalue hfront' hunit
      rw [skipBlanks_blanks hback'] at hread
      split at hread
      · next hs => rw [hs, (ok_inj hread).2]
      · cases hread
      · cases hread

theorem Tagging.yields_readTag {s : Text} (h : IsValue s) (depth : Nat) :
    Yields (t.readTag depth) s fun _ => True := by
  refine yields_of_blanks (fun gap s hgap => by rw [readTag, skipBlanks_blanks hgap, ← readTag])
    fun rest v s' _ hread => ⟨?_, trivial⟩
  obtain ⟨c, s, rfl, -⟩ := h.begins
  by_cases htext : c = '"'
  · obtain ⟨body, hbody, hok⟩ := (h.opens.text htext).readQuoted_ok
    rw [hbody] at hread
    obtain ⟨⟨tag, s⟩, hquoted, hread⟩ := ok_of_bind hread
    obtain ⟨_, -, hread⟩ := ok_of_bind hread
    obtain ⟨-, rfl⟩ := ok_inj hread
    exact (hok rest tag s' hquoted).1
  by_cases hobject : c = '{'
  · obtain ⟨entries, ⟨inner, hinside, hinner⟩, hkeys, hvalues⟩ := h.opens.object hobject
    rw [hinner, List.cons_append, List.append_assoc] at hread
    cases hinside with
    | empty hblanks =>
        cases depth with
        | zero => cases hread
        | succ depth =>
            replace hread : (nextKey true (inner ++ (['}'] ++ rest)) >>= _) = .ok (v, s') := hread
            rw [nextKey_blanks hblanks] at hread
            cases hread
    | parts hcommas =>
        cases hcommas with
        | last hlabelled =>
            obtain ⟨hkey, -⟩ := List.forall_mem_cons.mp hkeys
            obtain ⟨hvalue, -⟩ := List.forall_mem_cons.mp hvalues
            exact (List.cons.inj (readTag_member_ok hkey hvalue hlabelled hread)).2.symm
        | cons hlabelled _ =>
            obtain ⟨hkey, -⟩ := List.forall_mem_cons.mp hkeys
            obtain ⟨hvalue, -⟩ := List.forall_mem_cons.mp hvalues
            rw [List.append_assoc] at hread
            cases readTag_member_ok hkey hvalue hlabelled hread
  · rw [readTag, (h.begins.append rest).skipBlanks] at hread
    split at hread
    · cases hread
    · next hs => exact absurd (List.cons.inj hs).1 htext
    · next hs => exact absurd (List.cons.inj hs).1 hobject
    · cases hread

theorem Payload.yields_read (p : Payload α) {s : Text} (h : IsValue s) :
    Yields p.read s fun _ => True := by
  cases p with
  | text make => exact (yields_readText h).bind fun _ _ _ _ _ hok => ⟨(ok_inj hok).2, trivial⟩
  | nothing value name =>
      refine yields_of_blanks
        (fun gap s hgap => by rw [Payload.read, skipBlanks_blanks hgap, ← Payload.read])
        fun rest a s' _ hread => ⟨?_, trivial⟩
      rw [Payload.read, (h.begins.append rest).skipBlanks] at hread
      split at hread
      · next hs =>
        obtain ⟨c, s, rfl, -⟩ := h.begins
        obtain ⟨rfl, rfl⟩ := List.cons.inj hs
        obtain ⟨-, rfl⟩ := List.cons.inj (h.opens.null rfl)
        exact (ok_inj hread).2
      · cases hread

variable {depth : Nat} (hkeys : t.contentKey ≠ t.tagKey)

include hkeys in
/-- A member is read only if its key is not known yet, and then it is. -/
theorem Tagging.yields_member (state : Progress α) (name : Text) {gap value : Text}
    (hgap : Blanks gap) (hvalue : IsValue value) :
    Yields (fun s => t.readMember depth state name (gap ++ ':' :: s)) value fun state' =>
      ∀ key ∈ [t.tagKey, t.contentKey], (name = key → key ∉ state.keys t)
        ∧ (name = key ∨ key ∈ state.keys t → key ∈ state'.keys t) := by
  intro gap' rest state' s hgap' hrest hread
  replace hread : t.readMember depth state name (gap ++ ':' :: (gap' ++ (value ++ rest))) =
    .ok (state', s) := hread
  unfold readMember at hread
  rw [readColon_blanks hgap] at hread
  split at hread
  · next htagKey =>
    subst htagKey
    split at hread
    · replace hread : (t.readTag depth (gap' ++ (value ++ rest)) >>= _) = .ok (state', s) := hread
      obtain ⟨⟨v, s'⟩, htag, hread⟩ := ok_of_bind hread
      obtain ⟨hs, -⟩ := yields_readTag hvalue depth gap' rest v s' hgap' hrest htag
      obtain ⟨rfl, rfl⟩ := ok_inj hread
      exact ⟨hs, by simp [Progress.keys, hkeys.symm]⟩
    · replace hread : (t.readTag depth (gap' ++ (value ++ rest)) >>= _) = .ok (state', s) := hread
      obtain ⟨⟨v, s'⟩, htag, hread⟩ := ok_of_bind hread
      obtain ⟨hs, -⟩ := yields_readTag hvalue depth gap' rest v s' hgap' hrest htag
      obtain ⟨a, -, hread⟩ := ok_of_bind hread
      obtain ⟨rfl, rfl⟩ := ok_inj hread
      exact ⟨hs, by simp [Progress.keys, hkeys.symm]⟩
    · cases hread
  · next htagKey =>
    split at hread
    · next hcontentKey =>
      subst hcontentKey
      split at hread
      · replace hread : (readValue depth (gap' ++ (value ++ rest)) >>= _) = .ok (state', s) := hread
        obtain ⟨⟨j, s'⟩, hcontent, hread⟩ := ok_of_bind hread
        obtain ⟨hs, -⟩ := yields_readValue hvalue depth gap' rest j s' hgap' hrest hcontent
        obtain ⟨rfl, rfl⟩ := ok_inj hread
        exact ⟨hs, by simp [Progress.keys, hkeys]⟩
      · next v =>
        replace hread : (v.payload.read (gap' ++ (value ++ rest)) >>= _) = .ok (state', s) := hread
        obtain ⟨⟨a, s'⟩, hcontent, hread⟩ := ok_of_bind hread
        obtain ⟨hs, -⟩ := v.payload.yields_read hvalue gap' rest a s' hgap' hrest hcontent
        obtain ⟨rfl, rfl⟩ := ok_inj hread
        exact ⟨hs, by simp [Progress.keys, hkeys]⟩
      · cases hread
    · next hcontentKey =>
      replace hread : (skipValue (gap' ++ (value ++ rest)) >>= _) = .ok (state', s) := hread
      obtain ⟨s', hskip, hread⟩ := ok_of_bind hread
      rw [skipValue_value hvalue hgap' hrest] at hskip
      obtain rfl := Except.ok.inj hskip
      obtain ⟨rfl, rfl⟩ := ok_inj hread
      refine ⟨rfl, fun key hkey => ?_⟩
      have hother : name ≠ key := by
        rintro rfl
        simp [htagKey, hcontentKey] at hkey
      exact ⟨fun hname => absurd hname hother, Or.rec (fun hname => absurd hname hother) id⟩

/-- The members that have been read have neither key twice, and their keys are known. -/
structure Tagging.Notes (t : Tagging α) (members : List Member) (state : Progress α) : Prop where
  once : ∀ key ∈ [t.tagKey, t.contentKey],
    members.Pairwise fun m m' => ¬ (m.name = key ∧ m'.name = key)
  known : ∀ key ∈ [t.tagKey, t.contentKey], ∀ m ∈ members, m.name = key → key ∈ state.keys t

include hkeys in
theorem Tagging.Notes.yields_member {members : List Member} {state : Progress α}
    (h : t.Notes members state) (m : Member) {gap : Text} (hgap : Blanks gap)
    (hvalue : IsValue m.value) :
    Yields (fun s => t.readMember depth state m.name (gap ++ ':' :: s)) m.value
      (t.Notes (members ++ [m])) := by
  refine (Tagging.yields_member hkeys state m.name hgap hvalue).mono fun state' hstep => ⟨?_, ?_⟩
  · intro key hkey
    refine List.pairwise_append.mpr ⟨h.once key hkey, List.pairwise_singleton _ _, ?_⟩
    rintro n hn m' hm' ⟨hn', hm''⟩
    obtain rfl := List.mem_singleton.mp hm'
    exact (hstep key hkey).1 hm'' (h.known key hkey n hn hn')
  · intro key hkey n hn hname
    rcases List.mem_append.mp hn with hn | hn
    · exact (hstep key hkey).2 (.inr (h.known key hkey n hn hname))
    · obtain rfl := List.mem_singleton.mp hn
      exact (hstep key hkey).2 (.inl hname)

include hkeys in
/-- **An object with the tag or the content twice is refused,** whatever stands under them. -/
theorem Tagging.refuses_repeated {entries : List (Text × Text)} {s : Text}
    (h : IsValueObject entries s) {key : Text} (hkey : key ∈ [t.tagKey, t.contentKey])
    {e e' : Text × Text} (htwo : [e, e'].Sublist entries) (he : SpellsText key e.1)
    (he' : SpellsText key e'.1) (depth : Nat) : Refuses (t.read depth) s := by
  obtain ⟨⟨inner, hinside, rfl⟩, hquoted, hvalues⟩ := h
  refine yields_of_blanks (fun gap s hgap => by rw [read, skipBlanks_blanks hgap, ← read])
    fun rest a s' _ hread => ?_
  rw [List.cons_append, List.append_assoc] at hread
  cases depth with
  | zero => cases hread
  | succ depth =>
      obtain ⟨⟨state, s⟩, hfold, -⟩ := ok_of_bind hread
      have hstep (before : List Member) (state : Progress α) (h : t.Notes before state) :
          ∀ e ∈ entries, ∀ name gap, Blanks gap →
            Yields (fun s => t.readMember depth state name (gap ++ ':' :: s)) e.2
              (t.Notes (before ++ [⟨name, e.1, e.2⟩])) :=
        fun e he name gap hgap => h.yields_member hkeys ⟨name, e.1, e.2⟩ hgap (hvalues e he)
      have hnone : t.Notes [] Progress.nothing := ⟨fun _ _ => .nil, nofun⟩
      obtain ⟨-, members, rfl, hspells, hnotes⟩ := foldMembers_ok hquoted hstep hinside hnone hfold
      obtain ⟨pair, hpair, hentries⟩ := List.sublist_map_iff.mp htwo
      obtain ⟨m, ms, rfl, rfl, hms⟩ := List.map_eq_cons_iff.mp hentries.symm
      obtain ⟨m', ms, rfl, rfl, hnil⟩ := List.map_eq_cons_iff.mp hms
      obtain rfl := List.map_eq_nil_iff.mp hnil
      have honce :=
        List.rel_of_pairwise_cons ((hnotes.once key hkey).sublist hpair) List.mem_cons_self
      have hname := (hspells m (hpair.subset (by simp))).unique he
      have hname' := (hspells m' (hpair.subset (by simp))).unique he'
      exact absurd ⟨hname, hname'⟩ honce

end Refusal

end Dialogue.Json
