import Dialogue.Proofs.Json.Reading

/-!
# Records are read in any order

A draft of a record depends only on which of its fields have been read, if every field is written
as the record has it. `Fills` says this of one field: its reader takes the draft without the field
to the draft with it. Then any object that holds the record fills the draft, whatever the order and
the names of its members and whatever other members it has (`reads_record`).
-/

namespace Dialogue.Json

variable {σ : Type}

/-! ## Members one after another -/

/-- A step over the colon and the value of a member, to a new state. -/
def Steps (step : σ → Text → Reader σ) (state : σ) (m : Member) (state' : σ) : Prop :=
  ∀ gap gap' rest, Blanks gap → Blanks gap' → Ends rest →
    step state m.name (gap ++ ':' :: (gap' ++ (m.value ++ rest))) = .ok (state', rest)

/-- Steps over members, one after another. -/
inductive Through (step : σ → Text → Reader σ) : σ → List Member → σ → Prop where
  | nil (state : σ) : Through step state [] state
  | cons {state state' state'' : σ} {m : Member} {ms : List Member}
      (h : Steps step state m state') (hrest : Through step state' ms state'') :
      Through step state (m :: ms) state''

/-- A state that is told by the members before it goes through all of them. -/
theorem through_of_steps {step : σ → Text → Reader σ} {members : List Member}
    (state : List Member → σ)
    (h : ∀ before m after, members = before ++ m :: after →
      Steps step (state before) m (state (before ++ [m]))) :
    Through step (state []) members (state members) := by
  suffices hfrom : ∀ before after, members = before ++ after →
      Through step (state before) after (state members) from hfrom [] members rfl
  intro before after hmembers
  induction after generalizing before with
  | nil =>
      rw [hmembers, List.append_nil]
      exact .nil _
  | cons m after ih =>
      refine .cons (h before m after hmembers) (ih (before ++ [m]) ?_)
      rw [hmembers, List.append_assoc]
      rfl

theorem nextKey_blanks {gap : Text} (hgap : Blanks gap) (first : Bool) (s : Text) :
    nextKey first (gap ++ s) = nextKey first s := by
  rw [nextKey, skipBlanks_blanks hgap, ← nextKey]

theorem Lead.nextKey_quote {first : Bool} {lead front : Text} (h : Lead first lead)
    (hfront : Blanks front) (s : Text) :
    nextKey first (lead ++ (front ++ '"' :: s)) = do
      let (key, rest) ← readQuoted s
      return (some key, rest) := by
  cases h with
  | first =>
      rw [List.nil_append, nextKey_blanks hfront]
      rfl
  | later =>
      have hskip : skipBlanks (front ++ '"' :: s) = '"' :: s := skipBlanks_blanks hfront _
      have hcomma : skipBlanks ([','] ++ (front ++ '"' :: s)) = ',' :: (front ++ '"' :: s) := rfl
      rw [nextKey, hcomma]
      dsimp only
      rw [if_neg (by decide), if_neg (by decide), if_pos rfl, hskip]
      rfl

theorem Lead.nextKey {first : Bool} {lead front name key : Text} (h : Lead first lead)
    (hfront : Blanks front) (hkey : SpellsText name key) (rest : Text) :
    nextKey first (lead ++ (front ++ (key ++ rest))) = .ok (some name, rest) := by
  obtain ⟨body, rfl, hread⟩ := hkey.readQuoted
  rw [List.cons_append, h.nextKey_quote hfront, hread]
  rfl

theorem foldMembersFrom_member {step : σ → Text → Reader σ} {first : Bool}
    {state state' : σ} {key s s' s'' : Text} (hkey : nextKey first s = .ok (some key, s'))
    (hstep : step state key s' = .ok (state', s'')) (steps : Nat) :
    foldMembersFrom step (steps + 1) first state s =
      foldMembersFrom step steps false state' s'' := by
  rw [foldMembersFrom, hkey]
  show (step state key s' >>= _) = _
  rw [hstep]
  rfl

theorem foldMembersFrom_end (step : σ → Text → Reader σ) (first : Bool)
    (state : σ) (steps : Nat) (rest : Text) :
    foldMembersFrom step (steps + 1) first state ('}' :: rest) = .ok (state, rest) := rfl

theorem foldMembersFrom_blanks {gap : Text} (hgap : Blanks gap) (step : σ → Text → Reader σ)
    (steps : Nat) (first : Bool) (state : σ) (s : Text) :
    foldMembersFrom step steps first state (gap ++ s) =
      foldMembersFrom step steps first state s := by
  cases steps with
  | zero => rfl
  | succ steps => rw [foldMembersFrom, nextKey_blanks hgap, ← foldMembersFrom]

theorem ends_brace (rest : Text) : Ends ('}' :: rest) :=
  ends_cons rest (.inr (by decide))

/-- One member, up to what ends it. -/
theorem foldMembersFrom_labelled {step : σ → Text → Reader σ} {state state' : σ} {m : Member}
    (hstep : Steps step state m state') (hkey : SpellsText m.name m.key) {s : Text}
    (h : Labelled m.entry s) {first : Bool} {lead : Text} (hlead : Lead first lead) {tail : Text}
    (htail : Ends tail) (steps : Nat) :
    foldMembersFrom step (steps + 1) first state (lead ++ (s ++ tail)) =
      foldMembersFrom step steps false state' tail := by
  obtain ⟨_, _, ⟨front, back, hfront, hback, rfl⟩, ⟨front', back', hfront', hback', rfl⟩, rfl⟩ := h
  have hnext := hlead.nextKey hfront hkey (back ++ ':' :: (front' ++ (m.value ++ (back' ++ tail))))
  have hmember := hstep back front' _ hback hfront' (htail.blanks hback')
  simp only [Member.entry, List.append_assoc, List.cons_append]
  rw [foldMembersFrom_member hnext hmember, foldMembersFrom_blanks hback']

theorem foldMembersFrom_commas {step : σ → Text → Reader σ} {state state' : σ}
    {members : List Member} (h : Through step state members state')
    (hkeys : ∀ m ∈ members, SpellsText m.name m.key) {s : Text}
    (hcommas : Commas Labelled (members.map Member.entry) s) {first : Bool} {lead : Text}
    (hlead : Lead first lead) (steps : Nat) (rest : Text) :
    foldMembersFrom step (members.length + steps + 1) first state (lead ++ (s ++ '}' :: rest)) =
      .ok (state', rest) := by
  induction h generalizing s first lead with
  | nil => cases hcommas
  | @cons state state' state'' m members hstep hthrough ih =>
      obtain ⟨hkey, hkeys⟩ := List.forall_mem_cons.mp hkeys
      have hsteps : (m :: members).length + steps = members.length + steps + 1 := by
        rw [List.length_cons]
        omega
      generalize hentries : (m :: members).map Member.entry = entries at hcommas
      cases hcommas with
      | last hlabelled =>
          obtain ⟨rfl, hnil⟩ := List.cons.inj hentries
          obtain rfl := List.map_eq_nil_iff.mp hnil
          cases hthrough
          rw [foldMembersFrom_labelled hstep hkey hlabelled hlead (ends_brace rest), hsteps]
          exact foldMembersFrom_end step false _ _ rest
      | cons hlabelled hrest =>
          obtain ⟨rfl, rfl⟩ := List.cons.inj hentries
          have htail := ih hkeys hrest .later
          rw [List.append_assoc, List.cons_append,
            foldMembersFrom_labelled hstep hkey hlabelled hlead (ends_comma _), hsteps]
          exact htail

/-- **An object is gone through member by member,** wherever its blanks are. -/
theorem foldMembers_object {step : σ → Text → Reader σ} {state state' : σ}
    {members : List Member} (h : Through step state members state')
    (hkeys : ∀ m ∈ members, SpellsText m.name m.key) {s : Text}
    (hinside : Inside Labelled (members.map Member.entry) s) (rest : Text) :
    foldMembers step state (s ++ '}' :: rest) = .ok (state', rest) := by
  generalize hentries : members.map Member.entry = entries at hinside
  cases hinside with
  | empty hblanks =>
      obtain rfl := List.map_eq_nil_iff.mp hentries
      cases h
      rw [foldMembers, foldMembersFrom_blanks hblanks]
      exact foldMembersFrom_end step true state _ rest
  | parts hcommas =>
      subst hentries
      have hlength := length_le_commas hcommas '}' rest
      rw [List.length_map] at hlength
      obtain ⟨steps, hsteps⟩ := Nat.exists_eq_add_of_le hlength
      rw [foldMembers, hsteps]
      exact foldMembersFrom_commas h hkeys hcommas .first steps rest

/-! ## Fields -/

/-- All names of a field. -/
def RecordField.names (g : RecordField σ) : List Text :=
  g.name :: g.aliases

/-- A field reads what spells it, and the draft keeps track of it under the field's name. -/
structure Fills (depth : Nat) (draft : (Text → Bool) → σ) (f : FieldSpelling)
    (g : RecordField σ) : Prop where
  names : f.names.map String.toList = g.names
  absence : g.absence = .refused → ¬ f.omittable
  isSet : ∀ has, g.isSet (draft has) = has g.name
  reads : ∀ has v, f.spelled v →
    Reads (g.read depth (draft has)) v (draft fun name => name == g.name || has name)

/-- The first name of a field. -/
def FieldSpelling.name (f : FieldSpelling) : Text :=
  (f.names.map String.toList).headD []

section Record

variable {shape : Shape σ} {depth : Nat} {draft : (Text → Bool) → σ} {fields : List FieldSpelling}

theorem Shape.field?_eq (hnames : (shape.fields.flatMap RecordField.names).Nodup)
    {g : RecordField σ} (hg : g ∈ shape.fields) {name : Text} (hname : name ∈ g.names) :
    shape.field? name = some g := by
  rw [Shape.field?]
  generalize shape.fields = gs at hnames hg
  induction gs with
  | nil => cases hg
  | cons g' rest ih =>
      rw [List.flatMap_cons, List.nodup_append] at hnames
      obtain ⟨-, hrest, hdisjoint⟩ := hnames
      rcases List.mem_cons.mp hg with rfl | hg
      · exact List.find?_cons_of_pos (decide_eq_true hname)
      · have hother : name ∉ g'.name :: g'.aliases := fun hmem =>
          hdisjoint name hmem name (List.mem_flatMap.mpr ⟨g, hg, hname⟩) rfl
        rw [List.find?_cons, decide_eq_false hother]
        exact ih hrest hg

/-- Which fields have been read with some members, by their names. -/
def seen (shape : Shape σ) (members : List Member) (name : Text) : Bool :=
  members.any fun m => (shape.field? m.name).any fun g => name == g.name

theorem seen_append_known {m : Member} {g : RecordField σ} (h : shape.field? m.name = some g)
    (members : List Member) :
    seen shape (members ++ [m]) = fun name => name == g.name || seen shape members name := by
  funext name
  simp [seen, h, Bool.or_comm]

theorem seen_append_other {m : Member} (h : shape.field? m.name = none) (members : List Member) :
    seen shape (members ++ [m]) = seen shape members := by
  funext name
  simp [seen, h]

theorem exists_fills {gs : List (RecordField σ)} (h : List.Forall₂ (Fills depth draft) fields gs)
    {f : FieldSpelling} (hf : f ∈ fields) : ∃ g ∈ gs, Fills depth draft f g := by
  induction h with
  | nil => cases hf
  | cons hfills _ ih =>
      rcases List.mem_cons.mp hf with rfl | hf
      · exact ⟨_, List.mem_cons_self, hfills⟩
      · obtain ⟨g, hg, hfills⟩ := ih hf
        exact ⟨g, List.mem_cons_of_mem _ hg, hfills⟩

theorem exists_spelling {gs : List (RecordField σ)}
    (h : List.Forall₂ (Fills depth draft) fields gs) {g : RecordField σ} (hg : g ∈ gs) :
    ∃ f ∈ fields, Fills depth draft f g := by
  induction h with
  | nil => cases hg
  | cons hfills _ ih =>
      rcases List.mem_cons.mp hg with rfl | hg
      · exact ⟨_, List.mem_cons_self, hfills⟩
      · obtain ⟨f, hf, hfills⟩ := ih hg
        exact ⟨f, List.mem_cons_of_mem _ hf, hfills⟩

theorem Fills.named {f : FieldSpelling} {g : RecordField σ} (h : Fills depth draft f g)
    (name : Text) : f.Named name ↔ name ∈ g.names := by
  rw [FieldSpelling.Named, h.names]

variable (hnames : (shape.fields.flatMap RecordField.names).Nodup)
  (hfills : List.Forall₂ (Fills depth draft) fields shape.fields)

include hnames in
/-- A field has been read if there was a member with one of its names. -/
theorem seen_iff {g : RecordField σ} (hg : g ∈ shape.fields) (members : List Member) :
    seen shape members g.name = true ↔ ∃ m ∈ members, m.name ∈ g.names := by
  rw [seen, List.any_eq_true]
  refine exists_congr fun m => and_congr_right fun _ => ?_
  constructor
  · intro hany
    cases hfield : shape.field? m.name with
    | none =>
        rw [hfield] at hany
        cases hany
    | some g' =>
        rw [hfield, Option.any_some, beq_iff_eq] at hany
        have hg' : g' ∈ shape.fields := List.mem_of_find?_eq_some hfield
        have hsome := Shape.field?_eq hnames hg List.mem_cons_self
        rw [hany, Shape.field?_eq hnames hg' List.mem_cons_self] at hsome
        obtain rfl := Option.some.inj hsome
        rw [Shape.field?] at hfield
        exact of_decide_eq_true (List.find?_some hfield :)
  · intro hname
    rw [Shape.field?_eq hnames hg hname, Option.any_some, beq_self_eq_true]

include hnames in
theorem seen_eq {f : FieldSpelling} {g : RecordField σ} (hg : g ∈ shape.fields)
    (hf : Fills depth draft f g) (members : List Member) :
    seen shape members g.name = true ↔ ∃ m ∈ members, f.Named m.name := by
  simp only [seen_iff hnames hg, hf.named]

include hfills in
theorem field?_other {name : Text} (hother : ∀ f ∈ fields, ¬ f.Named name) :
    shape.field? name = none := by
  refine List.find?_eq_none.mpr fun g hg hmem => ?_
  obtain ⟨f, hf, hfill⟩ := exists_spelling hfills hg
  exact hother f hf ((hfill.named name).mpr (of_decide_eq_true hmem))

include hnames hfills in
/-- Every member is read, and the draft has what it had and the field of the member, if it is
one. -/
theorem steps_member {members before after : List Member} {m : Member}
    (hholds : Holds fields members) (hmembers : members = before ++ m :: after) :
    Steps (shape.readMember depth) (draft (seen shape before)) m
      (draft (seen shape (before ++ [m]))) := by
  intro gap gap' rest hgap hgap' hrest
  have hm : m ∈ members := by
    rw [hmembers]
    exact List.mem_append_right _ List.mem_cons_self
  rw [Shape.readMember, readColon_blanks hgap]
  by_cases hknown : ∃ f ∈ fields, f.Named m.name
  · obtain ⟨f, hf, hname⟩ := hknown
    obtain ⟨g, hg, hfill⟩ := exists_fills hfills hf
    have hfield := Shape.field?_eq hnames hg ((hfill.named m.name).mp hname)
    have hread := (hfill.reads (seen shape before) m.value
      (hholds.values m hm f hf hname)).eq gap' rest hgap' hrest
    -- A field that is set already would be refused as a repeated one.
    have hunset : g.isSet (draft (seen shape before)) = false := by
      rw [hfill.isSet, Bool.eq_false_iff]
      intro hseen
      obtain ⟨m', hm', hname'⟩ := (seen_eq hnames hg hfill before).mp hseen
      have honce := hholds.once f hf
      rw [hmembers] at honce
      exact (List.pairwise_append.mp honce).2.2 m' hm' m List.mem_cons_self ⟨hname', hname⟩
    rw [seen_append_known hfield, hfield]
    dsimp only
    rw [hunset, if_neg Bool.false_ne_true]
    exact hread
  · have hother : ∀ f ∈ fields, ¬ f.Named m.name := fun f hf hname => hknown ⟨f, hf, hname⟩
    have hfield := field?_other hfills hother
    have hskip := skipValue_value (hholds.others m hm hother) hgap' hrest
    rw [seen_append_other hfield, hfield]
    show (skipValue (gap' ++ (m.value ++ rest)) >>= _) = _
    rw [hskip]
    rfl

include hnames hfills in
theorem through_members {members : List Member} (hholds : Holds fields members) :
    Through (shape.readMember depth) (draft fun _ => false) members (draft (seen shape members)) :=
  through_of_steps (fun before => draft (seen shape before))
    fun _ _ _ hmembers => steps_member hnames hfills hholds hmembers

include hnames hfills in
theorem checkAll_members {members : List Member} (hholds : Holds fields members) :
    shape.checkAll (draft (seen shape members)) = .ok (draft (seen shape members)) := by
  have hnone : (shape.fields.find? fun g =>
      g.absence = .refused && !g.isSet (draft (seen shape members))) = none := by
    refine List.find?_eq_none.mpr fun g hg hmissing => ?_
    obtain ⟨f, hf, hfill⟩ := exists_spelling hfills hg
    rw [Bool.and_eq_true, decide_eq_true_eq, hfill.isSet, Bool.not_eq_true'] at hmissing
    obtain ⟨hrefused, hunseen⟩ := hmissing
    rcases hholds.complete f hf with hmember | homittable
    · rw [(seen_eq hnames hg hfill members).mpr hmember] at hunseen
      cases hunseen
    · exact hfill.absence hrefused homittable
  rw [Shape.checkAll, hnone]

include hnames hfills in
/-- An object fills the draft with the fields of its members, and with no others. -/
theorem reads_holding {members : List Member} (hholds : Holds fields members) {t : Text}
    (hobject : IsObject (members.map Member.entry) t) :
    Reads (shape.read (draft fun _ => false) (depth + 1)) t (draft (seen shape members)) := by
  obtain ⟨s, hinside, rfl⟩ := hobject
  refine ⟨⟨'{', _, rfl, by decide⟩, fun gap rest hgap _ => ?_⟩
  have hthrough : Through (shape.readMember depth) (draft fun _ => false) members
      (draft (seen shape members)) :=
    through_members hnames hfills hholds
  have hread := foldMembers_object hthrough hholds.keys hinside rest
  rw [Shape.read, skipBlanks_blanks hgap, List.cons_append, List.append_assoc]
  show (foldMembers (shape.readMember depth) _ (s ++ '}' :: rest) >>= _) = _
  rw [hread]
  show (shape.checkAll (draft (seen shape members)) >>= _) = _
  rw [checkAll_members hnames hfills hholds]
  rfl

include hnames hfills in
theorem seen_field {f : FieldSpelling} (hf : f ∈ fields) (members : List Member) :
    seen shape members f.name = true ↔ ∃ m ∈ members, f.Named m.name := by
  obtain ⟨g, hg, hfill⟩ := exists_fills hfills hf
  have hname : f.name = g.name := by
    rw [FieldSpelling.name, hfill.names]
    rfl
  rw [hname, seen_eq hnames hg hfill]

include hnames hfills in
/-- **A record is read from every object that holds it.** Only fields that may be left out can be
missing from the draft. -/
theorem reads_record {t : Text} (h : SpellsRecord fields t) :
    ∃ has, (∀ f ∈ fields, has f.name = true ∨ f.omittable)
      ∧ Reads (shape.read (draft fun _ => false) (depth + 1)) t (draft has) := by
  obtain ⟨members, hholds, hobject⟩ := h
  refine ⟨seen shape members, fun f hf => ?_, reads_holding hnames hfills hholds hobject⟩
  rw [seen_field hnames hfills hf]
  exact hholds.complete f hf

end Record

end Dialogue.Json
