import Dialogue.Proofs.Json.Passing

/-!
# Which objects a record can be read from

An object whose members may be anything is read as a record only if no field stands in it twice, no
field that is refused when absent is missing, and every field's value is one that its reader gets
through (`yields_object`). A record that is written as a list is read only if every field gets
through the value in its place (`yields_positions`).
-/

namespace Dialogue.Json

variable {σ : Type} {shape : Shape σ} {start : σ} {depth : Nat}

/-- A field's reader takes note of its own field and of no other, whatever the value. -/
def Marks (shape : Shape σ) (depth : Nat) (g : RecordField σ) : Prop :=
  ∀ v, IsValue v → ∀ state, Yields (g.read depth state) v fun state' =>
    ∀ f ∈ shape.fields, f.isSet state' = (f.name == g.name || f.isSet state)

/-- The reader of a field gets through a value. -/
def RecordField.Admits (g : RecordField σ) (depth : Nat) (v : Text) : Prop :=
  ∃ state, ¬ Refuses (g.read depth state) v

theorem admits_of_ok {g : RecordField σ} {state state' : σ} {gap v rest s : Text}
    (hgap : Blanks gap) (hrest : Ends rest)
    (h : g.read depth state (gap ++ (v ++ rest)) = .ok (state', s)) : g.Admits depth v :=
  ⟨state, fun hrefuses => (hrefuses gap rest state' s hgap hrest h).2⟩

/-! ## Objects -/

/-- Members of which no two are of one field and none has a value that its field does not admit. -/
structure Admissible (shape : Shape σ) (depth : Nat) (members : List Member) : Prop where
  once : ∀ g ∈ shape.fields,
    members.Pairwise fun m m' => ¬ (m.name ∈ g.names ∧ m'.name ∈ g.names)
  values : ∀ g ∈ shape.fields, ∀ m ∈ members, m.name ∈ g.names → g.Admits depth m.value

/-- What is known of members that have been read, and of the state they have been read into. -/
structure ReadInto (shape : Shape σ) (depth : Nat) (members : List Member) (state : σ) : Prop
    extends Admissible shape depth members where
  isSet : ∀ g ∈ shape.fields, g.isSet state = seen shape members g.name

section Members

variable (hnames : (shape.fields.flatMap RecordField.names).Nodup)

include hnames in
/-- One more member of a field that has not been read before. -/
theorem ReadInto.known {before : List Member} {state state' : σ} {m : Member} {g : RecordField σ}
    (h : ReadInto shape depth before state) (hfield : shape.field? m.name = some g)
    (hunset : g.isSet state = false) (hadmits : g.Admits depth m.value)
    (hmarks : ∀ f ∈ shape.fields, f.isSet state' = (f.name == g.name || f.isSet state)) :
    ReadInto shape depth (before ++ [m]) state' := by
  have hg : g ∈ shape.fields := List.mem_of_find?_eq_some hfield
  have hunique {f : RecordField σ} (hf : f ∈ shape.fields) (hname : m.name ∈ f.names) : f = g :=
    Option.some.inj ((Shape.field?_eq hnames hf hname).symm.trans hfield)
  refine ⟨⟨fun f hf => ?_, fun f hf m' hm' hname => ?_⟩, fun f hf => ?_⟩
  · refine List.pairwise_append.mpr ⟨h.once f hf, List.pairwise_singleton _ _, ?_⟩
    rintro m' hm' m'' hm'' ⟨hname', hname⟩
    obtain rfl := List.mem_singleton.mp hm''
    obtain rfl := hunique hf hname
    rw [h.isSet f hf, (seen_iff hnames hf before).mpr ⟨m', hm', hname'⟩] at hunset
    cases hunset
  · rcases List.mem_append.mp hm' with hm' | hm'
    · exact h.values f hf m' hm' hname
    · obtain rfl := List.mem_singleton.mp hm'
      obtain rfl := hunique hf hname
      exact hadmits
  · rw [hmarks f hf, h.isSet f hf, seen_append_known hfield]

include hnames in
/-- One more member that is no field. -/
theorem ReadInto.other {before : List Member} {state : σ} {m : Member}
    (h : ReadInto shape depth before state) (hfield : shape.field? m.name = none) :
    ReadInto shape depth (before ++ [m]) state := by
  have hother {f : RecordField σ} (hf : f ∈ shape.fields) : m.name ∉ f.names := by
    intro hname
    rw [Shape.field?_eq hnames hf hname] at hfield
    cases hfield
  refine ⟨⟨fun f hf => ?_, fun f hf m' hm' hname => ?_⟩, fun f hf => ?_⟩
  · refine List.pairwise_append.mpr ⟨h.once f hf, List.pairwise_singleton _ _, ?_⟩
    rintro m' - m'' hm'' ⟨-, hname⟩
    obtain rfl := List.mem_singleton.mp hm''
    exact hother hf hname
  · rcases List.mem_append.mp hm' with hm' | hm'
    · exact h.values f hf m' hm' hname
    · obtain rfl := List.mem_singleton.mp hm'
      exact absurd hname (hother hf)
  · rw [h.isSet f hf, seen_append_other hfield]

include hnames in
theorem yields_member (hmarks : ∀ g ∈ shape.fields, Marks shape depth g) {before : List Member}
    {state : σ} (h : ReadInto shape depth before state) (m : Member) (hvalue : IsValue m.value)
    {gap : Text} (hgap : Blanks gap) :
    Yields (fun s => shape.readMember depth state m.name (gap ++ ':' :: s)) m.value
      (ReadInto shape depth (before ++ [m])) := by
  intro gap' rest state' s hgap' hrest hread
  have hread : shape.readMember depth state m.name (gap ++ ':' :: (gap' ++ (m.value ++ rest))) =
    .ok (state', s) := hread
  rw [Shape.readMember, readColon_blanks hgap] at hread
  cases hfield : shape.field? m.name with
  | some g =>
      rw [hfield] at hread
      dsimp only at hread
      split at hread
      · cases hread
      · next hunset =>
        have hg : g ∈ shape.fields := List.mem_of_find?_eq_some hfield
        obtain ⟨hs, hmark⟩ := hmarks g hg m.value hvalue state gap' rest state' s hgap' hrest hread
        exact ⟨hs, h.known hnames hfield (Bool.eq_false_iff.mpr hunset)
          (admits_of_ok hgap' hrest hread) hmark⟩
  | none =>
      rw [hfield] at hread
      have hread : (do return (state, ← skipValue (gap' ++ (m.value ++ rest)))) =
        Except.ok (state', s) := hread
      rw [skipValue_value hvalue hgap' hrest] at hread
      obtain ⟨rfl, rfl⟩ := ok_inj hread
      exact ⟨rfl, h.other hnames hfield⟩

end Members

theorem Shape.checkAll_ok {state state' : σ} (h : shape.checkAll state = .ok state')
    {g : RecordField σ} (hg : g ∈ shape.fields) (hrefused : g.absence = .refused) :
    g.isSet state = true := by
  rw [Shape.checkAll] at h
  split at h
  · cases h
  · next hnone =>
    by_contra hunset
    have hmissing := List.find?_eq_none.mp hnone g hg
    rw [Bool.not_eq_true] at hunset
    simp [hrefused, hunset] at hmissing

/-- Members that a record can be read from: no field is missing that must be there, either. -/
structure Complete (shape : Shape σ) (depth : Nat) (members : List Member) : Prop
    extends Admissible shape depth members where
  refused : ∀ g ∈ shape.fields, g.absence = .refused → ∃ m ∈ members, m.name ∈ g.names

section Record

variable (hnames : (shape.fields.flatMap RecordField.names).Nodup)
  (hmarks : ∀ depth, ∀ g ∈ shape.fields, Marks shape depth g)

theorem Shape.read_blanks {gap : Text} (hgap : Blanks gap) (s : Text) :
    shape.read start depth (gap ++ s) = shape.read start depth s := by
  rw [Shape.read, skipBlanks_blanks hgap, ← Shape.read]

include hnames hmarks in
/-- **Where a record is read from an object, its members are complete.** -/
theorem yields_object (hstart : ∀ g ∈ shape.fields, g.isSet start = false)
    {entries : List (Text × Text)} {t : Text} (h : IsValueObject entries t) (depth : Nat) :
    Yields (shape.read start depth) t fun _ => ∃ depth' members, members.map Member.entry = entries
      ∧ (∀ m ∈ members, SpellsText m.name m.key) ∧ Complete shape depth' members := by
  obtain ⟨⟨inner, hinside, rfl⟩, hkeys, hvalues⟩ := h
  refine yields_of_blanks (fun gap s hgap => Shape.read_blanks hgap s)
    fun rest state s hrest hread => ?_
  rw [List.cons_append, List.append_assoc] at hread
  cases depth with
  | zero => cases hread
  | succ depth =>
      obtain ⟨⟨state, s⟩, hfold, hread⟩ := ok_of_bind hread
      obtain ⟨state', hcheck, hread⟩ := ok_of_bind hread
      obtain ⟨-, rfl⟩ := ok_inj hread
      have hstep (before : List Member) (state : σ) (h : ReadInto shape depth before state) :
          ∀ e ∈ entries, ∀ name gap, Blanks gap →
            Yields (fun s => shape.readMember depth state name (gap ++ ':' :: s)) e.2
              (ReadInto shape depth (before ++ [⟨name, e.1, e.2⟩])) :=
        fun e he name gap hgap => yields_member hnames (hmarks depth) h ⟨name, e.1, e.2⟩
          (hvalues e he) hgap
      have hnone : ReadInto shape depth [] start := ⟨⟨fun _ _ => .nil, nofun⟩, hstart⟩
      obtain ⟨hs, members, hmembers, hspells, hall⟩ :=
        foldMembers_ok hkeys hstep hinside hnone hfold
      refine ⟨hs, depth, members, hmembers, hspells, hall.toAdmissible, fun g hg hrefused => ?_⟩
      rw [← seen_iff hnames hg, ← hall.isSet g hg]
      exact Shape.checkAll_ok hcheck hg hrefused


/-! ## Lists of fields -/

theorem closeList_blanks {gap : Text} (hgap : Blanks gap) (s : Text) :
    closeList (gap ++ s) = closeList s := by
  rw [closeList, skipBlanks_blanks hgap, ← closeList]

theorem readPositions_blanks {gap : Text} (hgap : Blanks gap) (fields : List (RecordField σ))
    (index : Nat) (state : σ) (s : Text) :
    shape.readPositions depth fields index state (gap ++ s) =
      shape.readPositions depth fields index state s := by
  cases fields with
  | nil => rw [Shape.readPositions, closeList_blanks hgap, ← Shape.readPositions]
  | cons g fields => rw [Shape.readPositions, nextItem_blanks hgap, ← Shape.readPositions]

theorem closeList_ok {s rest : Text} (h : closeList s = .ok rest) : skipBlanks s = ']' :: rest := by
  rw [closeList] at h
  split at h
  · cases h
  · next hs => rw [hs, Except.ok.inj h]
  · split at h <;> cases h
  · cases h

/-- The end of the list, with or without fields left. -/
theorem readPositions_end {fields : List (RecordField σ)} {index : Nat} {state state' : σ}
    {rest s : Text}
    (h : shape.readPositions depth fields index state (']' :: rest) = .ok (state', s)) :
    s = rest := by
  cases fields with
  | nil => exact (ok_inj h).2
  | cons g fields =>
      rw [Shape.readPositions] at h
      obtain ⟨⟨more, s'⟩, hnext, hend⟩ := ok_of_bind h
      obtain ⟨rfl, rfl⟩ := ok_inj hnext
      dsimp only at hend
      rw [if_neg Bool.false_ne_true] at hend
      split at hend
      · cases hend
      · exact (ok_inj hend).2

section Positions

variable {fields : List (RecordField σ)} (hfields : ∀ g ∈ fields, Marks shape depth g)

include hfields in
/-- One field that was read from its place, and what follows it. -/
theorem readPositions_padded_ok {v s tail s' lead : Text} {index : Nat} {state state' : σ}
    (hv : IsValue v) (h : Padded v s) (hlead : Lead (decide (index = 0)) lead) (htail : Ends tail)
    (hread : shape.readPositions depth fields index state (lead ++ (s ++ tail)) =
      .ok (state', s')) :
    ∃ (g : RecordField σ) (fields' : List (RecordField σ)) (next : σ),
      fields = g :: fields' ∧ g.Admits depth v
      ∧ shape.readPositions depth fields' (index + 1) next tail = .ok (state', s') := by
  obtain ⟨front, back, hfront, hback, rfl⟩ := h
  rw [List.append_assoc, List.append_assoc] at hread
  have hcore := hv.begins.append (back ++ tail)
  cases fields with
  | nil =>
      obtain ⟨s, hclose, -⟩ := ok_of_bind hread
      have hskip := closeList_ok hclose
      generalize decide (index = 0) = first at hlead
      cases hlead with
      | first =>
          rw [List.nil_append, skipBlanks_blanks hfront, hcore.skipBlanks] at hskip
          obtain ⟨c, t, ht, -, hbracket, -⟩ := hcore
          rw [ht] at hskip
          exact absurd (List.cons.inj hskip).1 hbracket
      | later => cases hskip
  | cons g fields =>
      rw [Shape.readPositions, hlead.nextItem hfront hcore] at hread
      have hread : (g.read depth state (v ++ (back ++ tail)) >>= _) = .ok (state', s') := hread
      obtain ⟨⟨next, s⟩, hfield, hread⟩ := ok_of_bind hread
      obtain ⟨rfl, -⟩ := hfields g List.mem_cons_self v hv state [] _ next s blanks_nil
        (htail.blanks hback) hfield
      dsimp only at hread
      rw [readPositions_blanks hback] at hread
      exact ⟨g, fields, next, rfl, admits_of_ok blanks_nil (htail.blanks hback) hfield, hread⟩

include hfields in
theorem readPositions_ok {values : List Text} (hvalues : ∀ v ∈ values, IsValue v) {s : Text}
    (h : Commas Padded values s) {index : Nat} {lead rest s' : Text}
    (hlead : Lead (decide (index = 0)) lead) {state state' : σ}
    (hread : shape.readPositions depth fields index state (lead ++ (s ++ ']' :: rest)) =
      .ok (state', s')) :
    s' = rest ∧ ∀ (i : Nat) (g : RecordField σ) (v : Text),
      fields[i]? = some g → values[i]? = some v → g.Admits depth v := by
  induction h generalizing fields index lead state with
  | last hpadded =>
      have hv := List.forall_mem_singleton.mp hvalues
      obtain ⟨g, fields, next, rfl, hadmits, hend⟩ :=
        readPositions_padded_ok hfields hv hpadded hlead (ends_bracket rest) hread
      refine ⟨readPositions_end hend, fun i g' v' hg hv => ?_⟩
      cases i with
      | zero =>
          cases hg
          cases hv
          exact hadmits
      | succ i => cases hv
  | cons hpadded _ ih =>
      obtain ⟨hv, hvalues⟩ := List.forall_mem_cons.mp hvalues
      rw [List.append_assoc, List.cons_append] at hread
      obtain ⟨g, fields, next, rfl, hadmits, htail⟩ :=
        readPositions_padded_ok hfields hv hpadded hlead (ends_comma _) hread
      have hlater : Lead (decide (index + 1 = 0)) [','] := .later
      obtain ⟨hs, hall⟩ :=
        ih (fun g hg => hfields g (List.mem_cons_of_mem _ hg)) hvalues hlater htail
      refine ⟨hs, fun i g' v' hg hv => ?_⟩
      cases i with
      | zero =>
          cases hg
          cases hv
          exact hadmits
      | succ i => exact hall i g' v' hg hv

end Positions

include hmarks in
/-- **Where a record is read from a list, every field admits the value in its place.** -/
theorem yields_positions {values : List Text} {t : Text} (h : IsValueList values t) (depth : Nat) :
    Yields (shape.read start depth) t fun _ => ∃ depth', ∀ (i : Nat) (g : RecordField σ) (v : Text),
      shape.fields[i]? = some g → values[i]? = some v → g.Admits depth' v := by
  obtain ⟨⟨inner, hinside, rfl⟩, hvalues⟩ := h
  refine yields_of_blanks (fun gap s hgap => Shape.read_blanks hgap s)
    fun rest state s hrest hread => ?_
  rw [List.cons_append, List.append_assoc] at hread
  cases depth with
  | zero => cases hread
  | succ depth =>
      have hread : shape.readPositions depth shape.fields 0 start (inner ++ ']' :: rest) =
        .ok (state, s) := hread
      cases hinside with
      | empty hblanks =>
          rw [readPositions_blanks hblanks] at hread
          exact ⟨readPositions_end hread, depth, nofun⟩
      | parts hcommas =>
          have hfirst : Lead (decide (0 = 0)) [] := .first
          obtain ⟨hs, hall⟩ := readPositions_ok (hmarks depth) hvalues hcommas hfirst hread
          exact ⟨hs, depth, hall⟩

include hnames hmarks in
/-- **A value is read as a record to its end or not at all.** -/
theorem yields_record (hstart : ∀ g ∈ shape.fields, g.isSet start = false) {t : Text}
    (h : IsValue t) (depth : Nat) : Yields (shape.read start depth) t fun _ => True := by
  obtain ⟨c, s, rfl, -⟩ := h.begins
  by_cases hlist : c = '['
  · obtain ⟨values, hvalues⟩ := h.opens.list hlist
    exact (yields_positions hmarks hvalues depth).mono fun _ _ => trivial
  by_cases hobject : c = '{'
  · obtain ⟨entries, hentries⟩ := h.opens.object hobject
    exact (yields_object hnames hmarks hstart hentries depth).mono fun _ _ => trivial
  refine yields_of_blanks (fun gap s hgap => Shape.read_blanks hgap s)
    fun rest state s hrest hread => ?_
  rw [Shape.read, (h.begins.append rest).skipBlanks] at hread
  split at hread
  · next hs => exact absurd (List.cons.inj hs).1 hlist
  · next hs => exact absurd (List.cons.inj hs).1 hobject
  · cases hread

/-! ## What is refused -/

/-- A key that stands for a field, under one of its names. -/
def RecordField.Keyed (g : RecordField σ) (key : Text) : Prop :=
  ∃ name ∈ g.names, SpellsText name key

theorem mem_names_of_keyed {g : RecordField σ} {m : Member} (hspells : SpellsText m.name m.key)
    (h : g.Keyed m.key) : m.name ∈ g.names := by
  obtain ⟨name, hname, hkey⟩ := h
  obtain rfl := hspells.unique hkey
  exact hname

section Refused

variable (hstart : ∀ g ∈ shape.fields, g.isSet start = false) {g : RecordField σ}
  {entries : List (Text × Text)} {t : Text}

include hnames hmarks hstart in
/-- **An object with two members of one field is refused.** -/
theorem refuses_repeated (h : IsValueObject entries t) (hg : g ∈ shape.fields)
    {e e' : Text × Text} (htwo : [e, e'].Sublist entries) (he : g.Keyed e.1) (he' : g.Keyed e'.1)
    (depth : Nat) : Refuses (shape.read start depth) t := by
  refine (yields_object hnames hmarks hstart h depth).mono fun _ hcomplete => ?_
  obtain ⟨depth', members, rfl, hspells, hcomplete⟩ := hcomplete
  obtain ⟨pair, hpair, hentries⟩ := List.sublist_map_iff.mp htwo
  obtain ⟨m, ms, rfl, rfl, hms⟩ := List.map_eq_cons_iff.mp hentries.symm
  obtain ⟨m', ms, rfl, rfl, hnil⟩ := List.map_eq_cons_iff.mp hms
  obtain rfl := List.map_eq_nil_iff.mp hnil
  have honce := List.rel_of_pairwise_cons ((hcomplete.once g hg).sublist hpair) List.mem_cons_self
  have hmem (n : Member) (hn : n ∈ [m, m']) : SpellsText n.name n.key := hspells n (hpair.subset hn)
  exact honce ⟨mem_names_of_keyed (hmem m (by simp)) he, mem_names_of_keyed (hmem m' (by simp)) he'⟩

include hnames hmarks hstart in
/-- **An object without a member that must be there is refused.** -/
theorem refuses_missing (h : IsValueObject entries t) (hg : g ∈ shape.fields)
    (hrefused : g.absence = .refused) (hnone : ∀ e ∈ entries, ¬ g.Keyed e.1) (depth : Nat) :
    Refuses (shape.read start depth) t := by
  refine (yields_object hnames hmarks hstart h depth).mono fun _ hcomplete => ?_
  obtain ⟨depth', members, rfl, hspells, hcomplete⟩ := hcomplete
  obtain ⟨m, hm, hname⟩ := hcomplete.refused g hg hrefused
  exact hnone _ (List.mem_map_of_mem hm) ⟨m.name, hname, hspells m hm⟩

include hnames hmarks hstart in
/-- **An object with a value that its field refuses is refused.** -/
theorem refuses_entry (h : IsValueObject entries t) (hg : g ∈ shape.fields) {e : Text × Text}
    (he : e ∈ entries) (hkey : g.Keyed e.1)
    (hrefuses : ∀ depth state, Refuses (g.read depth state) e.2) (depth : Nat) :
    Refuses (shape.read start depth) t := by
  refine (yields_object hnames hmarks hstart h depth).mono fun _ hcomplete => ?_
  obtain ⟨depth', members, rfl, hspells, hcomplete⟩ := hcomplete
  obtain ⟨m, hm, rfl⟩ := List.mem_map.mp he
  obtain ⟨state, hadmits⟩ := hcomplete.values g hg m hm (mem_names_of_keyed (hspells m hm) hkey)
  exact hadmits (hrefuses depth' state)

include hmarks in
/-- **A list with a value that the field in its place refuses is refused.** -/
theorem refuses_position {values : List Text} (h : IsValueList values t) {i : Nat} {v : Text}
    (hg : shape.fields[i]? = some g) (hv : values[i]? = some v)
    (hrefuses : ∀ depth state, Refuses (g.read depth state) v) (depth : Nat) :
    Refuses (shape.read start depth) t := by
  refine (yields_positions hmarks h depth).mono fun _ hall => ?_
  obtain ⟨depth', hall⟩ := hall
  obtain ⟨state, hadmits⟩ := hall i g v hg hv
  exact hadmits (hrefuses depth' state)

end Refused

end Record

end Dialogue.Json
