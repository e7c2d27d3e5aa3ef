import Dialogue.Proofs.Json.Passing

/-!
# What a text stands for

A value that is read somewhere is read everywhere, and as the same (`yields_readable`): neither the
text before it nor the text behind it counts. So a text has a meaning of its own. The meaning of a
list is the list of its items' meanings, and the meaning of an object is what its members' meanings
leave when they are written one after another (`yields_listValue`, `yields_objectValue`).
-/

namespace Dialogue.Json

variable {depth : Nat}

/-- What is read from a text. -/
def meaning (depth : Nat) (t : Text) : Json :=
  match readValue depth t with
  | .ok (j, _) => j
  | .error _ => .null

/-- A value that is read wherever it stands, as what it means. -/
def Readable (depth : Nat) (t : Text) : Prop :=
  Reads (readValue depth) t (meaning depth t)

theorem ends_nil : Ends [] :=
  nofun

theorem meaning_of_reads {t : Text} {j : Json} (h : Reads (readValue depth) t j) :
    meaning depth t = j := by
  have hread := h.eq [] [] blanks_nil ends_nil
  rw [List.nil_append, List.append_nil] at hread
  rw [meaning, hread]

theorem reads_iff {t : Text} {j : Json} :
    Reads (readValue depth) t j ↔ Readable depth t ∧ meaning depth t = j := by
  constructor
  · intro h
    obtain rfl := meaning_of_reads h
    exact ⟨h, rfl⟩
  · rintro ⟨h, rfl⟩
    exact h

/-- What is read is as it should be. -/
theorem Yields.of_reads {α : Type} {reader : Reader α} {t : Text} {post : α → Prop} {a : α}
    (h : Yields reader t post) (hreads : Reads reader t a) : post a :=
  (h [] [] a [] blanks_nil ends_nil (hreads.eq [] [] blanks_nil ends_nil)).2

/-! ## Lists -/

theorem forall₂_reads_iff {items : List Text} {js : List Json} :
    List.Forall₂ (Reads (readValue depth)) items js ↔
      (∀ v ∈ items, Readable depth v) ∧ js = items.map (meaning depth) := by
  constructor
  · intro h
    induction h with
    | nil => exact ⟨nofun, rfl⟩
    | cons hv _ ih =>
        obtain ⟨hreadable, hmeaning⟩ := reads_iff.mp hv
        rw [List.map_cons, hmeaning, ← ih.2]
        exact ⟨List.forall_mem_cons.mpr ⟨hreadable, ih.1⟩, rfl⟩
  · rintro ⟨h, rfl⟩
    exact List.forall₂_map_right_iff.mpr (List.forall₂_same.mpr h)

/-- A list of readable items. -/
theorem reads_listValue {items : List Text} {t : Text} (h : IsList items t)
    (hitems : ∀ v ∈ items, Readable depth v) :
    Reads (readValue (depth + 1)) t (.list (items.map (meaning depth))) := by
  obtain ⟨inner, hinside, rfl⟩ := h
  have hreads := forall₂_reads_iff.mpr ⟨hitems, rfl⟩
  refine ⟨⟨'[', _, rfl, by decide⟩, fun gap rest hgap _ => ?_⟩
  rw [readValue_blanks hgap, List.cons_append, List.append_assoc]
  show (readItems (readValue depth) (inner ++ ']' :: rest) >>= _) = _
  rw [readItems_inside hinside hreads]
  rfl

/-- What a list was read as. -/
def ListMeaning (items : List Text) (depth : Nat) (j : Json) : Prop :=
  ∃ depth', depth = depth' + 1 ∧ (∀ v ∈ items, Readable depth' v)
    ∧ j = .list (items.map (meaning depth'))

theorem yields_listValue_of {items : List Text} {t : Text} (h : IsList items t)
    (hitems : ∀ depth, ∀ v ∈ items,
      Begins v ∧ Yields (readValue depth) v (Reads (readValue depth) v))
    (depth : Nat) : Yields (readValue depth) t (ListMeaning items depth) := by
  obtain ⟨inner, hinside, rfl⟩ := h
  refine yields_of_blanks (fun gap s hgap => readValue_blanks hgap depth s)
    fun rest j s _ hread => ?_
  rw [List.cons_append, List.append_assoc] at hread
  cases depth with
  | zero => cases hread
  | succ depth =>
      obtain ⟨⟨js, s'⟩, hok, hread⟩ := ok_of_bind hread
      obtain ⟨rfl, rfl⟩ := ok_inj hread
      obtain ⟨hs, hjs⟩ := readItems_ok (hitems depth) hinside hok
      obtain ⟨hreadable, rfl⟩ := forall₂_reads_iff.mp hjs
      exact ⟨hs, depth, rfl, hreadable, rfl⟩

/-! ## Objects -/

/-- What a member writes into an object. -/
def Member.written (depth : Nat) (m : Member) : Text × Json :=
  (m.name, meaning depth m.value)

/-- The entries that some members leave, one after another. -/
def entriesOf (depth : Nat) (members : List Member) : Entries Json :=
  Entries.ofList (members.map (Member.written depth))

theorem entriesOf_append (depth : Nat) (members : List Member) (m : Member) :
    entriesOf depth (members ++ [m]) =
      Entries.put m.name (meaning depth m.value) (entriesOf depth members) := by
  rw [entriesOf, List.map_append, Entries.ofList, List.foldl_append]
  rfl

theorem readMember_eq {m : Member} (hm : Readable depth m.value) (entries : Entries Json)
    {gap gap' rest : Text} (hgap : Blanks gap) (hgap' : Blanks gap') (hrest : Ends rest) :
    readMember (readValue depth) entries m.name (gap ++ ':' :: (gap' ++ (m.value ++ rest))) =
      .ok (Entries.put m.name (meaning depth m.value) entries, rest) := by
  rw [readMember, readColon_blanks hgap]
  show (readValue depth (gap' ++ (m.value ++ rest)) >>= _) = _
  rw [hm.eq gap' rest hgap' hrest]
  rfl

/-- An object of readable members. -/
theorem reads_objectValue {members : List Member} (hkeys : ∀ m ∈ members, SpellsText m.name m.key)
    {t : Text} (h : IsObject (members.map Member.entry) t)
    (hvalues : ∀ m ∈ members, Readable depth m.value) :
    Reads (readValue (depth + 1)) t (.object (entriesOf depth members)) := by
  obtain ⟨inner, hinside, rfl⟩ := h
  refine ⟨⟨'{', _, rfl, by decide⟩, fun gap rest hgap _ => ?_⟩
  have hthrough : Through (readMember (readValue depth)) (entriesOf depth []) members
      (entriesOf depth members) := by
    refine through_of_steps (entriesOf depth)
      fun before m after hmembers gap gap' rest hgap hgap' hrest => ?_
    have hm : m ∈ members := by
      rw [hmembers]
      exact List.mem_append_right _ List.mem_cons_self
    rw [entriesOf_append]
    exact readMember_eq (hvalues m hm) _ hgap hgap' hrest
  rw [readValue_blanks hgap, List.cons_append, List.append_assoc]
  show (foldMembers (readMember (readValue depth)) (entriesOf depth [])
    (inner ++ '}' :: rest) >>= _) = _
  rw [foldMembers_object hthrough hkeys hinside]
  rfl

/-- What an object was read as, of whose members some were known. -/
def ObjectMeaning (entries : List (Text × Text)) (depth : Nat) (j : Json) : Prop :=
  ∃ depth' members, depth = depth' + 1 ∧ members.map Member.entry = entries
    ∧ (∀ m ∈ members, SpellsText m.name m.key) ∧ (∀ m ∈ members, Readable depth' m.value)
    ∧ j = .object (entriesOf depth' members)

theorem yields_objectValue_of {entries : List (Text × Text)} {t : Text} (h : IsObject entries t)
    (hkeys : ∀ e ∈ entries, IsQuoted e.1)
    (hvalues : ∀ depth, ∀ e ∈ entries, Yields (readValue depth) e.2 (Reads (readValue depth) e.2))
    (depth : Nat) : Yields (readValue depth) t (ObjectMeaning entries depth) := by
  obtain ⟨inner, hinside, rfl⟩ := h
  refine yields_of_blanks (fun gap s hgap => readValue_blanks hgap depth s)
    fun rest j s _ hread => ?_
  rw [List.cons_append, List.append_assoc] at hread
  cases depth with
  | zero => cases hread
  | succ depth =>
      obtain ⟨⟨state, s'⟩, hok, hread⟩ := ok_of_bind hread
      obtain ⟨rfl, rfl⟩ := ok_inj hread
      let inv (before : List Member) (state : Entries Json) : Prop :=
        (∀ m ∈ before, Readable depth m.value) ∧ state = entriesOf depth before
      have hstep (before : List Member) (state : Entries Json) (h : inv before state) :
          ∀ e ∈ entries, ∀ name gap, Blanks gap →
            Yields (fun s => readMember (readValue depth) state name (gap ++ ':' :: s)) e.2
              (inv (before ++ [⟨name, e.1, e.2⟩])) := by
        intro e he name gap hgap
        simp only [readMember, readColon_blanks hgap]
        refine (hvalues depth e he).bind fun j s state' s' hj hok => ?_
        obtain ⟨rfl, rfl⟩ := ok_inj hok
        obtain ⟨hreadable, rfl⟩ := reads_iff.mp hj
        refine ⟨rfl, fun m hm => ?_, ?_⟩
        · rcases List.mem_append.mp hm with hm | hm
          · exact h.1 m hm
          · obtain rfl := List.mem_singleton.mp hm
            exact hreadable
        · rw [entriesOf_append, h.2]
      obtain ⟨hs, members, hmembers, hnames, hreadable, rfl⟩ :=
        foldMembers_ok hkeys hstep hinside ⟨nofun, rfl⟩ hok
      exact ⟨hs, depth, members, rfl, hmembers, hnames, hreadable, rfl⟩

/-! ## Values of any kind -/

/-- A value that is no list and no object is read alike at every depth. -/
theorem yields_scalar {t : Text}
    (h : ∀ openList openObject rest j s, Ends rest →
      readScalarOr openList openObject (t ++ rest) = .ok (j, s) →
        s = rest ∧ ∀ depth, Reads (readValue depth) t j) (depth : Nat) :
    Yields (readValue depth) t (Reads (readValue depth) t) := by
  refine yields_of_blanks (fun gap s hgap => readValue_blanks hgap depth s)
    fun rest j s hrest hread => ?_
  have hscalar : s = rest ∧ ∀ depth, Reads (readValue depth) t j := by
    cases depth with
    | zero => exact h _ _ rest j s hrest hread
    | succ depth => exact h _ _ rest j s hrest hread
  exact hscalar.imp_right fun hreads => hreads depth

/-- **A value of the grammar that is read somewhere is read everywhere, and as the same.** -/
theorem yields_readable {t : Text} (h : IsValue t) (depth : Nat) :
    Yields (readValue depth) t (Reads (readValue depth) t) := by
  induction h generalizing depth with
  | word h =>
      refine yields_scalar (fun openList openObject rest j s _ hread => ?_) depth
      simp only [List.mem_cons, List.not_mem_nil, or_false] at h
      rcases h with rfl | rfl | rfl <;> obtain ⟨rfl, rfl⟩ := ok_inj hread
      · exact ⟨rfl, reads_null_value⟩
      · exact ⟨rfl, reads_bool true⟩
      · exact ⟨rfl, reads_bool false⟩
  | @number t h =>
      refine yields_scalar (fun openList openObject rest j s hrest hread => ?_) depth
      obtain ⟨c, t, rfl, -⟩ := h.begins
      rw [List.cons_append, readScalarOr_number h.head] at hread
      obtain ⟨⟨n, s'⟩, hok, hread⟩ := ok_of_bind hread
      obtain ⟨rfl, rfl⟩ := ok_inj hread
      obtain ⟨hs, hnumber⟩ := h.settles.ok hrest hok
      exact ⟨hs, reads_number ⟨c, t, rfl, h.head⟩ hnumber⟩
  | @text t h =>
      refine yields_scalar (fun openList openObject rest j s hrest hread => ?_) depth
      obtain ⟨body, rfl, hok⟩ := h.readQuoted_ok
      obtain ⟨⟨a, s'⟩, hread', hread⟩ := ok_of_bind hread
      obtain ⟨rfl, rfl⟩ := ok_inj hread
      obtain ⟨hs, hspells⟩ := hok rest a s hread'
      exact ⟨hs, hspells.reads_value⟩
  | list h hitems ih =>
      have hyields :=
        yields_listValue_of h (fun depth v hv => ⟨(hitems v hv).begins, ih v hv depth⟩)
      refine (hyields depth).mono fun j hj => ?_
      obtain ⟨depth, rfl, hreadable, rfl⟩ := hj
      exact reads_listValue h hreadable
  | object h hkeys hvalues ih =>
      have hyields := yields_objectValue_of h hkeys fun depth e he => ih e he depth
      refine (hyields depth).mono fun j hj => ?_
      obtain ⟨depth, members, rfl, rfl, hnames, hreadable, rfl⟩ := hj
      exact reads_objectValue hnames h hreadable

/-- A value of the grammar is read to its end or not at all. -/
theorem yields_readValue {t : Text} (h : IsValue t) (depth : Nat) :
    Yields (readValue depth) t fun _ => True :=
  (yields_readable h depth).mono fun _ _ => trivial

/-- **A list means the list of what its items mean.** -/
theorem yields_listValue {items : List Text} {t : Text} (h : IsValueList items t) (depth : Nat) :
    Yields (readValue depth) t (ListMeaning items depth) :=
  yields_listValue_of h.list
    (fun depth v hv => ⟨(h.values v hv).begins, yields_readable (h.values v hv) depth⟩) depth

/-- **An object means what its members leave.** -/
theorem yields_objectValue {entries : List (Text × Text)} {t : Text} (h : IsValueObject entries t)
    (depth : Nat) : Yields (readValue depth) t (ObjectMeaning entries depth) :=
  yields_objectValue_of h.object h.keys
    (fun depth e he => yields_readable (h.values e he) depth) depth

end Dialogue.Json
