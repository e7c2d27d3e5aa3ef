import Dialogue.Proofs.Entries
import Dialogue.Proofs.Json.Values

/-!
# The order of members

The members of an object may stand in any order. Only members of one name are told apart by their
order, for the last of them counts; so a rearrangement that keeps the order among members of one
name, and every one if all names differ, leaves the same entries (`entriesOf_rearranged`). This is
so wherever the object stands, at the top of a text or deep inside of it (`parse_reordered`).
-/

namespace Dialogue.Json

variable {depth : Nat}

/-! ## One object -/

/-- The members of an object in another order, those of one name in the same. -/
structure Rearranged (members members' : List Member) : Prop where
  perm : members.Perm members'
  sameNames : ∀ name,
    (members.filter fun m => m.name == name) = members'.filter fun m => m.name == name

theorem Rearranged.symm {members members' : List Member} (h : Rearranged members members') :
    Rearranged members' members :=
  ⟨h.perm.symm, fun name => (h.sameNames name).symm⟩

/-- If all names differ, every order will do. -/
theorem rearranged_of_nodup {members members' : List Member} (h : members.Perm members')
    (hnames : (members.map Member.name).Nodup) : Rearranged members members' := by
  refine ⟨h, fun name => ?_⟩
  have hperm := h.filter fun m => m.name == name
  -- At most one member has the name.
  cases hfilter : members.filter fun m => m.name == name with
  | nil =>
      rw [hfilter] at hperm
      exact hperm.nil_eq
  | cons m rest =>
      cases rest with
      | nil =>
          rw [hfilter] at hperm
          exact (List.perm_singleton.mp hperm.symm).symm
      | cons m' rest =>
          have hsublist : [m, m'].Sublist members := by
            have hpair : [m, m'].Sublist (m :: m' :: rest) :=
              .cons_cons _ (.cons_cons _ (List.nil_sublist rest))
            exact (hfilter ▸ hpair).trans List.filter_sublist
          have hname (n : Member) (hn : n ∈ m :: m' :: rest) : n.name = name := by
            rw [← hfilter] at hn
            simpa using (List.mem_filter.mp hn).2
          have hdistinct := hnames.sublist (hsublist.map Member.name)
          simp [hname m (by simp), hname m' (by simp)] at hdistinct

theorem entriesOf_rearranged {members members' : List Member} (h : Rearranged members members')
    (depth : Nat) : entriesOf depth members = entriesOf depth members' := by
  refine Entries.ofList_congr fun name => ?_
  rw [List.filter_map, List.filter_map]
  exact congrArg (List.map (Member.written depth)) (h.sameNames name)

theorem forall_mem_middle {β : Type} {p : β → Prop} {before after : List β} {b : β} :
    (∀ c ∈ before ++ b :: after, p c) ↔ (∀ c ∈ before, p c) ∧ p b ∧ ∀ c ∈ after, p c := by
  rw [List.forall_mem_append, List.forall_mem_cons]

/-- The members of an object are told by its entries. -/
theorem members_eq {members members' : List Member}
    (h : members.map Member.entry = members'.map Member.entry)
    (hkeys : ∀ m ∈ members, SpellsText m.name m.key)
    (hkeys' : ∀ m ∈ members', SpellsText m.name m.key) : members = members' := by
  induction members generalizing members' with
  | nil => exact (List.map_eq_nil_iff.mp h.symm).symm
  | cons m members ih =>
      obtain ⟨m', rest, rfl, hentry, hrest⟩ := List.map_eq_cons_iff.mp h.symm
      obtain ⟨hname, hkeys⟩ := List.forall_mem_cons.mp hkeys
      obtain ⟨hname', hkeys'⟩ := List.forall_mem_cons.mp hkeys'
      obtain ⟨hkey, hvalue⟩ := Prod.mk.inj hentry
      rw [hkey] at hname'
      have hm : m = m' := by
        cases m
        congr 1
        · exact hname.unique hname'
        · exact hkey.symm
        · exact hvalue.symm
      rw [hm, ih hrest.symm hkeys hkeys']

/-! ## Objects anywhere in a text -/

/-- Two ways to write a value that differ in the order of the members of one object, at the top or
anywhere inside, and perhaps in blanks. -/
inductive Reordered : Text → Text → Prop where
  | here {members members' : List Member} {t t' : Text}
      (hkeys : ∀ m ∈ members, SpellsText m.name m.key)
      (h : IsValueObject (members.map Member.entry) t)
      (h' : IsValueObject (members'.map Member.entry) t')
      (hre : Rearranged members members') : Reordered t t'
  | item {before after : List Text} {v v' t t' : Text}
      (h : IsValueList (before ++ v :: after) t) (h' : IsValueList (before ++ v' :: after) t')
      (hv : Reordered v v') : Reordered t t'
  | member {before after : List (Text × Text)} {key v v' t t' : Text}
      (h : IsValueObject (before ++ (key, v) :: after) t)
      (h' : IsValueObject (before ++ (key, v') :: after) t') (hv : Reordered v v') : Reordered t t'

theorem Reordered.symm {t t' : Text} (h : Reordered t t') : Reordered t' t := by
  induction h with
  | here hkeys h h' hre =>
      exact .here (fun m hm => hkeys m (hre.perm.mem_iff.mpr hm)) h' h hre.symm
  | item h h' _ ih => exact .item h' h ih
  | member h h' _ ih => exact .member h' h ih

theorem Reordered.isValue {t t' : Text} (h : Reordered t t') : IsValue t := by
  cases h with
  | here _ h _ _ => exact .object h.object h.keys h.values
  | item h _ _ => exact .list h.list h.values
  | member h _ _ => exact .object h.object h.keys h.values

/-- **A text means the same in every order of its members.** -/
theorem Reordered.reads {t t' : Text} (h : Reordered t t') {j : Json}
    (hreads : Reads (readValue depth) t j) : Reads (readValue depth) t' j := by
  induction h generalizing depth j with
  | @here members members' t t' hkeys h h' hre =>
      obtain ⟨depth, ms, rfl, hms, hnames, hreadable, rfl⟩ :=
        (yields_objectValue h depth).of_reads hreads
      obtain rfl := members_eq hms hnames hkeys
      have hmem (m : Member) (hm : m ∈ members') : m ∈ ms := hre.perm.mem_iff.mpr hm
      rw [entriesOf_rearranged hre]
      exact reads_objectValue (fun m hm => hkeys m (hmem m hm)) h'.object
        fun m hm => hreadable m (hmem m hm)
  | @item before after v v' t t' h h' _ ih =>
      obtain ⟨depth, rfl, hreadable, rfl⟩ := (yields_listValue h depth).of_reads hreads
      obtain ⟨hbefore, hv, hafter⟩ := forall_mem_middle.mp hreadable
      obtain ⟨hv', hmeaning⟩ := reads_iff.mp (ih hv)
      have hsame : (before ++ v :: after).map (meaning depth) =
          (before ++ v' :: after).map (meaning depth) := by
        rw [List.map_append, List.map_append, List.map_cons, List.map_cons, hmeaning]
      rw [hsame]
      exact reads_listValue h'.list (forall_mem_middle.mpr ⟨hbefore, hv', hafter⟩)
  | @member before after key v v' t t' h h' _ ih =>
      obtain ⟨depth, ms, rfl, hms, hnames, hreadable, rfl⟩ :=
        (yields_objectValue h depth).of_reads hreads
      -- The member in whose value the order differs, and the one that stands there instead.
      obtain ⟨msBefore, rest, rfl, rfl, hrest⟩ := List.map_eq_append_iff.mp hms
      obtain ⟨m, msAfter, rfl, hm, rfl⟩ := List.map_eq_cons_iff.mp hrest
      obtain ⟨rfl, rfl⟩ := Prod.mk.inj hm
      let m' : Member := ⟨m.name, m.key, v'⟩
      obtain ⟨hnamesBefore, hname, hnamesAfter⟩ := forall_mem_middle.mp hnames
      obtain ⟨hbefore, hv, hafter⟩ := forall_mem_middle.mp hreadable
      obtain ⟨hv', hmeaning⟩ := reads_iff.mp (ih hv)
      have hsame : entriesOf depth (msBefore ++ m :: msAfter) =
          entriesOf depth (msBefore ++ m' :: msAfter) := by
        simp only [entriesOf, List.map_append, List.map_cons, Member.written, hmeaning, m']
      have hnames' : ∀ n ∈ msBefore ++ m' :: msAfter, SpellsText n.name n.key :=
        forall_mem_middle.mpr ⟨hnamesBefore, hname, hnamesAfter⟩
      have hentries : (msBefore ++ m' :: msAfter).map Member.entry =
          msBefore.map Member.entry ++ (m.key, v') :: msAfter.map Member.entry := by
        rw [List.map_append, List.map_cons]
        rfl
      rw [hsame]
      exact reads_objectValue hnames' (hentries ▸ h'.object)
        (forall_mem_middle.mpr ⟨hbefore, hv', hafter⟩)

/-! ## Whole texts -/

/-- A text that holds a value of the grammar is read if the value is. -/
theorem parse_padded_iff {v t : Text} (hv : IsValue v) (ht : Padded v t) {j : Json} :
    parse t = .ok j ↔ Reads (readValue depthLimit) v j := by
  constructor
  · intro h
    obtain ⟨front, back, hfront, hback, rfl⟩ := ht
    obtain ⟨⟨a, rest⟩, hread, h⟩ := ok_of_bind h
    obtain ⟨-, hreads⟩ := yields_readable hv depthLimit front back a rest hfront hback.ends hread
    dsimp only at h
    split at h
    · exact Except.ok.inj h ▸ hreads
    · cases h
  · exact fun h => h.parseWith ht

/-- Two texts of a value that differ in the order of the members of one object. -/
def ReorderedText (t t' : Text) : Prop :=
  ∃ v v', Reordered v v' ∧ Padded v t ∧ Padded v' t'

/-- **The order of members is not part of a value.** -/
theorem parse_reordered {t t' : Text} (h : ReorderedText t t') (j : Json) :
    parse t = .ok j ↔ parse t' = .ok j := by
  obtain ⟨v, v', hv, ht, ht'⟩ := h
  rw [parse_padded_iff hv.isValue ht, parse_padded_iff hv.symm.isValue ht']
  exact ⟨hv.reads, hv.symm.reads⟩

theorem toOption_parse_reordered {t t' : Text} (h : ReorderedText t t') :
    (parse t).toOption = (parse t').toOption := by
  have hsame := parse_reordered h
  cases hparse : parse t with
  | ok j => rw [(hsame j).mp hparse]
  | error fault =>
      cases hparse' : parse t' with
      | ok j => cases hparse.symm.trans ((hsame j).mpr hparse')
      | error fault' => rfl

end Dialogue.Json
