import Dialogue.Entries
import Mathlib.Data.Finset.Card
import Mathlib.Data.List.Induction
import Mathlib.Data.List.Perm.Basic

/-!
# Entries as finite maps

Entries in order are told by what they give for every name (`Sorted.ext`), and so hold each name
once (`Sorted.nodup_names`). What a list of writes leaves under a name is what was written to it
last (`get?_ofList`), whatever was written to other names in between; so writes that agree in this
leave the same entries (`ofList_eq_iff`).
-/

namespace Dialogue.Entries

variable {α : Type} {entries entries' : Entries α} {writes writes' : List (Text × α)} {name : Text}
  {value : α}

/-! ## Entries in order -/

theorem Sorted.mem_iff (h : entries.Sorted) :
    (name, value) ∈ entries ↔ get? name entries = some value := by
  induction entries with
  | nil => simp [get?]
  | cons first rest ih =>
      obtain ⟨n, v⟩ := first
      obtain ⟨habove, hrest⟩ := List.pairwise_cons.mp h
      rw [List.mem_cons, get?]
      by_cases hname : n = name
      · subst hname
        have hunique : (n, value) ∉ rest := fun hmem => by
          have hlt := habove _ hmem
          rw [Text.order_self] at hlt
          cases hlt
        simp [hunique, eq_comm]
      · rw [if_neg hname, ← ih hrest]
        simp [Ne.symm hname]

/-- A name stands before another one only if they differ. -/
theorem ne_of_order_lt {a b : Text} (h : Text.order a b = .lt) : a ≠ b := by
  rintro rfl
  rw [Text.order_self] at h
  cases h

/-- **Every name has one entry at most.** -/
theorem Sorted.nodup_names (h : entries.Sorted) : (entries.map Prod.fst).Nodup :=
  List.pairwise_map.mpr (h.imp ne_of_order_lt)

theorem Sorted.mem_names_iff (h : entries.Sorted) :
    name ∈ entries.map Prod.fst ↔ ∃ value, get? name entries = some value := by
  simp only [List.mem_map, Prod.exists, exists_and_right, exists_eq_right, h.mem_iff]

/-- Entries that are in order and give the same for every name are the same. -/
theorem Sorted.ext (h : entries.Sorted) (h' : entries'.Sorted)
    (hget : ∀ name, get? name entries = get? name entries') : entries = entries' := by
  have hdistinct {entries : Entries α} (h : entries.Sorted) : entries.Nodup :=
    List.Nodup.of_map Prod.fst h.nodup_names
  have hperm : entries.Perm entries' := by
    refine (List.perm_ext_iff_of_nodup (hdistinct h) (hdistinct h')).mpr fun e => ?_
    rw [h.mem_iff, h'.mem_iff, hget]
  refine hperm.eq_of_pairwise (fun a b _ _ hab hba => ?_) h h'
  exact absurd rfl (ne_of_order_lt (Text.order_trans hab hba))

/-! ## Last writes -/

/-- The value that was written to a name last. -/
def WrittenLast (writes : List (Text × α)) (name : Text) (value : α) : Prop :=
  ∃ before after, writes = before ++ (name, value) :: after ∧ ∀ w ∈ after, w.1 ≠ name

theorem ofList_append (writes : List (Text × α)) (w : Text × α) :
    ofList (writes ++ [w]) = put w.1 w.2 (ofList writes) := by
  rw [ofList, List.foldl_append]
  rfl

/-- A name has the value that was written to it last. -/
theorem get?_ofList (writes : List (Text × α)) (name : Text) :
    get? name (ofList writes) = ((writes.filter fun w => w.1 == name).getLast?).map Prod.snd := by
  induction writes using List.reverseRecOn with
  | nil => rfl
  | append_singleton writes w ih =>
      rw [ofList_append, List.filter_append]
      by_cases hname : w.1 = name
      · subst hname
        rw [get?_put_self, List.filter_cons_of_pos (by simp), List.filter_nil, List.getLast?_concat]
        rfl
      · rw [get?_put_of_ne (Ne.symm hname), ih, List.filter_cons_of_neg (by simpa using hname),
          List.filter_nil, List.append_nil]

/-- Writes that are the same for every name leave the same entries. -/
theorem ofList_congr (h : ∀ name, (writes.filter fun w => w.1 == name) =
    writes'.filter fun w => w.1 == name) : ofList writes = ofList writes' := by
  refine (sorted_ofList writes).ext (sorted_ofList writes') fun name => ?_
  rw [get?_ofList, get?_ofList, h]

/-- **What is read after some writes is what was written last.** -/
theorem get?_ofList_eq_some_iff :
    get? name (ofList writes) = some value ↔ WrittenLast writes name value := by
  rw [get?_ofList, Option.map_eq_some_iff]
  constructor
  · rintro ⟨⟨n, v⟩, hlast, rfl⟩
    obtain ⟨earlier, hfilter⟩ := List.getLast?_eq_some_iff.mp hlast
    obtain ⟨before, rest, rfl, -, hrest⟩ := List.filter_eq_append_iff.mp hfilter
    obtain ⟨between, after, rfl, -, hname, hafter⟩ := List.filter_eq_cons_iff.mp hrest
    obtain rfl : n = name := by simpa using hname
    refine ⟨before ++ between, after, by rw [List.append_assoc], fun w hw => ?_⟩
    simpa using List.filter_eq_nil_iff.mp hafter w hw
  · rintro ⟨before, after, rfl, hafter⟩
    have hnone : (after.filter fun w => w.1 == name) = [] :=
      List.filter_eq_nil_iff.mpr fun w hw => by simpa using hafter w hw
    refine ⟨(name, value), ?_, rfl⟩
    rw [List.filter_append, List.filter_cons_of_pos (by simp), hnone, List.getLast?_concat]

theorem mem_names_ofList : name ∈ (ofList writes).map Prod.fst ↔ name ∈ writes.map Prod.fst := by
  rw [(sorted_ofList writes).mem_names_iff, ← Option.isSome_iff_exists, get?_ofList,
    Option.isSome_map, List.getLast?_isSome]
  simp

/-- **There are as many entries as names that were written to.** -/
theorem length_ofList (writes : List (Text × α)) :
    (ofList writes).length = (writes.map Prod.fst).toFinset.card := by
  have hnames : ((ofList writes).map Prod.fst).toFinset = (writes.map Prod.fst).toFinset := by
    ext name
    rw [List.mem_toFinset, List.mem_toFinset, mem_names_ofList]
  rw [← hnames, List.toFinset_card_of_nodup (sorted_ofList writes).nodup_names, List.length_map]

/-- **Two lists of writes leave the same entries if they write the same last.** -/
theorem ofList_eq_iff : ofList writes = ofList writes' ↔
    ∀ name value, WrittenLast writes name value ↔ WrittenLast writes' name value := by
  simp only [← get?_ofList_eq_some_iff]
  constructor
  · rintro h name value
    rw [h]
  · intro h
    exact (sorted_ofList writes).ext (sorted_ofList writes') fun name => Option.ext (h name)

end Dialogue.Entries
