import Dialogue.Proofs.Json.Records
import Dialogue.Proofs.Json.Stopping

/-!
# Lists and objects are gone through part by part

A list that is read to its end has been read item by item, each of them to its own end
(`yields_list`); so one item that is refused has the whole list refused (`refuses_list`). Of an
object it can be told what its members have made of the state, for which an invariant of the members
read so far is enough (`foldMembers_ok`).
-/

namespace Dialogue.Json

variable {α σ : Type}

/-! ## Lists -/

/-- One item that was read, and what follows it. -/
theorem readItemsFrom_padded_ok {item : Reader α} {v s tail s' lead : Text} {post : α → Prop}
    {first : Bool} {as : List α} {steps : Nat} (hv : Yields item v post) (hbegins : Begins v)
    (h : Padded v s) (hlead : Lead first lead) (htail : Ends tail)
    (hread : readItemsFrom item steps first (lead ++ (s ++ tail)) = .ok (as, s')) :
    ∃ a as' steps', as = a :: as' ∧ post a
      ∧ readItemsFrom item steps' false tail = .ok (as', s') := by
  obtain ⟨front, back, hfront, hback, rfl⟩ := h
  cases steps with
  | zero => cases hread
  | succ steps =>
      rw [List.append_assoc, List.append_assoc, readItemsFrom,
        hlead.nextItem hfront (hbegins.append (back ++ tail))] at hread
      have hread : (item (v ++ (back ++ tail)) >>= _) = .ok (as, s') := hread
      obtain ⟨⟨a, s⟩, hitem, hread⟩ := ok_of_bind hread
      obtain ⟨rfl, ha⟩ := hv [] _ a s blanks_nil (htail.blanks hback) hitem
      obtain ⟨⟨as', s⟩, hrest, hread⟩ := ok_of_bind hread
      obtain ⟨rfl, rfl⟩ := ok_inj hread
      rw [readItemsFrom_blanks hback] at hrest
      exact ⟨a, as', steps, rfl, ha, hrest⟩

theorem readItemsFrom_ok {item : Reader α} {post : Text → α → Prop} {items : List Text}
    (hitems : ∀ v ∈ items, Begins v ∧ Yields item v (post v)) {s : Text}
    (h : Commas Padded items s) {first : Bool} {lead rest s' : Text} (hlead : Lead first lead)
    {steps : Nat} {as : List α}
    (hread : readItemsFrom item steps first (lead ++ (s ++ ']' :: rest)) = .ok (as, s')) :
    s' = rest ∧ List.Forall₂ post items as := by
  induction h generalizing first lead steps as with
  | last hpadded =>
      obtain ⟨hbegins, hv⟩ := List.forall_mem_singleton.mp hitems
      obtain ⟨a, as, steps, rfl, ha, hend⟩ :=
        readItemsFrom_padded_ok hv hbegins hpadded hlead (ends_bracket rest) hread
      cases steps with
      | zero => cases hend
      | succ steps =>
          obtain ⟨rfl, rfl⟩ := ok_inj hend
          exact ⟨rfl, .cons ha .nil⟩
  | cons hpadded _ ih =>
      obtain ⟨⟨hbegins, hv⟩, hitems⟩ := List.forall_mem_cons.mp hitems
      rw [List.append_assoc, List.cons_append] at hread
      obtain ⟨a, as, steps, rfl, ha, htail⟩ :=
        readItemsFrom_padded_ok hv hbegins hpadded hlead (ends_comma _) hread
      obtain ⟨hs, has⟩ := ih hitems .later htail
      exact ⟨hs, .cons ha has⟩

theorem readItems_ok {item : Reader α} {post : Text → α → Prop} {items : List Text}
    (hitems : ∀ v ∈ items, Begins v ∧ Yields item v (post v)) {s rest s' : Text}
    (h : Inside Padded items s) {as : List α}
    (hread : readItems item (s ++ ']' :: rest) = .ok (as, s')) :
    s' = rest ∧ List.Forall₂ post items as := by
  cases h with
  | empty hblanks =>
      rw [readItems, readItemsFrom_blanks hblanks] at hread
      obtain ⟨rfl, rfl⟩ := ok_inj hread
      exact ⟨rfl, .nil⟩
  | parts hcommas => exact readItemsFrom_ok hitems hcommas .first hread

/-- **A list is gone through item by item,** whatever its items are. -/
theorem yields_list {item : Nat → Reader α} {post : Text → α → Prop} {items : List Text} {t : Text}
    (h : IsList items t) (hitems : ∀ depth, ∀ v ∈ items, Begins v ∧ Yields (item depth) v (post v))
    (depth : Nat) : Yields (readList depth item) t (List.Forall₂ post items) := by
  obtain ⟨s, hinside, rfl⟩ := h
  refine yields_of_blanks
    (fun gap s hgap => by rw [readList, skipBlanks_blanks hgap, ← readList])
    fun rest as s' _ hread => ?_
  cases depth with
  | zero => cases hread
  | succ depth =>
      have hread : readItems (item depth) (s ++ [']'] ++ rest) = .ok (as, s') := hread
      rw [List.append_assoc] at hread
      exact readItems_ok (hitems depth) hinside hread

/-- A value is read as a list to its end or not at all. -/
theorem yields_readList {item : Nat → Reader α}
    (hitem : ∀ depth v, IsValue v → Yields (item depth) v fun _ => True) {t : Text} (h : IsValue t)
    (depth : Nat) : Yields (readList depth item) t fun _ => True := by
  obtain ⟨c, s, rfl, -⟩ := h.begins
  by_cases hlist : c = '['
  · obtain ⟨items, hitems⟩ := h.opens.list hlist
    have hyields (depth : Nat) (v : Text) (hv : v ∈ items) :
        Begins v ∧ Yields (item depth) v fun _ => True :=
      ⟨(hitems.values v hv).begins, hitem depth v (hitems.values v hv)⟩
    exact (yields_list hitems.list hyields depth).mono fun _ _ => trivial
  · refine yields_of_blanks
      (fun gap s hgap => by rw [readList, skipBlanks_blanks hgap, ← readList])
      fun rest as s' _ hread => ?_
    rw [readList, (h.begins.append rest).skipBlanks] at hread
    split at hread
    · next hs => exact absurd (List.cons.inj hs).1 hlist
    · cases hread

/-- A list with an item that is refused is refused. -/
theorem refuses_list {item : Nat → Reader α}
    (hitem : ∀ depth v, IsValue v → Yields (item depth) v fun _ => True) {items : List Text}
    {t v : Text} (h : IsValueList items t) (hv : v ∈ items)
    (hrefuses : ∀ depth, Refuses (item depth) v) (depth : Nat) :
    Refuses (readList depth item) t := by
  have hother (depth : Nat) (u : Text) (hu : u ∈ items) :
      Begins u ∧ Yields (item depth) u fun _ => u ≠ v ∧ True := by
    refine ⟨(h.values u hu).begins, ?_⟩
    by_cases huv : u = v
    · exact huv ▸ (hrefuses depth).mono fun _ => False.elim
    · exact (hitem depth u (h.values u hu)).mono fun _ _ => ⟨huv, trivial⟩
  have hlist := yields_list h.list hother depth
  exact hlist.mono fun as hall => ((List.forall₂_and_left items as).mp hall).1 v hv rfl

/-! ## Objects -/

/-- A key that was read. -/
theorem Lead.nextKey_ok {first : Bool} {lead front key rest s : Text} {o : Option Text}
    (h : Lead first lead) (hfront : Blanks front) (hkey : IsQuoted key)
    (hread : Json.nextKey first (lead ++ (front ++ (key ++ rest))) = .ok (o, s)) :
    s = rest ∧ ∃ name, o = some name ∧ SpellsText name key := by
  obtain ⟨body, rfl, hok⟩ := hkey.readQuoted_ok
  rw [List.cons_append, h.nextKey_quote hfront] at hread
  obtain ⟨⟨name, s⟩, hname, hread⟩ := ok_of_bind hread
  obtain ⟨rfl, rfl⟩ := ok_inj hread
  obtain ⟨hs, hspells⟩ := hok rest name s hname
  exact ⟨hs, name, rfl, hspells⟩

/-- One member that was read, and what follows it. -/
theorem foldMembersFrom_labelled_ok {step : σ → Text → Reader σ} {state state' : σ}
    {post : Text → σ → Prop} {entry : Text × Text} {s tail s' lead : Text} {first : Bool}
    {steps : Nat} (hkey : IsQuoted entry.1)
    (hstep : ∀ name gap, Blanks gap →
      Yields (fun s => step state name (gap ++ ':' :: s)) entry.2 (post name))
    (h : Labelled entry s) (hlead : Lead first lead) (htail : Ends tail)
    (hread : foldMembersFrom step steps first state (lead ++ (s ++ tail)) = .ok (state', s')) :
    ∃ name next steps', SpellsText name entry.1 ∧ post name next
      ∧ foldMembersFrom step steps' false next tail = .ok (state', s') := by
  obtain ⟨_, _, ⟨front, back, hfront, hback, rfl⟩, ⟨front', back', hfront', hback', rfl⟩, rfl⟩ := h
  cases steps with
  | zero => cases hread
  | succ steps =>
      simp only [List.append_assoc, List.cons_append] at hread
      rw [foldMembersFrom] at hread
      obtain ⟨⟨o, s⟩, hnext, hread⟩ := ok_of_bind hread
      obtain ⟨rfl, name, rfl, hname⟩ := hlead.nextKey_ok hfront hkey hnext
      obtain ⟨⟨next, s⟩, hmember, hread⟩ := ok_of_bind hread
      obtain ⟨rfl, hpost⟩ :=
        hstep name back hback front' _ next s hfront' (htail.blanks hback') hmember
      dsimp only at hread
      rw [foldMembersFrom_blanks hback'] at hread
      exact ⟨name, next, steps, hname, hpost, hread⟩

section Invariant

variable {step : σ → Text → Reader σ} {entries : List (Text × Text)} {inv : List Member → σ → Prop}
  (hkeys : ∀ e ∈ entries, IsQuoted e.1)
  (hstep : ∀ before state, inv before state → ∀ e ∈ entries, ∀ name gap, Blanks gap →
    Yields (fun s => step state name (gap ++ ':' :: s)) e.2 fun state' =>
      inv (before ++ [⟨name, e.1, e.2⟩]) state')

include hkeys hstep in
theorem foldMembersFrom_ok {s : Text} (h : Commas Labelled entries s) {first : Bool}
    {lead rest s' : Text} (hlead : Lead first lead) {steps : Nat} {before : List Member}
    {state state' : σ} (hinv : inv before state)
    (hread : foldMembersFrom step steps first state (lead ++ (s ++ '}' :: rest)) =
      .ok (state', s')) :
    s' = rest ∧ ∃ members, members.map Member.entry = entries
      ∧ (∀ m ∈ members, SpellsText m.name m.key) ∧ inv (before ++ members) state' := by
  induction h generalizing first lead steps before state with
  | @last e s hlabelled =>
      obtain ⟨name, next, steps, hname, hnext, hend⟩ := foldMembersFrom_labelled_ok
        (hkeys e List.mem_cons_self) (hstep before state hinv e List.mem_cons_self) hlabelled hlead
        (ends_brace rest) hread
      cases steps with
      | zero => cases hend
      | succ steps =>
          obtain ⟨rfl, rfl⟩ := ok_inj hend
          exact ⟨rfl, [⟨name, e.1, e.2⟩], rfl, List.forall_mem_singleton.mpr hname, hnext⟩
  | @cons e s entries t hlabelled _ ih =>
      rw [List.append_assoc, List.cons_append] at hread
      obtain ⟨name, next, steps, hname, hnext, htail⟩ := foldMembersFrom_labelled_ok
        (hkeys e List.mem_cons_self) (hstep before state hinv e List.mem_cons_self) hlabelled hlead
        (ends_comma _) hread
      obtain ⟨hs, members, hmembers, hnames, hall⟩ :=
        ih (fun e he => hkeys e (List.mem_cons_of_mem _ he))
          (fun before state hinv e he => hstep before state hinv e (List.mem_cons_of_mem _ he))
          .later hnext htail
      refine ⟨hs, ⟨name, e.1, e.2⟩ :: members, ?_, List.forall_mem_cons.mpr ⟨hname, hnames⟩, ?_⟩
      · rw [List.map_cons, hmembers]
        rfl
      · rw [List.append_assoc] at hall
        exact hall

include hkeys hstep in
/-- **What every member keeps true is true of the whole object.** -/
theorem foldMembers_ok {s rest s' : Text} (h : Inside Labelled entries s) {state state' : σ}
    (hinv : inv [] state) (hread : foldMembers step state (s ++ '}' :: rest) = .ok (state', s')) :
    s' = rest ∧ ∃ members, members.map Member.entry = entries
      ∧ (∀ m ∈ members, SpellsText m.name m.key) ∧ inv members state' := by
  cases h with
  | empty hblanks =>
      rw [foldMembers, foldMembersFrom_blanks hblanks] at hread
      obtain ⟨rfl, rfl⟩ := ok_inj hread
      exact ⟨rfl, [], rfl, fun m hm => absurd hm List.not_mem_nil, hinv⟩
  | parts hcommas => exact foldMembersFrom_ok hkeys hstep hcommas .first hinv hread

end Invariant

end Dialogue.Json
