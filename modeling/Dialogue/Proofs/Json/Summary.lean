import Dialogue.Proofs.Json.Reordering
import Dialogue.Summary

/-!
# What the summary of a response depends on

The summary of a list is put together from its items, line by line. The summary of an object depends
on the lists among its members first: one list alone stands for the object, whatever else there is,
and otherwise the name decides. In the text of a response the order of an object's members counts
only among members of one name (`SummaryRules`).
-/

namespace Dialogue

namespace Text

/-- A line, and what comes behind its end. -/
theorem fields_line {line : Text} (h : '\n' ∉ line) (rest : Text) :
    fields (· == '\n') (line ++ '\n' :: rest) = line :: fields (· == '\n') rest := by
  induction line with
  | nil => rfl
  | cons c line ih =>
      have hc : (c == '\n') = false := beq_false_of_ne fun hc => h (hc ▸ List.mem_cons_self)
      rw [List.cons_append, fields, hc, if_neg Bool.false_ne_true,
        ih fun hmem => h (List.mem_cons_of_mem c hmem)]

theorem joinLines_singleton (line : Text) : joinLines [line] = line :=
  List.intercalate_singleton

theorem joinLines_cons (line : Text) {lines : List Text} (h : lines ≠ []) :
    joinLines (line :: lines) = line ++ '\n' :: joinLines lines := by
  rw [joinLines, List.intercalate_cons_of_ne_nil h, List.append_assoc]
  rfl

theorem joinLines_append {lines lines' : List Text} (h : lines ≠ []) (h' : lines' ≠ []) :
    joinLines (lines ++ lines') = joinLines lines ++ '\n' :: joinLines lines' := by
  induction lines with
  | nil => exact absurd rfl h
  | cons line lines ih =>
      by_cases hnil : lines = []
      · subst hnil
        rw [joinLines_singleton]
        exact joinLines_cons line h'
      · rw [List.cons_append, joinLines_cons line (List.append_ne_nil_of_left_ne_nil hnil _),
          ih hnil, joinLines_cons line hnil, List.append_assoc, List.cons_append]

/-- Lines that were joined can be told apart again. -/
theorem fields_joinLines {lines : List Text} (hlines : lines ≠ [])
    (h : ∀ line ∈ lines, '\n' ∉ line) :
    fields (· == '\n') (joinLines lines) = lines := by
  induction lines with
  | nil => exact absurd rfl hlines
  | cons line lines ih =>
      obtain ⟨hline, hrest⟩ := List.forall_mem_cons.mp h
      by_cases hnil : lines = []
      · subst hnil
        rw [joinLines_singleton]
        exact fields_of_forall fun c hc => beq_false_of_ne fun heq => hline (heq ▸ hc)
      · rw [joinLines_cons line hnil, fields_line hline, ih hnil hrest]

end Text

namespace Json

/-! ## Lists among members -/

/-- The members whose values are lists. -/
def listsOf (members : List (Text × Json)) : List (Text × Json) :=
  members.filter fun m => m.2.isList

theorem map_listMembers (members : List (Text × Json)) :
    (listMembers members).map Json.list = (listsOf members).map Prod.snd := by
  induction members with
  | nil => rfl
  | cons m members ih =>
      obtain ⟨key, value⟩ := m
      cases value with
      | list items => exact congrArg (Json.list items :: ·) ih
      | _ => exact ih

/-- Writing a member that is no list, in place of none that is one, leaves the lists. -/
theorem listsOf_put {name : Text} {value : Json} (hvalue : value.isList = false)
    {members : List (Text × Json)} (h : ∀ old ∈ Entries.get? name members, old.isList = false) :
    listsOf (Entries.put name value members) = listsOf members := by
  induction members with
  | nil => simp [Entries.put, listsOf, hvalue]
  | cons first rest ih =>
      obtain ⟨n, v⟩ := first
      rw [Entries.put]
      split
      · simp [listsOf, hvalue]
      · next heq =>
        obtain rfl := Text.order_eq_iff.mp heq
        have hv : v.isList = false := h v (by simp [Entries.get?])
        simp [listsOf, hvalue, hv]
      · next hgt =>
        have hne : n ≠ name := by
          rintro rfl
          rw [Text.order_self] at hgt
          cases hgt
        rw [Entries.get?, if_neg hne] at h
        rw [listsOf, listsOf, List.filter_cons, List.filter_cons, ← listsOf, ← listsOf, ih h]

/-- Leaving out members that are no lists leaves the lists. -/
theorem listsOf_filter {keep : Text × Json → Bool} {members : List (Text × Json)}
    (h : ∀ m ∈ members, m.2.isList = true → keep m = true) :
    listsOf (members.filter keep) = listsOf members := by
  rw [listsOf, List.filter_filter]
  refine List.filter_congr fun m hm => ?_
  cases hlist : m.2.isList with
  | false => rfl
  | true => rw [h m hm hlist, Bool.and_true]

/-! ## Objects -/

/-- The text of an object that does not stand for a list. -/
def nameOrPrint (members : List (Text × Json)) : Text :=
  match Entries.get? "name".toList members with
  | some (.text name) => name
  | _ => print (.object members)

theorem summarize_object (members : List (Text × Json)) :
    summarize (.object members) =
      match listMembers members with
      | [items] => summarizeItems items
      | _ => nameOrPrint members :=
  rfl

theorem summarize_wrapper {members : List (Text × Json)} {key : Text} {items : List Json}
    (h : listsOf members = [(key, .list items)]) :
    summarize (.object members) = summarize (.list items) := by
  have hlists := map_listMembers members
  rw [h, List.map_singleton, List.map_eq_singleton_iff] at hlists
  obtain ⟨_, hlists, hitems⟩ := hlists
  obtain rfl := Json.list.inj hitems
  rw [summarize_object, hlists]
  rfl

theorem summarize_plain {members : List (Text × Json)} (h : (listsOf members).length ≠ 1) :
    summarize (.object members) = nameOrPrint members := by
  rw [summarize_object]
  split
  · next items hlists =>
    have hlength := congrArg List.length (map_listMembers members)
    rw [hlists, List.length_map, List.length_map, List.length_singleton] at hlength
    exact absurd hlength.symm h
  · rfl

/-- Beside a single list, no other member counts. -/
theorem summarize_congr {members members' : List (Text × Json)} (h : (listsOf members).length = 1)
    (hsame : listsOf members' = listsOf members) :
    summarize (.object members') = summarize (.object members) := by
  obtain ⟨⟨key, value⟩, hlists⟩ := List.length_eq_one_iff.mp h
  have hmem : (key, value) ∈ listsOf members := by
    rw [hlists]
    exact List.mem_cons_self
  have hvalue : value.isList = true := (List.mem_filter.mp hmem).2
  cases value with
  | list items => rw [summarize_wrapper hlists, summarize_wrapper (hsame.trans hlists)]
  | _ => cases hvalue

/-! ## Summaries -/

/-- What is promised of summaries. -/
structure SummaryRules (summary : Json → Text) : Prop where
  empty : summary (.list []) = []
  append : ∀ items items', items ≠ [] → items' ≠ [] →
    summary (.list (items ++ items')) = summary (.list items) ++ '\n' :: summary (.list items')
  lines : ∀ items, items ≠ [] → (∀ item ∈ items, '\n' ∉ summarizeEntry item) →
    Text.fields (· == '\n') (summary (.list items)) = items.map summarizeEntry
  /-- A single list stands for its object. -/
  wrapper : ∀ members key items, listsOf members = [(key, .list items)] →
    summary (.object members) = summary (.list items)
  /-- What else the object has does not count: two objects with the same single list are summed up
  alike. -/
  others : ∀ members members', (listsOf members).length = 1 → listsOf members' = listsOf members →
    summary (.object members') = summary (.object members)
  /-- A member that is no list may be added, or changed if it was none before. -/
  written : ∀ members name value, (listsOf members).length = 1 → value.isList = false →
    (∀ old ∈ Entries.get? name members, old.isList = false) →
    summary (.object (Entries.put name value members)) = summary (.object members)
  /-- Members that are no lists may be left out. -/
  removed : ∀ members keep, (listsOf members).length = 1 →
    (∀ m ∈ members, m.2.isList = true → keep m = true) →
    summary (.object (members.filter keep)) = summary (.object members)
  plain : ∀ members, (listsOf members).length ≠ 1 → summary (.object members) = nameOrPrint members
  reordered : ∀ body body', ReorderedText body body' →
    (parse body).toOption.map summary = (parse body').toOption.map summary

/-- **Summaries keep all that is promised of them.** -/
theorem summarize_rules : SummaryRules summarize where
  empty := rfl
  append items items' h h' := by
    show Text.joinLines ((items ++ items').map summarizeEntry) = _
    rw [List.map_append, Text.joinLines_append (by simpa using h) (by simpa using h')]
    rfl
  lines items h hitems := Text.fields_joinLines (by simpa using h) (by simpa using hitems)
  wrapper _ _ _ h := summarize_wrapper h
  others _ _ h hsame := summarize_congr h hsame
  written _ _ _ h hvalue hold := summarize_congr h (listsOf_put hvalue hold)
  removed _ _ h hkeep := summarize_congr h (listsOf_filter hkeep)
  plain _ h := summarize_plain h
  reordered _ _ h := by rw [toOption_parse_reordered h]

/-- An object with two members of one name. -/
def namedTwice : Text :=
  "\x7b\"name\":\"a\",\"name\":\"b\"\x7d".toList

/-- That object with its members the other way round. -/
def namedTwiceTurned : Text :=
  "\x7b\"name\":\"b\",\"name\":\"a\"\x7d".toList

/-- Members of one name are told apart by their order: the last one has the name. -/
theorem namedTwice_turned_differs :
    IsValueObject
        [(printText "name".toList, printText ['a']), (printText "name".toList, printText ['b'])]
        namedTwice
      ∧ IsValueObject
        [(printText "name".toList, printText ['b']), (printText "name".toList, printText ['a'])]
        namedTwiceTurned
      ∧ (parse namedTwice).toOption.map summarize = some ['b']
      ∧ (parse namedTwiceTurned).toOption.map summarize ≠
        (parse namedTwice).toOption.map summarize := by
  have hquoted := isQuoted_printText
  refine ⟨isValueObject_pair (hquoted _) (.text (hquoted _)) (hquoted _) (.text (hquoted _)) rfl,
    isValueObject_pair (hquoted _) (.text (hquoted _)) (hquoted _) (.text (hquoted _)) rfl, ?_, ?_⟩
  · decide +kernel
  · decide +kernel

/-- An object with an identifier, which is null, and a name. -/
def room : Text :=
  "\x7b\"id\":null,\"name\":\"a\"\x7d".toList

/-- That object with its members the other way round. -/
def roomTurned : Text :=
  "\x7b\"name\":\"a\",\"id\":null\x7d".toList

theorem reordered_room : Reordered room roomTurned := by
  let id : Member := ⟨"id".toList, printText "id".toList, "null".toList⟩
  let name : Member := ⟨"name".toList, printText "name".toList, printText ['a']⟩
  have hnull : IsValue "null".toList := .word List.mem_cons_self
  have hname : IsValue (printText ['a']) := .text (isQuoted_printText _)
  have hroom : IsValueObject ([id, name].map Member.entry) room :=
    isValueObject_pair (isQuoted_printText _) hnull (isQuoted_printText _) hname rfl
  have hturned : IsValueObject ([name, id].map Member.entry) roomTurned :=
    isValueObject_pair (isQuoted_printText _) hname (isQuoted_printText _) hnull rfl
  have hkeys : ∀ m ∈ [id, name], SpellsText m.name m.key := by
    simp [id, name, spellsText_printText]
  exact .here hkeys hroom hturned (rearranged_of_nodup (List.Perm.swap _ _ _) (by decide))

/-- A list of an object and a text. -/
def roomList (room : Text) : Text :=
  '[' :: (room ++ ',' :: printText ['b'] ++ [']'])

/-- A response that wraps the list. -/
def rooms (room : Text) : Text :=
  '{' :: (printText "rooms".toList ++ ':' :: roomList room ++
    ',' :: (printText "name".toList ++ ':' :: printText ['x']) ++ ['}'])

theorem isValueList_roomList {room : Text} (h : IsValue room) :
    IsValueList [room, printText ['b']] (roomList room) where
  list := ⟨_, .parts (.cons (padded_self room) (.last (padded_self _))), rfl⟩
  values :=
    List.forall_mem_cons.mpr ⟨h, List.forall_mem_singleton.mpr (.text (isQuoted_printText _))⟩

theorem isValueObject_rooms {room : Text} (h : IsValue room) :
    IsValueObject
      [(printText "rooms".toList, roomList room), (printText "name".toList, printText ['x'])]
      (rooms room) :=
  isValueObject_pair (isQuoted_printText _) (.list (isValueList_roomList h).list
    (isValueList_roomList h).values) (isQuoted_printText _) (.text (isQuoted_printText _)) rfl

theorem reordered_rooms {room room' : Text} (h : Reordered room room') :
    ReorderedText (rooms room) (rooms room') := by
  have hitems := @Reordered.item [] _ _ _ _ _ (isValueList_roomList h.isValue)
    (isValueList_roomList h.symm.isValue) h
  have hmembers := @Reordered.member [] _ _ _ _ _ _ (isValueObject_rooms h.isValue)
    (isValueObject_rooms h.symm.isValue) hitems
  exact ⟨_, _, hmembers, padded_self _, padded_self _⟩

/-- The turned response wraps the same list: the rooms have a line each, and the name does not
count. -/
theorem summary_roomTurned :
    ReorderedText (rooms room) (rooms roomTurned)
      ∧ (parse (rooms roomTurned)).toOption.map summarize = some "a\nb".toList := by
  have hreordered := reordered_rooms reordered_room
  refine ⟨hreordered, ?_⟩
  rw [← summarize_rules.reordered _ _ hreordered]
  decide +kernel

end Json

end Dialogue
