import Dialogue.Proofs.Editor.Format
import Dialogue.Proofs.Editor.Import
import Dialogue.Proofs.Json.Refusal
import Dialogue.Proofs.Json.Values

/-!
# Faulty exports are refused

An export with a faulty record anywhere is refused as a whole, whatever stands around the record
(`parse_faulty`). A reader that is not stopped before it gets to the faulty record is stopped there:
every field's reader ends right behind its value (`Kind.marks`), and the readers of lists of records
pass on that one of the records is refused (`Kind.follows`).
-/

namespace Dialogue.Editor

open Json (IsQuoted IsValue IsValueList IsValueObject Marks Padded RecordField Refuses Shape
  Yields blanks_nil isQuoted_printText padded_self printText readList readNullable readValue
  spellsText_printText)

/-! ## The readers of the format -/

/-- What a record is read into. -/
def Kind.Draft : Kind → Type
  | .graph => GraphDraft
  | .node => NodeDraft
  | .link => LinkDraft
  | .condition => ConditionDraft
  | .choice => ChoiceDraft

def Kind.shape : (k : Kind) → Shape k.Draft
  | .graph => graphShape
  | .node => nodeShape
  | .link => linkShape
  | .condition => conditionShape
  | .choice => choiceShape

def Kind.start : (k : Kind) → k.Draft
  | .graph => ({} : GraphDraft)
  | .node => ({} : NodeDraft)
  | .link => ({} : LinkDraft)
  | .condition => ({} : ConditionDraft)
  | .choice => ({} : ChoiceDraft)

/-- Reads the draft of a record. -/
def Kind.read (k : Kind) (depth : Nat) : Json.Reader k.Draft :=
  k.shape.read k.start depth

theorem Kind.names_nodup (k : Kind) : (k.shape.fields.flatMap RecordField.names).Nodup := by
  cases k with
  | graph => exact names_graph
  | node => exact names_node
  | link => exact names_link
  | condition => exact names_condition
  | choice => exact names_choice

theorem Kind.start_unset (k : Kind) : ∀ g ∈ k.shape.fields, g.isSet k.start = false := by
  cases k <;> decide

/-! ## Every field is read to its end -/

section Fields

variable {σ α : Type} {shape : Shape σ} {name : String} {aliases : List String}
  {absence : Json.Absence} {get : σ → Option α} {set : σ → α → σ} {reader : Nat → Json.Reader α}
  {depth : Nat}

/-- A field whose value is kept as it is read. -/
theorem marks_field (hreader : ∀ v, IsValue v → Yields (reader depth) v fun _ => True)
    (hset : ∀ state a, ∀ f ∈ shape.fields,
      f.isSet (set state a) = (f.name == name.toList || f.isSet state)) :
    Marks shape depth (field name aliases absence get set reader) := by
  intro v hv state
  refine (hreader v hv).bind fun a s state' s' _ hok => ?_
  obtain ⟨rfl, rfl⟩ := Json.ok_inj hok
  exact ⟨rfl, hset state a⟩

theorem yields_id (v : Text) (hv : IsValue v) : Yields (readId depth) v fun _ => True := by
  refine (Json.yields_readValue hv depth).bind fun j s id s' _ hid => ⟨?_, trivial⟩
  cases j with
  | text a => exact (Json.ok_inj hid).2
  | number n => exact (Json.ok_inj hid).2
  | null => cases hid
  | bool b => cases hid
  | list items => cases hid
  | object members => cases hid

theorem yields_text (v : Text) (hv : IsValue v) : Yields (textAt depth) v fun _ => True :=
  (Json.yields_readText hv).mono fun _ _ => trivial

theorem yields_value (v : Text) (hv : IsValue v) : Yields (readValue depth) v fun _ => True :=
  Json.yields_readValue hv depth

theorem yields_nullable {reader : Json.Reader α} {v : Text} (hv : IsValue v)
    (h : Yields reader v fun _ => True) : Yields (readNullable reader) v fun _ => True :=
  (h.nullable hv).mono fun _ _ => trivial

theorem yields_nullableText (v : Text) (hv : IsValue v) :
    Yields (nullableTextAt depth) v fun _ => True := by
  have htext : Yields (textAt depth) v fun _ => True := yields_text v hv
  exact yields_nullable hv htext

theorem yields_items {item : Nat → Json.Reader α}
    (hitem : ∀ depth v, IsValue v → Yields (item depth) v fun _ => True) (v : Text)
    (hv : IsValue v) : Yields (readNullable (readList depth item)) v fun _ => True :=
  yields_nullable hv (Json.yields_readList hitem hv depth)

end Fields

theorem marks_condition (depth : Nat) :
    ∀ g ∈ conditionShape.fields, Marks conditionShape depth g :=
  List.forall_iff_forall_mem.mp
    ⟨marks_field yields_text fun _ _ => List.forall_iff_forall_mem.mp ⟨rfl, rfl, rfl, rfl⟩,
     marks_field yields_text fun _ _ => List.forall_iff_forall_mem.mp ⟨rfl, rfl, rfl, rfl⟩,
     marks_field yields_value fun _ _ => List.forall_iff_forall_mem.mp ⟨rfl, rfl, rfl, rfl⟩,
     marks_field yields_text fun _ _ => List.forall_iff_forall_mem.mp ⟨rfl, rfl, rfl, rfl⟩⟩

theorem marks_choice (depth : Nat) : ∀ g ∈ choiceShape.fields, Marks choiceShape depth g :=
  List.forall_iff_forall_mem.mp
    ⟨marks_field yields_text fun _ _ => List.forall_iff_forall_mem.mp ⟨rfl, rfl⟩,
     marks_field yields_text fun _ _ => List.forall_iff_forall_mem.mp ⟨rfl, rfl⟩⟩

theorem marks_link (depth : Nat) : ∀ g ∈ linkShape.fields, Marks linkShape depth g :=
  List.forall_iff_forall_mem.mp
    ⟨marks_field yields_id fun _ _ => List.forall_iff_forall_mem.mp ⟨rfl, rfl, rfl, rfl⟩,
     marks_field yields_id fun _ _ => List.forall_iff_forall_mem.mp ⟨rfl, rfl, rfl, rfl⟩,
     marks_field yields_nullableText fun _ _ => List.forall_iff_forall_mem.mp ⟨rfl, rfl, rfl, rfl⟩,
     marks_field yields_nullableText fun _ _ => List.forall_iff_forall_mem.mp ⟨rfl, rfl, rfl, rfl⟩⟩

theorem yields_condition (depth : Nat) (v : Text) (hv : IsValue v) :
    Yields (readCondition depth) v fun _ => True := by
  have hrecord :=
    Json.yields_record names_condition marks_condition Kind.condition.start_unset hv depth
  refine hrecord.bind fun d s c s' _ hok => ⟨?_, trivial⟩
  obtain ⟨_, -, hok⟩ := ok_of_bind hok
  obtain ⟨_, -, hok⟩ := ok_of_bind hok
  obtain ⟨_, -, hok⟩ := ok_of_bind hok
  obtain ⟨_, -, hok⟩ := ok_of_bind hok
  exact (Json.ok_inj hok).2

theorem yields_choice (depth : Nat) (v : Text) (hv : IsValue v) :
    Yields (readChoice depth) v fun _ => True := by
  have hrecord := Json.yields_record names_choice marks_choice Kind.choice.start_unset hv depth
  refine hrecord.bind fun d s c s' _ hok => ⟨?_, trivial⟩
  obtain ⟨_, -, hok⟩ := ok_of_bind hok
  obtain ⟨_, -, hok⟩ := ok_of_bind hok
  exact (Json.ok_inj hok).2

theorem yields_link (depth : Nat) (v : Text) (hv : IsValue v) :
    Yields (readLink depth) v fun _ => True := by
  have hrecord := Json.yields_record names_link marks_link Kind.link.start_unset hv depth
  refine hrecord.bind fun d s l s' _ hok => ⟨?_, trivial⟩
  obtain ⟨_, -, hok⟩ := ok_of_bind hok
  obtain ⟨_, -, hok⟩ := ok_of_bind hok
  exact (Json.ok_inj hok).2

theorem marks_node (depth : Nat) : ∀ g ∈ nodeShape.fields, Marks nodeShape depth g :=
  List.forall_iff_forall_mem.mp
    ⟨marks_field yields_id
       fun _ _ => List.forall_iff_forall_mem.mp ⟨rfl, rfl, rfl, rfl, rfl, rfl, rfl⟩,
     marks_field yields_text
       fun _ _ => List.forall_iff_forall_mem.mp ⟨rfl, rfl, rfl, rfl, rfl, rfl, rfl⟩,
     marks_field yields_nullableText
       fun _ _ => List.forall_iff_forall_mem.mp ⟨rfl, rfl, rfl, rfl, rfl, rfl, rfl⟩,
     marks_field yields_nullableText
       fun _ _ => List.forall_iff_forall_mem.mp ⟨rfl, rfl, rfl, rfl, rfl, rfl, rfl⟩,
     marks_field (yields_items yields_condition)
       fun _ _ => List.forall_iff_forall_mem.mp ⟨rfl, rfl, rfl, rfl, rfl, rfl, rfl⟩,
     marks_field (yields_items yields_choice)
       fun _ _ => List.forall_iff_forall_mem.mp ⟨rfl, rfl, rfl, rfl, rfl, rfl, rfl⟩,
     marks_field yields_nullableText
       fun _ _ => List.forall_iff_forall_mem.mp ⟨rfl, rfl, rfl, rfl, rfl, rfl, rfl⟩⟩

theorem yields_node (depth : Nat) (v : Text) (hv : IsValue v) :
    Yields (readNode depth) v fun _ => True := by
  have hrecord := Json.yields_record names_node marks_node Kind.node.start_unset hv depth
  refine hrecord.bind fun d s n s' _ hok => ⟨?_, trivial⟩
  obtain ⟨_, -, hok⟩ := ok_of_bind hok
  obtain ⟨_, -, hok⟩ := ok_of_bind hok
  exact (Json.ok_inj hok).2

theorem marks_graph (depth : Nat) : ∀ g ∈ graphShape.fields, Marks graphShape depth g :=
  List.forall_iff_forall_mem.mp
    ⟨marks_field (fun _ hv => Json.yields_readList yields_node hv depth)
       fun _ _ => List.forall_iff_forall_mem.mp ⟨rfl, rfl⟩,
     marks_field (fun _ hv => Json.yields_readList yields_link hv depth)
       fun _ _ => List.forall_iff_forall_mem.mp ⟨rfl, rfl⟩⟩

theorem Kind.marks (k : Kind) (depth : Nat) : ∀ g ∈ k.shape.fields, Marks k.shape depth g := by
  cases k with
  | graph => exact marks_graph depth
  | node => exact marks_node depth
  | link => exact marks_link depth
  | condition => exact marks_condition depth
  | choice => exact marks_choice depth

/-! ## Fields and rules -/

/-- A field is as its rule says, and refuses every list with a record that is refused. -/
structure Follows {σ : Type} (f : FieldRule) (g : RecordField σ) : Prop where
  names : f.names.map String.toList = g.names
  required : f.required = true → g.absence = .refused
  lists : ∀ k, f.lists = some k → ∀ depth state t items v, IsValueList items t → v ∈ items →
    (∀ depth, Refuses (k.read depth) v) → Refuses (g.read depth state) t

section Lists

variable {σ α : Type} {name : String} {aliases : List String} {absence : Json.Absence}
  {required : Bool} {k : Kind} {item : Nat → Json.Reader α}
  (hitem : ∀ depth v, IsValue v → Yields (item depth) v fun _ => True)
  (hread : ∀ depth v, Refuses (k.read depth) v → Refuses (item depth) v)

include hitem hread in
theorem follows_list {get : σ → Option (List α)} {set : σ → List α → σ}
    (hrequired : required = true → absence = .refused) :
    Follows ⟨name :: aliases, required, some k⟩
      (field name aliases absence get set fun depth => readList depth item) := by
  refine ⟨rfl, hrequired, ?_⟩
  rintro _ ⟨⟩ depth state t items v hitems hv hrefuses
  exact (Json.refuses_list hitem hitems hv (fun depth => hread depth v (hrefuses depth)) depth).bind

include hitem hread in
theorem follows_nullableList {get : σ → Option (Option (List α))} {set : σ → Option (List α) → σ}
    (hrequired : required = true → absence = .refused) :
    Follows ⟨name :: aliases, required, some k⟩
      (field name aliases absence get set fun depth => readNullable (readList depth item)) := by
  refine ⟨rfl, hrequired, ?_⟩
  rintro _ ⟨⟩ depth state t items v hitems hv hrefuses
  have hlist :=
    Json.refuses_list hitem hitems hv (fun depth => hread depth v (hrefuses depth)) depth
  refine Refuses.bind ((hlist.nullable (.list hitems.list hitems.values)).mono fun o ho => ?_)
  cases o with
  | some a => exact ho.2 a rfl
  | none =>
      -- A list is not the word for null.
      obtain ⟨_, -, rfl⟩ := hitems.list
      cases ho.1 rfl

end Lists

theorem follows_plain {σ α : Type} {name : String} {aliases : List String} {absence : Json.Absence}
    {required : Bool} {get : σ → Option α} {set : σ → α → σ} {reader : Nat → Json.Reader α}
    (hrequired : required = true → absence = .refused) :
    Follows ⟨name :: aliases, required, none⟩ (field name aliases absence get set reader) :=
  ⟨rfl, hrequired, nofun⟩

theorem Kind.follows (k : Kind) : List.Forall₂ Follows k.rules k.shape.fields := by
  cases k with
  | graph =>
      exact .cons (follows_list yields_node (fun _ _ h => h.bind) fun _ => rfl) <|
        .cons (follows_list yields_link (fun _ _ h => h.bind) nofun) .nil
  | node =>
      exact .cons (follows_plain fun _ => rfl) <| .cons (follows_plain fun _ => rfl) <|
        .cons (follows_plain nofun) <| .cons (follows_plain nofun) <|
        .cons (follows_nullableList yields_condition (fun _ _ h => h.bind) nofun) <|
        .cons (follows_nullableList yields_choice (fun _ _ h => h.bind) nofun) <|
        .cons (follows_plain nofun) .nil
  | link =>
      exact .cons (follows_plain fun _ => rfl) <| .cons (follows_plain fun _ => rfl) <|
        .cons (follows_plain nofun) <| .cons (follows_plain nofun) .nil
  | condition =>
      exact .cons (follows_plain fun _ => rfl) <| .cons (follows_plain fun _ => rfl) <|
        .cons (follows_plain fun _ => rfl) <| .cons (follows_plain fun _ => rfl) .nil
  | choice => exact .cons (follows_plain fun _ => rfl) <| .cons (follows_plain fun _ => rfl) .nil

theorem Follows.keyed {σ : Type} {f : FieldRule} {g : RecordField σ} (h : Follows f g)
    (key : Text) : g.Keyed key ↔ f.Keyed key := by
  rw [RecordField.Keyed, ← h.names, FieldRule.Keyed]
  simp only [List.mem_map, exists_exists_and_eq_and]

/-- The field of a rule. -/
theorem Kind.exists_field {k : Kind} {i : Nat} {f : FieldRule} (hf : k.rules[i]? = some f) :
    ∃ g, k.shape.fields[i]? = some g ∧ Follows f g := by
  obtain ⟨hi, rfl⟩ := List.getElem?_eq_some_iff.mp hf
  have hi' : i < k.shape.fields.length := k.follows.length_eq ▸ hi
  exact ⟨k.shape.fields[i], List.getElem?_eq_getElem hi', k.follows.get hi hi'⟩

theorem Kind.exists_mem_field {k : Kind} {f : FieldRule} (hf : f ∈ k.rules) :
    ∃ g ∈ k.shape.fields, Follows f g := by
  obtain ⟨i, hi⟩ := List.mem_iff_getElem?.mp hf
  obtain ⟨g, hg, hfollows⟩ := Kind.exists_field hi
  exact ⟨g, List.mem_of_getElem? hg, hfollows⟩

/-! ## Faulty records -/

theorem refuses_defective {k : Kind} {entries : List (Text × Text)} {t : Text}
    (h : IsValueObject entries t) (hdefective : Defective k.rules entries) (depth : Nat) :
    Refuses (k.read depth) t := by
  cases hdefective with
  | lacks f hf hrequired hnone =>
      obtain ⟨g, hg, hfollows⟩ := Kind.exists_mem_field hf
      exact Json.refuses_missing k.names_nodup k.marks k.start_unset h hg
        (hfollows.required hrequired)
        (fun e he hkey => hnone e he ((hfollows.keyed e.1).mp hkey)) depth
  | repeats f hf e e' htwo he he' =>
      obtain ⟨g, hg, hfollows⟩ := Kind.exists_mem_field hf
      exact Json.refuses_repeated k.names_nodup k.marks k.start_unset h hg htwo
        ((hfollows.keyed e.1).mpr he) ((hfollows.keyed e'.1).mpr he') depth

/-- A faulty record is refused wherever it stands. -/
theorem refuses_faulty {k : Kind} {t : Text} (h : Faulty k t) (depth : Nat) :
    Refuses (k.read depth) t := by
  induction h generalizing depth with
  | here h hdefective => exact refuses_defective h hdefective depth
  | @member k k' entries t h f hf hlists e he hkey items hitems v hv _ ih =>
      obtain ⟨g, hg, hfollows⟩ := Kind.exists_mem_field hf
      exact Json.refuses_entry k.names_nodup k.marks k.start_unset h hg he
        ((hfollows.keyed e.1).mpr hkey)
        (fun depth state => hfollows.lists k' hlists depth state e.2 items v hitems hv ih) depth
  | @position k k' values t h i f hf hlists u hu items hitems v hv _ ih =>
      obtain ⟨g, hg, hfollows⟩ := Kind.exists_field hf
      exact Json.refuses_position k.marks h hg hu
        (fun depth state => hfollows.lists k' hlists depth state u items v hitems hv ih) depth

/-- **An export with a faulty record anywhere is refused as a whole.** -/
theorem parse_faulty {graph t : Text} (h : Faulty .graph graph) (ht : Padded graph t) :
    ∃ fault, Graph.parse t = .error (.unreadable fault) := by
  obtain ⟨front, back, hfront, hback, rfl⟩ := ht
  have hrefuses : Refuses (readGraph Json.depthLimit) graph := (refuses_faulty h _).bind
  rw [Graph.parse]
  cases hread : Json.parseWith (readGraph Json.depthLimit) (front ++ (graph ++ back)) with
  | error fault => exact ⟨fault, rfl⟩
  | ok g =>
      obtain ⟨⟨g, rest⟩, hok, -⟩ := ok_of_bind hread
      exact (hrefuses front back g rest hfront hback.ends hok).2.elim

/-- A node that has its identifier twice, once under the other name and null. -/
def twiceNode : Text :=
  "\x7b\"key\":7,\"id\":null,\"type\":\"\\u0065nd\"\x7d".toList

/-- A list with that node behind another value. -/
def twiceNodes : Text :=
  "[7,\x7b\"key\":7,\"id\":null,\"type\":\"\\u0065nd\"\x7d]".toList

/-- An export with that list. -/
def twiceExport : Text :=
  " \x7b\"zoom\":[\x7b \x7d],\"nodes\":[7,".toList
    ++ "\x7b\"key\":7,\"id\":null,\"type\":\"\\u0065nd\"\x7d]\x7d".toList

/-- The members of that node. -/
def twiceEntries : List (Text × Text) :=
  [(printText "key".toList, ['7']), (printText "id".toList, "null".toList),
    (printText "type".toList, endType)]

theorem isValue_seven : IsValue ['7'] := by
  have hdigits : Json.IsDigits ['7'] := ⟨List.cons_ne_nil _ _, List.forall_mem_singleton.mpr rfl⟩
  exact .number ⟨[], ['7'], [], [], by decide, .inr ⟨hdigits, by decide⟩, .inl rfl, .inl rfl, rfl⟩

theorem isValueObject_twiceNode : IsValueObject twiceEntries twiceNode where
  object := ⟨_, .parts (.cons ⟨_, _, padded_self _, padded_self _, rfl⟩
    (.cons ⟨_, _, padded_self _, padded_self _, rfl⟩
      (.last ⟨_, _, padded_self _, padded_self _, rfl⟩))), rfl⟩
  keys := by simp [twiceEntries, isQuoted_printText]
  values := List.forall_mem_cons.mpr ⟨isValue_seven, List.forall_mem_cons.mpr
    ⟨.word List.mem_cons_self, List.forall_mem_singleton.mpr (.text spells_endType.isQuoted)⟩⟩

theorem faulty_twiceNode : Faulty .node twiceNode := by
  have htwo : [(printText "key".toList, ['7']), (printText "id".toList, "null".toList)].Sublist
      twiceEntries := .cons_cons _ (.cons_cons _ (.cons _ .slnil))
  exact .here isValueObject_twiceNode
    (.repeats ⟨["id", "key"], true, none⟩ List.mem_cons_self _ _ htwo
      ⟨"key", by simp, spellsText_printText _⟩ ⟨"id", by simp, spellsText_printText _⟩)

theorem isValueList_twiceNodes : IsValueList [['7'], twiceNode] twiceNodes where
  list := ⟨_, .parts (.cons (padded_self _) (.last (padded_self _))), rfl⟩
  values := List.forall_mem_cons.mpr ⟨isValue_seven, List.forall_mem_singleton.mpr
    (.object isValueObject_twiceNode.object isValueObject_twiceNode.keys
      isValueObject_twiceNode.values)⟩

theorem faulty_twiceExport : Faulty .graph twiceExport.tail := by
  have hexport :
      IsValueObject [(printText "zoom".toList, zoom), (printText "nodes".toList, twiceNodes)]
        twiceExport.tail := by
    refine ⟨⟨_, .parts (.cons ⟨_, _, padded_self _, padded_self _, rfl⟩
      (.last ⟨_, _, padded_self _, padded_self _, rfl⟩)), rfl⟩, by simp [isQuoted_printText], ?_⟩
    exact List.forall_mem_cons.mpr ⟨isValue_zoom, List.forall_mem_singleton.mpr
      (.list isValueList_twiceNodes.list isValueList_twiceNodes.values)⟩
  exact .member hexport List.mem_cons_self rfl (List.mem_cons_of_mem _ List.mem_cons_self)
    ⟨"nodes", by simp, spellsText_printText _⟩ isValueList_twiceNodes
    (List.mem_cons_of_mem _ List.mem_cons_self) faulty_twiceNode

theorem parse_twiceExport :
    Faulty .graph twiceExport.tail
      ∧ ∃ fault, Graph.parse twiceExport = .error (.unreadable fault) :=
  ⟨faulty_twiceExport,
    parse_faulty faulty_twiceExport ⟨[' '], [], blanks_space, blanks_nil, rfl⟩⟩

end Dialogue.Editor
