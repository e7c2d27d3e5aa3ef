import Mathlib.Data.Finset.Basic
import Dialogue.CommandLine
import Dialogue.Proofs.Editor.Faulty
import Dialogue.Proofs.Text.Utf8

/-!
# Prompts files override what they name

A prompts file is an object of any of the six prompts, in any order and among members of any other
names. What it says of a prompt holds of this one and of no other, and what it does not name is as
it was (`parse_spelled`); a file that names a prompt twice, or has something else than a text for
it, is not read at all (`parse_refused`).

All prompts are fields of one kind, and the draft of a file depends only on which of them were
named. So both directions come from what is known of records of any shape, `Json.reads_holding` and
`Json.yields_object`; what has to be seen here is that every name goes with its own prompt, which is
a case for each of them (`fills_items`, `text_override`).
-/

namespace Dialogue.Prompts

open Editor (keep)
open Json (FieldSpelling Fills Holds IsValue IsValueObject Marks Member Padded RecordField Refuses
  SpellsRecord SpellsText isQuoted_printText labelled_self padded_self printText readText
  spellsText_printText)

/-! ## Items -/

/-- One of the prompts. -/
inductive Item where
  | capture
  | chooseOption
  | chooseAction
  | fallbackLabel
  | noFurtherLinks
  | chatFinished
  deriving DecidableEq, Repr

namespace Item

/-- The name of a prompt in prompts files. -/
def name : Item → String
  | capture => "capture"
  | chooseOption => "chooseOption"
  | chooseAction => "chooseAction"
  | fallbackLabel => "fallbackLabel"
  | noFurtherLinks => "noFurtherLinks"
  | chatFinished => "chatFinished"

/-- What a prompt says. -/
def text (p : Prompts) : Item → Text
  | capture => p.capture
  | chooseOption => p.chooseOption
  | chooseAction => p.chooseAction
  | fallbackLabel => p.fallbackLabel
  | noFurtherLinks => p.noFurtherLinks
  | chatFinished => p.chatFinished

/-- All prompts, in the order of their fields. -/
def all : List Item :=
  [capture, chooseOption, chooseAction, fallbackLabel, noFurtherLinks, chatFinished]

theorem mem_all (i : Item) : i ∈ all := by
  cases i <;> decide

theorem name_inj {i j : Item} (h : i.name.toList = j.name.toList) : i = j := by
  cases i <;> cases j <;> first | rfl | exact absurd h (by decide)

/-- Prompts that say the same are the same. -/
theorem text_ext {p q : Prompts} (h : ∀ i, text p i = text q i) : p = q := by
  cases p
  cases q
  congr 1
  exacts [h capture, h chooseOption, h chooseAction, h fallbackLabel, h noFurtherLinks,
    h chatFinished]

end Item

/-! ## Prompts files -/

section Spelling

variable (p : Prompts) (items : Finset Item)

/-- A prompt in a file of just these prompts. -/
def spelling (i : Item) : FieldSpelling where
  names := [i.name]
  spelled t := i ∈ items ∧ SpellsText (i.text p) t
  omittable := i ∉ items

/-- The prompts of a file of just these. -/
def spellings : List FieldSpelling :=
  Item.all.map (spelling p items)

/-- A text that holds an object with just these prompts, each once, and otherwise only members of
other names, in any order. -/
def Spells (t : Text) : Prop :=
  ∃ object, SpellsRecord (spellings p items) object ∧ Padded object t

end Spelling

/-- A text that holds an object with a prompt that stands in it twice, or that is no text. -/
inductive Faulty (t : Text) : Prop where
  | repeated {entries : List (Text × Text)} {object : Text} (h : IsValueObject entries object)
      (ht : Padded object t) (i : Item) {e e' : Text × Text} (htwo : [e, e'].Sublist entries)
      (he : SpellsText i.name.toList e.1) (he' : SpellsText i.name.toList e'.1) : Faulty t
  | noText {entries : List (Text × Text)} {object : Text} (h : IsValueObject entries object)
      (ht : Padded object t) (i : Item) {e : Text × Text} (he : e ∈ entries)
      (hkey : SpellsText i.name.toList e.1) (hvalue : ∀ a, ¬ SpellsText a e.2) : Faulty t

variable {p : Prompts} {items : Finset Item} {i : Item} {name t : Text} {depth : Nat}

/-! ## Reading -/

/-- What has been read of some prompts when these were named. -/
def draft (p : Prompts) (has : Text → Bool) : Overrides where
  capture := keep (has "capture".toList) p.capture
  chooseOption := keep (has "chooseOption".toList) p.chooseOption
  chooseAction := keep (has "chooseAction".toList) p.chooseAction
  fallbackLabel := keep (has "fallbackLabel".toList) p.fallbackLabel
  noFurtherLinks := keep (has "noFurtherLinks".toList) p.noFurtherLinks
  chatFinished := keep (has "chatFinished".toList) p.chatFinished

/-- A prompt is a field like those of an export. -/
theorem overrideField_eq (name : String) (get : Overrides → Option Text)
    (set : Overrides → Text → Overrides) :
    overrideField name get set = Editor.field name [] .default get set Editor.textAt := rfl

theorem fills_item {get : Overrides → Option Text} {set : Overrides → Text → Overrides}
    (hget : ∀ has, get (draft p has) = keep (has i.name.toList) (i.text p))
    (hset : ∀ has, set (draft p has) (i.text p) = draft p fun n => n == i.name.toList || has n) :
    Fills depth (draft p) (spelling p items i) (overrideField i.name get set) :=
  Editor.fills_field nofun hget hset fun _ ht => ht.2.reads

theorem fills_items : List.Forall₂ (Fills depth (draft p)) (spellings p items) shape.fields :=
  .cons (fills_item (i := .capture) (fun _ => rfl) fun _ => rfl) <|
  .cons (fills_item (i := .chooseOption) (fun _ => rfl) fun _ => rfl) <|
  .cons (fills_item (i := .chooseAction) (fun _ => rfl) fun _ => rfl) <|
  .cons (fills_item (i := .fallbackLabel) (fun _ => rfl) fun _ => rfl) <|
  .cons (fills_item (i := .noFurtherLinks) (fun _ => rfl) fun _ => rfl) <|
  .cons (fills_item (i := .chatFinished) (fun _ => rfl) fun _ => rfl) .nil

theorem names_nodup : (shape.fields.flatMap RecordField.names).Nodup := by
  decide

theorem getD_keep (has : Bool) (a b : Text) : (keep has a).getD b = if has then a else b := by
  cases has <;> rfl

theorem text_override (has : Text → Bool) (i : Item) :
    i.text (standard.override (draft p has)) =
      if has i.name.toList then i.text p else i.text standard := by
  cases i <;> exact getD_keep _ _ _

theorem mem_spellings (i : Item) : spelling p items i ∈ spellings p items :=
  List.mem_map_of_mem i.mem_all

theorem named_spelling : (spelling p items i).Named name ↔ name = i.name.toList :=
  List.mem_singleton

/-- A file of these prompts names them and no others. -/
theorem named_iff {members : List Member} (h : Holds (spellings p items) members) :
    (∃ m ∈ members, (spelling p items i).Named m.name) ↔ i ∈ items := by
  constructor
  · rintro ⟨m, hm, hname⟩
    exact (h.values m hm _ (mem_spellings i) hname).1
  · intro hi
    exact (h.complete _ (mem_spellings i)).resolve_right (not_not_intro hi)

/-- **A prompts file overrides what it names.** -/
theorem parse_spelled (h : Spells p items t) :
    ∃ q, parse t = .ok q ∧ ∀ i, i.text q = if i ∈ items then i.text p else i.text standard := by
  obtain ⟨object, ⟨members, hholds, hobject⟩, hpadded⟩ := h
  have hfills : List.Forall₂ (Fills 126 (draft p)) (spellings p items) shape.fields := fills_items
  have hread : Json.parseWith (shape.read {} Json.depthLimit) t =
      .ok (draft p (Json.seen shape members)) :=
    (Json.reads_holding names_nodup hfills hholds hobject).parseWith hpadded
  refine ⟨standard.override (draft p (Json.seen shape members)), ?_, fun i => ?_⟩
  · rw [parse, hread]
    rfl
  · have hseen : Json.seen shape members i.name.toList = true ↔ i ∈ items :=
      (Json.seen_field names_nodup hfills (mem_spellings i) members).trans (named_iff hholds)
    rw [text_override, if_congr hseen rfl rfl]

/-! ## Writing -/

/-- An object of some prompts, in this order. -/
def written (p : Prompts) (order : List Item) : Json :=
  .object (order.map fun i => (i.name.toList, .text (i.text p)))

/-- The members of that object, as they are printed. -/
def writtenMember (p : Prompts) (i : Item) : Member :=
  ⟨i.name.toList, printText i.name.toList, printText (i.text p)⟩

theorem holds_written {order : List Item} (h : order.Nodup) (hitems : ∀ i, i ∈ order ↔ i ∈ items) :
    Holds (spellings p items) (order.map (writtenMember p)) := by
  have hown {f : FieldSpelling} (hf : f ∈ spellings p items) : ∃ i, f = spelling p items i := by
    obtain ⟨i, -, rfl⟩ := List.mem_map.mp hf
    exact ⟨i, rfl⟩
  refine ⟨?_, ?_, ?_, ?_, ?_⟩
  · simp [writtenMember, spellsText_printText]
  · rintro m hm f hf hname
    obtain ⟨i, rfl⟩ := hown hf
    obtain ⟨j, hj, rfl⟩ := List.mem_map.mp hm
    obtain rfl := Item.name_inj (named_spelling.mp hname)
    exact ⟨(hitems _).mp hj, spellsText_printText _⟩
  · rintro m hm hother
    obtain ⟨j, -, rfl⟩ := List.mem_map.mp hm
    exact absurd (named_spelling.mpr rfl) (hother _ (mem_spellings j))
  · rintro f hf
    obtain ⟨i, rfl⟩ := hown hf
    refine List.pairwise_map.mpr (h.imp fun hne hboth => hne (Item.name_inj ?_))
    exact (named_spelling.mp hboth.1).trans (named_spelling.mp hboth.2).symm
  · rintro f hf
    obtain ⟨i, rfl⟩ := hown hf
    by_cases hi : i ∈ items
    · exact .inl ⟨_, List.mem_map_of_mem ((hitems i).mpr hi), named_spelling.mpr rfl⟩
    · exact .inr hi

theorem spells_written {order : List Item} (h : order.Nodup) (hitems : ∀ i, i ∈ order ↔ i ∈ items) :
    Spells p items (written p order).print := by
  refine ⟨_, ⟨order.map (writtenMember p), holds_written h hitems, ?_⟩, padded_self _⟩
  have hobject := Json.isObject_print (order.map fun i => (i.name.toList, .text (i.text p)))
  rw [List.map_map] at hobject ⊢
  exact hobject

/-- **Prompts that are written are read again,** in whatever order they were written. -/
theorem parse_written {order : List Item} (h : order.Perm Item.all) :
    parse (written p order).print = .ok p := by
  have hall (i : Item) : i ∈ order ↔ i ∈ Item.all.toFinset := by
    rw [List.mem_toFinset, h.mem_iff]
  obtain ⟨q, hparse, htext⟩ :=
    parse_spelled (spells_written (p := p) (h.nodup_iff.mpr (by decide)) hall)
  rw [hparse]
  refine congrArg Except.ok (Item.text_ext fun i => ?_)
  rw [htext, if_pos (List.mem_toFinset.mpr i.mem_all)]

/-- The order of the names. -/
def sorted : List Item :=
  [.capture, .chatFinished, .chooseAction, .chooseOption, .fallbackLabel, .noFurtherLinks]

theorem toJson_eq (p : Prompts) : p.toJson = written p sorted := rfl

/-! ## What is refused -/

theorem exists_field (i : Item) : ∃ get set, overrideField i.name get set ∈ shape.fields := by
  cases i with
  | capture => exact ⟨_, _, List.mem_of_getElem? (i := 0) rfl⟩
  | chooseOption => exact ⟨_, _, List.mem_of_getElem? (i := 1) rfl⟩
  | chooseAction => exact ⟨_, _, List.mem_of_getElem? (i := 2) rfl⟩
  | fallbackLabel => exact ⟨_, _, List.mem_of_getElem? (i := 3) rfl⟩
  | noFurtherLinks => exact ⟨_, _, List.mem_of_getElem? (i := 4) rfl⟩
  | chatFinished => exact ⟨_, _, List.mem_of_getElem? (i := 5) rfl⟩

theorem marks_fields (depth : Nat) : ∀ g ∈ shape.fields, Marks shape depth g := by
  refine List.forall_iff_forall_mem.mp ⟨?_, ?_, ?_, ?_, ?_, ?_⟩ <;>
  · rw [overrideField_eq]
    exact Editor.marks_field Editor.yields_text fun _ _ =>
      List.forall_iff_forall_mem.mp ⟨rfl, rfl, rfl, rfl, rfl, rfl⟩

theorem start_unset : ∀ g ∈ shape.fields, g.isSet ({} : Overrides) = false := by
  decide

theorem keyed_override {get : Overrides → Option Text} {set : Overrides → Text → Overrides}
    {key : Text} (h : SpellsText i.name.toList key) : (overrideField i.name get set).Keyed key :=
  ⟨_, List.mem_cons_self, h⟩

/-- **A file is not read at all if a prompt stands in it twice, or is no text.** -/
theorem parse_refused (h : Faulty t) : ∃ fault, parse t = .error fault := by
  suffices hread : ∃ fault, Json.parseWith (shape.read {} Json.depthLimit) t = .error fault by
    obtain ⟨fault, hfault⟩ := hread
    exact ⟨fault, by rw [parse, hfault]; rfl⟩
  cases h with
  | repeated h ht i htwo he he' =>
      obtain ⟨get, set, hg⟩ := exists_field i
      have hrefuses := Json.refuses_repeated names_nodup marks_fields start_unset h hg htwo
        (keyed_override he) (keyed_override he') Json.depthLimit
      exact hrefuses.parseWith ht
  | @noText entries object h ht i e he hkey hvalue =>
      obtain ⟨get, set, hg⟩ := exists_field i
      have htext : Refuses readText e.2 :=
        (Json.yields_readText (h.values e he)).mono fun a => hvalue a
      exact (Json.refuses_entry names_nodup marks_fields start_unset h hg he (keyed_override hkey)
        (fun _ _ => htext.bind) Json.depthLimit).parseWith ht

/-! ## Files -/

/-- What is loaded from a file is what its text is parsed as. -/
theorem loadOverrides_run {m : Type → Type} [Monad m] [LawfulMonad m] {machine : Machine m}
    {path : Text} (h : machine.read path = pure (.ok (Utf8.encode t))) :
    (CommandLine.loadOverrides machine path).run = pure ((parse t).mapError fun fault =>
      "Failed to load prompts from '".toList ++ path ++ "': ".toList ++ fault.message) := by
  have hread : CommandLine.readText machine path = pure t := by
    have hlift : ExceptT.lift (ε := Text) (machine.read path) = pure (.ok (Utf8.encode t)) := by
      rw [h]
      exact ExceptT.ext (by simp)
    rw [CommandLine.readText, hlift, pure_bind]
    dsimp only
    rw [Projects.textOf, Utf8.decode_encode]
    rfl
  rw [CommandLine.loadOverrides, hread, pure_bind]
  cases parse t with
  | ok q =>
      show _ <$> (pure (.ok q) : m (Except Text Prompts)) = _
      rw [map_pure]
      rfl
  | error fault =>
      show _ <$> (pure (.error fault.message) : m (Except Text Prompts)) = _
      rw [map_pure]
      rfl

/-- **A prompts file gives what it names, and the rest as it was.** Whatever prompts it names, in
whatever order and among whatever other members, each of them says what the file has for it, and all
others what they say without a file; so written prompts are the same when they are read again. A
file that has a prompt twice, or something else than a text for one, gives nothing. And to load a
file is to parse its text. -/
theorem prompts_files_override (p : Prompts) :
    (∀ items t, Spells p items t →
        ∃ q, parse t = .ok q ∧ ∀ i, i.text q = if i ∈ items then i.text p else i.text standard)
      ∧ (∀ order, order.Perm Item.all → parse (written p order).print = .ok p)
      ∧ parse p.toJson.print = .ok p
      ∧ (∀ t, Faulty t → ∃ fault, parse t = .error fault)
      ∧ ∀ (m : Type → Type) [Monad m] [LawfulMonad m] (machine : Machine m) (path t : Text),
          machine.read path = pure (.ok (Utf8.encode t)) →
          (CommandLine.loadOverrides machine path).run = pure ((parse t).mapError fun fault =>
            "Failed to load prompts from '".toList ++ path ++ "': ".toList ++ fault.message) := by
  refine ⟨fun _ _ => parse_spelled, fun _ => parse_written, ?_, fun _ => parse_refused,
    fun _ _ _ _ _ _ => loadOverrides_run⟩
  rw [toJson_eq]
  exact parse_written (by decide)

/-- Prompts that are all unlike the standard ones. -/
def terse : Prompts :=
  ⟨['a'], ['b'], [], ['c'], ['d'], ['e', 'n', 'd']⟩

/-- A file of two of them, behind another member. -/
def terseFile : Text :=
  " \x7b\"zoom\":[\x7b \x7d],\"chatFinished\":\"\\u0065nd\",\"chooseAction\":\"\"\x7d".toList

/-- A file that has a prompt twice. -/
def repeatingFile : Text :=
  "\x7b\"capture\":\"\",\"capture\":\"\"\x7d".toList

/-- A file that has no text for a prompt. -/
def nullFile : Text :=
  "\x7b\"zoom\":\"\",\"capture\":null\x7d".toList

/-- A machine with one file under every path. -/
def machineWith (t : Text) : Machine Id where
  read _ := .ok (Utf8.encode t)
  write _ _ := .ok ()
  converse _ := none
  print _ := ()

theorem spells_terseFile : Spells terse {.chooseAction, .chatFinished} terseFile := by
  refine ⟨terseFile.tail, ⟨[⟨"zoom".toList, printText "zoom".toList, Editor.zoom⟩,
    ⟨"chatFinished".toList, printText "chatFinished".toList, Editor.endType⟩,
    ⟨"chooseAction".toList, printText "chooseAction".toList, printText []⟩],
    ⟨?_, ?_, ?_, ?_, ?_⟩, _,
    .parts (.cons (labelled_self _ _)
      (.cons (labelled_self _ _) (.last (labelled_self _ _)))), rfl⟩,
    [' '], [], Editor.blanks_space, Json.blanks_nil, rfl⟩
  · simp [spellsText_printText]
  · simp [spellings, Item.all, spelling, FieldSpelling.Named, Item.name, Item.text, terse,
      Editor.spells_endType, spellsText_printText]
  · simp [spellings, Item.all, spelling, FieldSpelling.Named, Item.name, Editor.isValue_zoom]
  · simp [spellings, Item.all, spelling, FieldSpelling.Named, Item.name]
  · simp [spellings, Item.all, spelling, FieldSpelling.Named, Item.name]

theorem faulty_repeatingFile : Faulty repeatingFile := by
  have hvalue : IsValue (printText []) := .text (isQuoted_printText [])
  exact .repeated
    (Json.isValueObject_pair (isQuoted_printText _) hvalue (isQuoted_printText _) hvalue rfl)
    (padded_self _) .capture (List.Sublist.refl _) (spellsText_printText _) (spellsText_printText _)

theorem faulty_nullFile : Faulty nullFile := by
  refine .noText
    (Json.isValueObject_pair (isQuoted_printText "zoom".toList) (.text (isQuoted_printText []))
      (isQuoted_printText "capture".toList) (.word List.mem_cons_self) rfl) (padded_self _) .capture
    (List.mem_cons_of_mem _ List.mem_cons_self) (spellsText_printText _) ?_
  rintro a ⟨pieces, -, hquote⟩
  exact absurd (List.cons.inj hquote).1 (by decide)

theorem terse_overrides :
    parse terseFile = .ok { standard with chooseAction := [], chatFinished := ['e', 'n', 'd'] }
      ∧ parse (written terse Item.all).print = .ok terse
      ∧ (∃ fault, parse repeatingFile = .error fault)
      ∧ (∃ fault, parse nullFile = .error fault)
      ∧ (CommandLine.loadOverrides (machineWith terseFile) ['p']).run = pure (.ok
          { standard with chooseAction := [], chatFinished := ['e', 'n', 'd'] }) := by
  obtain ⟨hoverrides, hwritten, -, hrefused, hloaded⟩ := prompts_files_override terse
  obtain ⟨q, hparse, htext⟩ := hoverrides _ _ spells_terseFile
  obtain rfl : q = { standard with chooseAction := [], chatFinished := ['e', 'n', 'd'] } := by
    refine Item.text_ext fun i => ?_
    rw [htext]
    cases i <;> rfl
  have hload := hloaded Id (machineWith terseFile) ['p'] terseFile rfl
  rw [hparse] at hload
  exact ⟨hparse, hwritten _ (List.Perm.refl _), hrefused _ faulty_repeatingFile,
    hrefused _ faulty_nullFile, hload⟩

end Dialogue.Prompts
