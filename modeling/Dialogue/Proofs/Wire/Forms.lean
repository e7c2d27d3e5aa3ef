import Dialogue.Proofs.Json.Tagged
import Dialogue.Wire.Event
import Dialogue.Wire.Frame

/-!
# One value in many forms

Frames and events may be written by any client: as an object, with the tag and the content in either
order and other members anywhere, or as a list of the two. `WireType.Faithful` says that all of
these forms are the same value, that a value which was parsed is written so that it is parsed again,
and that an object is refused that has a key twice.

It holds of any type with the notation of a tagged value (`WireType.Uses.faithful`), and so of the
three types that travel (`wire_types_faithful`).
-/

namespace Dialogue

open Json (Blanks Fault FieldSpelling IsList IsValueObject Padded SpellsNullable SpellsRecord
  SpellsText Tagging depthLimit parseWith printTagged taggedFields)

variable {α : Type}

/-- A type whose values travel: the keys that its texts have, what stands under them, and how its
values are printed and parsed. -/
structure WireType (α : Type) where
  tagKey : String
  contentKey : String
  tag : α → Text
  /-- The content, if the value has any. -/
  content? : α → Option Text
  print : α → Text
  parse : Text → Except Fault α

/-- The lines of a byte stream. -/
def frames : WireType Frame where
  tagKey := "type"
  contentKey := "content"
  tag := Frame.tag
  content? f := some f.content
  print := Frame.print
  parse := Frame.parse

/-- What a client is told. -/
def serverEvents : WireType ServerEvent where
  tagKey := "event"
  contentKey := "data"
  tag := ServerEvent.tag
  content? := ServerEvent.content?
  print := ServerEvent.print
  parse := ServerEvent.parse

/-- What a client tells. -/
def clientEvents : WireType ClientEvent where
  tagKey := "event"
  contentKey := "data"
  tag := fun | .inputResponse _ => "inputResponse".toList
  content? := fun | .inputResponse reply => some reply
  print := ClientEvent.print
  parse := ClientEvent.parse

namespace WireType

/-! ## Forms -/

/-- A text that holds a value as an object: the tag and the content once each, in either order,
among members of any other names. Content that the value does not have is null or left out. -/
def SpellsObject (w : WireType α) (a : α) (t : Text) : Prop :=
  ∃ object, SpellsRecord (taggedFields w.tagKey w.contentKey (w.tag a) (w.content? a)) object
    ∧ Padded object t

/-- A text that holds a value as the list of its tag and its content. -/
def SpellsPair (w : WireType α) (a : α) (t : Text) : Prop :=
  ∃ tag content pair, SpellsText (w.tag a) tag ∧ SpellsNullable SpellsText (w.content? a) content
    ∧ IsList [tag, content] pair ∧ Padded pair t

/-- A text that holds an object with one of the keys twice, whatever its other members and all of
its values are. -/
def Repeats (w : WireType α) (t : Text) : Prop :=
  ∃ entries object, IsValueObject entries object ∧ Padded object t
    ∧ ∃ key ∈ [w.tagKey, w.contentKey], ∃ e e' : Text × Text, [e, e'].Sublist entries
      ∧ SpellsText key.toList e.1 ∧ SpellsText key.toList e'.1

/-- The text that a value is printed as, once it has been parsed. -/
def normalise (w : WireType α) (t : Text) : Except Fault Text :=
  (w.parse t).map w.print

/-- All forms of a value are parsed as the value, and nothing is read from an object that has a key
twice. -/
structure Faithful (w : WireType α) : Prop where
  object : ∀ a t, w.SpellsObject a t → w.parse t = .ok a
  pair : ∀ a t, w.SpellsPair a t → w.parse t = .ok a
  printed : ∀ a, w.parse (w.print a) = .ok a
  normal : ∀ t s, w.normalise t = .ok s → w.normalise s = .ok s
  refused : ∀ t, w.Repeats t → ∃ fault, w.parse t = .error fault

/-! ## Types with the notation of a tagged value -/

/-- A type that is printed and parsed by the notation of a tagged value. -/
structure Uses (w : WireType α) (t : Tagging α) : Prop where
  keyed : t.Keyed w.tagKey w.contentKey
  variant : ∀ a, ∃ v, t.ofTag (w.tag a) = .ok v ∧ v.payload.Makes (w.content? a) a
  print : ∀ a, w.print a = printTagged t.tagKey (w.tag a) t.contentKey (w.content? a)
  parse : ∀ s, w.parse s = parseWith (t.read depthLimit) s

namespace Uses

variable {w : WireType α} {t : Tagging α} (h : w.Uses t)

include h

theorem parse_object {a : α} {s : Text} (hs : w.SpellsObject a s) : w.parse s = .ok a := by
  obtain ⟨object, hobject, hpadded⟩ := hs
  obtain ⟨v, htag, hmakes⟩ := h.variant a
  rw [h.parse]
  exact (t.reads_object htag hmakes h.keyed hobject).parseWith hpadded

theorem parse_pair {a : α} {s : Text} (hs : w.SpellsPair a s) : w.parse s = .ok a := by
  obtain ⟨tag, content, pair, htag, hcontent, hpair, hpadded⟩ := hs
  obtain ⟨v, hv, hmakes⟩ := h.variant a
  rw [h.parse]
  exact (t.reads_pair hv hmakes htag hcontent hpair).parseWith hpadded

/-- What is printed is the object with the tag first. -/
theorem spellsObject_print (a : α) : w.SpellsObject a (w.print a) := by
  refine ⟨w.print a, ?_, Json.padded_self _⟩
  rw [h.print]
  exact h.keyed.spells_printTagged (w.tag a) (w.content? a)

theorem parse_print (a : α) : w.parse (w.print a) = .ok a :=
  h.parse_object (h.spellsObject_print a)

theorem normalise_normal {s s' : Text} (hs : w.normalise s = .ok s') : w.normalise s' = .ok s' := by
  rw [normalise] at hs
  cases hparse : w.parse s with
  | error fault =>
      rw [hparse] at hs
      cases hs
  | ok a =>
      rw [hparse] at hs
      obtain rfl := Except.ok.inj hs
      rw [normalise, h.parse_print]
      rfl

theorem parse_repeats {s : Text} (hs : w.Repeats s) : ∃ fault, w.parse s = .error fault := by
  obtain ⟨entries, object, hobject, hpadded, key, hkey, e, e', htwo, he, he'⟩ := hs
  have hkey : key.toList ∈ [t.tagKey, t.contentKey] := by
    rw [h.keyed.tagKey, h.keyed.contentKey]
    exact List.mem_map_of_mem hkey
  rw [h.parse]
  have hrefuses := Tagging.refuses_repeated h.keyed.distinct hobject hkey htwo he he' depthLimit
  exact hrefuses.parseWith hpadded

theorem faithful : w.Faithful where
  object _ _ := h.parse_object
  pair _ _ := h.parse_pair
  printed := h.parse_print
  normal _ _ := h.normalise_normal
  refused _ := h.parse_repeats

end Uses

end WireType

/-! ## The three types -/

theorem frames_uses : frames.Uses Frame.tagging where
  keyed := ⟨rfl, rfl, by decide⟩
  variant f := by
    cases f <;> exact ⟨_, rfl, .text _ _⟩
  print _ := rfl
  parse _ := rfl

theorem serverEvents_uses : serverEvents.Uses ServerEvent.tagging where
  keyed := ⟨rfl, rfl, by decide⟩
  variant e := by
    cases e with
    | disconnect => exact ⟨_, rfl, .nothing _ _⟩
    | _ => exact ⟨_, rfl, .text _ _⟩
  print _ := rfl
  parse _ := rfl

theorem clientEvents_uses : clientEvents.Uses ClientEvent.tagging where
  keyed := ⟨rfl, rfl, by decide⟩
  variant e := by
    cases e
    exact ⟨_, rfl, .text _ _⟩
  print e := by
    cases e
    rfl
  parse _ := rfl

/-- **Frames and events are the same in all their forms.** -/
theorem wire_types_faithful : frames.Faithful ∧ serverEvents.Faithful ∧ clientEvents.Faithful :=
  ⟨frames_uses.faithful, serverEvents_uses.faithful, clientEvents_uses.faithful⟩

/-- A line feed as an escape. -/
def escapedFeed : Text :=
  "\"\\u000a\"".toList

/-- A value that no event has. -/
def listedObject : Text :=
  "[\x7b \x7d]".toList

/-- A message with its text first, as an escape, and another member before its tag. -/
def belatedMessage : Text :=
  " \x7b\"data\" :\"\\u000a\", \"at\":[\x7b \x7d],\"event\":\"message\"\x7d\n".toList

/-- A farewell as a list. -/
def listedFarewell : Text :=
  "[\"disconnect\",null ]".toList

/-- A farewell that says twice that it is one. -/
def repeatedFarewell : Text :=
  "\x7b\"event\":\"disconnect\",\"event\":\"disconnect\"\x7d".toList

theorem blanks_of_blank {c : Char} (h : Json.isBlank c = true) : Blanks [c] :=
  List.forall_mem_singleton.mpr h

theorem spellsText_escapedFeed : SpellsText ['\n'] escapedFeed := by
  have hhex : Json.SpellsHex '\n'.toNat ['0', '0', '0', 'a'] :=
    ⟨0, 0, 0, 10, '0', '0', '0', 'a', ⟨by decide, .inl rfl⟩, ⟨by decide, .inl rfl⟩,
      ⟨by decide, .inl rfl⟩, ⟨by decide, .inl rfl⟩, rfl, rfl⟩
  exact ⟨_, .cons (.hex hhex) .nil, rfl⟩

theorem isValue_listedObject : Json.IsValue listedObject := by
  have hobject : Json.IsValue "\x7b \x7d".toList :=
    .object ⟨[' '], .empty (blanks_of_blank rfl), rfl⟩ nofun nofun
  exact .list ⟨_, .parts (.last (Json.padded_self _)), rfl⟩ (List.forall_mem_singleton.mpr hobject)

theorem spellsObject_belatedMessage :
    serverEvents.SpellsObject (.message ['\n']) belatedMessage := by
  have hdata : Json.Labelled (Json.printText "data".toList, escapedFeed)
      "\"data\" :\"\\u000a\"".toList :=
    ⟨"\"data\" ".toList, _, ⟨[], [' '], Json.blanks_nil, blanks_of_blank rfl, rfl⟩,
      Json.padded_self _, rfl⟩
  have hat : Json.Labelled (Json.printText "at".toList, listedObject)
      " \"at\":[\x7b \x7d]".toList :=
    ⟨" \"at\"".toList, _, ⟨[' '], [], blanks_of_blank rfl, Json.blanks_nil, rfl⟩,
      Json.padded_self _, rfl⟩
  have hevent :=
    Json.labelled_self (Json.printText "event".toList) (Json.printText "message".toList)
  have htag : serverEvents.tag (.message ['\n']) = "message".toList := rfl
  have hcontent : serverEvents.content? (.message ['\n']) = some ['\n'] := rfl
  rw [WireType.SpellsObject, htag, hcontent]
  refine ⟨belatedMessage.tail.dropLast, ⟨[
    ⟨"data".toList, Json.printText "data".toList, escapedFeed⟩,
    ⟨"at".toList, Json.printText "at".toList, listedObject⟩,
    ⟨"event".toList, Json.printText "event".toList, Json.printText "message".toList⟩],
    ⟨?_, ?_, ?_, ?_, ?_⟩, _, .parts (.cons hdata (.cons hat (.last hevent))), rfl⟩,
    [' '], ['\n'], blanks_of_blank rfl, blanks_of_blank rfl, rfl⟩
  · simp [Json.spellsText_printText]
  · simp [taggedFields, FieldSpelling.Named, serverEvents, SpellsNullable,
      Json.spellsText_printText, spellsText_escapedFeed]
  · simp [taggedFields, FieldSpelling.Named, serverEvents, isValue_listedObject]
  · simp [taggedFields, FieldSpelling.Named, serverEvents]
  · simp [taggedFields, FieldSpelling.Named, serverEvents]

theorem spellsPair_listedFarewell : serverEvents.SpellsPair .disconnect listedFarewell := by
  have hnull : Padded "null".toList "null ".toList :=
    ⟨[], [' '], Json.blanks_nil, blanks_of_blank rfl, rfl⟩
  exact ⟨_, _, _, Json.spellsText_printText _, rfl,
    ⟨_, .parts (.cons (Json.padded_self _) (.last hnull)), rfl⟩, Json.padded_self _⟩

theorem repeats_repeatedFarewell : serverEvents.Repeats repeatedFarewell := by
  have hkey := Json.isQuoted_printText "event".toList
  have hvalue : Json.IsValue (Json.printText "disconnect".toList) :=
    .text (Json.isQuoted_printText _)
  exact ⟨_, _, Json.isValueObject_pair hkey hvalue hkey hvalue rfl, Json.padded_self _, "event",
    List.mem_cons_self, _, _, List.Sublist.refl _, Json.spellsText_printText _,
    Json.spellsText_printText _⟩

theorem parse_belatedMessage :
    serverEvents.parse belatedMessage = .ok (.message ['\n'])
      ∧ serverEvents.parse listedFarewell = .ok .disconnect
      ∧ ∃ fault, serverEvents.parse repeatedFarewell = .error fault :=
  ⟨wire_types_faithful.2.1.object _ _ spellsObject_belatedMessage,
    wire_types_faithful.2.1.pair _ _ spellsPair_listedFarewell,
    wire_types_faithful.2.1.refused _ repeats_repeatedFarewell⟩

end Dialogue
