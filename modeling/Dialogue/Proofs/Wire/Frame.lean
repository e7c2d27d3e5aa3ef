import Dialogue.Proofs.Wire.Forms
import Dialogue.Text.Blank

/-!
# Frames are read back as they were written

The text that is printed for a frame is one of its forms, so the frame is parsed
from it. That text begins and ends with a brace and holds no line feed: it can
travel as a line of its own.
-/

namespace Dialogue

namespace Json

variable {α : Type}

theorem lineFeed_not_mem_escapeControl :
    ∀ n < 0x20, '\n' ∉ ['\\', 'u', '0', '0', Nat.digitChar (n / 16), Nat.digitChar (n % 16)] := by
  decide

/-- A line feed is a control character, so it is written as an escape. -/
theorem lineFeed_not_mem_escape (c : Char) : '\n' ∉ escape c := by
  unfold escape
  split
  case h_8 hfeed _ _ =>
    split
    · next hcontrol => exact lineFeed_not_mem_escapeControl _ hcontrol
    · rw [List.mem_singleton]
      exact fun h => hfeed h.symm
  all_goals decide

theorem lineFeed_not_mem_printText (s : Text) : '\n' ∉ printText s := by
  intro h
  simp only [printText, List.cons_append, List.mem_cons, List.mem_append, List.mem_flatMap,
    List.not_mem_nil, or_false] at h
  rcases h with h | ⟨c, -, hc⟩ | h
  · exact absurd h (by decide)
  · exact lineFeed_not_mem_escape c hc
  · exact absurd h (by decide)

theorem printTagged_eq (tagKey tag contentKey : Text) (content : Option Text) :
    ∃ members, printTagged tagKey tag contentKey content = '{' :: members ++ ['}'] :=
  ⟨_, rfl⟩

theorem lineFeed_not_mem_printTagged (tagKey tag contentKey content : Text) :
    '\n' ∉ printTagged tagKey tag contentKey (some content) := by
  have htagKey := lineFeed_not_mem_printText tagKey
  have htag := lineFeed_not_mem_printText tag
  have hcontentKey := lineFeed_not_mem_printText contentKey
  have hcontent := lineFeed_not_mem_printText content
  simp [printTagged, htagKey, htag, hcontentKey, hcontent]

end Json

namespace Frame

open Json (Tagging printTagged)

/-- **Every frame is parsed from its own text.** -/
theorem parse_print (f : Frame) : parse f.print = .ok f :=
  frames_uses.parse_print f

theorem lineFeed_not_mem_print (f : Frame) : '\n' ∉ f.print :=
  Json.lineFeed_not_mem_printTagged _ _ _ _

/-- Nothing is cut off around the text of a frame. -/
theorem trim_print_lineFeed (f : Frame) : Text.trim (f.print ++ ['\n']) = f.print := by
  obtain ⟨members, h⟩ := Json.printTagged_eq tagging.tagKey f.tag tagging.contentKey
    (some f.content)
  rw [print, h]
  have hbrace : Text.isBlank '\x7b' = false := by decide
  have hbrace' : Text.isBlank '\x7d' = false := by decide
  have hfeed : Text.isBlank '\n' = true := by decide
  simp [Text.trim, Text.dropEndWhile, hbrace, hbrace', hfeed]

end Frame

end Dialogue
