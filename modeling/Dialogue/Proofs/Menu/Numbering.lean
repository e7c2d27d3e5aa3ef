import Dialogue.Menu
import Dialogue.Proofs.Session.Rules
import Dialogue.Proofs.Text.Digits

/-!
# The numbers in menus

A menu shows entries under numbers, and a reply picks an entry by its number. These are two pieces
of text work that know nothing of each other, so both are told here by the entries and their
places: `Shows` says which lines a menu has, `Numbers` which replies are a number, and `Leads`
where a reply goes. The rendered menu shows its labels (`shows_render`), and what is picked is where
the reply leads (`leads_iff`).
-/

namespace Dialogue.Menu

variable {reply : Text} {i size : Nat}

/-- What a menu offers under one number: a label, and where it leads, if anywhere. -/
structure Entry where
  label : Text
  target : Option Text

/-- The prompt is the header and below it the entries, each on a line behind its number. -/
def Shows (header : Text) (entries : List Entry) (prompt : Text) : Prop :=
  ∃ lines : List Text, prompt = header ++ '\n' :: Text.joinLines lines
    ∧ lines.length = entries.length
    ∧ ∀ k entry, entries[k]? = some entry →
        lines[k]? = some (Text.ofNat (k + 1) ++ ['.', ' '] ++ entry.label)

/-- Blank characters aside, the reply is a run of digits with this value. -/
def Numbers (reply : Text) (number : Nat) : Prop :=
  Text.trim reply ≠ [] ∧ (∀ c ∈ Text.trim reply, c.isDigit = true)
    ∧ Text.toNat (Text.trim reply) = number

/-- What comes of a reply to a menu with these entries, on behalf of a block. -/
inductive Leads (block reply : Text) (entries : List Entry) : Except Failure Transition → Prop
  | entry {k : Nat} {label target : Text} (hentry : entries[k]? = some ⟨label, some target⟩)
      (hnumber : Numbers reply (k + 1)) : Leads block reply entries (.ok (.goto target))
  | invalid (h : ∀ k label target, entries[k]? = some ⟨label, some target⟩ →
      ¬ Numbers reply (k + 1)) : Leads block reply entries (.error (.invalidChoice block reply))

/-! ## What is shown -/

theorem shows_render {header : Text} {entries : List Entry} :
    Shows header entries (render header (entries.map Entry.label)) := by
  refine ⟨_, rfl, by simp, fun k entry hentry => ?_⟩
  simp [List.getElem?_zipIdx, hentry]

/-! ## What is picked -/

theorem pick?_eq_some_iff : pick? reply size = some i ↔ i < size ∧ Numbers reply (i + 1) := by
  unfold pick? Numbers
  dsimp only
  by_cases hdigits : Text.trim reply = [] ∨ (!(Text.trim reply).all Char.isDigit) = true
  · rw [if_pos hdigits]
    refine iff_of_false (by simp) ?_
    rintro ⟨-, hne, hall, -⟩
    rcases hdigits with hnil | hother
    · exact hne hnil
    · simp [List.all_eq_true.mpr hall] at hother
  · obtain ⟨hne, hall⟩ := not_or.mp hdigits
    have hall : ∀ c ∈ Text.trim reply, c.isDigit = true := by simpa using hall
    rw [if_neg hdigits]
    generalize Text.toNat (Text.trim reply) = number
    constructor
    · intro hpick
      split at hpick
      · next hrange =>
          have hi : number - 1 = i := Option.some.inj hpick
          exact ⟨by omega, hne, hall, by omega⟩
      · cases hpick
    · rintro ⟨hi, -, -, rfl⟩
      rw [if_pos ⟨by omega, by omega⟩, Nat.add_sub_cancel]

/-- What is picked, and followed to its link, is where the reply leads. -/
theorem leads_iff {block : Text} {entries : List Entry} {link? : Option Link}
    {result : Except Failure Transition}
    (hlink : link?.map LinkDefinition.target =
      (pick? reply entries.length).bind fun i => entries[i]?.bind Entry.target) :
    Leads block reply entries result ↔
      result = Conversation.leadTo (.invalidChoice block reply) link? := by
  have hpicked : ∀ target, link?.map LinkDefinition.target = some target ↔
      ∃ k label, entries[k]? = some ⟨label, some target⟩ ∧ Numbers reply (k + 1) := by
    intro target
    simp only [hlink, Option.bind_eq_some_iff, pick?_eq_some_iff]
    constructor
    · rintro ⟨k, ⟨-, hnumber⟩, ⟨label, _⟩, hentry, rfl⟩
      exact ⟨k, label, hentry, hnumber⟩
    · rintro ⟨k, label, hentry, hnumber⟩
      obtain ⟨hk, -⟩ := List.getElem?_eq_some_iff.mp hentry
      exact ⟨k, ⟨hk, hnumber⟩, _, hentry, rfl⟩
  constructor
  · rintro (⟨hentry, hnumber⟩ | hnone)
    · obtain ⟨link, rfl, rfl⟩ := Option.map_eq_some_iff.mp ((hpicked _).mpr ⟨_, _, hentry, hnumber⟩)
      rfl
    · cases link? with
      | none => rfl
      | some link =>
          obtain ⟨k, label, hentry, hnumber⟩ := (hpicked link.target).mp rfl
          exact absurd hnumber (hnone k label _ hentry)
  · rintro rfl
    cases link? with
    | none =>
        refine .invalid fun k label target hentry hnumber => ?_
        cases (hpicked target).mpr ⟨k, label, hentry, hnumber⟩
    | some link =>
        obtain ⟨k, label, hentry, hnumber⟩ := (hpicked link.target).mp rfl
        exact .entry hentry hnumber

end Dialogue.Menu
