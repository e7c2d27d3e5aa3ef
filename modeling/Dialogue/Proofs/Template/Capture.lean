import Dialogue.Prompts
import Dialogue.Proofs.Template.Substitution

/-!
# The prompt for a variable is a template

Two rules put something in the place of a name between braces. The prompt that asks for a variable
has one fixed place, which is found as a phrase; the texts of a conversation have references, which
are found by their braces. On the prompt the rules agree if only `name` is set
(`capturePrompt_is_filled`), unless a left brace stands inside of a reference: there the phrase may
begin in the middle of what is one reference to the other rule.

The condition is on every pair of braces. It comes to the same to ask it of the references alone
(`unnested_iff`), and along these both rules can be followed (`Parts.replace_text`): plain text has
no left brace, with which the phrase begins; the phrase at the beginning of a reference is the whole
reference; and what comes behind it up to the right brace is plain text again. In the tail there is
a brace missing.
-/

namespace Dialogue

namespace Text

variable {phrase substitute before s : Text} {c : Char}

/-! ## Replacing a phrase -/

theorem replace_cons (h : ¬ phrase <+: c :: s) :
    replace phrase substitute (c :: s) = c :: replace phrase substitute s := by
  rw [replace, replaceFrom, if_neg (mt List.isPrefixOf_iff_prefix.mp h), ← replace]

/-- A phrase cannot begin with a character that it does not begin with. -/
theorem replace_append_of_not_mem (hphrase : phrase.head? = some c) (h : c ∉ before) (s : Text) :
    replace phrase substitute (before ++ s) = before ++ replace phrase substitute s := by
  induction before with
  | nil => rfl
  | cons d before ih =>
      have hnone : ¬ phrase <+: d :: (before ++ s) := by
        intro hbegins
        obtain ⟨rest, hrest⟩ := hbegins
        have hhead := congrArg List.head? hrest
        rw [List.head?_append, hphrase] at hhead
        exact h (Option.some.inj hhead ▸ List.mem_cons_self)
      rw [List.cons_append, replace_cons hnone, ih (List.not_mem_of_not_mem_cons h),
        List.cons_append]

/-- A phrase cannot stand in a text that does not have all of its characters. -/
theorem replace_of_not_mem (hphrase : c ∈ phrase) (h : c ∉ s) :
    replace phrase substitute s = s := by
  induction s with
  | nil => rfl
  | cons d s ih =>
      rw [replace_cons fun hbegins => h (hbegins.subset hphrase),
        ih (List.not_mem_of_not_mem_cons h)]

theorem replaceFrom_passed (passed s : Text) :
    replaceFrom phrase substitute passed.length (passed ++ s) = replace phrase substitute s := by
  induction passed with
  | nil => rfl
  | cons d passed ih => exact ih

/-- The phrase gives way, and the search goes on behind it. -/
theorem replace_phrase_append (hphrase : phrase ≠ []) (s : Text) :
    replace phrase substitute (phrase ++ s) = substitute ++ replace phrase substitute s := by
  obtain ⟨c, rest, rfl⟩ := List.exists_cons_of_ne_nil hphrase
  have hbegins : (c :: rest).isPrefixOf (c :: (rest ++ s)) = true :=
    List.isPrefixOf_iff_prefix.mpr (List.prefix_append (c :: rest) s)
  rw [List.cons_append, replace, replaceFrom, if_pos hbegins]
  exact congrArg _ (replaceFrom_passed rest s)

end Text

namespace Template

variable {vars : Variables} {s name : Text}

/-! ## References without left braces -/

/-- No left brace stands between a left brace and the first right brace behind it. -/
def Unnested (template : Text) : Prop :=
  ∀ before name rest, template = before ++ (written name ++ rest) → '}' ∉ name → '{' ∉ name

/-- A character is behind a text in which it does not occur. -/
theorem behind_of_not_mem {c : Char} {s s' t t' : Text} (hs : c ∉ s) (h : s ++ s' = t ++ c :: t') :
    ∃ between, t = s ++ between ∧ s' = between ++ c :: t' := by
  rcases List.append_eq_append_iff.mp h with ⟨between, rfl, hrest⟩ | ⟨between, rfl, hrest⟩
  · exact ⟨between, rfl, hrest⟩
  · cases between with
    | nil => exact ⟨[], by simp, hrest.symm⟩
    | cons d between =>
        obtain ⟨rfl, -⟩ := List.cons.inj hrest
        exact absurd (List.mem_append_right t List.mem_cons_self) hs

theorem IsTail.unnested (h : IsTail s) : Unnested s := by
  rintro before name rest rfl -
  rw [written_append] at h
  rcases h with hplain | ⟨before', after, hsplit, hbefore', hafter⟩
  · exact absurd (by simp) hplain
  · -- The right brace behind the name is behind the first left brace, too.
    obtain ⟨between, -, hrest⟩ := behind_of_not_mem hbefore' hsplit.symm
    have hclose : '}' ∈ between ++ '{' :: (name ++ '}' :: rest) := by simp
    rw [← hrest, List.mem_cons] at hclose
    rcases hclose with hclose | hclose
    · exact absurd hclose (by decide)
    · exact absurd hclose hafter

namespace Parts

theorem unnested_text {p : Parts} (h : ∀ name ∈ p.names, '{' ∉ name) : Unnested p.text := by
  induction p with
  | tail s hlast => exact hlast.unnested
  | reference before name hplain hclosed rest ih =>
      obtain ⟨hname, hrest⟩ := List.forall_mem_cons.mp h
      intro before' name' rest' hsplit hclosed'
      rw [text, written_append, written_append] at hsplit
      obtain ⟨between, -, hbehind⟩ := behind_of_not_mem hplain hsplit
      cases between with
      | nil =>
          obtain ⟨rfl, -⟩ := cut_unique hclosed hclosed' (List.cons.inj hbehind).2
          exact hname
      | cons c between =>
          -- A later left brace is not in the name, so it is behind the reference.
          have hreference : '{' ∉ name ++ ['}'] := by simp [hname]
          have hnames := (List.cons.inj hbehind).2
          rw [List.append_cons name] at hnames
          obtain ⟨between', -, hlater⟩ := behind_of_not_mem hreference hnames
          rw [← written_append] at hlater
          exact ih hrest between' name' rest' hlater hclosed'

theorem plain_names {p : Parts} (h : Unnested p.text) : ∀ name ∈ p.names, '{' ∉ name := by
  induction p with
  | tail s hlast => nofun
  | reference before name hplain hclosed rest ih =>
      refine List.forall_mem_cons.mpr ⟨h before name rest.text rfl hclosed, ih ?_⟩
      intro before' name' rest' hsplit
      refine h (before ++ (written name ++ before')) name' rest' ?_
      rw [text, hsplit, List.append_assoc, List.append_assoc]

end Parts

/-- **It is enough that no left brace stands inside of a reference.** -/
theorem unnested_iff {p : Parts} : Unnested p.text ↔ ∀ name ∈ p.names, '{' ∉ name :=
  ⟨Parts.plain_names, Parts.unnested_text⟩

/-! ## The place of the name -/

open Prompts (namePlace)

/-- The name in the place of a prompt, as a reference has it. -/
def placed : Text :=
  "name".toList

theorem namePlace_eq : namePlace = written placed := rfl

theorem IsTail.replace (h : IsTail s) (substitute : Text) :
    Text.replace namePlace substitute s = s := by
  rcases h with hplain | ⟨before, after, rfl, hbefore, hafter⟩
  · exact Text.replace_of_not_mem (c := '{') (by decide) hplain
  · have hopen : '}' ∉ '{' :: after := List.not_mem_cons_of_ne_of_not_mem (by decide) hafter
    rw [Text.replace_append_of_not_mem (c := '{') rfl hbefore,
      Text.replace_of_not_mem (c := '}') (by decide) hopen]

/-- The place is found in a reference only if it is the whole reference. -/
theorem not_prefix_written (hclosed : '}' ∉ name) (hname : name ≠ placed) (rest : Text) :
    ¬ namePlace <+: written name ++ rest := by
  rintro ⟨rest', h⟩
  rw [namePlace_eq, written_append, written_append] at h
  exact hname (cut_unique (by decide) hclosed (List.cons.inj h).2).1.symm

theorem replace_reference (hclosed : '}' ∉ name) (hplain : '{' ∉ name) (hname : name ≠ placed)
    (substitute rest : Text) :
    Text.replace namePlace substitute (written name ++ rest) =
      written name ++ Text.replace namePlace substitute rest := by
  have hbehind : '{' ∉ name ++ ['}'] := by simp [hplain]
  have hnone := not_prefix_written hclosed hname rest
  rw [written, List.cons_append] at hnone ⊢
  rw [Text.replace_cons hnone, Text.replace_append_of_not_mem (c := '{') rfl hbehind,
    List.cons_append]

/-- Only the name of a prompt's place is set, to this text. -/
def OnlyPlaced (vars : Variables) (value : Text) : Prop :=
  ∀ name, vars.get? name = if name = placed then some (.text value) else none

theorem Parts.replace_text {p : Parts} (h : ∀ name ∈ p.names, '{' ∉ name) {value : Text}
    (hvars : OnlyPlaced vars value) : Text.replace namePlace value p.text = p.substitute vars := by
  induction p with
  | tail s hlast => exact hlast.replace value
  | reference before name hplain hclosed rest ih =>
      obtain ⟨hname, hrest⟩ := List.forall_mem_cons.mp h
      have hget := hvars name
      rw [text, substitute, Text.replace_append_of_not_mem (c := '{') rfl hplain, replacement]
      by_cases hplaced : name = placed
      · subst hplaced
        rw [if_pos rfl] at hget
        rw [hget, ← namePlace_eq, Text.replace_phrase_append (by decide), ih hrest]
        rfl
      · rw [if_neg hplaced] at hget
        rw [hget, replace_reference hclosed hname hplaced, ih hrest]

/-- **The prompt for a variable is its template, filled.** The name of the variable, whatever it is,
stands where filling the template puts the value of `name`, if nothing else is set. -/
theorem capturePrompt_is_filled (p : Prompts) (h : Unnested p.capture) (variableName : Text)
    (vars : Variables) (hvars : OnlyPlaced vars variableName) :
    p.capturePrompt variableName = fill p.capture vars := by
  obtain ⟨parts, hparts⟩ := Parts.exists_text_eq p.capture
  rw [← hparts, unnested_iff] at h
  rw [Prompts.capturePrompt, ← hparts, parts.fill_text, Parts.replace_text h hvars]

/-- There is a store in which only the name is set. -/
theorem onlyPlaced_set (value : Text) :
    OnlyPlaced (Variables.empty.set placed (.text value)) value := by
  intro name
  by_cases hname : name = placed
  · rw [if_pos hname, hname, Variables.get?_set_self]
  · rw [if_neg hname, Variables.get?_set_of_ne hname, Variables.get?_empty]

/-- The parts of `}! {age}: {name}, {name} - {`: another reference, the place twice, and a brace of
either kind without its counterpart. -/
def asking : Parts :=
  .reference ['}', '!', ' '] ['a', 'g', 'e'] (by decide) (by decide)
    (.reference [':', ' '] ['n', 'a', 'm', 'e'] (by decide) (by decide)
      (.reference [',', ' '] ['n', 'a', 'm', 'e'] (by decide) (by decide)
        (.tail [' ', '-', ' ', '{'] (Or.inr ⟨[' ', '-', ' '], [], rfl, by decide, by decide⟩))))

/-- A prompt that asks for a variable with these parts. -/
def askingPrompts : Prompts :=
  { Prompts.standard with capture := asking.text }

/-- A variable that is called as the place is written. -/
theorem asking_is_filled :
    Unnested askingPrompts.capture
      ∧ OnlyPlaced (Variables.empty.set placed (.text namePlace)) namePlace
      ∧ askingPrompts.capturePrompt namePlace =
          fill askingPrompts.capture (Variables.empty.set placed (.text namePlace))
      ∧ askingPrompts.capturePrompt namePlace =
          "\x7d! \x7bage\x7d: \x7bname\x7d, \x7bname\x7d - \x7b".toList := by
  have hunnested : Unnested askingPrompts.capture := unnested_iff (p := asking).mpr (by decide)
  exact ⟨hunnested, onlyPlaced_set namePlace,
    capturePrompt_is_filled askingPrompts hunnested namePlace _ (onlyPlaced_set namePlace),
    by decide⟩

/-- With a left brace inside of a reference the rules differ. -/
example : Text.replace namePlace ['v'] ('{' :: namePlace) ≠
    fill ('{' :: namePlace) (Variables.empty.set placed (.text ['v'])) := by
  decide

end Template

end Dialogue
