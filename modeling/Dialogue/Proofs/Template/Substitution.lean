import Dialogue.Template

/-!
# Templates as substitutions

A template is plain text and references by turns, with a tail behind the last reference, and
there is only one way to read it so: a left brace in plain text would begin a reference, and a
right brace in a name would end it (`Parts.exists_text_eq`, `Parts.eq_of_text_eq`). `Parts` are
these pieces, and `Parts.substitute` puts values in the places of all references at once.

Filling a template is this substitution. The scan goes on behind a reference with the rest of
the template and never with what was put in (`fill_reference`), so an induction along the parts
proves it (`Parts.fill_text`). What else holds of filling follows from there
(`fill_is_substitution`).
-/

namespace Dialogue.Template

variable {vars vars' : Variables} {s before name rest : Text}

/-! ## Parts -/

/-- No reference begins in the text: it has no left brace, or no right brace behind its first
left brace. -/
def IsTail (s : Text) : Prop :=
  '{' ∉ s ∨ ∃ before after, s = before ++ '{' :: after ∧ '{' ∉ before ∧ '}' ∉ after

/-- The pieces of a template, from left to right. -/
inductive Parts where
  | tail (s : Text) (last : IsTail s)
  | reference (before name : Text) (plain : '{' ∉ before) (closed : '}' ∉ name) (rest : Parts)

/-- A reference as it is written. -/
def written (name : Text) : Text :=
  '{' :: (name ++ ['}'])

/-- What stands in the place of a reference. -/
def replacement (vars : Variables) (name : Text) : Text :=
  match vars.get? name with
  | some value => value.display
  | none => written name

namespace Parts

/-- The template that has these pieces. -/
def text : Parts → Text
  | .tail s _ => s
  | .reference before name _ _ rest => before ++ (written name ++ rest.text)

/-- The names in the references. -/
def names : Parts → List Text
  | .tail _ _ => []
  | .reference _ name _ _ rest => name :: rest.names

/-- The pieces with values in the places of the references, and all else as it is. -/
def substitute (vars : Variables) : Parts → Text
  | .tail s _ => s
  | .reference before name _ _ rest =>
    before ++ (replacement vars name ++ rest.substitute vars)

end Parts

/-! ## One way to read a template -/

/-- A text is cut at the first occurrence of a character in one way only. -/
theorem cut_unique {c : Char} {s t s' t' : Text} (hs : c ∉ s) (ht : c ∉ t)
    (h : s ++ c :: s' = t ++ c :: t') : s = t ∧ s' = t' := by
  induction s generalizing t with
  | nil =>
      rcases t with _ | ⟨d, t⟩
      · exact ⟨rfl, (List.cons.inj h).2⟩
      · obtain ⟨rfl, -⟩ := List.cons.inj h
        exact absurd List.mem_cons_self ht
  | cons d s ih =>
      rcases t with _ | ⟨e, t⟩
      · obtain ⟨rfl, -⟩ := List.cons.inj h
        exact absurd List.mem_cons_self hs
      · obtain ⟨rfl, hrest⟩ := List.cons.inj h
        obtain ⟨rfl, rfl⟩ := ih (List.not_mem_of_not_mem_cons hs)
          (List.not_mem_of_not_mem_cons ht) hrest
        exact ⟨rfl, rfl⟩

theorem written_append (name rest : Text) :
    written name ++ rest = '{' :: (name ++ '}' :: rest) := by
  simp [written]

/-- No tail begins with a reference. -/
theorem IsTail.ne_reference (h : IsTail s) (hbefore : '{' ∉ before) (name rest : Text) :
    s ≠ before ++ (written name ++ rest) := by
  rw [written_append]
  rintro rfl
  rcases h with hplain | ⟨before', after, hsplit, hbefore', hafter⟩
  · exact hplain (by simp)
  · obtain ⟨-, rfl⟩ := cut_unique hbefore hbefore' hsplit
    exact hafter (by simp)

namespace Parts

theorem eq_of_text_eq {p q : Parts} (h : p.text = q.text) : p = q := by
  induction p generalizing q with
  | tail s hlast =>
      cases q with
      | tail t hlast' =>
          obtain rfl : s = t := h
          rfl
      | reference before name hplain hclosed rest =>
          exact absurd h (hlast.ne_reference hplain name rest.text)
  | reference before name hplain hclosed rest ih =>
      cases q with
      | tail t hlast => exact absurd h.symm (hlast.ne_reference hplain name rest.text)
      | reference before' name' hplain' hclosed' rest' =>
          rw [text, text, written_append, written_append] at h
          obtain ⟨rfl, hnames⟩ := cut_unique hplain hplain' h
          obtain ⟨rfl, hrest⟩ := cut_unique hclosed hclosed' hnames
          rw [ih hrest]

theorem exists_text_eq (template : Text) : ∃ p : Parts, p.text = template := by
  -- Behind a reference the template is shorter.
  induction hlength : template.length using Nat.strongRecOn generalizing template with
  | ind length ih =>
      by_cases hopen : '{' ∈ template
      · obtain ⟨before, after, rfl, hbefore⟩ := List.eq_append_cons_of_mem hopen
        by_cases hclose : '}' ∈ after
        · obtain ⟨name, rest, rfl, hname⟩ := List.eq_append_cons_of_mem hclose
          have hshorter : rest.length < length := by
            simp only [List.length_append, List.length_cons] at hlength
            omega
          obtain ⟨p, rfl⟩ := ih rest.length hshorter rest rfl
          exact ⟨.reference before name hbefore hname p, by rw [text, written_append]⟩
        · exact ⟨.tail _ (Or.inr ⟨before, after, rfl, hbefore, hclose⟩), rfl⟩
      · exact ⟨.tail template (Or.inl hopen), rfl⟩

end Parts

/-! ## Filling along the parts -/

theorem segmentsFrom_name (seen : Text) (hname : '}' ∉ name) (rest : Text) :
    segmentsFrom (some seen) (name ++ '}' :: rest) =
      .reference (seen ++ name) :: segmentsFrom none rest := by
  induction name generalizing seen with
  | nil => simp [segmentsFrom]
  | cons c name ih =>
      have hc : '}' ≠ c := List.ne_of_not_mem_cons hname
      rw [List.cons_append, segmentsFrom, if_neg hc.symm,
        ih _ (List.not_mem_of_not_mem_cons hname)]
      simp

theorem segmentsFrom_unclosed (seen : Text) (hname : '}' ∉ name) :
    segmentsFrom (some seen) name = [.plain ('{' :: (seen ++ name))] := by
  induction name generalizing seen with
  | nil => simp [segmentsFrom]
  | cons c name ih =>
      have hc : '}' ≠ c := List.ne_of_not_mem_cons hname
      rw [segmentsFrom, if_neg hc.symm,
        ih _ (List.not_mem_of_not_mem_cons hname)]
      simp

/-- Plain text is copied. -/
theorem fill_plain_append (hplain : '{' ∉ before) (rest : Text) (vars : Variables) :
    fill (before ++ rest) vars = before ++ fill rest vars := by
  unfold fill segments
  induction before with
  | nil => rfl
  | cons c before ih =>
      have hc : '{' ≠ c := List.ne_of_not_mem_cons hplain
      rw [List.cons_append, segmentsFrom, if_neg hc.symm, List.flatMap_cons,
        ih (List.not_mem_of_not_mem_cons hplain)]
      rfl

/-- A reference gives way to its value, and the scan goes on behind it. -/
theorem fill_reference (hclosed : '}' ∉ name) (rest : Text) (vars : Variables) :
    fill (written name ++ rest) vars = replacement vars name ++ fill rest vars := by
  have hsegments : segments (written name ++ rest) = .reference name :: segments rest := by
    rw [written_append, segments, segmentsFrom, if_pos rfl, segmentsFrom_name [] hclosed]
    rfl
  rw [fill, hsegments, List.flatMap_cons]
  rfl

theorem fill_plain (hplain : '{' ∉ s) (vars : Variables) : fill s vars = s := by
  have happend := fill_plain_append hplain [] vars
  rwa [List.append_nil, show fill [] vars = [] from rfl, List.append_nil] at happend

theorem IsTail.fill (h : IsTail s) (vars : Variables) : Template.fill s vars = s := by
  rcases h with hplain | ⟨before, after, rfl, hbefore, hafter⟩
  · exact fill_plain hplain vars
  · rw [fill_plain_append hbefore, Template.fill, segments, segmentsFrom, if_pos rfl,
      segmentsFrom_unclosed [] hafter]
    simp [Segment.render]

namespace Parts

/-- **To fill a template is to substitute in its parts.** -/
theorem fill_text (p : Parts) (vars : Variables) : fill p.text vars = p.substitute vars := by
  induction p with
  | tail s hlast => exact hlast.fill vars
  | reference before name hplain hclosed rest ih =>
      rw [text, substitute, fill_plain_append hplain, fill_reference hclosed, ih]

theorem substitute_congr {p : Parts} (h : ∀ name ∈ p.names, vars.get? name = vars'.get? name) :
    p.substitute vars = p.substitute vars' := by
  induction p with
  | tail s hlast => rfl
  | reference before name hplain hclosed rest ih =>
      obtain ⟨hname, hrest⟩ := List.forall_mem_cons.mp h
      rw [substitute, substitute, replacement, replacement, hname, ih hrest]

theorem substitute_unbound {p : Parts} (h : ∀ name ∈ p.names, vars.get? name = none) :
    p.substitute vars = p.text := by
  induction p with
  | tail s hlast => rfl
  | reference before name hplain hclosed rest ih =>
      obtain ⟨hname, hrest⟩ := List.forall_mem_cons.mp h
      rw [substitute, text, replacement, hname, ih hrest]

theorem closed_of_mem_names {p : Parts} (h : name ∈ p.names) : '}' ∉ name := by
  induction p with
  | tail s hlast => cases h
  | reference before name' hplain hclosed rest ih =>
      rcases List.mem_cons.mp h with rfl | hrest
      · exact hclosed
      · exact ih hrest

end Parts

/-- **Filling is substitution.** A template has parts, and no others. For all variables, filling
it puts the values in the places of the references at once and copies all else. What is put in
is not searched again: behind a reference the rest of the template is filled by itself. A
template of whose names none is set is not changed, and variables that it does not name do not
matter, among them all whose names have a right brace. -/
theorem fill_is_substitution (template : Text) :
    ∃ p : Parts, (∀ q : Parts, q.text = template ↔ q = p)
      ∧ (∀ vars, fill template vars = p.substitute vars)
      ∧ (∀ before name rest, '{' ∉ before → '}' ∉ name →
          template = before ++ (written name ++ rest) → ∀ vars,
            fill template vars = before ++ (replacement vars name ++ fill rest vars))
      ∧ (∀ vars, (∀ name ∈ p.names, vars.get? name = none) → fill template vars = template)
      ∧ (∀ vars vars', (∀ name ∈ p.names, vars.get? name = vars'.get? name) →
          fill template vars = fill template vars')
      ∧ ∀ vars name value, '}' ∈ name →
          fill template (vars.set name value) = fill template vars := by
  obtain ⟨p, rfl⟩ := Parts.exists_text_eq template
  have hcongr (vars vars' : Variables)
      (h : ∀ name ∈ p.names, vars.get? name = vars'.get? name) :
      fill p.text vars = fill p.text vars' := by
    rw [p.fill_text, p.fill_text, Parts.substitute_congr h]
  refine ⟨p, fun q => ⟨Parts.eq_of_text_eq, congrArg Parts.text⟩, p.fill_text, ?_, ?_, hcongr,
    ?_⟩
  · intro before name rest hplain hclosed htemplate vars
    rw [htemplate, fill_plain_append hplain, fill_reference hclosed]
  · intro vars hunbound
    rw [p.fill_text, Parts.substitute_unbound hunbound]
  · intro vars name value hbrace
    refine hcongr _ _ fun other hother => ?_
    have hne : other ≠ name := by
      rintro rfl
      exact Parts.closed_of_mem_names hother hbrace
    exact Variables.get?_set_of_ne hne value vars

/-- The parts of `{{x}} {a} {`: a name with a left brace, and an unclosed brace at the end. -/
def nested : Parts :=
  .reference [] ['{', 'x'] (by decide) (by decide)
    (.reference ['}', ' '] ['a'] (by decide) (by decide)
      (.tail [' ', '{'] (Or.inr ⟨[' '], [], rfl, by decide, by decide⟩)))

/-- The variable `a` holds a reference to the variable `b`. -/
def referring : Variables :=
  (Variables.empty.set ['b'] (.text ['n', 'o'])).set ['a'] (.text ['{', 'b', '}'])

theorem nested_is_substitution :
    fill nested.text referring =
        ['{', '{', 'x', '}', '}', ' ', '{', 'b', '}', ' ', '{']
      ∧ fill nested.text Variables.empty = nested.text
      ∧ fill nested.text (referring.set ['x', '}'] (.bool true)) = fill nested.text referring
      ∧ fill nested.text (referring.set ['x'] (.bool true)) = fill nested.text referring := by
  obtain ⟨p, hparts, hfill, -, hunbound, hcongr, hbrace⟩ := fill_is_substitution nested.text
  obtain rfl : nested = p := (hparts nested).mp rfl
  have hother : ∀ name ∈ nested.names,
      (referring.set ['x'] (.bool true)).get? name = referring.get? name := by decide
  exact ⟨hfill referring, hunbound _ fun name _ => rfl, hbrace _ _ _ (by decide),
    hcongr _ _ hother⟩

end Dialogue.Template
