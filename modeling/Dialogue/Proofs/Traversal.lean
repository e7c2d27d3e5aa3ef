import Mathlib.Data.List.Forall2

/-!
# Going through lists

What it is to be the first element of a list that has a property (`IsFirst`), also where the list is
put together from others (`isFirst_flatMap`). What comes of steps that may fail: something behind
the last of them comes of what all of them gave (`ok_of_bind`). A conversion that may fail on each
element succeeds on a list if it succeeds on every element (`mapM_of_forall`); otherwise it ends
with what the first element fails with (`mapM_eq_error_iff`).
-/

namespace Dialogue

variable {α β ε : Type} {p : α → Prop} {xs : List α} {x : α}

/-! ## First elements -/

/-- The first element of a list that has a property. -/
def IsFirst {α : Type} (p : α → Prop) (xs : List α) (x : α) : Prop :=
  ∃ before after, xs = before ++ x :: after ∧ p x ∧ ∀ y ∈ before, ¬ p y

theorem isFirst_iff [DecidablePred p] : IsFirst p xs x ↔ xs.find? p = some x := by
  rw [List.find?_eq_some_iff_append]
  constructor
  · rintro ⟨before, after, hxs, hx, hbefore⟩
    exact ⟨decide_eq_true hx, before, after, hxs, by simpa using hbefore⟩
  · rintro ⟨hx, before, after, hxs, hbefore⟩
    exact ⟨before, after, hxs, of_decide_eq_true hx, by simpa using hbefore⟩

theorem not_isFirst_nil : ¬ IsFirst p [] x := by
  rintro ⟨before, after, hnil, -⟩
  cases before <;> cases hnil

theorem isFirst_cons {a : α} :
    IsFirst p (a :: xs) x ↔ (p a ∧ x = a) ∨ (¬ p a ∧ IsFirst p xs x) := by
  constructor
  · rintro ⟨before, after, hxs, hx, hbefore⟩
    cases before with
    | nil =>
        obtain ⟨rfl, -⟩ := List.cons.inj hxs
        exact .inl ⟨hx, rfl⟩
    | cons b before =>
        obtain ⟨rfl, rfl⟩ := List.cons.inj hxs
        obtain ⟨ha, hbefore⟩ := List.forall_mem_cons.mp hbefore
        exact .inr ⟨ha, before, after, rfl, hx, hbefore⟩
  · rintro (⟨hx, rfl⟩ | ⟨ha, before, after, rfl, hx, hbefore⟩)
    · exact ⟨[], xs, rfl, hx, nofun⟩
    · exact ⟨a :: before, after, rfl, hx, List.forall_mem_cons.mpr ⟨ha, hbefore⟩⟩

theorem isFirst_append {ys : List α} :
    IsFirst p (xs ++ ys) x ↔ IsFirst p xs x ∨ ((∀ y ∈ xs, ¬ p y) ∧ IsFirst p ys x) := by
  induction xs with
  | nil => simp [not_isFirst_nil]
  | cons a xs ih =>
      rw [List.cons_append, isFirst_cons, isFirst_cons, ih, List.forall_mem_cons]
      tauto

/-- The first element is found in the first of the lists that has one. -/
theorem isFirst_flatMap {f : β → List α} {ys : List β} :
    IsFirst p (ys.flatMap f) x ↔
      ∃ y, IsFirst (fun y => ∃ x ∈ f y, p x) ys y ∧ IsFirst p (f y) x := by
  induction ys with
  | nil => simp [not_isFirst_nil]
  | cons b ys ih =>
      have hsome (h : IsFirst p (f b) x) : ∃ x ∈ f b, p x := by
        obtain ⟨before, after, hb, hx, -⟩ := h
        exact ⟨x, hb ▸ List.mem_append_right _ List.mem_cons_self, hx⟩
      rw [List.flatMap_cons, isFirst_append, ih]
      simp only [isFirst_cons]
      constructor
      · rintro (hb | ⟨hnone, y, hy, hx⟩)
        · exact ⟨b, .inl ⟨hsome hb, rfl⟩, hb⟩
        · exact ⟨y, .inr ⟨fun ⟨x, hx, hp⟩ => hnone x hx hp, hy⟩, hx⟩
      · rintro ⟨y, ⟨-, rfl⟩ | ⟨hnone, hy⟩, hx⟩
        · exact .inl hx
        · exact .inr ⟨fun x hx hp => hnone ⟨x, hx, hp⟩, y, hy, hx⟩

theorem isFirst_map {f : β → α} {ys : List β} :
    IsFirst p (ys.map f) x ↔ ∃ y, IsFirst (fun y => p (f y)) ys y ∧ x = f y := by
  induction ys with
  | nil => simp [not_isFirst_nil]
  | cons b ys ih =>
      rw [List.map_cons, isFirst_cons, ih]
      simp only [isFirst_cons]
      constructor
      · rintro (⟨hb, rfl⟩ | ⟨hb, y, hy, rfl⟩)
        · exact ⟨b, .inl ⟨hb, rfl⟩, rfl⟩
        · exact ⟨y, .inr ⟨hb, hy⟩, rfl⟩
      · rintro ⟨y, ⟨hb, rfl⟩ | ⟨hb, hy⟩, rfl⟩
        · exact .inl ⟨hb, rfl⟩
        · exact .inr ⟨hb, y, hy, rfl⟩

theorem exists_isFirst_iff : (∃ x, IsFirst p xs x) ↔ ∃ x ∈ xs, p x := by
  induction xs with
  | nil => simp [not_isFirst_nil]
  | cons a xs ih =>
      simp only [isFirst_cons, List.exists_mem_cons_iff, ← ih]
      by_cases ha : p a
      · exact iff_of_true ⟨a, .inl ⟨ha, rfl⟩⟩ (.inl ha)
      · simp [ha]

/-- To search for what passes one test and then to look it up is to search for what passes the
test and can be looked up. -/
theorem findSome?_filter (p : α → Bool) (g : α → Option β) (xs : List α) :
    (xs.filter p).findSome? g = (xs.find? fun x => p x && (g x).isSome).bind g := by
  induction xs with
  | nil => rfl
  | cons x xs ih =>
      by_cases hp : p x
      · rcases hg : g x with _ | y
        · simp [hp, hg, ih]
        · simp [hp, hg]
      · simp [hp, ih]

/-! ## Steps that may fail -/

/-- What came before, if something was read behind it. -/
theorem ok_of_bind {x : Except ε α} {next : α → Except ε β} {b : β}
    (h : (x >>= next) = .ok b) : ∃ a, x = .ok a ∧ next a = .ok b := by
  cases x with
  | error e => cases h
  | ok a => exact ⟨a, rfl, h⟩

variable {g : α → Except ε β}

/-- Where every element becomes something, the list does. -/
theorem mapM_of_forall {becomes : α → β → Prop} (h : ∀ x ∈ xs, ∃ y, g x = .ok y ∧ becomes x y) :
    ∃ ys, xs.mapM g = .ok ys ∧ List.Forall₂ becomes xs ys := by
  induction xs with
  | nil => exact ⟨[], rfl, .nil⟩
  | cons x xs ih =>
      obtain ⟨⟨y, hy, hbecomes⟩, hxs⟩ := List.forall_mem_cons.mp h
      obtain ⟨ys, hys, hall⟩ := ih hxs
      refine ⟨y :: ys, ?_, .cons hbecomes hall⟩
      rw [List.mapM_cons, hy, hys]
      rfl

theorem mapM_eq_error_iff {e : ε} :
    xs.mapM g = .error e ↔ ∃ x, IsFirst (fun x => ∃ e, g x = .error e) xs x ∧ g x = .error e := by
  induction xs with
  | nil => simp [not_isFirst_nil, pure, Except.pure]
  | cons a xs ih =>
      rw [List.mapM_cons]
      simp only [isFirst_cons]
      cases ha : g a with
      | error e' =>
          constructor
          · rintro ⟨⟩
            exact ⟨a, .inl ⟨⟨_, rfl⟩, rfl⟩, ha⟩
          · rintro ⟨x, ⟨-, rfl⟩ | ⟨hnone, -⟩, hx⟩
            · obtain rfl := Except.error.inj (ha.symm.trans hx)
              rfl
            · exact absurd ⟨_, rfl⟩ hnone
      | ok b =>
          have hrest : (do return (b :: (← xs.mapM g)) : Except ε (List β)) = .error e ↔
              xs.mapM g = .error e := by
            cases xs.mapM g <;> simp [bind, Except.bind, pure, Except.pure]
          show (do return (b :: (← xs.mapM g)) : Except ε (List β)) = .error e ↔ _
          rw [hrest, ih]
          simp

end Dialogue
