import Dialogue.Files.Tree

/-!
# Following written paths

A written path that goes on behind the path of a directory leads to where the rest leads to
from that directory (`follow_append`), however many slashes stand between the two
(`follow_still`). One name behind it leads to the entry of the directory with that name
(`follow_entry`).
-/

namespace Dialogue

/-- A separator ends one part and begins the next one. -/
theorem Text.fields_append_cons {isSeparator : Char → Bool} {c : Char}
    (hc : isSeparator c = true) (s rest : Text) :
    fields isSeparator (s ++ c :: rest) = fields isSeparator s ++ fields isSeparator rest := by
  induction s with
  | nil => simp [fields, hc]
  | cons d s ih =>
      rw [List.cons_append, fields, fields, ih]
      split
      · rfl
      · cases hparts : fields isSeparator s with
        | nil => exact absurd hparts (fields_ne_nil isSeparator s)
        | cons part parts => rfl

namespace FileTree

variable {t : FileTree} {start dir names : Path} {node : FileNode} {place : Place}
  {root file : Text}

/-! ## Names -/

theorem node?_of_follow (h : t.follow start names = .ok place) :
    ∃ node, t.node? start = some node := by
  cases hnode : t.node? start with
  | some node => exact ⟨node, rfl⟩
  | none => cases names <;> simp [follow, hnode] at h

/-- Behind names that lead to something, the names that follow go on from there. -/
theorem follow_append (h : t.follow start names = .ok (.existing dir node)) (more : Path) :
    t.follow start (names ++ more) = t.follow dir more := by
  induction names generalizing start with
  | nil =>
      obtain ⟨found, hfound⟩ := node?_of_follow h
      rw [follow, hfound] at h
      obtain ⟨rfl, rfl⟩ := Place.existing.inj (Except.ok.inj h)
      rfl
  | cons name rest ih =>
      obtain ⟨found, hfound⟩ := node?_of_follow h
      simp only [List.cons_append, follow, hfound] at h ⊢
      split at h
      · cases h
      next hdir =>
      rw [if_neg hdir]
      split at h
      · next hhere => rw [if_pos hhere, ih h]
      next hhere =>
      rw [if_neg hhere]
      split at h
      · next hup => rw [if_pos hup, ih h]
      next hup =>
      rw [if_neg hup]
      split at h
      · cases h
      next hsize =>
      rw [if_neg hsize]
      split at h
      · cases h
      -- The entry is there, since the names behind it were followed.
      obtain ⟨next, hnext⟩ := node?_of_follow h
      rw [if_neg (by simp [hnext]), ih h]

/-- Empty names and single dots stay where they are. -/
theorem follow_still {still : Path} (hdir : t.node? dir = some .directory)
    (hstill : ∀ name ∈ still, name = [] ∨ name = ['.']) (more : Path) :
    t.follow dir (still ++ more) = t.follow dir more := by
  induction still with
  | nil => rfl
  | cons name rest ih =>
      obtain ⟨hname, hrest⟩ := List.forall_mem_cons.mp hstill
      simp only [List.cons_append, follow, hdir, hname, if_true, FileNode.isDirectory,
        Bool.not_true, Bool.false_eq_true, if_false, ih hrest]

/-- Names of entries, which lead neither up nor nowhere. -/
structure IsEntryName (name : Text) : Prop where
  slash : '/' ∉ name
  nonempty : name ≠ []
  here : name ≠ ['.']
  up : name ≠ ['.', '.']

theorem follow_entry (hdir : t.node? dir = some .directory) (hfile : IsEntryName file) :
    t.follow dir [file] =
      if nameLimit < Utf8.size file then .error .nameTooLong
      else match t.node? (dir ++ [file]) with
        | none => .ok (.free (dir ++ [file]))
        | some node => .ok (.existing (dir ++ [file]) node) := by
  have hhere : ¬ (file = [] ∨ file = ['.']) := not_or_intro hfile.nonempty hfile.here
  simp only [follow, hdir, FileNode.isDirectory, Bool.not_true, Bool.false_eq_true, if_false,
    hhere, hfile.up]
  split
  · rfl
  · cases t.node? (dir ++ [file]) <;> rfl

/-! ## Written paths -/

/-- The written path leads to the directory; the empty path stands for the working directory. -/
inductive Reaches (t : FileTree) : Text → Path → Prop
  | working (hdir : t.node? t.workingDirectory = some .directory) :
    t.Reaches [] t.workingDirectory
  | written {root start names dir slash} (hread : t.readPath root = .ok (start, names, slash))
    (hfollow : t.follow start names = .ok (.existing dir .directory)) : t.Reaches root dir

theorem Reaches.isDirectory (h : t.Reaches root dir) : t.node? dir = some .directory := by
  cases h with
  | working hdir => exact hdir
  | written hread hfollow =>
      have hend := follow_append hfollow []
      rw [List.append_nil, hfollow, follow] at hend
      split at hend
      · next hnode => rw [hnode]; cases hend; rfl
      · cases hend

theorem dropTrailingSlashes_concat_nil (names : Path) :
    (dropTrailingSlashes (names ++ [[]])).1 = (dropTrailingSlashes names).1 := by
  simp [dropTrailingSlashes]

theorem dropTrailingSlashes_concat (names : Path) (hfile : file ≠ []) :
    dropTrailingSlashes (names ++ [file]) = (names ++ [file], false) := by
  simp [dropTrailingSlashes, hfile]

theorem exists_empties (names : Path) :
    ∃ empties, (∀ name ∈ empties, name = []) ∧
      names = (dropTrailingSlashes names).1 ++ empties := by
  refine ⟨(names.reverse.takeWhile (· = [])).reverse, fun name hname => ?_, ?_⟩
  · simpa using List.all_eq_true.mp List.all_takeWhile name (List.mem_reverse.mp hname)
  · rw [dropTrailingSlashes, ← List.reverse_append, List.takeWhile_append_dropWhile,
      List.reverse_reverse]

theorem readPath_eq {written : Text} (hne : written ≠ []) :
    t.readPath written =
      if '\x00' ∈ written then .error .nullInPath
      else if pathLimit < Utf8.size written then .error .nameTooLong
      else .ok (if written.head? = some '/' then [] else t.workingDirectory,
        dropTrailingSlashes (splitPath written)) := by
  rw [readPath]
  by_cases hnull : '\x00' ∈ written
  · simp only [hnull]; rfl
  · by_cases hsize : pathLimit < Utf8.size written
    · simp only [hnull, hne, hsize]; rfl
    · simp only [hnull, hne, hsize]; rfl

/-- The names of a path that leads to a directory lead there; names behind them go on. -/
theorem Reaches.follow_eq (h : t.Reaches root dir) :
    t.follow (if root.head? = some '/' then [] else t.workingDirectory)
      (dropTrailingSlashes (splitPath root)).1 = .ok (.existing dir .directory) := by
  cases h with
  | working hdir =>
      show t.follow t.workingDirectory [] = _
      rw [follow, hdir]
  | written hread hfollow =>
      have hne : root ≠ [] := by
        rintro rfl
        cases hread
      rw [readPath_eq hne] at hread
      split at hread
      · cases hread
      split at hread
      · cases hread
      obtain ⟨rfl, hnames⟩ := Prod.mk.inj (Except.ok.inj hread)
      rw [hnames]
      exact hfollow

theorem Reaches.no_null (h : t.Reaches root dir) : '\x00' ∉ root := by
  cases h with
  | working => exact List.not_mem_nil
  | written hread =>
      intro hnull
      rw [readPath_eq (List.ne_nil_of_mem hnull), if_pos hnull] at hread
      cases hread

end FileTree

end Dialogue
