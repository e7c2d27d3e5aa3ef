import Dialogue.Projects
import Dialogue.Proofs.Files.Following

/-!
# Projects in a directory

The name of a project is refused if it could lead out of the directory. Any other name stands
for two entries of the directory, an export and a snapshot, and these are all that the project
depends on (`resolveIn_eq`): the written paths of both lead to the directory first.
-/

namespace Dialogue

theorem Utf8.size_append (s rest : Text) : size (s ++ rest) = size s + size rest := by
  rw [size, encode_append, List.length_append, size, size]

open FileTree

namespace Projects

variable {t t' : FileTree} {root name file : Text} {dir dir' : Path} {entry : Option FileNode}
  {node : FileNode}

/-! ## Reading an entry -/

/-- What is read of an entry with a name, by a written path. -/
def readEntry (written file : Text) (entry : Option FileNode) : Except FileError Bytes :=
  if '\x00' ∈ file then .error ⟨.opening, .nullInPath⟩
  else if pathLimit < Utf8.size written ∨ nameLimit < Utf8.size file then
    .error ⟨.opening, .nameTooLong⟩
  else
    match entry with
    | none => .error ⟨.opening, .notFound⟩
    | some node => (contentOf node).mapError fun cause => ⟨.transfer, cause⟩

/-- The names on the way to a file in a directory are those on the way to the directory. -/
theorem splitPath_pathIn (root : Text) (hfile : '/' ∉ file) :
    ∃ empties, (∀ name ∈ empties, name = []) ∧
      splitPath (pathIn root file) =
        (dropTrailingSlashes (splitPath root)).1 ++ (empties ++ [file]) := by
  have hsplit : splitPath file = [file] :=
    Text.fields_of_forall fun c hc => by simpa using ne_of_mem_of_not_mem hc hfile
  rw [pathIn]
  split
  · next hends =>
      rcases hends with rfl | hlast
      · exact ⟨[], nofun, hsplit⟩
      · obtain ⟨above, rfl⟩ := List.getLast?_eq_some_iff.mp hlast
        obtain ⟨empties, hempties, hnames⟩ := exists_empties (splitPath above)
        refine ⟨empties, hempties, ?_⟩
        have habove : splitPath (above ++ ['/']) = splitPath above ++ [[]] :=
          Text.fields_append_cons rfl above []
        rw [habove, dropTrailingSlashes_concat_nil, ← List.append_assoc, ← hnames, ← hsplit,
          List.append_assoc, List.singleton_append]
        exact Text.fields_append_cons rfl above file
  · obtain ⟨empties, hempties, hnames⟩ := exists_empties (splitPath root)
    refine ⟨empties, hempties, ?_⟩
    rw [← List.append_assoc, ← hnames, ← hsplit]
    exact Text.fields_append_cons rfl root file

theorem mem_pathIn {c : Char} (hc : c ≠ '/') : c ∈ pathIn root file ↔ c ∈ root ∨ c ∈ file := by
  rw [pathIn]
  split <;> simp [hc]

theorem pathIn_ne_nil (hfile : file ≠ []) : pathIn root file ≠ [] := by
  rw [pathIn]
  split <;> simp [hfile]

theorem head?_pathIn (hfile : IsEntryName file) :
    (pathIn root file).head? = some '/' ↔ root.head? = some '/' := by
  rcases root with _ | ⟨c, rest⟩
  · refine iff_of_false (fun h => hfile.slash ?_) nofun
    exact List.mem_of_mem_head? h
  · rw [pathIn]
    split <;> rfl

/-- The written path of a file in a directory leads to the directory and then to the file. -/
theorem follow_pathIn (hroot : t.Reaches root dir) (hfile : IsEntryName file) :
    t.follow (if (pathIn root file).head? = some '/' then [] else t.workingDirectory)
      (splitPath (pathIn root file)) = t.follow dir [file] := by
  obtain ⟨empties, hempties, hnames⟩ := splitPath_pathIn root hfile.slash
  rw [hnames]
  simp only [head?_pathIn hfile]
  rw [follow_append hroot.follow_eq,
    follow_still hroot.isDirectory fun name hname => .inl (hempties name hname)]

theorem readPath_pathIn (hroot : t.Reaches root dir) (hfile : IsEntryName file) :
    t.readPath (pathIn root file) =
      if '\x00' ∈ file then .error .nullInPath
      else if pathLimit < Utf8.size (pathIn root file) then .error .nameTooLong
      else .ok (if (pathIn root file).head? = some '/' then [] else t.workingDirectory,
        splitPath (pathIn root file), false) := by
  obtain ⟨empties, hempties, hnames⟩ := splitPath_pathIn root hfile.slash
  have hnull : '\x00' ∈ pathIn root file ↔ '\x00' ∈ file := by
    rw [mem_pathIn (by decide), or_iff_right hroot.no_null]
  rw [readPath_eq (pathIn_ne_nil hfile.nonempty), hnames, ← List.append_assoc,
    dropTrailingSlashes_concat _ hfile.nonempty]
  simp only [hnull]

theorem read_pathIn (hroot : t.Reaches root dir) (hfile : IsEntryName file) :
    t.read (pathIn root file) =
      readEntry (pathIn root file) file (t.node? (dir ++ [file])) := by
  have hfollow := follow_pathIn hroot hfile
  rw [follow_entry hroot.isDirectory hfile] at hfollow
  rw [FileTree.read, openRead, readPath_pathIn hroot hfile]
  unfold readEntry
  by_cases hnull : '\x00' ∈ file
  · simp only [hnull, if_true]; rfl
  by_cases hlong : pathLimit < Utf8.size (pathIn root file)
  · simp only [hnull, hlong, if_true, if_false, true_or]; rfl
  simp only [hnull, hlong, if_false, false_or, bind, Except.bind, hfollow]
  by_cases hname : nameLimit < Utf8.size file
  · simp only [hname, if_true]
  simp only [hname, if_false]
  cases t.node? (dir ++ [file]) <;> rfl

/-! ## Names of projects -/

/-- Names that could lead out of the directory. -/
def Suspect (name : Text) : Prop :=
  name = [] ∨ '/' ∈ name ∨ '\\' ∈ name ∨ ['.', '.'] <:+: name ∨ name.head? = some '.'

theorem hasDoubleDot_iff (name : Text) : hasDoubleDot name ↔ ['.', '.'] <:+: name := by
  induction name using hasDoubleDot.induct with
  | case1 rest => simpa [hasDoubleDot] using ⟨[], rest, rfl⟩
  | case2 c rest hother ih =>
      rw [hasDoubleDot, ih, List.infix_cons_iff]
      · refine (or_iff_right fun hstarts => ?_).symm
        obtain ⟨more, hmore⟩ := hstarts
        cases hmore
        exact hother more rfl rfl
      · exact hother
  | case3 => simp [hasDoubleDot]

theorem isValidName_iff (name : Text) : isValidName name ↔ ¬ Suspect name := by
  simp only [isValidName, Suspect, ← hasDoubleDot_iff, not_or, Bool.and_eq_true,
    Bool.not_eq_true', bne_iff_ne, and_assoc]
  simp

instance : DecidablePred Suspect := fun name =>
  decidable_of_iff (¬ isValidName name) ((not_congr (isValidName_iff name)).trans Classical.not_not)

/-- The name of the export of a project. -/
abbrev exportName (name : Text) : Text := name ++ ".json".toList

/-- The name of the snapshot of a project. -/
abbrev snapshotName (name : Text) : Text := name ++ ".bin".toList

theorem isEntryName_append {extension : Text} (hname : ¬ Suspect name) (hslash : '/' ∉ extension)
    (hlength : 2 < extension.length) : IsEntryName (name ++ extension) := by
  have hlong (other : Text) (hother : other.length ≤ 2) : name ++ extension ≠ other := by
    rintro rfl
    rw [List.length_append] at hother
    omega
  refine ⟨fun hmem => ?_, hlong _ (by simp), hlong _ (by simp), hlong _ (by simp)⟩
  rcases List.mem_append.mp hmem with h | h
  · exact hname (.inr (.inl h))
  · exact hslash h

theorem isEntryName_export (hname : ¬ Suspect name) : IsEntryName (exportName name) :=
  isEntryName_append hname (by decide) (by decide)

theorem isEntryName_snapshot (hname : ¬ Suspect name) : IsEntryName (snapshotName name) :=
  isEntryName_append hname (by decide) (by decide)

/-! ## Projects and their entries -/

/-- What a directory has for the export of a project. -/
def exportAt? (t : FileTree) (dir : Path) (name : Text) : Option FileNode :=
  t.node? (dir ++ [exportName name])

/-- What a directory has for the snapshot of a project. -/
def snapshotAt? (t : FileTree) (dir : Path) (name : Text) : Option FileNode :=
  t.node? (dir ++ [snapshotName name])

/-- The project with a name, from the entries of its export and its snapshot. -/
def fromEntries (root name : Text) (exported stored : Option FileNode) :
    Except ProjectError Definition :=
  match fromExport name (readEntry (pathIn root (exportName name)) (exportName name) exported) with
  | some result => result
  | none =>
    fromSnapshot name (readEntry (pathIn root (snapshotName name)) (snapshotName name) stored)

theorem resolveIn_of_suspect (h : Suspect name) (root : Text) (t : FileTree) :
    resolveIn root name t = .error (.invalidName name) := by
  have hinvalid : isValidName name = false := by
    rw [Bool.eq_false_iff]
    exact fun hvalid => (isValidName_iff name).mp hvalid h
  rw [resolveIn, hinvalid]
  rfl

/-- A project depends on its two entries only. -/
theorem resolveIn_eq (hroot : t.Reaches root dir) (hname : ¬ Suspect name) :
    resolveIn root name t =
      fromEntries root name (exportAt? t dir name) (snapshotAt? t dir name) := by
  rw [resolveIn, (isValidName_iff name).mpr hname, read_pathIn hroot (isEntryName_export hname),
    read_pathIn hroot (isEntryName_snapshot hname)]
  rfl

/-- The system takes the written path and the name at its end. -/
structure Fits (written file : Text) : Prop where
  null : '\x00' ∉ file
  path : Utf8.size written ≤ pathLimit
  name : Utf8.size file ≤ nameLimit

theorem readEntry_of_fits {written : Text} (h : Fits written file) (entry : Option FileNode) :
    readEntry written file entry =
      match entry with
      | none => .error ⟨.opening, .notFound⟩
      | some node => (contentOf node).mapError fun cause => ⟨.transfer, cause⟩ := by
  have hlimits : ¬ (pathLimit < Utf8.size written ∨ nameLimit < Utf8.size file) :=
    not_or_intro (Nat.not_lt.mpr h.path) (Nat.not_lt.mpr h.name)
  simp only [readEntry, h.null, hlimits, if_false]

/-- Reading tells that nothing is there exactly if that is so and the system looks for it. -/
theorem readEntry_notFound {written : Text} :
    (∃ stage, readEntry written file entry = .error ⟨stage, .notFound⟩) ↔
      Fits written file ∧ entry = none := by
  constructor
  · rintro ⟨stage, h⟩
    have hfits : Fits written file := by
      unfold readEntry at h
      split at h
      · cases h
      next hnull =>
      split at h
      · cases h
      next hlimits =>
      rw [not_or, Nat.not_lt, Nat.not_lt] at hlimits
      exact ⟨hnull, hlimits.1, hlimits.2⟩
    refine ⟨hfits, ?_⟩
    rw [readEntry_of_fits hfits] at h
    rcases entry with _ | _ | _ | _ | _ <;> first | rfl | cases h
  · rintro ⟨hfits, rfl⟩
    exact ⟨.opening, readEntry_of_fits hfits none⟩

theorem fromExport_eq_none {content : Except FileError Bytes} :
    fromExport name content = none ↔ ∃ stage, content = .error ⟨stage, .notFound⟩ := by
  rcases content with ⟨stage, cause⟩ | content
  · by_cases hcause : cause = .notFound <;> simp [fromExport, hcause]
  · simp only [fromExport]
    cases textOf content <;> simp

theorem fromExport_ne_notFound {content : Except FileError Bytes} :
    fromExport name content ≠ some (.error (.notFound name)) := by
  intro h
  rcases content with ⟨stage, cause⟩ | content
  · by_cases hcause : cause = .notFound <;> simp [fromExport, hcause] at h
  rw [fromExport] at h
  cases hjson : textOf content with
  | error =>
      rw [hjson] at h
      cases h
  | ok json =>
      rw [hjson] at h
      cases himport : Editor.importDefinition json <;>
        (simp only [himport] at h; cases h)

theorem fromSnapshot_eq_notFound {content : Except FileError Bytes} :
    fromSnapshot name content = .error (.notFound name) ↔
      ∃ stage, content = .error ⟨stage, .notFound⟩ := by
  rcases content with ⟨stage, cause⟩ | content
  · by_cases hcause : cause = .notFound <;> simp [fromSnapshot, hcause]
  · refine iff_of_false (fun h => ?_) nofun
    rw [fromSnapshot] at h
    cases hdecode : Snapshot.decode content <;> (rw [hdecode] at h; cases h)

theorem exists_fromExport (name written file : Text) (node : FileNode) :
    ∃ result, fromExport name (readEntry written file (some node)) = some result := by
  refine Option.ne_none_iff_exists'.mp fun hnone => ?_
  exact nomatch (readEntry_notFound.mp (fromExport_eq_none.mp hnone)).2

theorem fromEntries_of_export (root name : Text) (node : FileNode)
    (stored stored' : Option FileNode) :
    fromEntries root name (some node) stored = fromEntries root name (some node) stored' := by
  obtain ⟨result, hresult⟩ := exists_fromExport name (pathIn root (exportName name))
    (exportName name) node
  rw [fromEntries, fromEntries, hresult]

/-- The system takes the paths of the export and the snapshot. -/
structure FitsEntries (root name : Text) : Prop where
  exported : Fits (pathIn root (exportName name)) (exportName name)
  stored : Fits (pathIn root (snapshotName name)) (snapshotName name)

theorem size_pathIn (root : Text) :
    ∃ slash, ∀ file, Utf8.size (pathIn root file) = Utf8.size root + slash + Utf8.size file := by
  by_cases h : root = [] ∨ root.getLast? = some '/'
  · refine ⟨0, fun file => ?_⟩
    rw [pathIn, if_pos h, Utf8.size_append, Nat.add_zero]
  · refine ⟨1, fun file => ?_⟩
    rw [pathIn, if_neg h, List.append_cons, Utf8.size_append, Utf8.size_append]
    rfl

theorem fitsEntries (hnull : '\x00' ∉ name) (hname : Utf8.size name ≤ 250)
    (hpath : Utf8.size (pathIn root (exportName name)) ≤ pathLimit) : FitsEntries root name := by
  have hexport : Utf8.size (exportName name) = Utf8.size name + 5 :=
    Utf8.size_append _ _
  have hsnapshot : Utf8.size (snapshotName name) = Utf8.size name + 4 :=
    Utf8.size_append _ _
  have hlimit : nameLimit = 255 := rfl
  constructor
  · exact ⟨by simp [exportName, hnull], hpath, by omega⟩
  · refine ⟨by simp [snapshotName, hnull], ?_, by omega⟩
    obtain ⟨slash, hpaths⟩ := size_pathIn root
    rw [hpaths] at hpath ⊢
    omega

theorem fromEntries_of_no_export (hfits : FitsEntries root name) (stored : Option FileNode) :
    fromEntries root name none stored =
      fromSnapshot name
        (readEntry (pathIn root (snapshotName name)) (snapshotName name) stored) := by
  have hnone : fromExport name
      (readEntry (pathIn root (exportName name)) (exportName name) none) = none :=
    fromExport_eq_none.mpr (readEntry_notFound.mpr ⟨hfits.exported, rfl⟩)
  rw [fromEntries, hnone]

theorem fromEntries_eq_notFound (hfits : FitsEntries root name)
    (exported stored : Option FileNode) :
    fromEntries root name exported stored = .error (.notFound name) ↔
      exported = none ∧ stored = none := by
  cases exported with
  | none =>
      rw [fromEntries_of_no_export hfits, fromSnapshot_eq_notFound, readEntry_notFound,
        and_iff_right hfits.stored, and_iff_right rfl]
  | some node =>
      refine iff_of_false (fun h => ?_) nofun
      obtain ⟨result, hresult⟩ := exists_fromExport name (pathIn root (exportName name))
        (exportName name) node
      rw [fromEntries, hresult] at h
      exact fromExport_ne_notFound (hresult.trans (congrArg some h))

theorem fromEntries_snapshot (hfits : FitsEntries root name) (content : Bytes) :
    fromEntries root name none (some (.file content)) =
      (Snapshot.decode content).mapError fun f => .snapshot (.decode f) := by
  rw [fromEntries_of_no_export hfits, readEntry_of_fits hfits.stored]
  rfl

/-- A path that is too long for the system is an error, whatever the entries are. -/
theorem fromEntries_of_long (hnull : '\x00' ∉ name)
    (hpath : pathLimit < Utf8.size (pathIn root (exportName name)))
    (exported stored : Option FileNode) :
    fromEntries root name exported stored =
      .error (.io name SystemError.nameTooLong.message) := by
  have hname : '\x00' ∉ exportName name := by simp [exportName, hnull]
  have hread : readEntry (pathIn root (exportName name)) (exportName name) exported =
      .error ⟨.opening, .nameTooLong⟩ := by
    unfold readEntry
    rw [if_neg hname, if_pos (.inl hpath)]
  rw [fromEntries, hread]
  rfl

/-- **A project is what its two entries are.** A name that could lead out of the directory is
refused, whatever there is. Otherwise the project depends on two entries of the directory only,
and on the snapshot only if there is no export. If the system takes the name and the path of the
export, and there is no export, a snapshot that is a file is decoded, and nothing is found exactly
if there is no snapshot either. If the path is too long for the system, that is the error. -/
theorem project_depends_on_entries (root name : Text) :
    (Suspect name → ∀ t, resolveIn root name t = .error (.invalidName name))
      ∧ (∀ t t' dir dir', t.Reaches root dir → t'.Reaches root dir' →
          exportAt? t dir name = exportAt? t' dir' name →
          snapshotAt? t dir name = snapshotAt? t' dir' name →
          resolveIn root name t = resolveIn root name t')
      ∧ (∀ t t' dir dir' node, t.Reaches root dir → t'.Reaches root dir' →
          exportAt? t dir name = some node →
          exportAt? t' dir' name = some node →
          resolveIn root name t = resolveIn root name t')
      ∧ (¬ Suspect name → '\x00' ∉ name → Utf8.size name ≤ 250 →
          Utf8.size (pathIn root (exportName name)) ≤ pathLimit →
          ∀ t dir, t.Reaches root dir →
            (∀ content, exportAt? t dir name = none →
              snapshotAt? t dir name = some (.file content) →
              resolveIn root name t =
                (Snapshot.decode content).mapError fun f => .snapshot (.decode f))
            ∧ (resolveIn root name t = .error (.notFound name) ↔
              exportAt? t dir name = none ∧ snapshotAt? t dir name = none))
      ∧ (¬ Suspect name → '\x00' ∉ name →
          pathLimit < Utf8.size (pathIn root (exportName name)) →
          ∀ t dir, t.Reaches root dir →
            resolveIn root name t = .error (.io name SystemError.nameTooLong.message)) := by
  refine ⟨fun h t => resolveIn_of_suspect h root t, ?_, ?_, ?_, ?_⟩
  · intro t t' dir dir' hroot hroot' hexport hsnapshot
    by_cases hname : Suspect name
    · rw [resolveIn_of_suspect hname, resolveIn_of_suspect hname]
    · rw [resolveIn_eq hroot hname, resolveIn_eq hroot' hname, hexport, hsnapshot]
  · intro t t' dir dir' node hroot hroot' hexport hexport'
    by_cases hname : Suspect name
    · rw [resolveIn_of_suspect hname, resolveIn_of_suspect hname]
    · rw [resolveIn_eq hroot hname, resolveIn_eq hroot' hname, hexport, hexport']
      exact fromEntries_of_export root name node _ _
  · intro hname hnull hsize hpath t dir hroot
    have hfits := fitsEntries hnull hsize hpath
    rw [resolveIn_eq hroot hname]
    refine ⟨fun content hexport hsnapshot => ?_, fromEntries_eq_notFound hfits _ _⟩
    rw [hexport, hsnapshot]
    exact fromEntries_snapshot hfits content
  · intro hname hnull hpath t dir hroot
    rw [resolveIn_eq hroot hname, fromEntries_of_long hnull hpath]

/-- A directory with an export and a snapshot of different projects. -/
def shelf : FileTree :=
  ((FileTree.empty.add ['d'] none).add (['d', '/'] ++ exportName ['a']) (some [0x7B])).add
    (['d', '/'] ++ snapshotName ['b']) (some [0, 0])

/-- The same with a snapshot for the export, and with other things around. -/
def fullShelf : FileTree :=
  (shelf.add (['d', '/'] ++ snapshotName ['a']) (some [0, 0])).add (exportName ['b']) (some [])

theorem shelf_depends_on_entries :
    shelf.Reaches ['d'] ["work".toList, ['d']] ∧ fullShelf.Reaches ['d'] ["work".toList, ['d']]
      ∧ resolveIn ['d'] ['.', '.'] shelf = .error (.invalidName ['.', '.'])
      ∧ resolveIn ['d'] ['b'] shelf = resolveIn ['d'] ['b'] fullShelf
      ∧ resolveIn ['d'] ['a'] shelf = resolveIn ['d'] ['a'] fullShelf
      ∧ resolveIn ['d'] ['b'] shelf = .ok ⟨[], []⟩
      ∧ resolveIn ['d'] ['c'] shelf = .error (.notFound ['c']) := by
  have hshelf : shelf.Reaches ['d'] ["work".toList, ['d']] := .written rfl rfl
  have hfull : fullShelf.Reaches ['d'] ["work".toList, ['d']] := .written rfl rfl
  have hb := (project_depends_on_entries ['d'] ['b']).2.2.2.1 (by decide) (by decide)
    (by decide) (by decide) shelf _ hshelf
  have hc := (project_depends_on_entries ['d'] ['c']).2.2.2.1 (by decide) (by decide)
    (by decide) (by decide) shelf _ hshelf
  exact ⟨hshelf, hfull, (project_depends_on_entries ['d'] ['.', '.']).1 (by decide) shelf,
    (project_depends_on_entries ['d'] ['b']).2.1 _ _ _ _ hshelf hfull rfl rfl,
    (project_depends_on_entries ['d'] ['a']).2.2.1 _ _ _ _ _ hshelf hfull rfl rfl,
    hb.1 _ rfl rfl, hc.2.mpr ⟨rfl, rfl⟩⟩

/-- The working directory, after many steps on the spot. -/
def dotted (steps : Nat) : Text :=
  (List.replicate steps ['.', '/']).flatten

theorem splitPath_dotted (steps : Nat) :
    splitPath (dotted steps) = List.replicate steps ['.'] ++ [[]] := by
  induction steps with
  | zero => rfl
  | succ steps ih =>
      have hstep : splitPath (dotted (steps + 1)) = ['.'] :: splitPath (dotted steps) :=
        Text.fields_append_cons rfl ['.'] (dotted steps)
      rw [hstep, ih]
      rfl

theorem size_dotted (steps : Nat) : Utf8.size (dotted steps) = 2 * steps := by
  induction steps with
  | zero => rfl
  | succ steps ih =>
      have hstep : Utf8.size (dotted (steps + 1)) = 2 + Utf8.size (dotted steps) :=
        Utf8.size_append ['.', '/'] (dotted steps)
      omega

theorem reaches_dotted {steps : Nat} (hdir : t.node? t.workingDirectory = some .directory)
    (hsize : 2 * (steps + 1) ≤ pathLimit) :
    t.Reaches (dotted (steps + 1)) t.workingDirectory := by
  have hnull : '\x00' ∉ dotted (steps + 1) := by simp [dotted]
  have hlong : ¬ pathLimit < Utf8.size (dotted (steps + 1)) := by
    rw [size_dotted]
    omega
  have hnames : dropTrailingSlashes (splitPath (dotted (steps + 1))) =
      (List.replicate (steps + 1) ['.'], true) := by
    rw [splitPath_dotted, List.replicate_succ']
    simp [dropTrailingSlashes]
  have hread := @readPath_eq t (dotted (steps + 1)) (List.cons_ne_nil _ _)
  rw [if_neg hnull, if_neg hlong, hnames] at hread
  refine .written hread ?_
  rw [← List.append_nil (List.replicate (steps + 1) ['.'])]
  refine (follow_still hdir (fun name hname => .inr (List.eq_of_mem_replicate hname)) []).trans ?_
  rw [follow, hdir]

/-- Neither entry is there, and yet another error is given: the path of the export is too long. -/
theorem dotted_hides_absence :
    FileTree.empty.Reaches (dotted 2045) ["work".toList]
      ∧ ¬ Suspect ['x'] ∧ '\x00' ∉ ['x'] ∧ Utf8.size ['x'] ≤ 250
      ∧ exportAt? FileTree.empty ["work".toList] ['x'] = none
      ∧ snapshotAt? FileTree.empty ["work".toList] ['x'] = none
      ∧ resolveIn (dotted 2045) ['x'] FileTree.empty ≠ .error (.notFound ['x']) := by
  have hroot : FileTree.empty.Reaches (dotted 2045) ["work".toList] :=
    reaches_dotted rfl (by decide)
  have hname : ¬ Suspect ['x'] := by decide
  have hlong : pathLimit < Utf8.size (pathIn (dotted 2045) (exportName ['x'])) := by
    obtain ⟨slash, hpaths⟩ := size_pathIn (dotted 2045)
    have hfile : Utf8.size (exportName ['x']) = 6 := by decide
    have hlimit : pathLimit = 4095 := rfl
    rw [hpaths, size_dotted]
    omega
  refine ⟨hroot, hname, by decide, by decide, rfl, rfl, fun h => ?_⟩
  rw [resolveIn_eq hroot hname, fromEntries_of_long (by decide) hlong] at h
  cases h

end Projects

end Dialogue
