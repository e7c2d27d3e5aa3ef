import Dialogue.Proofs.Files.Following
import Dialogue.Proofs.Traversal

/-!
# Writing files

The way that the names of a path take is told step by step (`Goes`). A path names a file if its way
ends at one, or at a free place where one can be made (`NamesFile`). Writing there puts the file in
its place and nothing else (`write_eq`), and the same path leads to what was written (`read_put`).
Nothing else takes what is written but the null device, which keeps nothing (`write_ok`), and a tree
that refuses stays as it was (`write_error`).
-/

namespace Dialogue.FileTree

variable {t : FileTree} {written : Text} {start names path other : Path} {node old : FileNode}
  {place : Place} {content : Bytes}

/-! ## What is where -/

theorem find?_placeNode_self (nodes : List (Path × FileNode)) :
    ((placeNode path node nodes).find? fun n => n.1 = path) = some (path, node) := by
  induction nodes with
  | nil => simp [placeNode]
  | cons n rest ih =>
      rw [placeNode]
      by_cases hn : n.1 = path
      · simp [hn]
      · simp [hn, ih]

theorem find?_placeNode_of_ne (hother : other ≠ path) (nodes : List (Path × FileNode)) :
    ((placeNode path node nodes).find? fun n => n.1 = other) =
      nodes.find? fun n => n.1 = other := by
  induction nodes with
  | nil => simp [placeNode, hother.symm]
  | cons n rest ih =>
      rw [placeNode]
      by_cases hn : n.1 = path
      · simp [hn, hother.symm]
      · simp [hn, List.find?_cons, ih]

theorem node?_put_self (hpath : path ≠ []) : (t.put path node).node? path = some node := by
  rw [node?, if_neg hpath, put, find?_placeNode_self]
  rfl

theorem node?_put_of_ne (hother : other ≠ path) :
    (t.put path node).node? other = t.node? other := by
  rw [node?, node?, put, find?_placeNode_of_ne hother]

/-! ## The way of a path -/

theorem isDirectory_iff : node.isDirectory = true ↔ node = .directory := by
  cases node <;> simp [FileNode.isDirectory]

/-- Names that lead into a directory, to one of its entries. -/
structure Enters (name : Text) : Prop where
  here : ¬ (name = [] ∨ name = ['.'])
  up : name ≠ ['.', '.']
  size : Utf8.size name ≤ nameLimit

/-- Where names lead from a place on, one step a name. -/
inductive Goes (t : FileTree) : Path → Path → Place → Prop where
  | arrived {at_ : Path} {node : FileNode} (hnode : t.node? at_ = some node) :
      Goes t at_ [] (.existing at_ node)
  | here {at_ rest : Path} {name : Text} {place : Place} (hdir : t.node? at_ = some .directory)
      (hname : name = [] ∨ name = ['.']) (h : Goes t at_ rest place) :
      Goes t at_ (name :: rest) place
  | up {at_ rest : Path} {place : Place} (hdir : t.node? at_ = some .directory)
      (h : Goes t at_.dropLast rest place) : Goes t at_ (['.', '.'] :: rest) place
  | free {at_ : Path} {name : Text} (hdir : t.node? at_ = some .directory) (hname : Enters name)
      (hnode : t.node? (at_ ++ [name]) = none) : Goes t at_ [name] (.free (at_ ++ [name]))
  | down {at_ rest : Path} {name : Text} {place : Place} (hdir : t.node? at_ = some .directory)
      (hname : Enters name) (h : Goes t (at_ ++ [name]) rest place) :
      Goes t at_ (name :: rest) place

theorem goes_of_follow (h : t.follow start names = .ok place) : t.Goes start names place := by
  induction names generalizing start with
  | nil =>
      rw [follow] at h
      split at h
      · next hnode => exact Except.ok.inj h ▸ .arrived hnode
      · cases h
  | cons name rest ih =>
      obtain ⟨found, hfound⟩ := node?_of_follow h
      rw [follow, hfound] at h
      dsimp only at h
      split at h
      · cases h
      next hdir =>
      obtain rfl : found = .directory := isDirectory_iff.mp (by simpa using hdir)
      split at h
      · next hhere => exact .here hfound hhere (ih h)
      next hhere =>
      split at h
      · next hup => exact hup ▸ .up hfound (ih h)
      next hup =>
      split at h
      · cases h
      next hsize =>
      have hname : Enters name := ⟨hhere, hup, Nat.not_lt.mp hsize⟩
      split at h
      · next hfree =>
        obtain ⟨hnode, rfl⟩ := hfree
        exact Except.ok.inj h ▸ .free hfound hname (Option.isNone_iff_eq_none.mp hnode)
      · exact .down hfound hname (ih h)

theorem Goes.exists_node (h : t.Goes start names place) : ∃ node, t.node? start = some node := by
  cases h with
  | arrived hnode => exact ⟨_, hnode⟩
  | here hdir _ _ => exact ⟨_, hdir⟩
  | up hdir _ => exact ⟨_, hdir⟩
  | free hdir _ _ => exact ⟨_, hdir⟩
  | down hdir _ _ => exact ⟨_, hdir⟩

theorem Goes.follow (h : t.Goes start names place) : t.follow start names = .ok place := by
  induction h with
  | arrived hnode => rw [FileTree.follow, hnode]
  | here hdir hname _ ih => simp [FileTree.follow, hdir, FileNode.isDirectory, hname, ih]
  | up hdir _ ih => simp [FileTree.follow, hdir, FileNode.isDirectory, ih]
  | free hdir hname hnode =>
      simp [FileTree.follow, hdir, FileNode.isDirectory, hname.here, hname.up,
        Nat.not_lt.mpr hname.size, hnode]
  | down hdir hname hrest ih =>
      obtain ⟨next, hnext⟩ := hrest.exists_node
      simp [FileTree.follow, hdir, FileNode.isDirectory, hname.here, hname.up,
        Nat.not_lt.mpr hname.size, hnext, ih]

theorem Goes.node?_existing (h : t.Goes start names (.existing path node)) :
    t.node? path = some node := by
  generalize hplace : Place.existing path node = place at h
  induction h with
  | arrived hnode =>
      cases hplace
      exact hnode
  | here _ _ _ ih => exact ih hplace
  | up _ _ ih => exact ih hplace
  | free => cases hplace
  | down _ _ _ ih => exact ih hplace

theorem Goes.node?_free (h : t.Goes start names (.free path)) : t.node? path = none := by
  generalize hplace : Place.free path = place at h
  induction h with
  | arrived => cases hplace
  | here _ _ _ ih => exact ih hplace
  | up _ _ ih => exact ih hplace
  | free _ _ hnode =>
      cases hplace
      exact hnode
  | down _ _ _ ih => exact ih hplace

/-! ## Where files are or can be -/

/-- A place for a file: there is one, or there is nothing. -/
def Place.IsForFile (path : Path) : Place → Prop
  | .existing path' node => path' = path ∧ ∃ content, node = .file content
  | .free path' => path' = path

/-- The written path leads to a file, or to a free place where a file can be made. -/
def NamesFile (t : FileTree) (written : Text) (path : Path) : Prop :=
  ∃ start names place, t.readPath written = .ok (start, names, false)
    ∧ t.follow start names = .ok place ∧ place.IsForFile path

/-- No directory is there. -/
def IsLeaf (t : FileTree) (path : Path) : Prop :=
  t.node? path ≠ some .directory

theorem IsLeaf.ne_nil (h : t.IsLeaf path) : path ≠ [] := by
  rintro rfl
  exact h rfl

theorem Goes.isLeaf (h : t.Goes start names place) (hplace : place.IsForFile path) :
    t.IsLeaf path := by
  cases place with
  | existing path' node =>
      obtain ⟨rfl, content, rfl⟩ := hplace
      rw [IsLeaf, h.node?_existing]
      nofun
  | free path' =>
      obtain rfl := hplace
      rw [IsLeaf, h.node?_free]
      nofun

theorem NamesFile.ne_nil (h : t.NamesFile written path) : path ≠ [] := by
  obtain ⟨start, names, place, -, hfollow, hplace⟩ := h
  exact ((goes_of_follow hfollow).isLeaf hplace).ne_nil

/-- The way to a file leads there still when another file has been put in its place. -/
theorem Goes.put (h : t.Goes start names place) (hplace : place.IsForFile path) :
    (t.put path node).Goes start names (.existing path node) := by
  have hleaf := h.isLeaf hplace
  have hself : (t.put path node).node? path = some node := node?_put_self hleaf.ne_nil
  -- All directories on the way are elsewhere, and so they are still there.
  have hstill {dir : Path} (hdir : t.node? dir = some .directory) :
      (t.put path node).node? dir = some .directory := by
    rw [node?_put_of_ne, hdir]
    rintro rfl
    exact hleaf hdir
  induction h with
  | arrived =>
      obtain ⟨rfl, -⟩ := hplace
      exact .arrived hself
  | here hdir hname _ ih => exact .here (hstill hdir) hname (ih hplace)
  | up hdir _ ih => exact .up (hstill hdir) (ih hplace)
  | free hdir hname _ =>
      obtain rfl := hplace
      exact .down (hstill hdir) hname (.arrived hself)
  | down hdir hname _ ih => exact .down (hstill hdir) hname (ih hplace)

/-! ## Reading and writing -/

theorem NamesFile.openWrite (h : t.NamesFile written path) :
    ∃ old, t.openWrite written = .ok (path, .file old) := by
  obtain ⟨start, names, place, hread, hfollow, hplace⟩ := h
  cases place with
  | existing path' node =>
      obtain ⟨rfl, content, rfl⟩ := hplace
      refine ⟨content, ?_⟩
      simp only [FileTree.openWrite, hread, hfollow, bind, Except.bind, FileNode.isDirectory]
      rfl
  | free path' =>
      obtain rfl := hplace
      refine ⟨[], ?_⟩
      simp only [FileTree.openWrite, hread, hfollow, bind, Except.bind]
      rfl

/-- Writing puts the file in its place and does nothing else. -/
theorem NamesFile.write_eq (h : t.NamesFile written path) (content : Bytes) :
    t.write written content = (t.put path (.file content), .ok ()) := by
  obtain ⟨old, hopen⟩ := h.openWrite
  rw [write, hopen]

/-- What was put in the place of a file is read by the path that led there. -/
theorem NamesFile.read_put (h : t.NamesFile written path) (content : Bytes) :
    (t.put path (.file content)).read written = .ok content := by
  obtain ⟨start, names, place, hread, hfollow, hplace⟩ := h
  have hread' : (t.put path (.file content)).readPath written = .ok (start, names, false) := hread
  have hgoes : (t.put path (.file content)).Goes start names (.existing path (.file content)) :=
    (goes_of_follow hfollow).put hplace
  simp only [FileTree.read, openRead, hread', hgoes.follow, bind, Except.bind]
  rfl

/-- What is opened for writing is there, and no directory, or it is new. -/
theorem openWrite_ok (h : t.openWrite written = .ok (path, node)) :
    ∃ start names, t.readPath written = .ok (start, names, false)
      ∧ (t.follow start names = .ok (.existing path node) ∧ node ≠ .directory
        ∨ t.follow start names = .ok (.free path) ∧ node = .file []) := by
  obtain ⟨⟨start, names, slash⟩, hread, h⟩ := ok_of_bind h
  dsimp only at h
  cases slash with
  | true =>
      obtain ⟨_, -, h⟩ := ok_of_bind h
      cases h
  | false =>
      refine ⟨start, names, hread, ?_⟩
      obtain ⟨place, hfollow, h⟩ := ok_of_bind h
      cases place with
      | existing path' node' =>
          dsimp only at h
          split at h
          · cases h
          next hdir =>
          cases h
          exact .inl ⟨hfollow, fun hnode => hdir (isDirectory_iff.mpr hnode)⟩
      | free path' =>
          cases h
          exact .inr ⟨hfollow, rfl⟩

/-- Only files and the null device take what is written, and the null device keeps nothing. -/
theorem write_ok {t' : FileTree} (h : t.write written content = (t', .ok ())) :
    (∃ path, t.NamesFile written path) ∨ t.openRead written = .ok .nullDevice ∧ t' = t := by
  cases hopen : t.openWrite written with
  | error cause =>
      rw [write, hopen] at h
      cases h
  | ok opened =>
      obtain ⟨path, node⟩ := opened
      obtain ⟨start, names, hread, ⟨hfollow, hnode⟩ | ⟨hfollow, rfl⟩⟩ := openWrite_ok hopen
      · cases node with
        | file old => exact .inl ⟨path, start, names, _, hread, hfollow, rfl, old, rfl⟩
        | directory => exact absurd rfl hnode
        | nullDevice =>
            rw [write, hopen] at h
            cases h
            refine .inr ⟨?_, rfl⟩
            simp only [openRead, hread, hfollow, bind, Except.bind]
            rfl
        | fullDevice =>
            rw [write, hopen] at h
            cases h
      · exact .inl ⟨path, start, names, _, hread, hfollow, rfl⟩

/-- A tree that refuses what is written stays as it was. -/
theorem write_error {t' : FileTree} {e : FileError} (h : t.write written content = (t', .error e)) :
    t' = t := by
  cases hopen : t.openWrite written with
  | error cause =>
      rw [write, hopen] at h
      cases h
      rfl
  | ok opened =>
      obtain ⟨path, node⟩ := opened
      rw [write, hopen] at h
      cases node with
      | file old => cases h
      | directory => cases h
      | nullDevice => cases h
      | fullDevice =>
          cases h
          rfl

end Dialogue.FileTree
