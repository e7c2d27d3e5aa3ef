import Dialogue.Proofs.Files.Writing
import Dialogue.Proofs.Snapshot.RoundTrip
import Dialogue.Snapshot.File

/-!
# Saved snapshots

A definition that is saved where a file is, or can be, is the whole of that file, whatever the file
held before: since bytes behind a snapshot are passed over, loading it again would not tell. Nothing
else in the tree changes (`saved_is_loaded`).
-/

namespace Dialogue.Snapshot

open FileTree (NamesFile)

variable {d : Definition} {written : Text} {t t' : FileTree} {path : Path}

/-- A snapshot that was saved is loaded as the definition it was made of. -/
theorem load_put (h : Fits d) (hfile : t.NamesFile written path) :
    load written (t.put path (.file (encode d))) = .ok d := by
  have hdecode := decode_encode_append h []
  rw [List.append_nil] at hdecode
  rw [load, hfile.read_put, ofFile, hdecode]
  rfl

theorem save_ok (h : save d written t = (t', .ok ())) :
    t.write written (encode d) = (t', .ok ()) := by
  cases hwrite : t.write written (encode d) with
  | mk t₁ result =>
      rw [save, hwrite] at h
      cases result with
      | error e => cases h
      | ok => rw [(Prod.mk.inj h).1]

theorem save_error {e : SnapshotError} (h : save d written t = (t', .error e)) :
    ∃ cause, t.write written (encode d) = (t', .error cause) := by
  cases hwrite : t.write written (encode d) with
  | mk t₁ result =>
      rw [save, hwrite] at h
      cases result with
      | error cause => exact ⟨cause, by rw [(Prod.mk.inj h).1]⟩
      | ok => cases h

/-- **What is saved in a file is the whole of it, and nothing else changes.** If the path leads to a
file, or to a free place, the file is afterwards the snapshot and is loaded as the definition, and
everything else is what it was. Nothing else can be saved to but the null device. Where saving
fails, nothing changes. -/
theorem saved_is_loaded (h : Fits d) (written : Text) (t : FileTree) :
    (∀ path, t.NamesFile written path → ∃ t', save d written t = (t', .ok ())
      ∧ t'.node? path = some (.file (encode d)) ∧ t'.read written = .ok (encode d)
      ∧ load written t' = .ok d ∧ t'.workingDirectory = t.workingDirectory
      ∧ ∀ other, other ≠ path → t'.node? other = t.node? other)
    ∧ (∀ t', save d written t = (t', .ok ()) →
      (∃ path, t.NamesFile written path) ∨ t.openRead written = .ok .nullDevice ∧ t' = t)
    ∧ ∀ t' e, save d written t = (t', .error e) → t' = t := by
  refine ⟨fun path hfile => ?_, fun t' hsave => FileTree.write_ok (save_ok hsave), ?_⟩
  · have hsave : save d written t = (t.put path (.file (encode d)), .ok ()) := by
      rw [save, hfile.write_eq]
      rfl
    exact ⟨_, hsave, FileTree.node?_put_self hfile.ne_nil, hfile.read_put _, load_put h hfile, rfl,
      fun other hother => FileTree.node?_put_of_ne hother⟩
  · intro t' e hsave
    obtain ⟨cause, hwrite⟩ := save_error hsave
    exact FileTree.write_error hwrite

/-- A working directory with a file that is longer than most snapshots, and a directory. -/
def drawer : FileTree :=
  (FileTree.empty.add ['a'] (some (List.replicate 500 0xFF))).add ['d'] none

theorem odd_saved_is_loaded :
    Fits oddDefinition
      ∧ drawer.NamesFile ['.', '/', 'a'] ["work".toList, ['a']]
      ∧ drawer.NamesFile ['b'] ["work".toList, ['b']]
      ∧ (encode oddDefinition).length < 500
      ∧ (∃ t', save oddDefinition ['.', '/', 'a'] drawer = (t', .ok ())
        ∧ load ['.', '/', 'a'] t' = .ok oddDefinition)
      ∧ (∃ t', save oddDefinition ['b'] drawer = (t', .ok ())
        ∧ load ['b'] t' = .ok oddDefinition)
      ∧ ∃ e, save oddDefinition ['d'] drawer = (drawer, .error e) := by
  have hfits : Fits oddDefinition := by decide +kernel
  have hold : drawer.NamesFile ['.', '/', 'a'] ["work".toList, ['a']] :=
    ⟨_, _, _, rfl, rfl, rfl, _, rfl⟩
  have hfree : drawer.NamesFile ['b'] ["work".toList, ['b']] := ⟨_, _, _, rfl, rfl, rfl⟩
  obtain ⟨t₁, hsave₁, -, -, hload₁, -⟩ := (saved_is_loaded hfits ['.', '/', 'a'] drawer).1 _ hold
  obtain ⟨t₂, hsave₂, -, -, hload₂, -⟩ := (saved_is_loaded hfits ['b'] drawer).1 _ hfree
  have hdir : save oddDefinition ['d'] drawer =
      ((save oddDefinition ['d'] drawer).1, .error (.save ['d'] ⟨.opening, .isDirectory⟩)) := rfl
  have hsame := (saved_is_loaded hfits ['d'] drawer).2.2 _ _ hdir
  rw [hsame] at hdir
  exact ⟨hfits, hold, hfree, by decide +kernel, ⟨t₁, hsave₁, hload₁⟩, ⟨t₂, hsave₂, hload₂⟩, _, hdir⟩

end Dialogue.Snapshot
