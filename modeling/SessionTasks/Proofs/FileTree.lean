/-
# Reading what was written

* `FileTree.readText_eq_ok_iff` : the text of a file is the one that its bytes spell;
* `FileTree.locate_write` : after a write every path leads where it led before;
* `FileTree.readText_write` : a file that was written is read back.
-/
import Mathlib
import SessionTasks.FileTree
namespace SessionTasks.FileTree

variable {tree tree' : FileTree} {path : String} {content : ByteArray}

/-! ## The text of a file -/

/-- The bytes of a text. -/
theorem fromUTF8?_eq_some_iff {bytes : ByteArray} {text : String} :
    String.fromUTF8? bytes = some text ↔ bytes = text.toUTF8 := by
  constructor
  · intro h
    unfold String.fromUTF8? at h
    split at h
    · cases h
      rfl
    · cases h
  · rintro rfl
    exact dif_pos text.isValidUTF8

theorem readText_eq (tree : FileTree) (path : String) :
    tree.readText path =
      match tree.readBytes path with
      | .error fault => .error fault
      | .ok bytes =>
        match String.fromUTF8? bytes with
        | some text => .ok text
        | none => .error .notText := by
  unfold readText
  cases tree.readBytes path with
  | error fault => rfl
  | ok bytes =>
    dsimp only [Bind.bind, Except.bind]
    cases String.fromUTF8? bytes <;> rfl

theorem readText_eq_ok_iff {text : String} :
    tree.readText path = .ok text ↔ tree.readBytes path = .ok text.toUTF8 := by
  rw [readText_eq]
  cases tree.readBytes path with
  | error fault => simp
  | ok bytes =>
    rw [Except.ok.injEq, ← fromUTF8?_eq_some_iff]
    dsimp only
    cases String.fromUTF8? bytes <;> simp

theorem readText_eq_missing_iff :
    tree.readText path = .error .missing ↔ tree.readBytes path = .error .missing := by
  rw [readText_eq]
  cases tree.readBytes path with
  | error fault => simp
  | ok bytes =>
    dsimp only
    cases String.fromUTF8? bytes <;> simp

/-! ## Writing -/

/-- **What a write leaves.**  There was no folder at the place of the path, and now there is the
file. -/
theorem write_eq_ok (h : tree.write path content = .ok tree') :
    ∃ place, tree.locate path = .ok place ∧ tree.entryAt? place ≠ some .folder ∧
      meansFolder path = false ∧
      tree' = { tree with entries := tree.entries.insert (joined place) (.file content) } := by
  unfold write at h
  cases hplace : tree.locate path with
  | error fault =>
    rw [hplace] at h
    cases h
  | ok place =>
    rw [hplace] at h
    dsimp only [Bind.bind, Except.bind] at h
    split at h
    · cases h
    · rename_i hfolder
      split at h
      · cases h
      · rename_i hmeans
        cases h
        exact ⟨place, rfl, hfolder, by simpa using hmeans, rfl⟩

/-- What stands at a place after a file was put at another or the same one. -/
theorem entryAt?_insert (tree : FileTree) (place names : List String) (entry : FileEntry) :
    entryAt? { tree with entries := tree.entries.insert (joined place) entry } names =
      if names.isPrefixOf tree.working then some .folder
      else if joined place = joined names then some entry
      else tree.entries.get? (joined names) := by
  unfold entryAt?
  dsimp only
  rw [KeyMap.get?_insert]

/-- A write makes no folder go. -/
theorem folder_write (h : tree.write path content = .ok tree') {names : List String}
    (hfolder : tree.entryAt? names = some .folder) : tree'.entryAt? names = some .folder := by
  obtain ⟨place, -, hplace, -, rfl⟩ := write_eq_ok h
  rw [entryAt?_insert]
  unfold entryAt? at hfolder hplace
  split
  · rfl
  · rename_i hworking
    rw [if_neg hworking] at hfolder
    -- the place of the file is not that of the folder
    have hne : joined place ≠ joined names := by
      intro heq
      apply hplace
      split
      · rfl
      · rw [heq, hfolder]
    rw [if_neg hne, hfolder]

/-- A path that leads somewhere leads there still where no folder has gone. -/
theorem follow_of_folders
    (h : ∀ names, tree.entryAt? names = some .folder → tree'.entryAt? names = some .folder)
    {names folder place : List String} (hfollow : tree.follow folder names = .ok place) :
    tree'.follow folder names = .ok place := by
  induction names generalizing folder with
  | nil => exact hfollow
  | cons name rest ih =>
    unfold follow at hfollow ⊢
    split at hfollow
    · cases hfollow
    · cases hfollow
    · rename_i hfolder
      rw [h folder hfolder]
      dsimp only
      split at hfollow
      · cases hfollow
      · rename_i hshort
        rw [if_neg hshort]
        exact ih hfollow

theorem working_write (h : tree.write path content = .ok tree') : tree'.working = tree.working := by
  obtain ⟨place, -, -, -, rfl⟩ := write_eq_ok h
  rfl

/-- **After a write every path leads where it led before.** -/
theorem locate_write (h : tree.write path content = .ok tree') {other : String}
    {place : List String} (hplace : tree.locate other = .ok place) :
    tree'.locate other = .ok place := by
  unfold locate startOf at hplace ⊢
  rw [working_write h]
  split at hplace
  · cases hplace
  · rename_i hfault
    exact follow_of_folders (fun names hfolder => folder_write h hfolder) hplace

/-- After a write the file stands at the place of the path. -/
theorem entryAt?_write (h : tree.write path content = .ok tree') {place : List String}
    (hplace : tree.locate path = .ok place) : tree'.entryAt? place = some (.file content) := by
  obtain ⟨place', hplace', hfolder, -, rfl⟩ := write_eq_ok h
  rw [hplace] at hplace'
  cases hplace'
  rw [entryAt?_insert, if_neg, if_pos rfl]
  intro hworking
  apply hfolder
  unfold entryAt?
  rw [if_pos hworking]

/-- **A file that was written is read back.** -/
theorem readBytes_write (h : tree.write path content = .ok tree') :
    tree'.readBytes path = .ok content := by
  obtain ⟨place, hplace, -, hmeans, -⟩ := write_eq_ok h
  unfold readBytes
  rw [locate_write h hplace]
  dsimp only [Bind.bind, Except.bind]
  rw [entryAt?_write h hplace, hmeans]
  rfl

theorem readText_write {text : String} (h : tree.write path text.toUTF8 = .ok tree') :
    tree'.readText path = .ok text :=
  readText_eq_ok_iff.2 (readBytes_write h)

end SessionTasks.FileTree
