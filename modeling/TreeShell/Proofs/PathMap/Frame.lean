import TreeShell.Proofs.Operation
import TreeShell.Proofs.PathMap.Refinement

/-!
# What making folders and writing files comes to

Whether or not it is refused, writing a file leaves every place alone but its own, and making the
folders along a path leaves every place alone that is not on the path. Neither turns a folder into
something else. When they are refused is read off the map.
-/

set_option autoImplicit false

namespace TreeShell.Snapshot

variable {s : Snapshot} {place : List String} {path content : String}

/-! ## What stays -/

/-- The map after an attempt is the one its outcome has, if it has one. -/
theorem paths_settle {α : Type} (s : Snapshot) (attempt : Attempt α) :
    (s.settle attempt).paths = match outcome attempt with
      | .ok (_, some m) => m
      | _ => s.paths := by
  cases attempt with
  | error reason => rfl
  | ok step =>
    obtain ⟨answer, next?⟩ := step
    cases next? <;> rfl

theorem entry?_settle_write (h : place ≠ s.resolve path) (content : String) :
    PathMap.entry? (s.settle (s.write path content)).paths place = s.paths.entry? place := by
  rw [paths_settle, write_refines, PathMap.write]
  split_ifs
  · rfl
  · rfl
  · rfl
  · exact Function.update_of_ne h _ _

theorem entry?_settle_ensureDirPath (h : ¬ place <+: s.resolve path) :
    PathMap.entry? (s.settle (s.ensureDirPath path)).paths place = s.paths.entry? place := by
  rw [paths_settle, ensureDirPath_refines, PathMap.ensureDirPath]
  split_ifs
  · rfl
  · rfl
  · exact if_neg h

/-- Where a file is written there was no folder, and is none. -/
theorem folder_settle_write_iff (path content : String) :
    PathMap.entry? (s.settle (s.write path content)).paths place = some .folder ↔
      s.paths.entry? place = some .folder := by
  by_cases hplace : place = s.resolve path
  · rw [paths_settle, write_refines, PathMap.write, resolve_paths, ← hplace]
    split_ifs with hroot habove hfolder
    · rfl
    · rfl
    · rfl
    · have hwritten : PathMap.entry? (s.paths.put place (some (.file content))) place =
          some (.file content) := Function.update_self _ _ _
      dsimp only
      rw [hwritten]
      exact iff_of_false (by simp) hfolder
  · rw [entry?_settle_write hplace]

theorem folder_settle_ensureDirPath (h : s.paths.entry? place = some .folder) (path : String) :
    PathMap.entry? (s.settle (s.ensureDirPath path)).paths place = some .folder := by
  by_cases hplace : place <+: s.resolve path
  · rw [paths_settle, ensureDirPath_refines, PathMap.ensureDirPath]
    split_ifs
    · exact h
    · exact h
    · exact if_pos hplace
  · rw [entry?_settle_ensureDirPath hplace, h]

/-- Making folders makes no file. -/
theorem file_of_settle_ensureDirPath
    (h : PathMap.entry? (s.settle (s.ensureDirPath path)).paths place = some (.file content)) :
    s.paths.entry? place = some (.file content) := by
  by_cases hplace : place <+: s.resolve path
  · rw [paths_settle, ensureDirPath_refines, PathMap.ensureDirPath] at h
    split_ifs at h
    · exact h
    · exact h
    · have hmade : PathMap.entry? (s.paths.pave (s.paths.resolve path)) place = some .folder :=
        if_pos hplace
      exact nomatch hmade.symm.trans h
  · rwa [entry?_settle_ensureDirPath hplace] at h

/-- What is on the way to something is a folder. -/
theorem folder_on_way {below : List String} {entry : Entry}
    (hthere : s.paths.entry? below = some entry) (hway : place <+: below) (hne : place ≠ below) :
    s.paths.entry? place = some .folder := by
  rw [entry?_paths] at hthere ⊢
  exact s.root.closed_entryAt?.folder_of_below hway hne (by simp [hthere])

/-- Folders are made along a path unless a file is in the way. -/
theorem paths_settle_ensureDirPath (h : ¬ s.paths.Blocked (s.resolve path)) :
    (s.settle (s.ensureDirPath path)).paths = s.paths.pave (s.resolve path) := by
  rw [paths_settle, ensureDirPath_refines, PathMap.ensureDirPath, resolve_paths, if_neg h]
  split_ifs with hfolder
  · -- A folder that is there has folders all along the way to it.
    have hsame : (fun other => if other <+: s.resolve path then some Entry.folder
        else s.paths.entry? other) = s.paths.entry? := by
      funext other
      split_ifs with hway
      · by_cases hend : other = s.resolve path
        · rw [hend, hfolder]
        · exact (folder_on_way hfolder hway hend).symm
      · rfl
    rw [PathMap.pave, hsame]
  · rfl

/-! ## What is refused -/

/-- A path along which no file is in the way has a folder at its end afterwards. -/
theorem ensureDirPath_of_clear (path : String) (h : ¬ s.paths.Blocked (s.resolve path)) :
    (∃ step, s.ensureDirPath path = .ok step) ∧
      PathMap.entry? (s.settle (s.ensureDirPath path)).paths (s.resolve path) = some .folder := by
  have hrefines := s.ensureDirPath_refines path
  rw [paths_settle, hrefines]
  rw [PathMap.ensureDirPath, resolve_paths, if_neg h] at hrefines ⊢
  by_cases hfolder : s.paths.entry? (s.resolve path) = some .folder
  · rw [if_pos hfolder] at hrefines ⊢
    exact ⟨⟨_, eq_of_outcome_none hrefines⟩, hfolder⟩
  · rw [if_neg hfolder] at hrefines ⊢
    obtain ⟨next, hmade, -⟩ := exists_of_outcome_some hrefines
    exact ⟨⟨_, hmade⟩, if_pos List.prefix_rfl⟩

theorem ensureDirPath_of_blocked (h : s.paths.Blocked (s.resolve path)) :
    ∃ reason, s.ensureDirPath path = .error reason ∧ reason.kind = .alreadyExists := by
  have hrefines := s.ensureDirPath_refines path
  rw [PathMap.ensureDirPath, resolve_paths, if_pos h] at hrefines
  exact exists_of_outcome_error hrefines

/-- In a folder that is there a file is written unless a folder has its name. -/
theorem write_in_folder (path : String) {above : List String} {name : String}
    (hplace : s.resolve path = above ++ [name]) (hfolder : s.paths.entry? above = some .folder)
    (content : String) :
    (s.paths.entry? (above ++ [name]) ≠ some .folder ∧
      ∃ step, s.write path content = .ok step) ∨
    (s.paths.entry? (above ++ [name]) = some .folder ∧
      ∃ reason, s.write path content = .error reason ∧ reason.kind = .alreadyExists) := by
  have hrefines := s.write_refines path content
  rw [PathMap.write, resolve_paths, hplace, if_neg (List.append_ne_nil_of_right_ne_nil _ (by simp)),
    List.dropLast_concat, hfolder, if_neg (not_not.mpr rfl)] at hrefines
  by_cases htaken : s.paths.entry? (above ++ [name]) = some .folder
  · rw [if_pos htaken] at hrefines
    exact .inr ⟨htaken, exists_of_outcome_error hrefines⟩
  · rw [if_neg htaken] at hrefines
    obtain ⟨next, hwritten, -⟩ := exists_of_outcome_some hrefines
    exact .inl ⟨htaken, _, hwritten⟩

end TreeShell.Snapshot
