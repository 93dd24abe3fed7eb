import TreeShell.Proofs.Durability
import TreeShell.Proofs.Path.Resolution
import TreeShell.Proofs.PathMap.Refinement
import TreeShell.Proofs.Session.Steps
import TreeShell.Proofs.Tree.Preservation
import TreeShell.Session.Settings

/-!
# Writing the settings files

The environment is kept in four files of one folder. Where that folder is there and the store is
open (`Tended`), a settings file is written or, if it is a folder, left alone, and the session goes
on either way (`run_writeSettings`). What is known of the other three stays known, because a write
is one point of the map of the tree. Where none of the four is a folder (`Free`), what was written
is in its file afterwards.

Two more facts are about what is stored. Whatever was written last, the record is that of the tree
as it is then (`Recorded`), so that the file system can be opened again as it is; and writing the
text that is there already leaves the tree just as it was (`snapshot_withSettings_same`), and with
it the record.
-/

set_option autoImplicit false

namespace TreeShell

/-- The four files the environment is kept in. -/
inductive SettingsFile where
  | limit
  | history
  | display
  | search
deriving DecidableEq, Repr

namespace SettingsFile

/-- The path of a settings file. -/
def path : SettingsFile → String
  | limit => historyLimitFile
  | history => historyFile
  | display => displayFile
  | search => searchFile

theorem path_limit : limit.path = historyLimitFile := rfl

theorem path_history : history.path = historyFile := rfl

theorem path_display : display.path = displayFile := rfl

theorem path_search : search.path = searchFile := rfl

/-- The place of a settings file. -/
def place : SettingsFile → List String
  | limit => [settingsFolder, "historyLimit.txt"]
  | history => [settingsFolder, "history.json"]
  | display => [settingsFolder, "config.json"]
  | search => [settingsFolder, "env.json"]

theorem place_injective {file other : SettingsFile} (h : file.place = other.place) :
    file = other := by
  revert h
  cases file <;> cases other <;> decide

theorem place_ne_nil (file : SettingsFile) : file.place ≠ [] := by
  cases file <;> decide

theorem dropLast_place (file : SettingsFile) : file.place.dropLast = [settingsFolder] := by
  cases file <;> rfl

end SettingsFile

theorem SettingsFile.resolve_path (file : SettingsFile) (cwd : List String) :
    Path.resolve cwd file.path = file.place := by
  rw [Path.resolve_of_isAbsolute (by cases file <;> decide)]
  cases file <;> decide

theorem resolve_settingsPath (cwd : List String) :
    Path.resolve cwd settingsPath = [settingsFolder] := by
  rw [Path.resolve_of_isAbsolute (by decide)]
  decide

namespace FileSystem

/-- The folder of the settings is there, in a tree in order, and the store is open and takes
records. -/
structure Tended (files : FileSystem) : Prop where
  wellFormed : files.snapshot.WellFormed
  opened : files.Opened
  folder : files.snapshot.paths.entry? [settingsFolder] = some .folder

/-- What is at the place of a settings file. -/
def settings? (files : FileSystem) (file : SettingsFile) : Option Entry :=
  files.snapshot.paths.entry? file.place

/-- The record is that of the tree as it is. -/
def Recorded (files : FileSystem) : Prop :=
  ∃ store, files.store? = some store ∧
    store.get? files.key = some (.document files.snapshot.toJson)

/-- A file system after a settings file was written, unless that was refused. -/
def withSettings (files : FileSystem) (file : SettingsFile) (text : String) : FileSystem :=
  (files.commit (files.snapshot.write file.path text)).2

variable {files : FileSystem} {file other : SettingsFile} {text : String}

/-! ## What is stored -/

theorem recorded_save (h : files.Opened) : files.save.2.Recorded := by
  rcases files.save_cases with ⟨store, -, -, hsave⟩ | ⟨fault, hfault, -⟩
  · rw [hsave]
    exact ⟨_, rfl, Store.get?_put_self _ _ _⟩
  · exact absurd hfault (opened_iff.mp h fault)

/-- What is recorded is found again. -/
theorem Recorded.mount (h : files.Recorded) :
    ∃ store, files.store? = some store ∧ FileSystem.mount store files.key = .ok files := by
  obtain ⟨store, hstore, hrecord⟩ := h
  refine ⟨store, hstore, ?_⟩
  rw [FileSystem.mount, load_of_get? hrecord, ← hstore]
  rfl

theorem Recorded.recordText (h : files.Recorded) :
    files.recordText? = some files.snapshot.toJson.compact := by
  obtain ⟨store, hstore, hrecord⟩ := h
  simp [recordText?, hstore, hrecord, Record.raw]

/-! ## Writing one settings file -/

/-- The folder of the settings can be made unless a file has its name. -/
theorem blocked_settings_iff {m : PathMap} :
    m.Blocked [settingsFolder] ↔ ∃ content, m.entry? [settingsFolder] = some (.file content) := by
  constructor
  · rintro ⟨way, content, hne, hway, hfile⟩
    rcases List.prefix_cons_iff.mp hway with rfl | ⟨rest, rfl, hrest⟩
    · exact absurd rfl hne
    · cases List.prefix_nil.mp hrest
      exact ⟨content, hfile⟩
  · rintro ⟨content, hfile⟩
    exact ⟨[settingsFolder], content, by simp, List.prefix_rfl, hfile⟩

/-- All that can come of writing a settings file. -/
theorem write_cases (hfolder : files.snapshot.paths.entry? [settingsFolder] = some .folder)
    (file : SettingsFile) (text : String) :
    (files.settings? file = some .folder ∧
      ∃ reason, files.snapshot.write file.path text = .error reason) ∨
    (files.settings? file ≠ some .folder ∧
      ∃ next, files.snapshot.write file.path text = .ok ⟨(), some next⟩ ∧
        next.paths = files.snapshot.paths.put file.place (some (.file text))) := by
  have hrefines := files.snapshot.write_refines file.path text
  have hplace : files.snapshot.paths.resolve file.path = file.place := file.resolve_path _
  rw [PathMap.write, hplace, if_neg file.place_ne_nil, file.dropLast_place, hfolder,
    if_neg (not_not.mpr rfl)] at hrefines
  by_cases htaken : files.snapshot.paths.entry? file.place = some .folder
  · rw [if_pos htaken] at hrefines
    obtain ⟨reason, hrefused, -⟩ := Snapshot.exists_of_outcome_error hrefines
    exact Or.inl ⟨htaken, reason, hrefused⟩
  · rw [if_neg htaken] at hrefines
    exact Or.inr ⟨htaken, Snapshot.exists_of_outcome_some hrefines⟩

/-- A folder in the place of a settings file stays there. -/
theorem Tended.withSettings_of_folder (h : files.Tended)
    (hfolder : files.settings? file = some .folder) (text : String) :
    files.withSettings file text = files := by
  rcases write_cases h.folder file text with ⟨-, reason, hrefused⟩ | ⟨hfree, -⟩
  · rw [withSettings, hrefused]
    rfl
  · exact absurd hfolder hfree

/-- Elsewhere the text is written into the file, and what the tree is then is recorded. -/
theorem Tended.withSettings_of_free (h : files.Tended)
    (hfree : files.settings? file ≠ some .folder) (text : String) :
    ∃ next, files.withSettings file text = (save { files with snapshot := next }).2 ∧
      next.paths = files.snapshot.paths.put file.place (some (.file text)) := by
  rcases write_cases h.folder file text with ⟨hfolder, -⟩ | ⟨-, next, hwritten, hnext⟩
  · exact absurd hfolder hfree
  · refine ⟨next, ?_, hnext⟩
    rw [withSettings, hwritten, commit_some]

theorem Tended.recorded_withSettings (h : files.Tended)
    (hfree : files.settings? file ≠ some .folder) (text : String) :
    (files.withSettings file text).Recorded := by
  obtain ⟨next, hnext, -⟩ := h.withSettings_of_free hfree text
  have hopen : Opened { files with snapshot := next } := h.opened
  rw [hnext]
  exact recorded_save hopen

/-- What is held in a settings file after one of them was written. -/
theorem Tended.settings?_withSettings (h : files.Tended) (file other : SettingsFile)
    (text : String) :
    (files.withSettings file text).settings? other =
      if other = file ∧ files.settings? file ≠ some .folder then some (.file text)
      else files.settings? other := by
  by_cases hfolder : files.settings? file = some .folder
  · rw [h.withSettings_of_folder hfolder, if_neg fun hboth => hboth.2 hfolder]
  · obtain ⟨next, hnext, hpaths⟩ := h.withSettings_of_free hfolder text
    rw [settings?, hnext, snapshot_save, hpaths]
    by_cases hsame : other = file
    · rw [if_pos ⟨hsame, hfolder⟩, hsame]
      exact Function.update_self _ _ _
    · rw [if_neg fun hboth => hsame hboth.1]
      exact Function.update_of_ne (fun hplace => hsame (SettingsFile.place_injective hplace)) _ _

theorem Tended.withSettings (h : files.Tended) (file : SettingsFile) (text : String) :
    (files.withSettings file text).Tended := by
  by_cases hfolder : files.settings? file = some .folder
  · rw [h.withSettings_of_folder hfolder]
    exact h
  · obtain ⟨next, hnext, hpaths⟩ := h.withSettings_of_free hfolder text
    refine ⟨?_, h.opened.commit _, ?_⟩
    · rw [FileSystem.withSettings, snapshot_commit]
      exact h.wellFormed.write _ _
    · rw [hnext, snapshot_save, hpaths]
      -- The place of a settings file is one below the folder.
      have hne : [settingsFolder] ≠ file.place := by cases file <;> decide
      exact (Function.update_of_ne hne _ _).trans h.folder

theorem read_of_settings? (hs : files.snapshot.WellFormed)
    (h : files.settings? file = some (.file text)) : files.snapshot.read file.path = .ok text := by
  refine Snapshot.read_of_entry hs ?_
  rw [Snapshot.resolve, file.resolve_path]
  exact h

/-- Writing what is there changes nothing. -/
theorem snapshot_withSettings_same (hs : files.snapshot.WellFormed)
    (h : files.settings? file = some (.file text)) :
    (files.withSettings file text).snapshot = files.snapshot := by
  rw [withSettings, snapshot_commit, Snapshot.write_eq_self hs (read_of_settings? hs h)]
  rfl

/-- Writing a part that is there already moves nothing. -/
theorem Tended.withSettings_same (h : files.Tended)
    (htext : files.settings? file = some (.file text)) :
    (files.withSettings file text).snapshot = files.snapshot ∧
      (files.withSettings file text).settings? = files.settings? ∧
      (files.withSettings file text).Tended ∧ (files.withSettings file text).Recorded := by
  have hsnapshot := snapshot_withSettings_same h.wellFormed htext
  refine ⟨hsnapshot, ?_, h.withSettings file text, h.recorded_withSettings (by simp [htext]) text⟩
  funext other
  rw [settings?, hsnapshot, settings?]

/-! ## Where no folder is in the way -/

/-- No folder is in the place of a settings file. -/
def Free (files : FileSystem) : Prop :=
  ∀ file, files.settings? file ≠ some .folder

theorem Free.settings?_withSettings (hfree : files.Free) (h : files.Tended)
    (file other : SettingsFile) (text : String) :
    (files.withSettings file text).settings? other =
      if other = file then some (.file text) else files.settings? other := by
  rw [h.settings?_withSettings]
  simp only [hfree file, ne_eq, not_false_eq_true, and_true]

theorem Free.withSettings (hfree : files.Free) (h : files.Tended) (file : SettingsFile)
    (text : String) : (files.withSettings file text).Free := by
  intro other
  rw [hfree.settings?_withSettings h]
  split
  · exact fun hfolder => nomatch hfolder
  · exact hfree other

end FileSystem

namespace Shell

open FileSystem

variable {s : Session}

theorem run_change (f : Snapshot → Attempt Unit) (s : Session) :
    (change f).run s = ((s.files.commit (f s.files.snapshot)).1,
      { s with files := (s.files.commit (f s.files.snapshot)).2 }) := rfl

/-- Where the folder of the settings is, there is nothing to be made. -/
theorem run_ensureSettings
    (hfolder : s.files.snapshot.paths.entry? [settingsFolder] = some .folder) :
    (change (·.ensureDirPath settingsPath)).run s = (.ok (), s) := by
  have hrefines := s.files.snapshot.ensureDirPath_refines settingsPath
  have hplace : s.files.snapshot.paths.resolve settingsPath = [settingsFolder] :=
    resolve_settingsPath _
  have hclear : ¬ s.files.snapshot.paths.Blocked [settingsFolder] := by
    rw [blocked_settings_iff, hfolder]
    simp
  rw [PathMap.ensureDirPath, hplace, if_neg hclear, if_pos hfolder] at hrefines
  rw [run_change, Snapshot.eq_of_outcome_none hrefines]
  rfl

/-- And where there is nothing to be made, it is there. -/
theorem folder_of_ensureDirPath {files : FileSystem}
    (h : files.snapshot.ensureDirPath settingsPath = .ok ⟨(), none⟩) :
    files.snapshot.paths.entry? [settingsFolder] = some .folder := by
  have hrefines := files.snapshot.ensureDirPath_refines settingsPath
  have hplace : files.snapshot.paths.resolve settingsPath = [settingsFolder] :=
    resolve_settingsPath _
  rw [h, PathMap.ensureDirPath, hplace] at hrefines
  split_ifs at hrefines with hblocked hthere
  · cases hrefines
  · exact hthere
  · cases hrefines

/-- Of writing a settings file only a refusal by the file system is passed over. -/
theorem run_writeSettings_eq
    (hfolder : s.files.snapshot.paths.entry? [settingsFolder] = some .folder) (file : SettingsFile)
    (text : String) :
    (writeSettings file.path text).run s =
      ((attempted (s.files.commit (s.files.snapshot.write file.path text)).1).map fun _ => (),
        { s with files := s.files.withSettings file text }) := by
  have hinstall : (install settingsPath file.path text).run s =
      (change (·.write file.path text)).run s := by
    rw [install, run_bind_of_ok (run_ensureSettings hfolder)]
  rw [writeSettings, run_bind, run_attempt, hinstall, run_change]
  cases attempted (s.files.commit (s.files.snapshot.write file.path text)).1 <;> rfl

/-- **A settings file is written or passed over**, and the session goes on. -/
theorem run_writeSettings (h : s.files.Tended) (file : SettingsFile) (text : String) :
    (writeSettings file.path text).run s =
      (.ok (), { s with files := s.files.withSettings file text }) := by
  rw [run_writeSettings_eq h.folder]
  rcases write_cases h.folder file text with ⟨-, reason, hrefused⟩ | ⟨-, next, hwritten, -⟩
  · rw [hrefused]
    rfl
  · rw [hwritten, h.opened.commit_ok]
    rfl

/-- Where the store fails, a settings file cannot be written. -/
theorem run_writeSettings_of_storeFault
    (hfolder : s.files.snapshot.paths.entry? [settingsFolder] = some .folder) {fault : Fault}
    (hfault : s.files.StoreFault fault) {file : SettingsFile}
    (hfree : s.files.settings? file ≠ some .folder) (text : String) :
    ((writeSettings file.path text).run s).1 = .error fault := by
  rw [run_writeSettings_eq hfolder]
  rcases write_cases hfolder file text with ⟨htaken, -⟩ | ⟨-, next, hwritten, -⟩
  · exact absurd htaken hfree
  · rw [hwritten, hfault.commit]
    cases hfault <;> rfl

end Shell

end TreeShell
