import TreeShell.Proofs.Builtin.Bundle
import TreeShell.Proofs.Builtin.Returning
import TreeShell.Proofs.PathMap.Frame
import TreeShell.Proofs.Settings.Loading

/-!
# What `init` meets in the tree

The bundled files are written one by one, each of them tried, and none of them is among the
settings: what is there stays as it was (`Untouched`). The record of their version comes last, and
it is written without being tried. Something may be in its way: a file in place of the folder of the
settings, or a folder in its own place (`VersionBlocked`).
-/

set_option autoImplicit false

namespace TreeShell

open FileSystem

/-! ## Bundled files -/

namespace Shell

/-- What holds of open file systems and is kept up when bundled files are written. -/
structure Untouched (I : FileSystem → Prop) : Prop where
  opened : ∀ files, I files → files.Opened
  ensured : ∀ asset ∈ Asset.all, ∀ files, I files →
    I (files.commit (files.snapshot.ensureDirPath asset.folder)).2
  written : ∀ asset ∈ Asset.all, ∀ files, I files →
    I (files.commit (files.snapshot.write asset.path asset.content)).2

variable {I : FileSystem → Prop}

theorem untouched_opened : Untouched Opened :=
  ⟨fun _ h => h, fun _ _ _ h => h.commit _, fun _ _ _ h => h.commit _⟩

theorem Untouched.refusable_install (h : Untouched I) {asset : Asset} (hasset : asset ∈ Asset.all) :
    Refusable I (install asset.folder asset.path asset.content) :=
  Shell.refusable_install (refusable_change h.opened (h.ensured asset hasset))
    (refusable_change h.opened (h.written asset hasset))

theorem Untouched.installAsset (h : Untouched I) {asset : Asset} (hasset : asset ∈ Asset.all) :
    Returns I (installAsset asset) := by
  refine (h.refusable_install hasset).attempt.bind fun result => ?_
  cases result with
  | ok done => exact returns_pure _
  | error reason => exact (returns_print _).returning _

theorem Untouched.syncAsset (h : Untouched I) (toWrite : AssetState → Bool) {asset : Asset}
    (hasset : asset ∈ Asset.all) : Returns I (syncAsset toWrite asset) := by
  refine (returns_view _).bind fun state => ?_
  dsimp only
  split
  · exact (h.installAsset hasset).returning _
  · exact returns_pure _

/-- **The bundled files are compared and written, whatever is in the tree.** -/
theorem Untouched.syncAssets (h : Untouched I) (toWrite : AssetState → Bool) :
    Returns I (syncAssets toWrite) :=
  Returns.mapM fun _ hasset => h.syncAsset toWrite hasset

/-- The file systems whose settings are those of a map. -/
def SettingsOf (m : PathMap) (files : FileSystem) : Prop :=
  files.Opened ∧ ∀ place, [settingsFolder] <+: place →
    files.snapshot.paths.entry? place = m.entry? place

theorem untouched_settingsOf (m : PathMap) : Untouched (SettingsOf m) where
  opened := fun _ h => h.1
  ensured := by
    intro asset hasset files h
    obtain ⟨-, houtside⟩ := Asset.outside_settings hasset
    refine ⟨h.1.commit _, fun place hplace => ?_⟩
    have hoff : ¬ place <+: files.snapshot.resolve asset.folder := by
      rw [Snapshot.resolve, Asset.resolve_folder hasset]
      exact fun hway => houtside (hplace.trans hway)
    rw [snapshot_commit, Snapshot.entry?_settle_ensureDirPath hoff]
    exact h.2 place hplace
  written := by
    intro asset hasset files h
    obtain ⟨houtside, -⟩ := Asset.outside_settings hasset
    refine ⟨h.1.commit _, fun place hplace => ?_⟩
    have hother : place ≠ files.snapshot.resolve asset.path := by
      rw [Snapshot.resolve, Asset.resolve_path hasset]
      rintro rfl
      exact houtside hplace
    rw [snapshot_commit, Snapshot.entry?_settle_write hother]
    exact h.2 place hplace

end Shell

/-! ## Installing a file -/

/-- Something is in the way of a file that is to be installed: a file on the way to its folder, or a
folder in its own place. -/
def PathMap.Obstructed (m : PathMap) (above : List String) (name : String) : Prop :=
  m.Blocked above ∨ m.entry? (above ++ [name]) = some .folder

namespace PathMap

/-- The map with a file at a place, and folders on the way to it. -/
def plant (m : PathMap) (above : List String) (name content : String) : PathMap :=
  (m.pave above).put (above ++ [name]) (some (.file content))

variable {m : PathMap} {above place : List String} {name content : String}

theorem not_concat_prefix (above : List String) (name : String) : ¬ above ++ [name] <+: above := by
  intro hprefix
  have hlength := hprefix.length_le
  rw [List.length_append, List.length_singleton] at hlength
  omega

theorem entry?_plant_self : entry? (m.plant above name content) (above ++ [name]) =
    some (.file content) :=
  Function.update_self _ _ _

theorem entry?_plant_of_prefix (h : place <+: above) :
    entry? (m.plant above name content) place = some .folder := by
  have hne : place ≠ above ++ [name] := by
    rintro rfl
    exact not_concat_prefix above name h
  exact (Function.update_of_ne hne _ _).trans (if_pos h)

theorem entry?_plant_of_ne (hne : place ≠ above ++ [name]) (h : ¬ place <+: above) :
    entry? (m.plant above name content) place = m.entry? place :=
  (Function.update_of_ne hne _ _).trans (if_neg h)

end PathMap

namespace Shell

variable {s : Session} {folder path name : String} {above : List String}

/-- Where something is in its way, a file is not installed and nothing is changed. -/
theorem run_install_of_obstructed
    (hfolder : ∀ cwd, Path.resolve cwd folder = above)
    (hpath : ∀ cwd, Path.resolve cwd path = above ++ [name]) (content : String)
    (h : s.files.snapshot.paths.Obstructed above name) :
    ∃ reason, (install folder path content).run s = (.error (.files reason), s) ∧
      reason.kind = .alreadyExists := by
  have hplace : s.files.snapshot.resolve folder = above := hfolder _
  by_cases hblocked : s.files.snapshot.paths.Blocked above
  · obtain ⟨reason, hrefused, hkind⟩ := Snapshot.ensureDirPath_of_blocked (hplace ▸ hblocked)
    exact ⟨reason, run_bind_of_error (run_change_of_error hrefused), hkind⟩
  · have htaken := h.resolve_left hblocked
    -- What is in the place of the file is in a folder, so there is no folder to be made.
    have habove : s.files.snapshot.paths.entry? above = some .folder := by
      refine s.files.snapshot.root.closed_entryAt? above name [] ?_
      rw [← Snapshot.entry?_paths, htaken]
      simp
    have hnothing : s.files.snapshot.ensureDirPath folder = .ok ⟨(), none⟩ := by
      refine Snapshot.eq_of_outcome_none ?_
      rw [Snapshot.ensureDirPath_refines, PathMap.ensureDirPath, Snapshot.resolve_paths, hplace,
        if_neg hblocked, if_pos habove]
    have hsame : (change (·.ensureDirPath folder)).run s = (.ok (), s) := by
      rw [run_change, hnothing]
      rfl
    rcases Snapshot.write_in_folder path (hpath _) habove content with ⟨hfree, -⟩ |
      ⟨-, reason, hrefused, hkind⟩
    · exact absurd htaken hfree
    · exact ⟨reason, (run_bind_of_ok hsame).trans (run_change_of_error hrefused), hkind⟩

/-- Elsewhere a file is put in its place, with folders on the way to it. -/
theorem run_install_of_clear (hopen : s.files.Opened)
    (hfolder : ∀ cwd, Path.resolve cwd folder = above)
    (hpath : ∀ cwd, Path.resolve cwd path = above ++ [name]) (content : String)
    (h : ¬ s.files.snapshot.paths.Obstructed above name) :
    ∃ files : FileSystem, (install folder path content).run s = (.ok (), { s with files }) ∧
      files.Opened ∧ (s.files.snapshot.WellFormed → files.snapshot.WellFormed) ∧
      files.snapshot.paths = s.files.snapshot.paths.plant above name content := by
  obtain ⟨hclear, htaken⟩ := not_or.mp h
  have hplace : s.files.snapshot.resolve folder = above := hfolder _
  have hclear' : ¬ s.files.snapshot.paths.Blocked (s.files.snapshot.resolve folder) :=
    hplace.symm ▸ hclear
  obtain ⟨⟨step, hmade⟩, -⟩ := Snapshot.ensureDirPath_of_clear folder hclear'
  have hreached := hopen.commit (s.files.snapshot.ensureDirPath folder)
  have hpaved := Snapshot.paths_settle_ensureDirPath hclear'
  have hkeeps (hs : s.files.snapshot.WellFormed) := hs.ensureDirPath folder
  rw [← snapshot_commit] at hpaved hkeeps
  rw [hplace] at hpaved
  rw [install, run_bind_of_ok (run_change_of_ok (f := (·.ensureDirPath folder)) hopen hmade)]
  generalize (s.files.commit (s.files.snapshot.ensureDirPath folder)).2 = files
    at hpaved hreached hkeeps
  have hthere : files.snapshot.paths.entry? above = some .folder := by
    rw [hpaved]
    exact if_pos List.prefix_rfl
  have hfree : files.snapshot.paths.entry? (above ++ [name]) ≠ some .folder := by
    rw [hpaved]
    exact (if_neg (PathMap.not_concat_prefix above name)).trans_ne htaken
  rcases Snapshot.write_in_folder path (hpath _) hthere content with
    ⟨-, step, hwritten⟩ | ⟨hfolder, -⟩
  · refine ⟨_, run_change_of_ok hreached hwritten, hreached.commit _, fun hs => ?_, ?_⟩
    · rw [snapshot_commit]
      exact (hkeeps hs).write path content
    · rw [snapshot_commit, Snapshot.paths_settle, Snapshot.write_refines, PathMap.write,
        Snapshot.resolve_paths, show files.snapshot.resolve path = above ++ [name] from hpath _,
        if_neg (List.append_ne_nil_of_right_ne_nil _ (by simp)), List.dropLast_concat, hthere,
        if_neg (not_not.mpr rfl), if_neg hfree, hpaved]
      rfl
  · exact absurd hfolder hfree

/-- **A file is installed unless something is in its way.** -/
theorem run_install (hopen : s.files.Opened) (hfolder : ∀ cwd, Path.resolve cwd folder = above)
    (hpath : ∀ cwd, Path.resolve cwd path = above ++ [name]) (content : String) :
    (¬ s.files.snapshot.paths.Obstructed above name ∧
      ∃ t, (install folder path content).run s = (.ok (), t)) ∨
    (s.files.snapshot.paths.Obstructed above name ∧ ∃ reason t,
      (install folder path content).run s = (.error (.files reason), t) ∧
        reason.kind = .alreadyExists) := by
  by_cases h : s.files.snapshot.paths.Obstructed above name
  · obtain ⟨reason, hrun, hkind⟩ := run_install_of_obstructed hfolder hpath content h
    exact .inr ⟨h, reason, s, hrun, hkind⟩
  · obtain ⟨files, hrun, -⟩ := run_install_of_clear hopen hfolder hpath content h
    exact .inl ⟨h, _, hrun⟩

/-! ## The record of the version -/

/-- The place of the file with the version of the installed files. -/
def versionPlace : List String := [settingsFolder, "assets-version.json"]

theorem resolve_versionFile (cwd : List String) : Path.resolve cwd versionFile = versionPlace := by
  rw [Path.resolve_of_isAbsolute (by decide)]
  decide

end Shell

open Shell

/-- Something is in the way of the record of the version: a file in place of the folder of the
settings, or a folder in its own place. -/
def PathMap.VersionBlocked (m : PathMap) : Prop :=
  (∃ content, m.entry? [settingsFolder] = some (.file content)) ∨
    m.entry? versionPlace = some .folder

theorem PathMap.obstructed_version_iff {m : PathMap} :
    m.Obstructed [settingsFolder] "assets-version.json" ↔ m.VersionBlocked :=
  or_congr blocked_settings_iff Iff.rfl

namespace Shell

variable {s : Session}

/-- **The record of the version is written unless something is in its way.** -/
theorem run_recordVersion (hopen : s.files.Opened) :
    (¬ s.files.snapshot.paths.VersionBlocked ∧ ∃ t, recordVersion.run s = (.ok (), t)) ∨
    (s.files.snapshot.paths.VersionBlocked ∧ ∃ reason t,
      recordVersion.run s = (.error (.files reason), t) ∧ reason.kind = .alreadyExists) := by
  rw [recordVersion, run_get_bind, ← PathMap.obstructed_version_iff]
  exact run_install hopen resolve_settingsPath resolve_versionFile _

/-! ## Comparing -/

/-- A file has a document with a whole number that is too long to be read. -/
def NumberTooLong (s : Snapshot) (path : String) (digits : Nat) : Prop :=
  ∃ content, s.read path = .ok content ∧ Json.parse content = .error (.integerTooLong digits)

/-- A document is read, or counts as empty, unless a whole number in it is too long. -/
theorem run_readSettings_cases (path : String) (s : Session) :
    ((∀ digits, ¬ NumberTooLong s.files.snapshot path digits) ∧
      ∃ document, (readSettings path).run s = (.ok document, s)) ∨
    ∃ digits, NumberTooLong s.files.snapshot path digits ∧
      (readSettings path).run s = (.error (.integer (.tooLong digits)), s) := by
  rw [readSettings, run_bind, run_attempt_look]
  unfold NumberTooLong
  cases s.files.snapshot.read path with
  | error reason =>
    refine .inl ⟨?_, .null, rfl⟩
    rintro digits ⟨_, hread, -⟩
    cases hread
  | ok content =>
    dsimp only
    cases hparse : Json.parse content with
    | ok document =>
      refine .inl ⟨?_, document, rfl⟩
      rintro digits ⟨_, hread, hlong⟩
      cases hread
      cases hparse.symm.trans hlong
    | error e =>
      cases e with
      | malformed =>
        refine .inl ⟨?_, .null, rfl⟩
        rintro digits ⟨_, hread, hlong⟩
        cases hread
        cases hparse.symm.trans hlong
      | integerTooLong digits => exact .inr ⟨digits, ⟨content, rfl, hparse⟩, rfl⟩

theorem returns_printPaths {I : FileSystem → Prop} (heading : String) (paths : List String) :
    Returns I (printPaths heading paths) :=
  holds_ite (returns_pure _) (returns_printLines _)

/-- What follows in `init --check` when the record of the version was read. -/
theorem returns_checkReport (line : String) :
    Returns Opened (do
      print line
      let synced ← syncAssets fun _ => false
      let total := toString synced.length
      let count (state : AssetState) := toString (SyncedAsset.inState state synced).length
      print ("init: checked " ++ total ++ "/" ++ total ++ " assets: " ++ count .unchanged ++
        " ok, " ++ count .missing ++ " missing, " ++ count .outdated ++ " outdated.")
      printPaths "init: missing:" (SyncedAsset.inState .missing synced)
      printPaths "init: outdated:" (SyncedAsset.inState .outdated synced)
      printBlank
      return Outcome.success) :=
  (returns_print line).bind fun _ => (untouched_opened.syncAssets _).bind fun _ =>
    (returns_print _).bind fun _ => (returns_printPaths _ _).bind fun _ =>
      (returns_printPaths _ _).bind fun _ => (returns_print _).returning _

/-- **The comparison is told unless the record of the version cannot be read for a number.** -/
theorem run_checkAssets (hopen : s.files.Opened) :
    ((∀ digits, ¬ NumberTooLong s.files.snapshot versionFile digits) ∧
      ∃ outcome t, checkAssets.run s = (.ok outcome, t)) ∨
    ∃ digits, NumberTooLong s.files.snapshot versionFile digits ∧
      checkAssets.run s = (.error (.integer (.tooLong digits)), s) := by
  rcases run_readSettings_cases versionFile s with
    ⟨hshort, document, hread⟩ | ⟨digits, hlong, hread⟩
  · have hversion : ∃ version, installedVersion.run s = (.ok version, s) :=
      ⟨_, run_bind_of_ok hread⟩
    obtain ⟨version, hversion⟩ := hversion
    refine .inl ⟨hshort, ?_⟩
    rw [checkAssets, run_bind_of_ok hversion]
    -- Whatever is printed about the versions, the same steps follow.
    exact Returns.ends (holds_ite (returns_checkReport _)
      (holds_ite (returns_checkReport _) (returns_checkReport _))) hopen
  · have hversion : installedVersion.run s = (.error (.integer (.tooLong digits)), s) :=
      run_bind_of_error hread
    exact .inr ⟨digits, hlong, run_bind_of_error hversion⟩

/-! ## Updating -/

/-- **The missing and the outdated files are written; and if all of them could be, the record of the
version is written, unless something is in its way.** -/
theorem run_updateAssets (hopen : s.files.Opened) :
    ∃ synced reached, (syncAssets (· != .unchanged)).run s = (.ok synced, reached) ∧
      ((¬ (SyncedAsset.failures synced = [] ∧ s.files.snapshot.paths.VersionBlocked) ∧
        ∃ outcome t, updateAssets.run s = (.ok outcome, t)) ∨
      ((SyncedAsset.failures synced = [] ∧ s.files.snapshot.paths.VersionBlocked) ∧
        ∃ reason t, updateAssets.run s = (.error (.files reason), t) ∧
          reason.kind = .alreadyExists)) := by
  obtain ⟨synced, reached, hsync, hopened, hsame⟩ :=
    (untouched_settingsOf s.files.snapshot.paths).syncAssets (· != .unchanged) s
      ⟨hopen, fun _ _ => rfl⟩
  refine ⟨synced, reached, hsync, ?_⟩
  have hblocked : reached.files.snapshot.paths.VersionBlocked ↔
      s.files.snapshot.paths.VersionBlocked := by
    rw [PathMap.VersionBlocked, hsame _ List.prefix_rfl, hsame versionPlace (by decide)]
    rfl
  rw [updateAssets, run_bind_of_ok hsync]
  dsimp only
  -- Printing does nothing to the files: the record is written where the bundled files have led.
  obtain ⟨_, told, htold, htoldFiles⟩ :=
    returns_print (I := (· = reached.files)) _ reached rfl
  rw [run_bind_of_ok htold]
  obtain ⟨_, listed, hlisted, hfiles⟩ :=
    returns_printPaths (I := (· = reached.files)) _ _ told htoldFiles
  rw [run_bind_of_ok hlisted]
  cases hfailures : SyncedAsset.failures synced with
  | cons path rest =>
    refine .inl ⟨?_, _, _, rfl⟩
    rintro ⟨hnil, -⟩
    exact nomatch hnil
  | nil =>
    rw [← hfiles] at hopened hblocked
    rw [List.isEmpty_nil, if_pos rfl]
    rcases run_recordVersion hopened with ⟨hclear, recorded, hrecord⟩ |
      ⟨htaken, reason, recorded, hrecord, hkind⟩
    · rw [run_bind_of_ok hrecord]
      have hclear : ¬ s.files.snapshot.paths.VersionBlocked := mt hblocked.mpr hclear
      exact .inl ⟨fun hboth => hclear hboth.2, _, _, rfl⟩
    · exact .inr ⟨⟨rfl, hblocked.mp htaken⟩, reason, recorded, run_bind_of_error hrecord, hkind⟩

end Shell

end TreeShell
