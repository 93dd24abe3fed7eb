import TreeShell.Proofs.Builtin.Checking
import TreeShell.Proofs.Settings.Kept

/-!
# Laying out a file system

Once the tree was forgotten, nothing is in the way of anything that `init` does (`relay`). The base
folders are made, and they are all there is (`baseTree`). Then the environment is written, the
bundled files are, the folder of programs is brought into the search path, the version is recorded,
and the home folder becomes the current one. Every step is followed exactly: it succeeds, and what
it leaves is known at every place. In the end the tree has the base folders, the bundled files, the
settings and the record, and nothing else (`FileSystem.Relaid`).

One thing can stop it, and that has nothing to do with the tree: the bound of the history is asked
for as a text (`run_layOut`).
-/

set_option autoImplicit false

namespace TreeShell

open FileSystem Shell

/-! ## The base folders -/

namespace Shell

/-- The snapshot when the folders along some paths were made one after the other, if that was not
refused. -/
def ensured? : List String → Snapshot → Option Snapshot
  | [], s => some s
  | path :: rest, s =>
    match s.ensureDirPath path with
    | .ok step => ensured? rest (step.next?.getD s)
    | .error _ => none

/-- The tree with the base folders, and nothing else. -/
def baseTree : Snapshot :=
  Snapshot.fresh.run (baseFolders.map .ensureDirPath)

theorem ensured?_baseFolders : ensured? baseFolders .fresh = some baseTree := by
  rfl

theorem run_ensureAll {paths : List String} {s : Session} {next : Snapshot}
    (hopen : s.files.Opened) (hall : ensured? paths s.files.snapshot = some next) :
    ∃ files, (paths.forM fun path => change (·.ensureDirPath path)).run s =
      (.ok (), { s with files }) ∧ files.Opened ∧ files.snapshot = next := by
  induction paths generalizing s with
  | nil => exact ⟨s.files, rfl, hopen, Option.some.inj hall⟩
  | cons path rest ih =>
    rw [ensured?] at hall
    cases hmade : s.files.snapshot.ensureDirPath path with
    | error reason =>
      rw [hmade] at hall
      exact nomatch hall
    | ok step =>
      rw [hmade] at hall
      have hrun := run_change_of_ok (f := (·.ensureDirPath path)) hopen hmade
      have hreached := hopen.commit (s.files.snapshot.ensureDirPath path)
      have hsnapshot : (s.files.commit (s.files.snapshot.ensureDirPath path)).2.snapshot =
          step.next?.getD s.files.snapshot := by
        obtain ⟨answer, next?⟩ := step
        rw [snapshot_commit, hmade]
        cases next? <;> rfl
      have hcons : ((path :: rest).forM fun path => change (·.ensureDirPath path)) =
          (change (·.ensureDirPath path) >>= fun _ =>
            rest.forM fun path => change (·.ensureDirPath path)) := rfl
      rw [hcons, run_bind_of_ok hrun]
      exact ih hreached (hsnapshot ▸ hall)

end Shell

/-- The place of the home folder. -/
def homePlace : List String := ["home", "user"]

/-- The places of the base folders. -/
def basePlaces : List (List String) :=
  baseFolders.map (Path.resolve [])

namespace Snapshot

variable {s : Snapshot} {place : List String} {content : String}

/-- Making folders makes no file. -/
theorem file_of_run_ensureDirPath {paths : List String}
    (h : PathMap.entry? (s.run (paths.map .ensureDirPath)).paths place = some (.file content)) :
    s.paths.entry? place = some (.file content) := by
  induction paths generalizing s with
  | nil => exact h
  | cons path rest ih => exact file_of_settle_ensureDirPath (ih h)

/-- And none but the folders on the way. -/
theorem entry?_run_ensureDirPath {paths : List String}
    (h : ∀ path ∈ paths, ∀ cwd, ¬ place <+: Path.resolve cwd path) :
    PathMap.entry? (s.run (paths.map .ensureDirPath)).paths place = s.paths.entry? place := by
  induction paths generalizing s with
  | nil => rfl
  | cons path rest ih =>
    obtain ⟨hoff, hrest⟩ := List.forall_mem_cons.mp h
    exact (ih hrest).trans (entry?_settle_ensureDirPath (hoff _))

theorem entry?_fresh (hne : place ≠ []) : fresh.paths.entry? place = none := by
  rw [entry?_paths]
  cases place with
  | nil => exact absurd rfl hne
  | cons name rest => cases rest <;> rfl

end Snapshot

namespace Shell

variable {place : List String} {asset : Asset}

theorem wellFormed_baseTree : baseTree.WellFormed := by
  decide +kernel

theorem entry?_baseTree_of_base :
    ∀ place ∈ basePlaces, baseTree.paths.entry? place = some .folder := by
  have hall : ∀ place ∈ basePlaces, baseTree.root.entryAt? place = some .folder := by
    decide +kernel
  intro place hplace
  rw [Snapshot.entry?_paths]
  exact hall place hplace

theorem entry?_baseTree_of_off (h : ∀ base ∈ basePlaces, ¬ place <+: base) :
    baseTree.paths.entry? place = none := by
  have hne : place ≠ [] := by
    rintro rfl
    exact h homePlace (by decide) List.nil_prefix
  refine (Snapshot.entry?_run_ensureDirPath fun path hpath cwd => ?_).trans
    (Snapshot.entry?_fresh hne)
  have habsolute : ∀ path ∈ baseFolders, Path.isAbsolute path = true := by decide
  rw [Path.resolve_of_isAbsolute (habsolute path hpath)]
  exact h _ (List.mem_map_of_mem hpath)

/-- There is no file in the tree, and no folder in the place of a bundled file. -/
theorem not_blocks_baseTree (h : asset ∈ Asset.all) : ¬ baseTree.paths.Blocks asset := by
  rintro (⟨way, content, hne, -, hfile⟩ | hfolder)
  · rw [baseTree] at hfile
    have hfresh := Snapshot.file_of_run_ensureDirPath hfile
    rw [Snapshot.entry?_fresh hne] at hfresh
    exact nomatch hfresh
  · obtain ⟨name, hplace, habove, -⟩ := Asset.exists_place h
    have hends : ∀ above ∈ Asset.folders, ∀ base ∈ basePlaces, above <+: base → above = base := by
      decide
    refine nomatch (entry?_baseTree_of_off fun base hbase hway => ?_).symm.trans hfolder
    rw [hplace] at hway
    rw [hends _ habove _ hbase ((List.prefix_append _ _).trans hway)] at hway
    exact PathMap.not_concat_prefix base name hway

end Shell

/-! ## What is in the tree in the end -/

/-- A place that an environment or the version is recorded in. -/
def RecordPlace (place : List String) : Prop :=
  (∃ file : SettingsFile, place = file.place) ∨ place = versionPlace

/-- A place that is laid out: a base folder, a bundled file, a folder above one, or a record. -/
def LaidPlace (place : List String) : Prop :=
  (∃ base ∈ basePlaces, place <+: base) ∨ (∃ asset ∈ Asset.all, place <+: asset.place) ∨
    RecordPlace place

/-- The text that a settings file is given for an environment. -/
def SettingsFile.textOf (e : Environment) : SettingsFile → String
  | limit => toString e.historyLimit
  | history => e.historyDocument.indented
  | display => e.displayDocument.indented
  | search => e.searchDocument.indented

/-- The environment as it is laid out: its history is cut to its bound, and the folder of programs
is in its search path. -/
def Environment.prepared (e : Environment) : Environment :=
  { e.bounded with path := withFolder programFolder e.path }

namespace PathMap

/-- A map with the base folders and the bundled files, and beside them nothing but records. -/
structure Furnished (m : PathMap) : Prop where
  based : ∀ place ∈ basePlaces, m.entry? place = some .folder
  assets : ∀ asset ∈ Asset.all, m.entry? asset.place = some (.file asset.content)
  others : ∀ place, ¬ LaidPlace place → m.entry? place = none

end PathMap

namespace FileSystem

/-- A file system with the base folders, the bundled files and the settings of an environment. -/
structure Stocked (e : Environment) (files : FileSystem) : Prop where
  inOrder : files.InOrder
  furnished : files.snapshot.paths.Furnished
  settings : ∀ file, files.settings? file = some (.file (file.textOf e))

/-- A file system that was laid out for an environment, at a time. -/
structure Relaid (e : Environment) (now : Moment) (files : FileSystem) : Prop
    extends files.Stocked e where
  version : files.snapshot.paths.entry? versionPlace = some (.file (versionDocument now).indented)
  cwd : files.snapshot.cwd = homePlace
  recorded : files.Recorded

end FileSystem

section Records

variable {place : List String}

theorem RecordPlace.below_settings (h : RecordPlace place) : [settingsFolder] <+: place := by
  rcases h with ⟨file, rfl⟩ | rfl
  · cases file <;> decide
  · decide

theorem not_recordPlace_of_base (h : place ∈ basePlaces) : ¬ RecordPlace place := by
  have hversion : ∀ place ∈ basePlaces, place ≠ versionPlace := by decide
  rintro (⟨file, rfl⟩ | rfl)
  · revert h
    cases file <;> decide
  · exact hversion _ h rfl

theorem recordPlace_ne_asset {asset : Asset} (hplace : RecordPlace place)
    (h : asset ∈ Asset.all) : asset.place ≠ place := by
  rintro rfl
  exact (Asset.outside_settings h).1 hplace.below_settings

theorem basePlace_ne_asset {asset : Asset} (hplace : place ∈ basePlaces)
    (hasset : asset ∈ Asset.all) : place ≠ asset.place := by
  obtain ⟨name, hasset, hfolder, -⟩ := Asset.exists_place hasset
  -- A base folder may hold bundled files, but no folder that holds them is right above one.
  have hapart : ∀ place ∈ basePlaces, place.dropLast ∉ Asset.folders := by decide
  rintro rfl
  refine hapart _ hplace ?_
  rw [hasset, List.dropLast_concat]
  exact hfolder

/-- A record may be written. -/
theorem PathMap.Furnished.of_same {m next : PathMap} (h : m.Furnished)
    (hsame : ∀ place, ¬ RecordPlace place → next.entry? place = m.entry? place) :
    next.Furnished where
  based place hplace := (hsame place (not_recordPlace_of_base hplace)).trans (h.based place hplace)
  assets asset hasset :=
    (hsame _ fun hplace => recordPlace_ne_asset hplace hasset rfl).trans (h.assets asset hasset)
  others place hoff :=
    (hsame place fun hplace => hoff (.inr (.inr hplace))).trans (h.others place hoff)

end Records

namespace FileSystem

variable {files next : FileSystem} {e : Environment} {place : List String}

theorem entry?_withSettings {file : SettingsFile} (h : place ≠ file.place) (files : FileSystem)
    (text : String) :
    PathMap.entry? (files.withSettings file text).snapshot.paths place =
      files.snapshot.paths.entry? place := by
  rw [withSettings, snapshot_commit]
  refine Snapshot.entry?_settle_write ?_ text
  rw [Snapshot.resolve, file.resolve_path]
  exact h

theorem Stocked.tended (h : files.Stocked e) : files.Tended :=
  ⟨h.inOrder.wellFormed, h.inOrder.opened, h.furnished.based _ (by decide)⟩

theorem Stocked.free (h : files.Stocked e) : files.Free := fun file hfolder =>
  nomatch (h.settings file).symm.trans hfolder

/-- The record of the version may be written. -/
theorem Stocked.of_same (h : files.Stocked e) (horder : next.InOrder)
    (hsame : ∀ place, place ≠ versionPlace →
      next.snapshot.paths.entry? place = files.snapshot.paths.entry? place) : next.Stocked e where
  inOrder := horder
  furnished := h.furnished.of_same fun place hplace =>
    hsame place fun hversion => hplace (.inr hversion)
  settings file := (hsame _ (by cases file <;> decide)).trans (h.settings file)

/-- Another search path may be written. -/
theorem Stocked.withSearch (h : files.Stocked e) (path : SearchPath) :
    (files.withSettings .search { e with path }.searchDocument.indented).Stocked
      { e with path } := by
  have htended := h.tended.withSettings .search { e with path }.searchDocument.indented
  refine ⟨⟨htended.wellFormed, htended.opened⟩, ?_, fun file => ?_⟩
  · exact h.furnished.of_same fun place hplace =>
      entry?_withSettings (fun hsearch => hplace (.inl ⟨_, hsearch⟩)) _ _
  · rw [h.free.settings?_withSettings h.tended]
    cases file with
    | search => rfl
    | _ => exact h.settings _

end FileSystem

/-! ## One step after another -/

namespace Shell

variable {s : Session}

/-- All of an environment is written, and nothing beside it. -/
theorem run_recordEnvironment {text : String} (h : s.files.Tended) (hfree : s.files.Free)
    (htext : Number.integerText s.environment.historyLimit = .ok text) :
    ∃ files : FileSystem,
      recordEnvironment.run s = (.ok (), { s with environment := s.environment.bounded, files }) ∧
      files.Tended ∧
      (∀ file, files.settings? file = some (.file (file.textOf s.environment.bounded))) ∧
      ∀ place, (∀ file : SettingsFile, place ≠ file.place) →
        files.snapshot.paths.entry? place = s.files.snapshot.paths.entry? place := by
  have hlimited := h.withSettings .limit (toString s.environment.historyLimit)
  have hsearched := hlimited.withSettings .search s.environment.searchDocument.indented
  have hdisplayed := hsearched.withSettings .display s.environment.displayDocument.indented
  obtain ⟨htended, -, hkept, htells⟩ :=
    (hfree.withSettings h .limit (toString s.environment.historyLimit)).withEnvironment hlimited
      s.environment.bounded
  refine ⟨_, ?_, htended, fun file => ?_, fun place hother => ?_⟩
  · rw [recordEnvironment, run_environment_bind, run_bind_of_ok (run_recordLimit h htext),
      run_bind_of_ok (run_recordSearch hlimited), run_bind_of_ok (run_recordDisplay hsearched),
      run_recordHistory hdisplayed]
    rfl
  · cases file with
    | limit =>
      rw [hkept, hfree.settings?_withSettings h, if_pos rfl]
      rfl
    | history =>
      obtain ⟨_, htext, rfl⟩ := htells .history (by decide)
      exact htext
    | display =>
      obtain ⟨_, htext, rfl⟩ := htells .display (by decide)
      exact htext
    | search =>
      obtain ⟨_, htext, rfl⟩ := htells .search (by decide)
      exact htext
  · rw [FileSystem.withEnvironment, entry?_withSettings (hother _),
      entry?_withSettings (hother _), entry?_withSettings (hother _),
      entry?_withSettings (hother _)]

/-- **All bundled files are written** where none is blocked. -/
theorem run_syncAll (h : s.files.InOrder)
    (hclear : ∀ asset ∈ Asset.all, ¬ s.files.snapshot.paths.Blocks asset) :
    ∃ (synced : List SyncedAsset) (files : FileSystem) (console : Console),
      (syncAssets fun _ => true).run s = (.ok synced, { s with files, console }) ∧
      SyncedAsset.failures synced = [] ∧ files.InOrder ∧
      s.files.snapshot.paths.Bundled Asset.all files.snapshot.paths := by
  obtain ⟨files, told, hrun, -, horder, hbundled, -⟩ := run_syncAssets h fun _ => true
  have hwritten : s.files.snapshot.paths.written (fun _ => true) Asset.all = Asset.all := by
    refine List.filter_eq_self.mpr fun asset hasset => ?_
    exact (List.mem_filter.mp (PathMap.mem_written.mpr ⟨hasset, rfl, hclear asset hasset⟩)).2
  have hall : ∀ asset ∈ Asset.all,
      s.files.snapshot.paths.assetWrite (fun _ => true) asset = .written := fun asset hasset => by
    rw [PathMap.assetWrite, if_pos rfl, if_neg (hclear asset hasset)]
  refine ⟨_, files, _, hrun, ?_, horder, hwritten ▸ hbundled⟩
  rw [SyncedAsset.failures, List.map_eq_nil_iff, List.filter_map, List.map_eq_nil_iff,
    List.filter_eq_nil_iff]
  intro asset hasset hfailed
  rw [Function.comp_apply, PathMap.synced, hall asset hasset] at hfailed
  cases hfailed

/-- The version is recorded, and nothing beside it. -/
theorem run_recordVersion_free (h : s.files.InOrder)
    (hsettings : s.files.snapshot.paths.entry? [settingsFolder] = some .folder)
    (hfree : s.files.snapshot.paths.entry? versionPlace ≠ some .folder) :
    ∃ files : FileSystem, recordVersion.run s = (.ok (), { s with files }) ∧ files.InOrder ∧
      files.snapshot.paths.entry? versionPlace = some (.file (versionDocument s.now).indented) ∧
      ∀ place, place ≠ versionPlace →
        files.snapshot.paths.entry? place = s.files.snapshot.paths.entry? place := by
  have hclear : ¬ s.files.snapshot.paths.VersionBlocked := by
    rintro (⟨content, hfile⟩ | hfolder)
    · exact nomatch hsettings.symm.trans hfile
    · exact hfree hfolder
  obtain ⟨files, hrun, horder, hpaths⟩ := run_recordVersion_of_clear h hclear
  refine ⟨files, hrun, horder, ?_, fun place hne => ?_⟩
  · rw [hpaths]
    exact PathMap.entry?_plant_self
  · rw [hpaths]
    exact Snapshot.entry?_plant_version _ hne (fun _ => hsettings) _

theorem resolve_homeFolder (cwd : List String) : Path.resolve cwd homeFolder = homePlace := by
  rw [Path.resolve_of_isAbsolute (by decide)]
  decide

/-- The home folder becomes the current one, and that is recorded. -/
theorem run_goHome (h : s.files.InOrder)
    (hhome : s.files.snapshot.paths.entry? homePlace = some .folder) :
    ∃ files : FileSystem,
      (change (·.changeDirectory homeFolder)).run s = (.ok (), { s with files }) ∧
      files.InOrder ∧ files.Recorded ∧
      files.snapshot.paths = { s.files.snapshot.paths with cwd := homePlace } := by
  have hrefines := s.files.snapshot.changeDirectory_refines homeFolder
  have hplace : s.files.snapshot.paths.resolve homeFolder = homePlace := resolve_homeFolder _
  rw [PathMap.changeDirectory, hplace, hhome, if_neg (not_not.mpr rfl)] at hrefines
  obtain ⟨next, hmoved, hnext⟩ := Snapshot.exists_of_outcome_some hrefines
  have hopen : Opened { s.files with snapshot := next } := h.opened
  have hsettled : s.files.snapshot.settle (s.files.snapshot.changeDirectory homeFolder) = next := by
    rw [hmoved]
    rfl
  refine ⟨_, run_change_of_ok h.opened hmoved, ⟨?_, h.opened.commit _⟩, ?_, ?_⟩
  · rw [snapshot_commit]
    exact h.wellFormed.changeDirectory homeFolder
  · rw [hmoved, commit_some]
    exact recorded_save hopen
  · rw [snapshot_commit, hsettled]
    exact hnext

/-! ## Together -/

theorem run_tellLaidOut (wasEmpty : Bool) {synced : List SyncedAsset}
    (h : SyncedAsset.failures synced = []) (s : Session) :
    ∃ console, (tellLaidOut wasEmpty synced).run s = (.ok .success, { s with console }) := by
  rw [tellLaidOut, h]
  cases wasEmpty with
  | true => exact ⟨_, rfl⟩
  | false => exact ⟨_, rfl⟩

/-- The base folders are made. -/
theorem run_ensureBase (hopen : s.files.Opened) (hfresh : s.files.snapshot = .fresh) :
    ∃ files : FileSystem,
      (baseFolders.forM fun folder => change (·.ensureDirPath folder)).run s =
        (.ok (), { s with files }) ∧ files.snapshot = baseTree ∧ files.Tended ∧ files.Free := by
  obtain ⟨files, hrun, hopened, hbase⟩ :=
    run_ensureAll hopen ((congrArg (ensured? baseFolders) hfresh).trans ensured?_baseFolders)
  refine ⟨files, hrun, hbase, ⟨hbase ▸ wellFormed_baseTree, hopened, ?_⟩, fun file hfolder => ?_⟩
  · rw [hbase]
    exact entry?_baseTree_of_base _ (by decide)
  · rw [settings?, hbase, entry?_baseTree_of_off (by cases file <;> decide)] at hfolder
    cases hfolder

/-- The bundled files are written where there are only the base folders and the records. -/
theorem run_stock {e : Environment} (h : s.files.Tended)
    (hsettings : ∀ file, s.files.settings? file = some (.file (file.textOf e)))
    (hothers : ∀ place, ¬ RecordPlace place →
      s.files.snapshot.paths.entry? place = baseTree.paths.entry? place) :
    ∃ (synced : List SyncedAsset) (files : FileSystem) (console : Console),
      (syncAssets fun _ => true).run s = (.ok synced, { s with files, console }) ∧
      SyncedAsset.failures synced = [] ∧ files.Stocked e ∧
      files.snapshot.paths.entry? versionPlace =
        s.files.snapshot.paths.entry? versionPlace := by
  -- No record is on the way to a bundled file: what blocks one here would do so over the base
  -- folders alone.
  have hclear : ∀ asset ∈ Asset.all, ¬ s.files.snapshot.paths.Blocks asset := by
    intro asset hasset hblocks
    obtain ⟨houtside, habove⟩ := Asset.outside_settings hasset
    refine not_blocks_baseTree hasset (hblocks.imp ?_ fun hfolder => ?_)
    · rintro ⟨way, content, hne, hway, hfile⟩
      refine ⟨way, content, hne, hway, ?_⟩
      rw [← hothers way fun hrecord => habove (hrecord.below_settings.trans hway)]
      exact hfile
    · rw [← hothers _ fun hrecord => houtside hrecord.below_settings]
      exact hfolder
  obtain ⟨synced, files, console, hrun, hfailures, horder, hbundled⟩ :=
    run_syncAll ⟨h.wellFormed, h.opened⟩ hclear
  refine ⟨synced, files, console, hrun, hfailures,
    ⟨horder, ⟨fun place hplace => ?_, hbundled.inPlace, fun place hoff => ?_⟩, fun file => ?_⟩, ?_⟩
  · rcases hbundled.same_or_above fun asset hasset => basePlace_ne_asset hplace hasset with
      hsame | ⟨hfolder, -⟩
    · rw [hsame, hothers place (not_recordPlace_of_base hplace)]
      exact entry?_baseTree_of_base place hplace
    · exact hfolder
  · obtain ⟨hbase, hrest⟩ := not_or.mp hoff
    obtain ⟨hbundle, hrecord⟩ := not_or.mp hrest
    rw [hbundled.others place fun asset hasset => ⟨?_, fun hway => ?_⟩, hothers place hrecord]
    · exact entry?_baseTree_of_off fun base hmem hway => hbase ⟨base, hmem, hway⟩
    · rintro rfl
      exact hbundle ⟨asset, hasset, List.prefix_rfl⟩
    · exact hbundle ⟨asset, hasset, hway.trans (Asset.folderPlace_prefix hasset)⟩
  · exact (hbundled.settings (fun _ h => h) (by cases file <;> decide)).trans (hsettings file)
  · exact hbundled.settings (fun _ h => h) (by decide)

/-- **What is done to a tree that was forgotten.** -/
theorem run_relay {text : String} (hopen : s.files.Opened) (hfresh : s.files.snapshot = .fresh)
    (htext : Number.integerText s.environment.historyLimit = .ok text) :
    ∃ (synced : List SyncedAsset) (files : FileSystem) (console : Console),
      relay.run s =
        (.ok synced, { s with environment := s.environment.prepared, files, console }) ∧
      SyncedAsset.failures synced = [] ∧ files.Relaid s.environment.prepared s.now := by
  obtain ⟨made, hmade, hbase, htended, hfree⟩ := run_ensureBase hopen hfresh
  obtain ⟨written, hwrite, htended, hsettings, hothers⟩ :=
    run_recordEnvironment (s := { s with files := made }) htended hfree htext
  rw [hbase] at hothers
  obtain ⟨synced, stocked, console, hsync, hfailures, hstocked, hversion⟩ :=
    run_stock (s := { s with environment := s.environment.bounded, files := written }) htended
      hsettings fun place hplace => hothers place fun file hsame => hplace (.inl ⟨file, hsame⟩)
  have hfree : stocked.snapshot.paths.entry? versionPlace = none := by
    rw [hversion, hothers _ (fun file => by cases file <;> decide)]
    exact entry?_baseTree_of_off (by decide)
  -- From here on the environment is as it will be in the end.
  have hprepared : (stocked.withSettings .search
      s.environment.prepared.searchDocument.indented).Stocked s.environment.prepared :=
    hstocked.withSearch _
  have hensure : (ensureOnPath programFolder).run
      { s with environment := s.environment.bounded, files := stocked, console } =
        (.ok (), { s with
          environment := s.environment.prepared
          files := stocked.withSettings .search s.environment.prepared.searchDocument.indented
          console }) := by
    rw [ensureOnPath, run_bind_of_ok (run_withEnvironment _ _)]
    exact run_recordSearch hstocked.tended
  obtain ⟨versioned, hrecord, horder, hrecorded, hothers⟩ :=
    run_recordVersion_free (s := { s with
      environment := s.environment.prepared
      files := stocked.withSettings .search s.environment.prepared.searchDocument.indented
      console }) hprepared.inOrder hprepared.tended.folder (by
        rw [entry?_withSettings (by decide), hfree]
        exact fun hfolder => nomatch hfolder)
  have hversioned : versioned.Stocked s.environment.prepared := hprepared.of_same horder hothers
  obtain ⟨last, hmove, horderLast, hsaved, hpaths⟩ :=
    run_goHome (s := { s with environment := s.environment.prepared, files := versioned, console })
      horder (hversioned.furnished.based _ (by decide))
  have hentry : last.snapshot.paths.entry? = versioned.snapshot.paths.entry? := by rw [hpaths]
  refine ⟨synced, last, console, ?_, hfailures,
    ⟨hversioned.of_same horderLast fun place _ => by rw [hentry], ?_, ?_, hsaved⟩⟩
  · rw [relay, run_bind_of_ok hmade, run_bind_of_ok hwrite, run_bind_of_ok hsync,
      run_bind_of_ok hensure, run_bind_of_ok hrecord, run_bind_of_ok hmove]
    rfl
  · rw [hentry]
    exact hrecorded
  · exact congrArg PathMap.cwd hpaths

/-- Nothing is done but the base folders when the bound of the history has no text. -/
theorem run_relay_of_error {e : Number.IntegerError} (hopen : s.files.Opened)
    (hfresh : s.files.snapshot = .fresh)
    (herror : Number.integerText s.environment.historyLimit = .error e) :
    ∃ t, relay.run s = (.error (.integer e), t) := by
  obtain ⟨made, hmade, -⟩ := run_ensureBase hopen hfresh
  have hrecord : recordEnvironment.run { s with files := made } =
      (.error (.integer e), { s with files := made }) := by
    rw [recordEnvironment, run_environment_bind, recordLimit, herror]
    rfl
  exact ⟨_, (run_bind_of_ok hmade).trans (run_bind_of_error hrecord)⟩

/-- Laying out begins with forgetting the tree. -/
theorem run_layOut_eq (hopen : s.files.Opened) (wasEmpty : Bool) :
    ∃ (files : FileSystem) (console : Console), files.Opened ∧ files.snapshot = .fresh ∧
      (layOut wasEmpty).run s = (relay >>= tellLaidOut wasEmpty).run { s with files, console } := by
  obtain ⟨console, hprint⟩ : ∃ console,
      (print "init: create base folder structure.").run s = (.ok (), { s with console }) := ⟨_, rfl⟩
  have hreset := run_change_of_ok (s := { s with console }) (f := (·.reset)) hopen rfl
  refine ⟨_, console, hopen.commit s.files.snapshot.reset, snapshot_commit _ _, ?_⟩
  rw [layOut, run_bind_of_ok hprint, run_bind_of_ok hreset]

/-- **The file system is laid out unless the bound of the history cannot be written as a text.** -/
theorem run_layOut (hopen : s.files.Opened) (wasEmpty : Bool) :
    (∃ text t, Number.integerText s.environment.historyLimit = .ok text ∧
      (layOut wasEmpty).run s = (.ok .success, t)) ∨
    ∃ e t, Number.integerText s.environment.historyLimit = .error e ∧
      (layOut wasEmpty).run s = (.error (.integer e), t) := by
  obtain ⟨files, console, hopened, hfresh, hrun⟩ := run_layOut_eq hopen wasEmpty
  rw [hrun]
  cases htext : Number.integerText s.environment.historyLimit with
  | ok text =>
    obtain ⟨synced, last, told, hrelay, hfailures, -⟩ :=
      run_relay (s := { s with files, console }) hopened hfresh htext
    obtain ⟨ended, htell⟩ := run_tellLaidOut wasEmpty hfailures
      { s with environment := s.environment.prepared, files := last, console := told }
    exact .inl ⟨text, _, rfl, (run_bind_of_ok hrelay).trans htell⟩
  | error e =>
    obtain ⟨t, hrelay⟩ := run_relay_of_error (s := { s with files, console }) hopened hfresh htext
    exact .inr ⟨e, t, rfl, run_bind_of_error hrelay⟩

end Shell

end TreeShell
