import TreeShell.Proofs.Builtin.Checking

/-!
# Bringing the bundled files up to date

`init --update` writes every bundled file that nothing is in the way of, and tells which are blocked
(`Snapshot.isBlocked`). Beyond those files it makes no more than the folders above them and the
record of the version (`Snapshot.Updates`). It tells how many files it found in which state, and how
many it could not write (`Snapshot.updateReport`). What it leaves is a fixed point: the files that
were blocked are missing still and no other is out of date, so a second run writes none
(`update_converges`).

The record of the version is written only when no file is blocked. So with a file blocked, a record
that cannot be read stays, and stops the comparison that follows; that is the one thing that keeps
`init --check` from telling what is missing.
-/

set_option autoImplicit false

namespace TreeShell

open FileSystem Shell

namespace Snapshot

/-- A bundled file cannot be written: its path is a folder, or some path on the way to it a file. -/
def isBlocked (s : Snapshot) (asset : Asset) : Bool :=
  s.isFolder asset.path || asset.folderPlace.inits.any fun way => s.isFile (Path.display way)

/-- The bundled files that cannot be written. -/
def blockedAssets (s : Snapshot) : List Asset :=
  Asset.all.filter s.isBlocked

/-- The bundled files that can be brought up to date: those that are missing, and then those that
are out of date. -/
def staleAssets (s : Snapshot) : List Asset :=
  (s.assetsIn .missing ++ s.assetsIn .outdated).filter (!s.isBlocked ·)

/-- What `init --update` tells about the files it brings up to date in a tree. -/
def updateReport (s : Snapshot) : List String :=
  let count (assets : List Asset) := toString assets.length
  let failed := if s.blockedAssets.isEmpty then "" else ", " ++ count s.blockedAssets ++ " failed"
  ("init: updated " ++ count s.staleAssets ++ "/" ++ count Asset.all ++ " assets (" ++
      count (s.assetsIn .unchanged) ++ " unchanged" ++ failed ++ ").") ::
    pathLines "init: updated files:" (s.staleAssets.map Asset.path)

/-- What bringing the bundled files up to date makes of a tree. -/
structure Updates (s t : Snapshot) : Prop where
  cwd : t.cwd = s.cwd
  inPlace : ∀ asset ∈ Asset.all, s.isBlocked asset = false → t.read asset.path = .ok asset.content
  blocked : ∀ asset ∈ Asset.all, s.isBlocked asset = true →
    t.paths.entry? asset.place = s.paths.entry? asset.place
  others : ∀ place, (∀ asset ∈ Asset.all, place ≠ asset.place) → place ≠ [settingsFolder] →
    place ≠ versionPlace → t.paths.entry? place = s.paths.entry? place ∨
      s.paths.entry? place = none ∧ t.paths.entry? place = some .folder ∧
        ∃ asset ∈ Asset.all, s.isBlocked asset = false ∧ place <+: asset.folderPlace

variable {s : Snapshot} {asset : Asset} {content : String}

theorem isBlocked_iff (hs : s.WellFormed) (hasset : asset ∈ Asset.all) :
    s.isBlocked asset = true ↔ s.paths.Blocks asset := by
  obtain ⟨name, -, hfolder, hresolve⟩ := Asset.exists_place hasset
  have hplace : s.resolve asset.path = asset.place := (hresolve _).1
  have hfile (way : List String) (hway : way <+: asset.folderPlace) :
      s.isFile (Path.display way) = true ↔
        ∃ content, s.paths.entry? way = some (.file content) := by
    obtain ⟨rest, hrest⟩ := hway
    have hnames := Asset.areNames_folders _ hfolder
    rw [← hrest, Path.areNames_append] at hnames
    rw [isFile_iff hs, resolve, Path.resolve_display_of_areNames hnames.1]
  rw [isBlocked, Bool.or_eq_true, isFolder_iff, hplace, List.any_eq_true, PathMap.Blocks, or_comm]
  refine or_congr_left ⟨?_, ?_⟩
  · rintro ⟨way, hway, hisFile⟩
    rw [List.mem_inits] at hway
    obtain ⟨content, hcontent⟩ := (hfile way hway).mp hisFile
    refine ⟨way, content, ?_, hway, hcontent⟩
    rintro rfl
    cases hcontent
  · rintro ⟨way, content, -, hway, hcontent⟩
    exact ⟨way, (List.mem_inits _ _).mpr hway, (hfile way hway).mpr ⟨content, hcontent⟩⟩

/-- A file that is in its place is not blocked. -/
theorem not_blocks_of_file (hasset : asset ∈ Asset.all)
    (hfile : s.paths.entry? asset.place = some (.file content)) : ¬ s.paths.Blocks asset := by
  rintro (⟨way, other, -, hway, hother⟩ | hfolder)
  · have hne : way ≠ asset.place := by
      rintro rfl
      exact Asset.not_prefix_folderPlace hasset hasset hway
    have habove := folder_on_way hfile (hway.trans (Asset.folderPlace_prefix hasset)) hne
    cases hother.symm.trans habove
  · cases hfile.symm.trans hfolder

theorem assetState_of_blocks (hasset : asset ∈ Asset.all)
    (hblocks : s.paths.Blocks asset) : s.paths.assetState asset = .missing := by
  rw [PathMap.assetState]
  split
  · rename_i hfile
    exact absurd hblocks (not_blocks_of_file hasset hfile)
  · rfl

theorem assetState_eq_unchanged_iff :
    s.paths.assetState asset = .unchanged ↔
      s.paths.entry? asset.place = some (.file asset.content) := by
  rw [PathMap.assetState]
  split
  · rename_i content hfile
    rw [hfile]
    split_ifs with hsame
    · simp [hsame]
    · simp [hsame]
  · rename_i hnot
    exact iff_of_false (by simp) (hnot _)

end Snapshot

/-! ## The files that are written -/

namespace PathMap

variable {m next : PathMap} {toWrite : AssetState → Bool} {asset : Asset}

/-- Of a file that was not written nothing has changed. -/
theorem Bundled.entry?_of_not_written (h : m.Bundled (m.written toWrite Asset.all) next)
    (hasset : asset ∈ Asset.all) (hnot : asset ∉ m.written toWrite Asset.all) :
    next.entry? asset.place = m.entry? asset.place := by
  refine h.entry?_place (fun a ha => (mem_written.mp ha).1) hasset fun a ha hplace => hnot ?_
  exact Asset.eq_of_place (mem_written.mp ha).1 hasset hplace ▸ ha

/-- Places that are neither bundled files nor above any are left alone, and folders that were there
as well. -/
theorem Bundled.others_or (h : m.Bundled (m.written toWrite Asset.all) next)
    {place : List String} (hplace : ∀ asset ∈ Asset.all, place ≠ asset.place) :
    next.entry? place = m.entry? place ∨
      next.entry? place = some .folder ∧ ∃ asset ∈ Asset.all, place <+: asset.folderPlace ∧
        ¬ m.Blocks asset := by
  refine (h.same_or_above fun a ha => hplace a (mem_written.mp ha).1).imp_right ?_
  rintro ⟨hmade, asset, hasset, hway⟩
  obtain ⟨hmem, -, hclear⟩ := mem_written.mp hasset
  exact ⟨hmade, asset, hmem, hway, hclear⟩

end PathMap

namespace Snapshot

variable {s : Snapshot} {next : PathMap} {asset : Asset}

/-- A file that is not unchanged is written unless it is blocked. -/
theorem mem_written_changed (hasset : asset ∈ Asset.all) :
    asset ∈ s.paths.written (· != .unchanged) Asset.all ↔
      s.paths.entry? asset.place ≠ some (.file asset.content) ∧ ¬ s.paths.Blocks asset := by
  rw [PathMap.mem_written, bne_iff_ne, ne_eq, assetState_eq_unchanged_iff]
  exact and_iff_right hasset

theorem entry?_of_updated (h : s.paths.Bundled (s.paths.written (· != .unchanged) Asset.all) next)
    (hasset : asset ∈ Asset.all) (hclear : ¬ s.paths.Blocks asset) :
    next.entry? asset.place = some (.file asset.content) := by
  by_cases hsame : s.paths.entry? asset.place = some (.file asset.content)
  · rw [h.entry?_of_not_written hasset fun hmem =>
      ((mem_written_changed hasset).mp hmem).1 hsame, hsame]
  · exact h.inPlace asset ((mem_written_changed hasset).mpr ⟨hsame, hclear⟩)

theorem entry?_of_blocks (h : s.paths.Bundled (s.paths.written (· != .unchanged) Asset.all) next)
    (hasset : asset ∈ Asset.all) (hblocks : s.paths.Blocks asset) :
    next.entry? asset.place = s.paths.entry? asset.place :=
  h.entry?_of_not_written hasset fun hmem => ((mem_written_changed hasset).mp hmem).2 hblocks

/-- The files that could not be written are the blocked ones. -/
theorem failures_updated (hs : s.WellFormed) :
    SyncedAsset.failures (Asset.all.map (s.paths.synced (· != .unchanged))) =
      s.blockedAssets.map Asset.path := by
  rw [SyncedAsset.failures, List.filter_map, List.map_map, blockedAssets]
  refine congrArg (List.map Asset.path) (List.filter_congr fun asset hasset => ?_)
  rw [Bool.eq_iff_iff, isBlocked_iff hs hasset]
  simp only [Function.comp_apply, PathMap.synced, PathMap.assetWrite, beq_iff_eq]
  by_cases hblocks : s.paths.Blocks asset
  · rw [assetState_of_blocks hasset hblocks, if_pos (by decide), if_pos hblocks]
    exact iff_of_true rfl hblocks
  · rw [if_neg hblocks]
    refine iff_of_false ?_ hblocks
    split_ifs <;> simp

theorem failed_updated (hs : s.WellFormed) :
    s.paths.failed (· != .unchanged) Asset.all = s.blockedAssets := by
  refine List.filter_congr fun asset hasset => ?_
  rw [Bool.eq_iff_iff, isBlocked_iff hs hasset, decide_eq_true_iff, PathMap.assetWrite]
  by_cases hblocks : s.paths.Blocks asset
  · rw [assetState_of_blocks hasset hblocks, if_pos (by decide), if_pos hblocks]
    exact iff_of_true rfl hblocks
  · rw [if_neg hblocks]
    refine iff_of_false ?_ hblocks
    split_ifs <;> simp

theorem inState_updated (hs : s.WellFormed) (state : AssetState) :
    SyncedAsset.inState state (Asset.all.map (s.paths.synced (· != .unchanged))) =
      (s.assetsIn state).map Asset.path := by
  rw [SyncedAsset.inState, List.filter_map, List.map_map, assetsIn]
  refine congrArg (List.map Asset.path) (List.filter_congr fun asset hasset => ?_)
  rw [assetState_paths hs hasset]
  rfl

/-- What is missing and what is out of date is what has changed. -/
theorem perm_changed (s : Snapshot) :
    (s.assetsIn .missing ++ s.assetsIn .outdated).Perm
      (Asset.all.filter (s.assetState · != .unchanged)) := by
  have hsplit := List.filter_append_perm (s.assetState · == .missing)
    (Asset.all.filter (s.assetState · != .unchanged))
  rw [List.filter_filter, List.filter_filter] at hsplit
  refine List.Perm.trans (List.Perm.of_eq ?_) hsplit
  refine congrArg₂ (· ++ ·) (List.filter_congr fun asset _ => ?_)
    (List.filter_congr fun asset _ => ?_)
  · cases s.assetState asset <;> rfl
  · cases s.assetState asset <;> rfl

theorem writtenCount_updated (hs : s.WellFormed) :
    SyncedAsset.writtenCount (Asset.all.map (s.paths.synced (· != .unchanged))) =
      s.staleAssets.length := by
  rw [SyncedAsset.writtenCount, List.filter_map, List.length_map, staleAssets,
    (s.perm_changed.filter _).length_eq, List.filter_filter]
  refine congrArg List.length (List.filter_congr fun asset hasset => ?_)
  have hwritten : s.paths.assetWrite (· != .unchanged) asset = .written ↔
      s.assetState asset ≠ .unchanged ∧ s.isBlocked asset = false := by
    rw [PathMap.assetWrite, ← assetState_paths hs hasset, ← Bool.not_eq_true,
      isBlocked_iff hs hasset]
    split_ifs <;> simp_all
  rw [Bool.eq_iff_iff, Function.comp_apply, PathMap.synced, beq_iff_eq, hwritten]
  simp [and_comm]

/-- The files whose paths are told are those that could be written. -/
theorem changed_updated (s : Snapshot) :
    ((s.assetsIn .missing).map Asset.path ++ (s.assetsIn .outdated).map Asset.path).filter
        (!(s.blockedAssets.map Asset.path).contains ·) = s.staleAssets.map Asset.path := by
  rw [← List.map_append, List.filter_map, staleAssets]
  refine congrArg (List.map Asset.path) (List.filter_congr fun asset hmem => ?_)
  have hasset : asset ∈ Asset.all := by
    rcases List.mem_append.mp hmem with hmem | hmem
    · exact List.mem_of_mem_filter hmem
    · exact List.mem_of_mem_filter hmem
  rw [Function.comp_apply, Bool.eq_iff_iff, Bool.not_eq_true', Bool.not_eq_true',
    ← Bool.not_eq_true, ← Bool.not_eq_true, List.contains_iff_mem, List.mem_map]
  refine not_congr ⟨?_, fun hblocked => ⟨asset, List.mem_filter.mpr ⟨hasset, hblocked⟩, rfl⟩⟩
  rintro ⟨other, hother, hpath⟩
  obtain ⟨hmem, hblocked⟩ := List.mem_filter.mp hother
  rwa [← List.inj_on_of_nodup_map Asset.nodup_path hmem hasset hpath]

end Snapshot

/-! ## The command -/

namespace Shell

variable {s : Session}

/-- The tree after the bundled files were written, what was told of that, and what is done then:
with all of them written, the version is recorded unless something is in the way of that. -/
theorem run_updateAssets_cases (h : s.files.InOrder) :
    ∃ (files : FileSystem) (told : List String), files.InOrder ∧
      s.files.snapshot.paths.Bundled
        (s.files.snapshot.paths.written (· != .unchanged) Asset.all) files.snapshot.paths ∧
      ((∀ asset ∈ Asset.all,
        s.files.snapshot.paths.assetWrite (· != .unchanged) asset ≠ .written) → files = s.files) ∧
      FailuresTold s.files.snapshot.blockedAssets told ∧
      ((s.files.snapshot.blockedAssets ≠ [] ∧
          updateAssets.run s = (.ok assetsFailed, Session.printed
            (told ++ s.files.snapshot.updateReport ++ [""]) { s with files })) ∨
        (s.files.snapshot.blockedAssets = [] ∧ files.snapshot.paths.VersionBlocked ∧
          ∃ reason, updateAssets.run s = (.error (.files reason), Session.printed
            (told ++ s.files.snapshot.updateReport) { s with files })) ∨
        (s.files.snapshot.blockedAssets = [] ∧ ∃ last : FileSystem,
          last.InOrder ∧ last.snapshot.paths = files.snapshot.paths.plant [settingsFolder]
            "assets-version.json" (versionDocument s.now).indented ∧
          updateAssets.run s = (.ok .success, Session.printed
            (told ++ s.files.snapshot.updateReport ++
              ["init: installed assets version is now " ++ Asset.version ++ ".", ""])
            { s with files := last }))) := by
  obtain ⟨files, told, hsync, htold, hfiles, hbundled, hsame⟩ :=
    run_syncAssets h (· != .unchanged)
  rw [Snapshot.failed_updated h.wellFormed] at htold
  refine ⟨files, told, hfiles, hbundled, hsame, htold, ?_⟩
  have hreport : updateAssets.run s =
      Shell.run (if s.files.snapshot.blockedAssets.isEmpty then do
          recordVersion
          print ("init: installed assets version is now " ++ Asset.version ++ ".")
          printBlank
          return .success
        else do
          printBlank
          return assetsFailed)
        (Session.printed (told ++ s.files.snapshot.updateReport) { s with files }) := by
    rw [updateAssets, run_bind_of_ok hsync, Snapshot.failures_updated h.wellFormed,
      Snapshot.writtenCount_updated h.wellFormed, Snapshot.inState_updated h.wellFormed,
      Snapshot.inState_updated h.wellFormed, Snapshot.inState_updated h.wellFormed]
    dsimp only
    rw [Snapshot.changed_updated, List.length_map, List.length_map, List.length_map,
      List.isEmpty_map, run_bind_of_ok (prints_print _ _).run,
      run_bind_of_ok (prints_printPaths _ _ _).run, Session.printed_printed,
      Session.printed_printed]
    rfl
  rw [hreport]
  cases hblocked : s.files.snapshot.blockedAssets with
  | cons asset rest =>
    refine .inl ⟨List.cons_ne_nil _ _, ?_⟩
    rw [List.isEmpty_cons, if_neg Bool.false_ne_true, ← Session.printed_printed _ [""]]
    rfl
  | nil =>
    rw [List.isEmpty_nil, if_pos rfl]
    by_cases hversion : files.snapshot.paths.VersionBlocked
    · obtain ⟨reason, hrun⟩ := run_recordVersion_of_blocked (s := Session.printed
        (told ++ s.files.snapshot.updateReport) { s with files }) hversion
      exact .inr (.inl ⟨rfl, hversion, reason, run_bind_of_error hrun⟩)
    · obtain ⟨last, hrun, hlast, hpaths⟩ := run_recordVersion_of_clear (s := Session.printed
        (told ++ s.files.snapshot.updateReport) { s with files }) hfiles hversion
      refine .inr (.inr ⟨rfl, last, hlast, hpaths, ?_⟩)
      have hrest : Prints (Session.printed (told ++ s.files.snapshot.updateReport)
          { s with files := last }) (do
            print ("init: installed assets version is now " ++ Asset.version ++ ".")
            printBlank
            return .success) Outcome.success
          ["init: installed assets version is now " ++ Asset.version ++ ".", ""] :=
        (prints_print _ _).bind ((prints_print _ "").returning _)
      rw [← Session.printed_printed _ [_, ""]]
      exact (run_bind_of_ok hrun).trans hrest.run

end Shell

/-! ## Where it leads -/

namespace Snapshot

variable {s t : Snapshot} {next : PathMap} {asset : Asset}

theorem updates_of_bundled (hs : s.WellFormed) (ht : t.WellFormed)
    (h : s.paths.Bundled (s.paths.written (· != .unchanged) Asset.all) next)
    (hcwd : t.cwd = next.cwd)
    (hsame : ∀ place, place ≠ [settingsFolder] → place ≠ versionPlace →
      t.paths.entry? place = next.entry? place) : s.Updates t := by
  have hplace {a : Asset} (ha : a ∈ Asset.all) : t.paths.entry? a.place = next.entry? a.place := by
    obtain ⟨houtside, -⟩ := Asset.outside_settings ha
    refine hsame _ (fun h => houtside (h ▸ List.prefix_rfl)) fun h => houtside ?_
    rw [h]
    decide
  refine ⟨hcwd.trans h.cwd, fun a ha hclear => ?_, fun a ha hblocked => ?_, ?_⟩
  · rw [← Bool.not_eq_true, isBlocked_iff hs ha] at hclear
    rw [read_asset_iff ht ha, hplace ha]
    exact entry?_of_updated h ha hclear
  · rw [hplace ha]
    exact entry?_of_blocks h ha ((isBlocked_iff hs ha).mp hblocked)
  · intro place hother hsettings hversion
    rw [hsame place hsettings hversion]
    rcases h.others_or hother with hkept | ⟨hmade, a, ha, hway, hclear⟩
    · exact .inl hkept
    · cases hentry : s.paths.entry? place with
      | none =>
        refine .inr ⟨rfl, hmade, a, ha, ?_, hway⟩
        rw [← Bool.not_eq_true, isBlocked_iff hs ha]
        exact hclear
      | some entry =>
        cases entry with
        | folder => exact .inl hmade
        | file content =>
          refine absurd (.inl ⟨place, content, ?_, hway, hentry⟩) hclear
          rintro rfl
          cases hentry

/-- What was on the way to a bundled file is still there. -/
theorem Updates.entry?_way (h : s.Updates t) (hasset : asset ∈ Asset.all) {way : List String}
    (hway : way <+: asset.folderPlace) (hthere : s.paths.entry? way ≠ none) :
    t.paths.entry? way = s.paths.entry? way := by
  obtain ⟨-, houtside⟩ := Asset.outside_settings hasset
  have hversion : [settingsFolder] <+: versionPlace := by decide
  rcases h.others way (fun a ha hsame => Asset.not_prefix_folderPlace ha hasset (hsame ▸ hway))
    (fun hsame => houtside (hsame ▸ hway)) (fun hsame => houtside (hversion.trans (hsame ▸ hway)))
    with hkept | ⟨hnone, -⟩
  · exact hkept
  · exact absurd hnone hthere

section Reached

variable (hs : s.WellFormed) (ht : t.WellFormed) (h : s.Updates t)

include hs ht h

/-- The same files are blocked as before. -/
theorem Updates.isBlocked_eq (hasset : asset ∈ Asset.all) :
    t.isBlocked asset = s.isBlocked asset := by
  cases hblocked : s.isBlocked asset with
  | false =>
    have hread := h.inPlace asset hasset hblocked
    rw [read_asset_iff ht hasset] at hread
    rw [← Bool.not_eq_true, isBlocked_iff ht hasset]
    exact not_blocks_of_file hasset hread
  | true =>
    rw [isBlocked_iff ht hasset]
    rcases (isBlocked_iff hs hasset).mp hblocked with ⟨way, content, hne, hway, hfile⟩ | hfolder
    · have hkept := h.entry?_way hasset hway (by rw [hfile]; simp)
      exact .inl ⟨way, content, hne, hway, hkept.trans hfile⟩
    · exact .inr ((h.blocked asset hasset hblocked).trans hfolder)

theorem Updates.assetState_eq (hasset : asset ∈ Asset.all) :
    t.assetState asset = if s.isBlocked asset then .missing else .unchanged := by
  split_ifs with hblocked
  · rw [assetState_paths ht hasset]
    refine assetState_of_blocks hasset ((isBlocked_iff ht hasset).mp ?_)
    rw [h.isBlocked_eq hs ht hasset, hblocked]
  · rw [assetState, h.inPlace asset hasset (Bool.eq_false_iff.mpr hblocked)]
    exact if_pos rfl

theorem Updates.blockedAssets_eq : t.blockedAssets = s.blockedAssets :=
  List.filter_congr fun _ hasset => h.isBlocked_eq hs ht hasset

/-- **The blocked files are missing, and no other is.** -/
theorem Updates.assetsIn_missing : t.assetsIn .missing = s.blockedAssets := by
  refine List.filter_congr fun asset hasset => ?_
  rw [h.assetState_eq hs ht hasset]
  cases s.isBlocked asset <;> decide

/-- **No file is out of date.** -/
theorem Updates.assetsIn_outdated : t.assetsIn .outdated = [] := by
  refine List.filter_eq_nil_iff.mpr fun asset hasset => ?_
  rw [h.assetState_eq hs ht hasset]
  cases s.isBlocked asset <;> decide

/-- There is nothing left to be written. -/
theorem Updates.assetWrite_ne (hasset : asset ∈ Asset.all) :
    t.paths.assetWrite (· != .unchanged) asset ≠ .written := by
  rw [PathMap.assetWrite, ← assetState_paths ht hasset, h.assetState_eq hs ht hasset]
  cases hblocked : s.isBlocked asset with
  | false => simp
  | true =>
    rw [← h.isBlocked_eq hs ht hasset, isBlocked_iff ht hasset] at hblocked
    simp [hblocked]

end Reached

end Snapshot

namespace Shell

variable {s : Session} {args : List String}

/-- The session after bringing the files up to date: beyond the record of the version and its
folder, the tree is the one after the loop. -/
theorem run_updateAssets_reached (h : s.files.InOrder) :
    ∃ next : PathMap,
      s.files.snapshot.paths.Bundled
        (s.files.snapshot.paths.written (· != .unchanged) Asset.all) next ∧
      (updateAssets.run s).2.files.InOrder ∧
      (updateAssets.run s).2.files.snapshot.cwd = next.cwd ∧
      ∀ place, place ≠ [settingsFolder] → place ≠ versionPlace →
        PathMap.entry? (updateAssets.run s).2.files.snapshot.paths place = next.entry? place := by
  obtain ⟨files, told, hfiles, hbundled, -, -, ⟨-, hrun⟩ | ⟨-, -, reason, hrun⟩ |
    ⟨-, last, hlast, hpaths, hrun⟩⟩ := run_updateAssets_cases h
  · rw [hrun]
    exact ⟨_, hbundled, hfiles, rfl, fun _ _ _ => rfl⟩
  · rw [hrun]
    exact ⟨_, hbundled, hfiles, rfl, fun _ _ _ => rfl⟩
  · rw [hrun]
    refine ⟨_, hbundled, hlast, congrArg PathMap.cwd hpaths, fun place hsettings hversion => ?_⟩
    show PathMap.entry? last.snapshot.paths place = _
    rw [hpaths]
    exact Snapshot.entry?_plant_version _ hversion (fun hsame => absurd hsame hsettings) _

theorem updates_updateAssets (h : s.files.InOrder) :
    s.files.snapshot.Updates (updateAssets.run s).2.files.snapshot := by
  obtain ⟨next, hbundled, hreached, hcwd, hsame⟩ := run_updateAssets_reached h
  exact Snapshot.updates_of_bundled h.wellFormed hreached.wellFormed hbundled hcwd hsame

/-- The record of the version cannot be read afterwards if a file was blocked and it could not be
read before. -/
theorem numberTooLong_updateAssets (h : s.files.InOrder) {digits : Nat} :
    NumberTooLong (updateAssets.run s).2.files.snapshot versionFile digits ↔
      s.files.snapshot.blockedAssets ≠ [] ∧
        NumberTooLong s.files.snapshot versionFile digits := by
  unfold NumberTooLong
  obtain ⟨files, told, hfiles, hbundled, -, -, ⟨hblocked, hrun⟩ |
    ⟨hnone, hversion, reason, hrun⟩ |
    ⟨hnone, last, hlast, hpaths, hrun⟩⟩ := run_updateAssets_cases h
  · have hsame : files.snapshot.paths.entry? versionPlace =
        s.files.snapshot.paths.entry? versionPlace :=
      hbundled.settings (fun a ha => (PathMap.mem_written.mp ha).1) (by decide)
    simp only [hrun, Session.files_printed, Snapshot.read_version_iff hfiles.wellFormed,
      Snapshot.read_version_iff h.wellFormed, hsame]
    exact (and_iff_right hblocked).symm
  · refine iff_of_false ?_ fun hboth => hboth.1 hnone
    rintro ⟨content, hread, -⟩
    simp only [hrun, Session.files_printed] at hread
    rw [Snapshot.read_version_iff hfiles.wellFormed] at hread
    rcases hversion with ⟨other, hfile⟩ | hfolder
    · have habove : files.snapshot.paths.entry? [settingsFolder] = some .folder := by
        refine files.snapshot.root.closed_entryAt? [settingsFolder] "assets-version.json" [] ?_
        rw [← Snapshot.entry?_paths]
        exact hread.trans_ne (by simp)
      exact nomatch hfile.symm.trans habove
    · exact nomatch hfolder.symm.trans hread
  · refine iff_of_false ?_ fun hboth => hboth.1 hnone
    rintro ⟨content, hread, hparse⟩
    simp only [hrun, Session.files_printed] at hread
    rw [Snapshot.read_version_iff hlast.wellFormed, hpaths] at hread
    cases hread.symm.trans PathMap.entry?_plant_self
    rw [Json.parse_indented (regular_versionDocument _)] at hparse
    exact nomatch hparse

/-! ## A fixed point -/

/-- What is told when the files are brought up to date. -/
theorem output_updateAssets (h : s.files.InOrder) :
    ∃ told rest, FailuresTold s.files.snapshot.blockedAssets told ∧
      (updateAssets.run s).2.console =
        (s.printed (told ++ s.files.snapshot.updateReport ++ rest)).console := by
  obtain ⟨files, told, -, -, -, htold, ⟨-, hrun⟩ | ⟨-, -, reason, hrun⟩ |
    ⟨-, last, -, -, hrun⟩⟩ := run_updateAssets_cases h
  · rw [hrun]
    exact ⟨told, _, htold, rfl⟩
  · rw [hrun]
    exact ⟨told, [], htold, by rw [List.append_nil]; rfl⟩
  · rw [hrun]
    exact ⟨told, _, htold, rfl⟩

/-- Once the files are up to date, bringing them up to date changes nothing but the record of the
version, and not even that while a file is blocked. -/
theorem run_updateAssets_again {m : Snapshot} (hm : m.WellFormed) (h : s.files.InOrder)
    (hupdates : m.Updates s.files.snapshot) :
    (s.files.snapshot.blockedAssets ≠ [] → (updateAssets.run s).2.files = s.files) ∧
      ∀ place, place ≠ [settingsFolder] → place ≠ versionPlace →
        PathMap.entry? (updateAssets.run s).2.files.snapshot.paths place =
          s.files.snapshot.paths.entry? place := by
  obtain ⟨files, told, -, -, hsame, -, hcases⟩ := run_updateAssets_cases h
  cases hsame fun asset hasset => hupdates.assetWrite_ne hm h.wellFormed hasset
  rcases hcases with ⟨-, hrun⟩ | ⟨hnone, -, reason, hrun⟩ | ⟨hnone, last, -, hpaths, hrun⟩
  · rw [hrun]
    exact ⟨fun _ => rfl, fun _ _ _ => rfl⟩
  · rw [hrun]
    exact ⟨fun _ => rfl, fun _ _ _ => rfl⟩
  · rw [hrun]
    refine ⟨absurd hnone, fun place hsettings hversion => ?_⟩
    show PathMap.entry? last.snapshot.paths place = _
    rw [hpaths]
    exact Snapshot.entry?_plant_version _ hversion (fun hsame => absurd hsame hsettings) _

/-- **Bringing the bundled files up to date converges.** In a tree that is in order the files that
are not blocked get their content, those that are blocked are told to have failed, one line for each
and their number in the report, and nothing else is touched but what is above them and the record of
the version. Then a comparison finds the blocked files missing and no file out of date, unless a
file is blocked and the old record has a number that cannot be read; and a second run tells that it
has written no bundled file, and leaves all but the record of the version as it is. -/
theorem update_converges (hs : s.files.snapshot.WellFormed) (hopen : s.files.Opened)
    (hcheck : args.contains "--check" = false) (hupdate : args.contains "--update" = true) :
    let blocked := s.files.snapshot.blockedAssets
    let t := ((init args).run s).2
    (∃ told rest, FailuresTold blocked told ∧
      t.console = (s.printed (told ++ s.files.snapshot.updateReport ++ rest)).console) ∧
    (blocked ≠ [] → ((init args).run s).1 = .ok assetsFailed) ∧
    s.files.snapshot.Updates t.files.snapshot ∧
    t.files.snapshot.assetsIn .missing = blocked ∧
    t.files.snapshot.assetsIn .outdated = [] ∧
    (∀ later : List String, later.contains "--check" = true →
      (∃ installed, (init later).run t =
        (.ok .success, t.printed (t.files.snapshot.checkLines installed))) ∨
      blocked ≠ [] ∧ ∃ digits, NumberTooLong s.files.snapshot versionFile digits ∧
        (init later).run t = (.error (.integer (.tooLong digits)), t)) ∧
    ∀ again : List String, again.contains "--check" = false → again.contains "--update" = true →
      let u := ((init again).run t).2
      t.files.snapshot.staleAssets = [] ∧
      (∃ told rest, FailuresTold blocked told ∧
        u.console = (t.printed (told ++ t.files.snapshot.updateReport ++ rest)).console) ∧
      (blocked ≠ [] → u.files = t.files) ∧
      ∀ place, place ≠ [settingsFolder] → place ≠ versionPlace →
        u.files.snapshot.paths.entry? place = t.files.snapshot.paths.entry? place := by
  have horder : s.files.InOrder := ⟨hs, hopen⟩
  obtain ⟨next, -, hreached, -⟩ := run_updateAssets_reached horder
  have hupdates := updates_updateAssets horder
  have hmissing := hupdates.assetsIn_missing hs hreached.wellFormed
  have houtdated := hupdates.assetsIn_outdated hs hreached.wellFormed
  have hblocked := hupdates.blockedAssets_eq hs hreached.wellFormed
  dsimp only
  rw [init_update hcheck hupdate]
  refine ⟨output_updateAssets horder, fun hblocked => ?_, hupdates, hmissing, houtdated,
    fun later hlater => ?_, fun again hcheck hupdate => ?_⟩
  · obtain ⟨files, told, -, -, -, -, ⟨-, hrun⟩ | ⟨hnone, -⟩ | ⟨hnone, -⟩⟩ :=
      run_updateAssets_cases horder
    · rw [hrun]
    · exact absurd hnone hblocked
    · exact absurd hnone hblocked
  · rw [init_check hlater]
    rcases checkAssets_cases (updateAssets.run s).2 with ⟨-, installed, hrun⟩ |
      ⟨digits, hlong, hrun⟩
    · exact .inl ⟨installed, hrun⟩
    · obtain ⟨hblocked, hbefore⟩ := (numberTooLong_updateAssets horder).mp hlong
      exact .inr ⟨hblocked, digits, hbefore, hrun⟩
  · rw [init_update hcheck hupdate]
    obtain ⟨hsame, hothers⟩ := run_updateAssets_again hs hreached hupdates
    have htold := output_updateAssets hreached
    rw [hblocked] at hsame htold
    refine ⟨?_, htold, hsame, hothers⟩
    rw [Snapshot.staleAssets, hmissing, houtdated, List.append_nil, List.filter_eq_nil_iff]
    intro asset hasset
    rw [← hblocked] at hasset
    simpa using (List.mem_filter.mp hasset).2

/-- A session in whose tree a folder and a file are in the way of two bundled files, with a text for
the record of the version. -/
def crowdedSession (record : String) : Session :=
  .fresh {} ⟨⟨⟨"/", [⟨"bin", [⟨"sample.py", [], []⟩], []⟩,
    ⟨settingsFolder, [], [⟨"assets-version.json", record⟩]⟩], [⟨"home", ""⟩]⟩, []⟩,
    some .empty, "tree"⟩ .builtins {} ⟨2024, 1, 1, 0, 0, 0, 0⟩

theorem update_converges_crowdedSession :
    ((init ["--update"]).run (crowdedSession "")).1 = .ok assetsFailed ∧
    (((init ["--update"]).run (crowdedSession "")).2.files.snapshot.assetsIn .missing).head?.map
      Asset.path = some "/bin/sample.py" := by
  obtain ⟨-, houtcome, -, hmissing, -⟩ :=
    @update_converges (crowdedSession "") ["--update"] (by decide) ⟨_, rfl, rfl⟩ rfl rfl
  have hfirst : (crowdedSession "").files.snapshot.blockedAssets.head?.map Asset.path =
      some "/bin/sample.py" := by
    decide +kernel
  refine ⟨houtcome fun hnone => ?_, hmissing ▸ hfirst⟩
  rw [hnone] at hfirst
  exact nomatch hfirst

/-- A text that is a whole number with one digit too many. -/
def longNumber : String :=
  .ofList ('1' :: List.replicate Number.maxIntegerDigits '1')

theorem numberTooLong_crowdedSession :
    NumberTooLong (crowdedSession longNumber).files.snapshot versionFile
      (Number.maxIntegerDigits + 1) := by
  refine ⟨longNumber, Snapshot.read_of_entryAt? ?_, ?_⟩
  · rw [show Snapshot.resolve _ versionFile = versionPlace from resolve_versionFile _]
    rfl
  · have hdigits : ∀ d ∈ '1' :: List.replicate Number.maxIntegerDigits '1', d.isDigit = true := by
      intro d hd
      rw [← List.replicate_succ] at hd
      rw [List.eq_of_mem_replicate hd]
      rfl
    rw [longNumber, Json.parse_tooLong (by decide) hdigits (by simp), List.length_cons,
      List.length_replicate]

/-- With files blocked and a record of the version that is a number too long to be read, the
comparison that follows does not count what is missing. -/
theorem not_check_after_update_crowdedSession :
    ¬ ∀ s : Session, s.files.snapshot.WellFormed → s.files.Opened →
      ∃ installed,
        (init ["--check"]).run ((init ["--update"]).run s).2 =
          (.ok .success, ((init ["--update"]).run s).2.printed
            (((init ["--update"]).run s).2.files.snapshot.checkLines installed)) := by
  intro hcounts
  have hwellFormed : (crowdedSession longNumber).files.snapshot.WellFormed := by decide
  obtain ⟨installed, hrun⟩ := hcounts (crowdedSession longNumber) hwellFormed ⟨_, rfl, rfl⟩
  rw [init_check rfl, init_update rfl rfl] at hrun
  have hblocked : (crowdedSession longNumber).files.snapshot.blockedAssets ≠ [] := by
    decide +kernel
  have hlong := (numberTooLong_updateAssets ⟨hwellFormed, ⟨_, rfl, rfl⟩⟩).mpr
    ⟨hblocked, numberTooLong_crowdedSession⟩
  rcases checkAssets_cases (updateAssets.run (crowdedSession longNumber)).2 with
    ⟨hshort, -⟩ | ⟨digits, -, hstopped⟩
  · exact hshort _ hlong
  · rw [hstopped] at hrun
    exact nomatch congrArg Prod.fst hrun

end Shell

end TreeShell
