import TreeShell.Proofs.Builtin.Setup

/-!
# What the loop over the bundled files comes to

A bundled file cannot be written if a folder is in its place, or a file on the way to it (`Blocks`).
If neither is so, writing it puts it in its place and folders where its way had none
(`PathMap.plant`), and touches no other place.

The loop compares and writes one file after another, in a tree that changes as it goes. That makes
no difference: no bundled file is on the way to another, and what one of them is written over or
blocked by, another is not. So the state of each file and what becomes of it can be read off the
tree the loop began with (`PathMap.synced`), and the tree it ends with is the first one with all
files that were written in their places (`PathMap.Bundled`). The invariant of the loop is that this
holds for the files that are done (`run_syncRest`).
-/

set_option autoImplicit false

namespace TreeShell

open FileSystem

namespace FileSystem

/-- The tree is in order and the store is open. -/
structure InOrder (files : FileSystem) : Prop where
  wellFormed : files.snapshot.WellFormed
  opened : files.Opened

end FileSystem

namespace Asset

variable {asset other : Asset}

theorem display_place (h : asset ∈ all) : Path.display asset.place = asset.path := by
  obtain ⟨above, habove, name, hname, hpath⟩ := exists_display h
  have hnames : Path.AreNames (above ++ [name]) :=
    Path.areNames_append.mpr ⟨areNames_folders above habove,
      Path.areNames_cons.mpr ⟨hname, Path.areNames_nil⟩⟩
  rw [place, hpath, Path.resolve_display_of_areNames hnames]

theorem nodup_path : (all.map path).Nodup := by
  decide +kernel

/-- No two bundled files have the same place. -/
theorem eq_of_place (h : asset ∈ all) (hother : other ∈ all) (hplace : asset.place = other.place) :
    asset = other := by
  refine List.inj_on_of_nodup_map nodup_path h hother ?_
  rw [← display_place h, ← display_place hother, hplace]

end Asset

/-! ## What is seen and what comes of it -/

/-- The line that tells that a bundled file could not be written. -/
def Asset.failureLine (asset : Asset) (reason : FileError) : String :=
  "init: failed to write " ++ asset.path ++ ": " ++ reason.message

/-- Lines that tell of some bundled files, one after the other, that they could not be written. -/
def FailuresTold : List Asset → List String → Prop :=
  List.Forall₂ fun asset line => ∃ reason, line = asset.failureLine reason

namespace PathMap

/-- A bundled file cannot be written: a file is on the way to it, or a folder in its place. -/
def Blocks (m : PathMap) (asset : Asset) : Prop :=
  m.Blocked asset.folderPlace ∨ m.entry? asset.place = some .folder

/-- How a bundled file compares with what is in its place. -/
def assetState (m : PathMap) (asset : Asset) : AssetState :=
  match m.entry? asset.place with
  | some (.file content) => if content = asset.content then .unchanged else .outdated
  | _ => .missing

open Classical in
/-- What becomes of a bundled file whose state may ask for it to be written. -/
noncomputable def assetWrite (m : PathMap) (toWrite : AssetState → Bool) (asset : Asset) :
    AssetWrite :=
  if toWrite (m.assetState asset) then if m.Blocks asset then .failed else .written
  else .leftAlone

/-- The bundled files that are to be written and cannot be. -/
noncomputable def failed (m : PathMap) (toWrite : AssetState → Bool) (assets : List Asset) :
    List Asset :=
  assets.filter (m.assetWrite toWrite · = .failed)

/-- A bundled file after it was compared, and written if it was to be. -/
noncomputable def synced (m : PathMap) (toWrite : AssetState → Bool) (asset : Asset) :
    SyncedAsset :=
  ⟨asset.path, m.assetState asset, m.assetWrite toWrite asset⟩

/-- The bundled files that are written. -/
noncomputable def written (m : PathMap) (toWrite : AssetState → Bool) (assets : List Asset) :
    List Asset :=
  assets.filter (m.assetWrite toWrite · = .written)

/-- A map with some bundled files in their places, and nothing else changed. -/
structure Bundled (m : PathMap) (assets : List Asset) (next : PathMap) : Prop where
  cwd : next.cwd = m.cwd
  inPlace : ∀ asset ∈ assets, next.entry? asset.place = some (.file asset.content)
  above : ∀ asset ∈ assets, ∀ place, place <+: asset.folderPlace →
    next.entry? place = some .folder
  others : ∀ place, (∀ asset ∈ assets, place ≠ asset.place ∧ ¬ place <+: asset.folderPlace) →
    next.entry? place = m.entry? place

variable {m next : PathMap} {toWrite : AssetState → Bool} {assets : List Asset} {asset : Asset}

theorem mem_written :
    asset ∈ m.written toWrite assets ↔
      asset ∈ assets ∧ toWrite (m.assetState asset) = true ∧ ¬ m.Blocks asset := by
  rw [written, List.mem_filter, decide_eq_true_iff, assetWrite]
  split_ifs <;> simp_all

theorem written_concat (done : List Asset) (asset : Asset) :
    m.written toWrite (done ++ [asset]) =
      m.written toWrite done ++ if m.assetWrite toWrite asset = .written then [asset] else [] := by
  rw [written, List.filter_append, ← written]
  by_cases h : m.assetWrite toWrite asset = .written
  · simp [h]
  · simp [h]

theorem bundled_nil (m : PathMap) : m.Bundled [] m :=
  ⟨rfl, fun _ h => (nomatch h), fun _ h => (nomatch h), fun _ _ => rfl⟩

/-- A place that is none of the files is left alone, or is a folder above one. -/
theorem Bundled.same_or_above (h : m.Bundled assets next) {place : List String}
    (hplace : ∀ asset ∈ assets, place ≠ asset.place) :
    next.entry? place = m.entry? place ∨
      next.entry? place = some .folder ∧ ∃ asset ∈ assets, place <+: asset.folderPlace := by
  by_cases hon : ∃ asset ∈ assets, place <+: asset.folderPlace
  · obtain ⟨asset, hasset, hway⟩ := hon
    exact .inr ⟨h.above asset hasset place hway, asset, hasset, hway⟩
  · refine .inl (h.others place fun asset hasset => ⟨hplace asset hasset, fun hway => hon ?_⟩)
    exact ⟨asset, hasset, hway⟩

/-- Nothing among the settings is a bundled file or above one. -/
theorem Bundled.settings (h : m.Bundled assets next) (hassets : ∀ a ∈ assets, a ∈ Asset.all)
    {place : List String} (hplace : [settingsFolder] <+: place) :
    next.entry? place = m.entry? place := by
  refine h.others place fun asset hasset => ?_
  obtain ⟨houtside, habove⟩ := Asset.outside_settings (hassets asset hasset)
  exact ⟨fun hsame => houtside (hsame ▸ hplace), fun hway => habove (hplace.trans hway)⟩

/-! ## Bundled files keep out of each other's way -/

section Apart

variable (h : m.Bundled assets next) (hassets : ∀ a ∈ assets, a ∈ Asset.all)
  (hasset : asset ∈ Asset.all) (hapart : ∀ a ∈ assets, a.place ≠ asset.place)

include h hassets hasset hapart

theorem Bundled.entry?_place : next.entry? asset.place = m.entry? asset.place :=
  h.others _ fun a ha =>
    ⟨(hapart a ha).symm, Asset.not_prefix_folderPlace hasset (hassets a ha)⟩

theorem Bundled.assetState_eq : next.assetState asset = m.assetState asset := by
  rw [assetState, h.entry?_place hassets hasset hapart, assetState]

omit hapart in
/-- Folders that were made are in nobody's way, and the files that were written are on the way to no
other. -/
theorem Bundled.blocked_iff (hclear : ∀ a ∈ assets, ¬ m.Blocks a) :
    next.Blocked asset.folderPlace ↔ m.Blocked asset.folderPlace := by
  refine exists_congr fun way => exists_congr fun content => ?_
  refine and_congr_right fun hne => and_congr_right fun hway => ?_
  have hplace : ∀ a ∈ assets, way ≠ a.place := by
    intro a ha hsame
    exact Asset.not_prefix_folderPlace (hassets a ha) hasset (hsame ▸ hway)
  by_cases hon : ∃ a ∈ assets, way <+: a.folderPlace
  · obtain ⟨a, ha, habove⟩ := hon
    rw [h.above a ha way habove]
    refine iff_of_false (by simp) fun hfile => hclear a ha (.inl ⟨way, content, hne, habove, hfile⟩)
  · rw [h.others way fun a ha => ⟨hplace a ha, fun habove => hon ⟨a, ha, habove⟩⟩]

theorem Bundled.blocks_iff (hclear : ∀ a ∈ assets, ¬ m.Blocks a) :
    next.Blocks asset ↔ m.Blocks asset := by
  rw [Blocks, h.blocked_iff hassets hasset hclear, h.entry?_place hassets hasset hapart, Blocks]

theorem Bundled.assetWrite_eq (hclear : ∀ a ∈ assets, ¬ m.Blocks a) :
    next.assetWrite toWrite asset = m.assetWrite toWrite asset := by
  rw [assetWrite, h.assetState_eq hassets hasset hapart,
    propext (h.blocks_iff hassets hasset hapart hclear), assetWrite]

/-- One more file is written. -/
theorem Bundled.plant {name : String} (hplace : asset.place = asset.folderPlace ++ [name]) :
    m.Bundled (assets ++ [asset]) (next.plant asset.folderPlace name asset.content) := by
  refine ⟨h.cwd, fun a ha => ?_, fun a ha place habove => ?_, fun place hoff => ?_⟩
  · rcases List.mem_append.mp ha with ha | ha
    · rw [entry?_plant_of_ne (hplace ▸ hapart a ha)
        (Asset.not_prefix_folderPlace (hassets a ha) hasset)]
      exact h.inPlace a ha
    · cases List.mem_singleton.mp ha
      rw [hplace]
      exact entry?_plant_self
  · by_cases hon : place <+: asset.folderPlace
    · exact entry?_plant_of_prefix hon
    · rcases List.mem_append.mp ha with ha | ha
      · have hother : place ≠ asset.folderPlace ++ [name] := by
          intro hsame
          rw [hsame, ← hplace] at habove
          exact Asset.not_prefix_folderPlace hasset (hassets a ha) habove
        rw [entry?_plant_of_ne hother hon]
        exact h.above a ha place habove
      · cases List.mem_singleton.mp ha
        exact absurd habove hon
  · obtain ⟨hother, hnot⟩ := hoff asset (List.mem_append_right _ (List.mem_singleton_self _))
    rw [entry?_plant_of_ne (hplace ▸ hother) hnot]
    exact h.others place fun a ha => hoff a (List.mem_append_left _ ha)

end Apart

end PathMap

namespace Snapshot

variable {s : Snapshot} {asset : Asset}

theorem read_asset_iff (hs : s.WellFormed) (hasset : asset ∈ Asset.all) {content : String} :
    s.read asset.path = .ok content ↔ s.paths.entry? asset.place = some (.file content) := by
  rw [read_eq_ok_iff hs, show s.resolve asset.path = asset.place from Asset.resolve_path hasset _]

theorem assetState_paths (hs : s.WellFormed) (hasset : asset ∈ Asset.all) :
    s.assetState asset = s.paths.assetState asset := by
  rw [Snapshot.assetState, PathMap.assetState]
  cases hresult : s.read asset.path with
  | ok content => rw [(read_asset_iff hs hasset).mp hresult]
  | error reason =>
    dsimp only
    split
    · next content hentry =>
      exact nomatch hresult.symm.trans ((read_asset_iff hs hasset).mpr hentry)
    · rfl

end Snapshot

/-! ## The loop -/

namespace Shell

variable {s : Session} {asset : Asset} {toWrite : AssetState → Bool}

/-- **A bundled file is written unless something is in its way**, and told if it is. -/
theorem run_installAsset_cases (h : s.files.InOrder) (hasset : asset ∈ Asset.all) :
    (¬ s.files.snapshot.paths.Blocks asset ∧ ∃ (files : FileSystem) (name : String),
      (installAsset asset).run s = (.ok .written, { s with files }) ∧ files.InOrder ∧
      asset.place = asset.folderPlace ++ [name] ∧
      files.snapshot.paths = s.files.snapshot.paths.plant asset.folderPlace name asset.content) ∨
    (s.files.snapshot.paths.Blocks asset ∧ ∃ reason,
      (installAsset asset).run s = (.ok .failed, s.printed [asset.failureLine reason])) := by
  obtain ⟨name, hplace, -, hresolve⟩ := Asset.exists_place hasset
  have hfolder (cwd : List String) := (hresolve cwd).2
  have hpath (cwd : List String) := (hresolve cwd).1.trans hplace
  have hiff : s.files.snapshot.paths.Blocks asset ↔
      s.files.snapshot.paths.Obstructed asset.folderPlace name := by
    rw [PathMap.Blocks, PathMap.Obstructed, hplace]
  rw [hiff]
  by_cases hblocked : s.files.snapshot.paths.Obstructed asset.folderPlace name
  · obtain ⟨reason, hrun, -⟩ := run_install_of_obstructed hfolder hpath asset.content hblocked
    exact .inr ⟨hblocked, reason, run_bind_of_ok (run_attempt_of_refused hrun)⟩
  · obtain ⟨files, hrun, hopened, hkeeps, hpaths⟩ :=
      run_install_of_clear h.opened hfolder hpath asset.content hblocked
    exact .inl ⟨hblocked, files, name, run_bind_of_ok (run_attempt_of_ok hrun),
      ⟨hkeeps h.wellFormed, hopened⟩, hplace, hpaths⟩

/-- What becomes of one bundled file. -/
theorem run_syncAsset (h : s.files.InOrder) (hasset : asset ∈ Asset.all) :
    ∃ (files : FileSystem) (told : List String),
      (syncAsset toWrite asset).run s =
        (.ok (s.files.snapshot.paths.synced toWrite asset), Session.printed told { s with files }) ∧
      FailuresTold (s.files.snapshot.paths.failed toWrite [asset]) told ∧ files.InOrder ∧
      ((s.files.snapshot.paths.assetWrite toWrite asset ≠ .written ∧ files = s.files) ∨
        s.files.snapshot.paths.assetWrite toWrite asset = .written ∧ ∃ name,
          asset.place = asset.folderPlace ++ [name] ∧ files.snapshot.paths =
            s.files.snapshot.paths.plant asset.folderPlace name asset.content) := by
  rw [syncAsset, run_view_bind, PathMap.synced, PathMap.failed, List.filter_singleton,
    PathMap.assetWrite, Snapshot.assetState_paths h.wellFormed hasset]
  split_ifs with hwrite hblocked
  · rcases run_installAsset_cases h hasset with ⟨hclear, -⟩ | ⟨-, reason, hrun⟩
    · exact absurd hblocked hclear
    · exact ⟨s.files, _, run_bind_of_ok hrun, .cons ⟨reason, rfl⟩ .nil, h, .inl ⟨by simp, rfl⟩⟩
  · rcases run_installAsset_cases h hasset with
      ⟨-, files, name, hrun, hreached, hplace, hpaths⟩ | ⟨hother, -⟩
    · refine ⟨files, [], ?_, .nil, hreached, .inr ⟨rfl, name, hplace, hpaths⟩⟩
      rw [Session.printed_nil]
      exact run_bind_of_ok hrun
    · exact absurd hother hblocked
  · exact ⟨s.files, [], by rw [Session.printed_nil]; rfl, .nil, h, .inl ⟨by simp, rfl⟩⟩

/-- The rest of the loop, from where some files are done. The induction is on that rest; the states
of its files are still those that they had at the beginning. -/
theorem run_syncRest {m : PathMap} {rest : List Asset} (done : List Asset)
    (hall : done ++ rest = Asset.all) (h : s.files.InOrder)
    (hdone : m.Bundled (m.written toWrite done) s.files.snapshot.paths) :
    ∃ (files : FileSystem) (told : List String),
      (rest.mapM (syncAsset toWrite)).run s =
        (.ok (rest.map (m.synced toWrite)), Session.printed told { s with files }) ∧
      FailuresTold (m.failed toWrite rest) told ∧ files.InOrder ∧
      m.Bundled (m.written toWrite Asset.all) files.snapshot.paths ∧
      ((∀ asset ∈ rest, m.assetWrite toWrite asset ≠ .written) → files = s.files) := by
  induction rest generalizing done s with
  | nil =>
    rw [List.append_nil] at hall
    exact ⟨s.files, [], by rw [Session.printed_nil]; rfl, .nil, h, hall ▸ hdone, fun _ => rfl⟩
  | cons asset rest ih =>
    have hmem : ∀ a ∈ done, a ∈ Asset.all := fun a ha => hall ▸ List.mem_append_left _ ha
    have hasset : asset ∈ Asset.all := hall ▸ List.mem_append_right _ List.mem_cons_self
    have hnew : asset ∉ done := by
      have hnodup := List.Nodup.of_map _ Asset.nodup_path
      rw [← hall] at hnodup
      exact fun hmem => List.disjoint_of_nodup_append hnodup hmem List.mem_cons_self
    have hapart : ∀ a ∈ done, a.place ≠ asset.place := fun a ha hplace =>
      hnew (Asset.eq_of_place (hmem a ha) hasset hplace ▸ ha)
    have hwritten : ∀ a ∈ m.written toWrite done, a ∈ done ∧ ¬ m.Blocks a := fun a ha =>
      ⟨(PathMap.mem_written.mp ha).1, (PathMap.mem_written.mp ha).2.2⟩
    have hmem' := fun a ha => hmem a (hwritten a ha).1
    have hapart' := fun a ha => hapart a (hwritten a ha).1
    have hstate := hdone.assetState_eq hmem' hasset hapart'
    have hwrite : s.files.snapshot.paths.assetWrite toWrite asset = m.assetWrite toWrite asset :=
      hdone.assetWrite_eq hmem' hasset hapart' fun a ha => (hwritten a ha).2
    obtain ⟨files, told, hrun, htold, hreached, hcases⟩ := @run_syncAsset s asset toWrite h hasset
    have hsynced : s.files.snapshot.paths.synced toWrite asset = m.synced toWrite asset := by
      rw [PathMap.synced, hstate, hwrite, PathMap.synced]
    have hnext : m.Bundled (m.written toWrite (done ++ [asset])) files.snapshot.paths := by
      rw [PathMap.written_concat, ← hwrite]
      rcases hcases with ⟨hnot, rfl⟩ | ⟨hwrites, name, hplace, hpaths⟩
      · rw [if_neg hnot, List.append_nil]
        exact hdone
      · rw [if_pos hwrites, hpaths]
        exact hdone.plant hmem' hasset hapart' hplace
    obtain ⟨last, more, hrest, hmore, hlast, hbundled, hsame⟩ :=
      @ih (Session.printed told { s with files }) (done ++ [asset])
        (by rw [List.append_assoc]; exact hall) hreached hnext
    refine ⟨last, told ++ more, ?_, ?_, hlast, hbundled, fun hnone => ?_⟩
    · rw [List.mapM_cons, run_bind_of_ok hrun, run_bind_of_ok hrest, hsynced,
        ← Session.printed_printed]
      rfl
    · have hfailed : m.failed toWrite (asset :: rest) =
          s.files.snapshot.paths.failed toWrite [asset] ++ m.failed toWrite rest := by
        simp only [PathMap.failed, List.filter_cons, hwrite, List.filter_nil]
        split_ifs <;> rfl
      rw [hfailed]
      exact List.rel_append htold hmore
    · obtain ⟨hnot, hothers⟩ := List.forall_mem_cons.mp hnone
      rcases hcases with ⟨-, rfl⟩ | ⟨hwrites, -⟩
      · exact hsame hothers
      · exact absurd (hwrite ▸ hwrites) hnot

/-- **What the loop comes to**, whatever is in the tree: each bundled file is compared with what was
in its place at first, those that are to be written are written unless they are blocked, and nothing
else in the session is changed but that it is told of the blocked ones. -/
theorem run_syncAssets (h : s.files.InOrder) (toWrite : AssetState → Bool) :
    ∃ (files : FileSystem) (told : List String),
      (syncAssets toWrite).run s =
        (.ok (Asset.all.map (s.files.snapshot.paths.synced toWrite)),
          Session.printed told { s with files }) ∧
      FailuresTold (s.files.snapshot.paths.failed toWrite Asset.all) told ∧ files.InOrder ∧
      s.files.snapshot.paths.Bundled (s.files.snapshot.paths.written toWrite Asset.all)
        files.snapshot.paths ∧
      ((∀ asset ∈ Asset.all, s.files.snapshot.paths.assetWrite toWrite asset ≠ .written) →
        files = s.files) :=
  run_syncRest [] rfl h (PathMap.bundled_nil _)

end Shell

end TreeShell
