import TreeShell.Proofs.Builtin.LayingOut
import TreeShell.Proofs.Session.Agreeing
import TreeShell.Proofs.Session.Bootstrapped

/-!
# A forced `init`

A forced `init` forgets the tree and lays out another one. What that is depends on nothing but the
environment and the time: the steps that lay it out are unaware of all else (`unaware_relay`), so it
can be said as a function of these two (`relaidTree`). Two sessions with the same settings come to
the same tree, whatever was in theirs, and so does a session that lays its tree out twice.

In a session that was started up, the environment is one that was loaded, which laying out leaves as
it was. The tree then holds it: whoever loads the environment from it finds the same.
-/

set_option autoImplicit false

namespace TreeShell

open FileSystem Shell

/-! ## What a tree that was laid out gives -/

theorem Environment.Loaded.prepared {config : ShellConfig} {e : Environment} (h : e.Loaded config) :
    e.prepared = e := by
  rw [Environment.prepared, h.bounded_eq, Environment.withFolder_of_mem h.spelled.programs]

/-- A bound that was written is read again, unless it is none. -/
theorem Shell.limitOfText_toString {limit : Int}
    (hlength : Binary64.decimalLength limit.natAbs ≤ Number.maxIntegerDigits) :
    limitOfText (toString limit) = .ok (if 0 < limit then some limit else none) := by
  rw [limitOfText]
  by_cases hpositive : 0 < limit
  · obtain ⟨htrim, hread⟩ := Config.historyLimit?_toString hpositive hlength
    rw [htrim, hread, if_pos hpositive]
  · rw [Config.historyLimit?_toString_of_nonpos (not_lt.mp hpositive), if_neg hpositive]

namespace FileSystem

variable {files next : FileSystem} {e : Environment} {now other : Moment} {place : List String}
  {config : ShellConfig} {later : Session}

/-- **The environment that was written is loaded**, whatever the environment was before. -/
theorem Stocked.load (h : files.Stocked e) (hloaded : e.Loaded config)
    (hlater : later.files = files)
    (hlimit : 0 < e.historyLimit ∨ later.config.shell.historyLimit = e.historyLimit) :
    (loadEnvironment.run later).1 = .ok () ∧ (loadEnvironment.run later).2.environment = e := by
  subst hlater
  have htext (file : SettingsFile) : later.files.texts file = some (file.textOf e) :=
    texts_of_settings? (h.settings file)
  have hrecorded : later.files.texts.recordedLimit =
      .ok (if 0 < e.historyLimit then some e.historyLimit else none) := by
    rw [SettingsTexts.recordedLimit, htext]
    exact limitOfText_toString hloaded.limit_length
  have hsame : later.files.texts.limit later.config.shell = e.historyLimit := by
    rw [SettingsTexts.limit, hrecorded]
    split_ifs with hpositive
    · rfl
    · exact hlimit.resolve_left hpositive
  obtain ⟨henvironment, hshort⟩ := SettingsTexts.environment_of_documents hloaded.spelled
    hloaded.bounded_eq hsame (htext .history) (htext .display) (htext .search)
    later.environment.history
  rcases loadEnvironment_cases h.tended with ⟨-, hrun⟩ | ⟨fault, hobstructs, -⟩
  · rw [hrun]
    exact ⟨rfl, henvironment⟩
  · cases hobstructs with
    | folder hfile => cases h.tended.folder.symm.trans hfile
    | limit hother =>
      cases hother with
      | unreadable hother => cases hrecorded.symm.trans hother
      | unwritable hnone herror =>
        -- The default is to be written where it is the bound itself, which has a text.
        have hpositive : ¬ 0 < e.historyLimit := fun hpositive => by
          rw [hrecorded, if_pos hpositive] at hnone
          cases hnone
        have hlength := hloaded.limit_length
        rw [← hlimit.resolve_left hpositive] at hlength
        rw [Number.integerText, if_neg (Nat.not_lt.mpr hlength)] at herror
        cases herror
    | number hfile hnumber => exact absurd hnumber (hshort _ _ hfile)

/-- What is in a tree that was laid out is the same whenever that was, but for the record of the
version. -/
theorem Stocked.entry?_eq (h : files.Stocked e) (hnext : next.Stocked e)
    (hplace : place ≠ versionPlace) :
    next.snapshot.paths.entry? place = files.snapshot.paths.entry? place := by
  by_cases hlaid : LaidPlace place
  · -- It is a base folder, a bundled file, or above one of them; or it is a settings file.
    rcases hlaid with ⟨base, hbase, hway⟩ | ⟨asset, hasset, hway⟩ | ⟨file, rfl⟩ | hversion
    · by_cases hsame : place = base
      · rw [hsame, h.furnished.based base hbase, hnext.furnished.based base hbase]
      · rw [Snapshot.folder_on_way (h.furnished.based base hbase) hway hsame,
          Snapshot.folder_on_way (hnext.furnished.based base hbase) hway hsame]
    · by_cases hsame : place = asset.place
      · rw [hsame, h.furnished.assets asset hasset, hnext.furnished.assets asset hasset]
      · rw [Snapshot.folder_on_way (h.furnished.assets asset hasset) hway hsame,
          Snapshot.folder_on_way (hnext.furnished.assets asset hasset) hway hsame]
    · exact (hnext.settings file).trans (h.settings file).symm
    · exact absurd hversion hplace
  · rw [h.furnished.others place hlaid, hnext.furnished.others place hlaid]

theorem Stocked.isFolder_base (h : files.Stocked e) :
    ∀ folder ∈ baseFolders, files.snapshot.isFolder folder = true := by
  intro folder hfolder
  have habsolute : ∀ path ∈ baseFolders, Path.isAbsolute path = true := by decide
  rw [Snapshot.isFolder_iff, Snapshot.resolve,
    Path.resolve_of_isAbsolute (habsolute folder hfolder)]
  exact h.furnished.based _ (List.mem_map_of_mem hfolder)

theorem Stocked.read_asset (h : files.Stocked e) :
    ∀ asset ∈ Asset.all, files.snapshot.read asset.path = .ok asset.content :=
  fun asset hasset => (Snapshot.read_asset_iff h.inOrder.wellFormed hasset).mpr
    (h.furnished.assets asset hasset)

theorem Stocked.assetsIn (h : files.Stocked e) (state : AssetState) :
    files.snapshot.assetsIn state = if state = .unchanged then Asset.all else [] := by
  have hstate : ∀ asset ∈ Asset.all, files.snapshot.assetState asset = .unchanged :=
    fun asset hasset => by
      rw [Snapshot.assetState, h.read_asset asset hasset]
      exact if_pos rfl
  rw [Snapshot.assetsIn]
  split_ifs with hunchanged
  · exact List.filter_eq_self.mpr fun asset hasset => by
      rw [hstate asset hasset, hunchanged, beq_self_eq_true]
  · exact List.filter_eq_nil_iff.mpr fun asset hasset hin => by
      rw [hstate asset hasset] at hin
      exact hunchanged (beq_iff_eq.mp hin).symm

/-- The lines that tell that there is nothing to be brought up to date. -/
def upToDateLines : List String :=
  let total := toString Asset.all.length
  ["init: installed version is up to date: " ++ Asset.version ++ ".",
    "init: checked " ++ total ++ "/" ++ total ++ " assets: " ++ total ++
      " ok, 0 missing, 0 outdated.", ""]

theorem Stocked.checkLines (h : files.Stocked e) :
    files.snapshot.checkLines Asset.version = upToDateLines := by
  simp only [Snapshot.checkLines, h.assetsIn, if_true, reduceCtorEq, if_false]
  decide +kernel

/-- **`init --check` reports that every bundled file is as it should be.** -/
theorem Relaid.check (h : files.Relaid e now) (hlater : later.files = files) :
    checkAssets.run later = (.ok .success, later.printed upToDateLines) := by
  subst hlater
  have hread : later.files.snapshot.read versionFile = .ok (versionDocument now).indented :=
    (Snapshot.read_version_iff h.inOrder.wellFormed).mpr h.version
  have hversion : recordedVersion (versionDocument now) = Asset.version :=
    show Text.trim Asset.version = Asset.version by decide
  have hprints := prints_checkAssets
    (prints_readSettings_of_indented hread (regular_versionDocument now))
  rw [hversion, h.checkLines] at hprints
  exact hprints.run

end FileSystem

/-! ## What depends on the environment and the time alone -/

namespace Shell

theorem unaware_relay : Unaware relay :=
  (plain_unaware.forM (fun _ => plain_unaware.change _) _).bind fun _ =>
    unaware_recordEnvironment.bind fun _ => (plain_unaware.syncAssets _).bind fun _ =>
    (unaware_ensureOnPath _).bind fun _ => plain_unaware.recordVersion.bind fun _ =>
    (plain_unaware.change _).bind fun _ => plain_unaware.pure _

/-- A session with nothing in it but an environment, at a time. -/
def blank (e : Environment) (now : Moment) : Session :=
  { Session.fresh {} ⟨.fresh, some .empty, "tree"⟩ .builtins {} now with environment := e }

/-- The tree that is laid out for an environment at a time. -/
def relaidTree (e : Environment) (now : Moment) : Snapshot :=
  (relay.run (blank e now)).2.files.snapshot

variable {s t : Session} {args : List String}

theorem snapshot_relay (hopen : s.files.Opened) (hfresh : s.files.snapshot = .fresh) :
    (relay.run s).2.files.snapshot = relaidTree s.environment s.now := by
  have hagrees : s.Agrees (blank s.environment s.now) :=
    ⟨hfresh, rfl, rfl, hopen, ⟨_, rfl, rfl⟩⟩
  obtain ⟨-, hafter⟩ := unaware_relay s _ hagrees
  exact hafter.snapshot

/-- The options that make `init` lay out a tree that is not empty. -/
structure Forced (args : List String) : Prop where
  force : "-f" ∈ args ∨ "--force" ∈ args
  check : "--check" ∉ args
  update : "--update" ∉ args

theorem run_init_of_forced (h : Forced args) (s : Session) :
    (init args).run s = (layOut s.files.snapshot.looksEmpty).run s := by
  have hforce : (s.files.snapshot.looksEmpty || args.contains "-f" || args.contains "--force") =
      true := by
    rcases h.force with hforce | hforce <;> simp [hforce]
  rw [init, if_neg (mt List.contains_iff_mem.mp h.check),
    if_neg (mt List.contains_iff_mem.mp h.update), run_view_bind, if_pos hforce]

/-- **A forced `init` succeeds**, and leaves the tree for the environment and the time. -/
theorem run_forced (hs : s.Ready) (h : Forced args) :
    ∃ (files : FileSystem) (console : Console),
      (init args).run s = (.ok .success, { s with files, console }) ∧
      files.snapshot = relaidTree s.environment s.now ∧ files.Relaid s.environment s.now := by
  have hprepared := hs.loaded.prepared
  have htext : Number.integerText s.environment.historyLimit =
      .ok (toString s.environment.historyLimit) :=
    if_neg (Nat.not_lt.mpr hs.loaded.limit_length)
  obtain ⟨files, console, hopened, hfresh, hrun⟩ :=
    run_layOut_eq hs.opened s.files.snapshot.looksEmpty
  have hsnapshot := snapshot_relay (s := { s with files, console }) hopened hfresh
  obtain ⟨synced, last, told, hrelay, hfailures, hrelaid⟩ :=
    run_relay (s := { s with files, console }) hopened hfresh htext
  -- The environment is as it was, since laying out would only do to it what loading has done.
  dsimp only at hrelay hrelaid
  rw [hprepared] at hrelay hrelaid
  rw [hrelay] at hsnapshot
  obtain ⟨ended, htell⟩ := run_tellLaidOut s.files.snapshot.looksEmpty hfailures
    { s with files := last, console := told }
  refine ⟨last, ended, ?_, hsnapshot, hrelaid⟩
  rw [run_init_of_forced h, hrun, run_bind_of_ok hrelay, htell]

end Shell

/-- What a forced `init` makes of a session. Nothing but the files has changed; the current folder
is the home folder; the base folders and the bundled files are there, and beside them nothing but
the settings and the record of the version. The environment is loaded again from the files, and the
store gives the files back. There is nothing to be brought up to date, and to do all of it again
changes nothing but that record, and not even that if no time has passed. -/
structure Session.LaidOutAnew (s t : Session) : Prop where
  kept : ∃ files console, t = { s with files, console }
  cwd : t.files.snapshot.cwd = homePlace
  folders : ∀ folder ∈ baseFolders, t.files.snapshot.isFolder folder = true
  assets : ∀ asset ∈ Asset.all, t.files.snapshot.read asset.path = .ok asset.content
  others : ∀ place, ¬ LaidPlace place → t.files.snapshot.paths.entry? place = none
  programs : .string programFolder ∈ s.environment.path
  loads : ∀ later : Session, later.files = t.files →
    (0 < s.environment.historyLimit ∨
      later.config.shell.historyLimit = s.config.shell.historyLimit) →
    (loadEnvironment.run later).1 = .ok () ∧
      (loadEnvironment.run later).2.environment = s.environment
  mounts : ∃ store, t.files.store? = some store ∧ mount store t.files.key = .ok t.files
  checks : ∀ args : List String, "--check" ∈ args →
    (init args).run t = (.ok .success, t.printed upToDateLines)
  again : ∀ args now, Forced args → ∃ files console,
    (init args).run { t with now } = (.ok .success, { t with now, files, console }) ∧
      files.snapshot.cwd = t.files.snapshot.cwd ∧
      (∀ place, place ≠ versionPlace →
        files.snapshot.paths.entry? place = t.files.snapshot.paths.entry? place) ∧
      (now = t.now → files.snapshot = t.files.snapshot ∧ files.recordText? = t.files.recordText?)

namespace Shell

variable {s t : Session} {args : List String}

/-- A session that is ready is laid out anew, with the tree for its environment and the time. -/
theorem laidOutAnew_of_forced (hs : s.Ready) (h : Forced args) :
    ∃ t, (init args).run s = (.ok .success, t) ∧ s.LaidOutAnew t ∧
      t.files.snapshot = relaidTree s.environment s.now ∧ t.files.Recorded := by
  obtain ⟨files, console, hrun, hsnapshot, hrelaid⟩ := run_forced hs h
  refine ⟨_, hrun, ?_, hsnapshot, hrelaid.recorded⟩
  refine ⟨⟨files, console, rfl⟩, hrelaid.cwd, hrelaid.isFolder_base, hrelaid.read_asset,
    hrelaid.furnished.others, hs.loaded.spelled.programs, fun later hlater hlimit => ?_,
    hrelaid.recorded.mount, fun args hargs => ?_, fun args now hargs => ?_⟩
  · refine hrelaid.load hs.loaded hlater ?_
    rcases hs.loaded.limit with hpositive | hdefault
    · exact .inl hpositive
    · exact hlimit.imp_right fun hsame => hsame.trans hdefault.symm
  · rw [init_check (List.contains_iff_mem.mpr hargs)]
    exact hrelaid.check rfl
  · obtain ⟨next, told, hagain, hnext, hrelaidNext⟩ :=
      run_forced (s := { s with files, console, now }) ⟨hrelaid.inOrder.opened, hs.loaded⟩ hargs
    refine ⟨next, told, hagain, hrelaidNext.cwd.trans hrelaid.cwd.symm,
      fun place hplace => hrelaid.entry?_eq hrelaidNext.toStocked hplace, ?_⟩
    rintro rfl
    have hsame : next.snapshot = files.snapshot := hnext.trans hsnapshot.symm
    refine ⟨hsame, ?_⟩
    rw [hrelaidNext.recorded.recordText, hrelaid.recorded.recordText, hsame]

/-- **A forced `init` erases the past and keeps the settings.** In any two sessions that were
started up and have the same settings at the same time, whatever their trees, their stores and their
configurations are, it succeeds, and leaves the same tree and the same record of it; and what is
promised of that tree holds in both. -/
theorem forced_init_erases {others : List String} (hs : s.Bootstrapped) (ht : t.Bootstrapped)
    (henvironment : s.environment = t.environment) (hnow : s.now = t.now) (hargs : Forced args)
    (hothers : Forced others) :
    ∃ u v, (init args).run s = (.ok .success, u) ∧ (init others).run t = (.ok .success, v) ∧
      u.files.snapshot = v.files.snapshot ∧ u.files.recordText? = v.files.recordText? ∧
      s.LaidOutAnew u ∧ t.LaidOutAnew v := by
  obtain ⟨u, hu, hanewU, hsnapshotU, hrecordedU⟩ := laidOutAnew_of_forced hs.ready hargs
  obtain ⟨v, hv, hanewV, hsnapshotV, hrecordedV⟩ := laidOutAnew_of_forced ht.ready hothers
  have hsame : u.files.snapshot = v.files.snapshot := by
    rw [hsnapshotU, hsnapshotV, henvironment, hnow]
  refine ⟨u, v, hu, hv, hsame, ?_, hanewU, hanewV⟩
  rw [hrecordedU.recordText, hrecordedV.recordText, hsame]

/-- A session over a tree with one file, before it is started up. -/
def keepingSession : Session :=
  .fresh {} ⟨⟨⟨"/", [], [⟨"note", "keep"⟩]⟩, []⟩, some .empty, "tree"⟩ .builtins {}
    ⟨2024, 1, 1, 0, 0, 0, 0⟩

/-- The same after it was started up and another file was written. -/
def writingSession : Session :=
  let s := (bootstrap.run keepingSession).2
  { s with files := (s.files.commit (s.files.snapshot.write "/other" "new")).2 }

theorem forced_init_erases_keepingSession :
    (bootstrap.run keepingSession).2.files.snapshot.isFile "/other" = false ∧
      writingSession.files.snapshot.isFile "/other" = true ∧
      ∃ u v, (init ["-f"]).run (bootstrap.run keepingSession).2 = (.ok .success, u) ∧
        (init ["here", "--force"]).run writingSession = (.ok .success, v) ∧
        u.files.snapshot = v.files.snapshot := by
  have hstarted : Session.Bootstrapped (bootstrap.run keepingSession).2 :=
    .start rfl ⟨_, rfl, rfl⟩ (eq_ok_of_toBool (by decide +kernel))
  have hwritten : writingSession.Bootstrapped := .files _ hstarted
  obtain ⟨u, v, hu, hv, hsame, -⟩ := forced_init_erases hstarted hwritten rfl rfl
    (⟨by decide, by decide, by decide⟩ : Forced ["-f"])
    (⟨by decide, by decide, by decide⟩ : Forced ["here", "--force"])
  exact ⟨by decide +kernel, by decide +kernel, u, v, hu, hv, hsame⟩

end Shell

end TreeShell
