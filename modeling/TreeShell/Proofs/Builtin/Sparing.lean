import TreeShell.Proofs.Builtin.Checking
import TreeShell.Proofs.Dispatch.Moves
import TreeShell.Session.Loop

/-!
# Only a forced `init` destroys

To start up a session and to run `init` makes folders and writes files, and both are careful: a
folder is made where there is nothing, and a file is written among the settings, or in the place of
a bundled file when the bundled files are brought up to date. There is one step that is not careful.
`init` forgets the tree before it lays it out. It does so if it is forced, and else only in a tree
that has nothing but settings, where there is nothing to lose (`sparing_looksEmpty`).

So what is outside the settings stays (`only_forced_init_destroys`). The invariant of a run is that
of its steps: at a place that is looked at, what was there is there still (`PathMap.Spares`).
-/

set_option autoImplicit false

namespace TreeShell

open FileSystem Relation Shell

/-! ## What is spared -/

/-- What was at a place is there still, but the text of a file may now be one of some others. -/
def PathMap.Spares (place texts : List String) (m next : PathMap) : Prop :=
  ∀ entry, m.entry? place = some entry →
    next.entry? place = some entry ∨
      ∃ text ∈ texts, entry.kind = .file ∧ next.entry? place = some (.file text)

/-- What a session does to the tree at a place. -/
def Session.Spares (place texts : List String) (s t : Session) : Prop :=
  s.files.snapshot.paths.Spares place texts t.files.snapshot.paths

variable {place texts : List String}

namespace PathMap

variable {m next last : PathMap}

theorem spares_of_same (h : next.entry? place = m.entry? place) : m.Spares place texts next :=
  fun _ hentry => .inl (h.trans hentry)

theorem Spares.trans (h : m.Spares place texts next) (hnext : next.Spares place texts last) :
    m.Spares place texts last := by
  intro entry hentry
  rcases h entry hentry with hkept | ⟨text, htext, hkind, hfile⟩
  · exact hnext entry hkept
  · rcases hnext _ hfile with hkept | ⟨other, hother, -, hlast⟩
    · exact .inr ⟨text, htext, hkind, hkept⟩
    · exact .inr ⟨other, hother, hkind, hlast⟩

end PathMap

namespace Snapshot

variable {s : Snapshot} {path content : String}

/-- Making folders spares everything. -/
theorem spares_ensureDirPath (s : Snapshot) (path : String) :
    s.paths.Spares place texts (s.settle (s.ensureDirPath path)).paths := by
  by_cases hblocked : s.paths.Blocked (s.resolve path)
  · obtain ⟨reason, hrefused, -⟩ := ensureDirPath_of_blocked hblocked
    rw [hrefused]
    exact PathMap.spares_of_same rfl
  · intro entry hentry
    refine .inl ?_
    cases entry with
    | folder => exact folder_settle_ensureDirPath hentry path
    | file content =>
      refine (entry?_settle_ensureDirPath fun hway => hblocked ?_).trans hentry
      refine ⟨place, content, ?_, hway, hentry⟩
      rintro rfl
      cases hentry

/-- Writing a file spares all other places, and the folders at its own. -/
theorem spares_write (h : s.resolve path = place → content ∈ texts) :
    s.paths.Spares place texts (s.settle (s.write path content)).paths := by
  by_cases hplace : place = s.resolve path
  · intro entry hentry
    cases entry with
    | folder => exact .inl ((folder_settle_write_iff path content).mpr hentry)
    | file old =>
      rw [paths_settle, write_refines, PathMap.write, resolve_paths, ← hplace]
      split_ifs
      · exact .inl hentry
      · exact .inl hentry
      · exact .inl hentry
      · exact .inr ⟨content, h hplace.symm, rfl, Function.update_self _ _ _⟩
  · exact PathMap.spares_of_same (entry?_settle_write hplace content)

/-- Where nothing but settings is, nothing is outside them but the root. -/
theorem outside_of_looksEmpty (h : s.looksEmpty = true) {entry : Entry}
    (hentry : s.paths.entry? place = some entry) : place = [] ∨ [settingsFolder] <+: place := by
  rw [looksEmpty, Bool.and_eq_true, List.all_eq_true, List.isEmpty_iff] at h
  obtain ⟨hfolders, hfiles⟩ := h
  cases place with
  | nil => exact .inl rfl
  | cons name rest =>
    right
    rw [entry?_paths] at hentry
    rcases Folder.entryAt?_cons_eq_some hentry with ⟨child, hchild, -⟩ | ⟨-, file, hfile, -⟩
    · have hname := hfolders child (Folder.mem_of_folder? hchild)
      rw [Folder.name_of_folder? hchild, beq_iff_eq] at hname
      rw [hname]
      exact ⟨rest, rfl⟩
    · have hmem := List.mem_of_find?_eq_some hfile
      rw [hfiles] at hmem
      exact nomatch hmem

end Snapshot

theorem Session.spares_of_moves {s t : Session}
    (h : ReflTransGen (Session.Spares place texts) s t) : s.Spares place texts t := by
  induction h with
  | refl => exact PathMap.spares_of_same rfl
  | tail _ hlast ih => exact ih.trans hlast

theorem Session.kept_of_moves {s t : Session} {entry : Entry}
    (h : ReflTransGen (Session.Spares place []) s t)
    (hentry : s.files.snapshot.paths.entry? place = some entry) :
    t.files.snapshot.paths.entry? place = some entry := by
  rcases spares_of_moves h entry hentry with hkept | ⟨text, htext, -⟩
  · exact hkept
  · exact nomatch htext

/-! ## Careful steps -/

namespace Shell

variable {α : Type} {path content : String}

theorem sparing_of_files {step : Shell α} (h : ∀ s, (step.run s).2.files = s.files) :
    Moving (Session.Spares place texts) step := by
  refine fun s => .single (PathMap.spares_of_same ?_)
  rw [h]

theorem sparing_change {f : Snapshot → Attempt α}
    (h : ∀ s : Snapshot, s.paths.Spares place texts (s.settle (f s)).paths) :
    Moving (Session.Spares place texts) (change f) := by
  intro s
  have hspares := h s.files.snapshot
  rw [← snapshot_commit] at hspares
  exact .single hspares

theorem sparing_install (folder : String)
    (h : ∀ cwd, Path.resolve cwd path = place → content ∈ texts) :
    Moving (Session.Spares place texts) (install folder path content) :=
  (sparing_change (Snapshot.spares_ensureDirPath · folder)).bind fun _ =>
    sparing_change fun s => Snapshot.spares_write (h s.cwd)

theorem sparing_print (line : String) : Moving (Session.Spares place texts) (print line) :=
  sparing_of_files fun _ => rfl

theorem sparing_printPaths (heading : String) (paths : List String) :
    Moving (Session.Spares place texts) (printPaths heading paths) := by
  refine sparing_of_files fun s => ?_
  rw [(prints_printPaths s heading paths).run]
  rfl

/-! ## Starting up -/

section Outside

variable (houtside : ¬ [settingsFolder] <+: place)

include houtside

/-- The settings are written among the settings. -/
theorem sparing_writeSettings (file : SettingsFile) (content : String) :
    Moving (Session.Spares place texts) (writeSettings file.path content) := by
  refine (sparing_install settingsPath fun cwd hplace => absurd ?_ houtside).attempt.bind fun _ =>
    moving_of_same fun _ => rfl
  rw [← hplace, file.resolve_path]
  cases file <;> decide

/-- What is done only in a tree that has nothing but settings may do what it likes. -/
theorem sparing_looksEmpty {next : Bool → Shell α}
    (h : Moving (Session.Spares place texts) (next false)) :
    Moving (Session.Spares place texts) (view (·.looksEmpty) >>= next) := by
  intro s
  rw [run_view_bind]
  cases hempty : s.files.snapshot.looksEmpty with
  | false => exact h s
  | true =>
    refine .single fun entry hentry => .inl ?_
    rcases Snapshot.outside_of_looksEmpty hempty hentry with rfl | hsettings
    · cases hentry
      rfl
    · exact absurd hsettings houtside

theorem sparing_bootstrap : Moving (Session.Spares place texts) bootstrap := by
  have hstarted : Moving (Session.Spares place texts)
      (modify ({ · with started := true }) : Shell Unit) := sparing_of_files fun _ => rfl
  refine moving_get_bind fun s => holds_ite (moving_of_same fun _ => rfl) ?_
  have hload : Moving (Session.Spares place texts) loadEnvironment :=
    moving_loadEnvironment (sparing_writeSettings houtside)
      (sparing_change (Snapshot.spares_ensureDirPath · settingsPath)) fun _ =>
      sparing_of_files fun _ => rfl
  refine hload.bind fun _ => Moving.bind (moving_of_same fun _ => rfl) fun config => ?_
  dsimp only
  split
  · exact sparing_looksEmpty houtside hstarted
  · exact hstarted

end Outside

/-! ## `init` -/

/-- The texts that a place has among the bundled files. -/
def bundledTexts (place : List String) : List String :=
  (Asset.all.filter (·.place == place)).map Asset.content

theorem sparing_syncAssets (toWrite : AssetState → Bool) :
    Moving (Session.Spares place (bundledTexts place)) (syncAssets toWrite) := by
  refine Moving.mapM fun asset hasset => ?_
  have hinstall : Moving (Session.Spares place (bundledTexts place)) (installAsset asset) := by
    refine (sparing_install asset.folder fun cwd hplace => ?_).attempt.bind fun result => ?_
    · rw [Asset.resolve_path hasset] at hplace
      exact List.mem_map.mpr ⟨asset, List.mem_filter.mpr ⟨hasset, beq_iff_eq.mpr hplace⟩, rfl⟩
    · cases result with
      | ok done => exact moving_of_same fun _ => rfl
      | error reason => exact (sparing_print _).bind fun _ => moving_of_same fun _ => rfl
  refine Moving.bind (moving_of_same fun _ => rfl) fun state => ?_
  dsimp only
  split
  · exact hinstall.bind fun _ => moving_of_same fun _ => rfl
  · exact moving_of_same fun _ => rfl

theorem sparing_checkAssets : Moving (Session.Spares place texts) checkAssets := by
  refine sparing_of_files fun s => ?_
  rcases checkAssets_cases s with ⟨-, installed, hrun⟩ | ⟨digits, -, hrun⟩
  · rw [hrun]
    rfl
  · rw [hrun]

section Outside

variable (houtside : ¬ [settingsFolder] <+: place)

include houtside

theorem sparing_updateAssets : Moving (Session.Spares place (bundledTexts place)) updateAssets := by
  have hversion : Moving (Session.Spares place (bundledTexts place)) recordVersion := by
    refine moving_get_bind fun s =>
      sparing_install settingsPath fun cwd hplace => absurd ?_ houtside
    rw [← hplace, resolve_versionFile]
    decide
  have hend (outcome : Outcome) : Moving (Session.Spares place (bundledTexts place)) (do
      printBlank
      return outcome) := (sparing_print "").bind fun _ => moving_of_same fun _ => rfl
  refine (sparing_syncAssets _).bind fun synced => (sparing_print _).bind fun _ =>
    (sparing_printPaths _ _).bind fun _ => ?_
  exact holds_ite (hversion.bind fun _ => (sparing_print _).bind fun _ => hend _) (hend _)

/-- Without force the tree is forgotten only if it has nothing but settings. -/
theorem sparing_init_unforced {args : List String} (hcheck : args.contains "--check" = false)
    (hupdate : args.contains "--update" = false) (hshort : args.contains "-f" = false)
    (hlong : args.contains "--force" = false) :
    Moving (Session.Spares place texts) (init args) := by
  rw [init, hcheck, hupdate]
  refine sparing_looksEmpty houtside ?_
  rw [hshort, hlong]
  exact sparing_of_files fun _ => rfl

end Outside

/-- **Only a forced `init` destroys what is not among the settings.** To start up leaves all of it
as it is, and so does `init` unless it is forced; to bring the bundled files up to date may give
those their bundled text, and nothing else. -/
theorem only_forced_init_destroys (s : Session) :
    (∀ place entry, ¬ [settingsFolder] <+: place →
      s.files.snapshot.paths.entry? place = some entry →
      PathMap.entry? (bootstrap.run s).2.files.snapshot.paths place = some entry) ∧
    ∀ args : List String,
      (args.contains "--check" = true ∨ args.contains "--update" = true ∨
        args.contains "-f" = false ∧ args.contains "--force" = false) →
      ∀ place entry, ¬ [settingsFolder] <+: place →
        s.files.snapshot.paths.entry? place = some entry →
        PathMap.entry? ((init args).run s).2.files.snapshot.paths place = some entry ∨
        (args.contains "--check" = false ∧ args.contains "--update" = true) ∧
          ∃ asset ∈ Asset.all, asset.place = place ∧ entry.kind = .file ∧
            PathMap.entry? ((init args).run s).2.files.snapshot.paths place =
              some (.file asset.content) := by
  refine ⟨fun place entry houtside => Session.kept_of_moves (sparing_bootstrap houtside s),
    fun args hargs place entry houtside hentry => ?_⟩
  cases hcheck : args.contains "--check" with
  | true =>
    rw [init_check hcheck]
    exact .inl (Session.kept_of_moves (sparing_checkAssets s) hentry)
  | false =>
    cases hupdate : args.contains "--update" with
    | true =>
      rw [init_update hcheck hupdate]
      have hspares := Session.spares_of_moves (sparing_updateAssets houtside s)
      refine (hspares entry hentry).imp_right fun ⟨text, htext, hkind, hfile⟩ => ⟨⟨rfl, rfl⟩, ?_⟩
      obtain ⟨asset, hasset, rfl⟩ := List.mem_map.mp htext
      obtain ⟨hmem, hplace⟩ := List.mem_filter.mp hasset
      exact ⟨asset, hmem, beq_iff_eq.mp hplace, hkind, hfile⟩
    | false =>
      rw [hcheck, hupdate] at hargs
      obtain ⟨hshort, hlong⟩ :=
        (hargs.resolve_left Bool.false_ne_true).resolve_left Bool.false_ne_true
      exact .inl (Session.kept_of_moves
        (sparing_init_unforced houtside hcheck hupdate hshort hlong s) hentry)

/-- A session with a note beside the settings. -/
def notedSession : Session :=
  .fresh {} ⟨⟨⟨"/", [⟨settingsFolder, [], []⟩], [⟨"note", "keep"⟩]⟩, []⟩, some .empty, "tree"⟩
    .builtins {} ⟨2024, 1, 1, 0, 0, 0, 0⟩

theorem only_forced_init_destroys_notedSession :
    PathMap.entry? (bootstrap.run notedSession).2.files.snapshot.paths ["note"] =
      some (.file "keep") ∧
    PathMap.entry? ((init []).run notedSession).2.files.snapshot.paths ["note"] =
      some (.file "keep") := by
  obtain ⟨hstart, hinit⟩ := only_forced_init_destroys notedSession
  refine ⟨hstart _ _ (by decide) rfl, ?_⟩
  refine (hinit [] (.inr (.inr ⟨rfl, rfl⟩)) _ _ (by decide) rfl).resolve_right ?_
  exact fun hupdated => nomatch hupdated.1.2

end Shell

end TreeShell
