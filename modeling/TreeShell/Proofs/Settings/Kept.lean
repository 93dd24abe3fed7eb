import TreeShell.Proofs.Settings.InForm

/-!
# What is kept is loaded again

After the environment was loaded a session is *kept* (`Session.Kept`): its environment is in form,
each of the four files has the text of its part, and the record in the store is that of the tree
(`kept_of_load`). A session that starts over files that are kept loads the same environment, and in
writing it back moves nothing (`Kept.load`). This is where all meets: documents are read back from
their texts, an environment in form is not changed by bringing it into form, and a file that is
written as it is leaves the tree as it is.

That the store takes records need not be asked for where something was loaded, since where it does
not the first part that is written stops the loading (`opened_of_load`).
-/

set_option autoImplicit false

namespace TreeShell

/-- A session whose environment is in form and in its files, with the files in the store. -/
structure Session.Kept (s : Session) : Prop where
  tended : s.files.Tended
  recorded : s.files.Recorded
  inForm : s.environment.InForm
  tells : ∀ file, ∃ text, s.files.settings? file = some (.file text) ∧
    SettingsFile.Tells s.environment text file

namespace FileSystem

variable {files : FileSystem} {file : SettingsFile} {config : ShellConfig} {e : Environment}

/-! ## What is in the files after loading -/

theorem Free.withLimit (hfree : files.Free) (h : files.Tended) (config : ShellConfig) :
    (files.withLimit config).Free := by
  unfold FileSystem.withLimit
  split
  · exact hfree.withSettings h _ _
  · exact hfree

/-- The bound of the history is in its file after it was read. -/
theorem Free.limit_tells (hfree : files.Free) (h : files.Tended)
    (hpositive : 0 < config.historyLimit) (hlimited : ∀ e, ¬ files.texts.LimitObstructs config e) :
    ∃ text, (files.withLimit config).settings? .limit = some (.file text) ∧
      Shell.limitOfText text = .ok (some (files.texts.limit config)) := by
  have hlength := SettingsTexts.decimalLength_limit hlimited
  rw [FileSystem.withLimit]
  unfold SettingsTexts.limit at hlength ⊢
  cases hlimit : files.texts.recordedLimit with
  | error e => exact absurd (.unreadable hlimit) (hlimited e)
  | ok limit? =>
    rw [hlimit] at hlength
    cases limit? with
    | none =>
      obtain ⟨htrim, hread⟩ := Config.historyLimit?_toString hpositive hlength
      refine ⟨toString config.historyLimit, ?_, ?_⟩
      · dsimp only
        rw [hfree.settings?_withSettings h, if_pos rfl]
      · rw [Shell.limitOfText, htrim, hread]
    | some limit =>
      dsimp only
      unfold SettingsTexts.recordedLimit texts at hlimit
      split at hlimit
      · rename_i text htext
        refine ⟨text, ?_, hlimit⟩
        split at htext
        · rename_i hentry
          cases htext
          exact hentry
        · cases htext
      · cases hlimit

/-- All of an environment but the bound of its history is in the files after it was written. -/
theorem Free.withEnvironment (hfree : files.Free) (h : files.Tended) (e : Environment) :
    (files.withEnvironment e).Tended ∧ (files.withEnvironment e).Recorded ∧
      (files.withEnvironment e).settings? .limit = files.settings? .limit ∧
      ∀ file, file ≠ .limit → ∃ text,
        (files.withEnvironment e).settings? file = some (.file text) ∧
          SettingsFile.Tells e text file := by
  have hsearch := h.withSettings .search e.searchDocument.indented
  have hfreeSearch := hfree.withSettings h .search e.searchDocument.indented
  have hdisplay := hsearch.withSettings .display e.displayDocument.indented
  have hfreeDisplay := hfreeSearch.withSettings hsearch .display e.displayDocument.indented
  have hsettings (file : SettingsFile) : (files.withEnvironment e).settings? file =
      if file = .history then some (.file e.historyDocument.indented)
      else if file = .display then some (.file e.displayDocument.indented)
      else if file = .search then some (.file e.searchDocument.indented)
      else files.settings? file := by
    rw [FileSystem.withEnvironment, hfreeDisplay.settings?_withSettings hdisplay,
      hfreeSearch.settings?_withSettings hsearch, hfree.settings?_withSettings h]
  refine ⟨hdisplay.withSettings _ _, hdisplay.recorded_withSettings (hfreeDisplay _) _,
    hsettings .limit, fun file hfile => ?_⟩
  rw [hsettings]
  cases file with
  | limit => exact absurd rfl hfile
  | history => exact ⟨_, rfl, rfl⟩
  | display => exact ⟨_, rfl, rfl⟩
  | search => exact ⟨_, rfl, rfl⟩

end FileSystem

namespace Shell

open FileSystem

variable {s t : Session}

/-! ## A store that fails -/

variable {fault : Fault}

/-- What succeeds where the store fails has changed nothing. -/
theorem eq_of_run_change_of_storeFault {f : Snapshot → Attempt Unit}
    (hfault : s.files.StoreFault fault) (h : (change f).run s = (.ok (), t)) :
    t = s ∧ f s.files.snapshot = .ok ⟨(), none⟩ := by
  rw [run_change] at h
  cases hattempt : f s.files.snapshot with
  | error reason =>
    rw [hattempt] at h
    cases h
  | ok step =>
    obtain ⟨answer, next?⟩ := step
    rw [hattempt] at h
    cases next? with
    | none =>
      cases h
      exact ⟨rfl, rfl⟩
    | some next =>
      rw [hfault.commit] at h
      cases h

theorem run_readSettings_session (path : String) (s : Session) :
    ((readSettings path).run s).2 = s := by
  rw [readSettings, run_bind, run_attempt_look]
  dsimp only
  split
  · rfl
  · split <;> rfl

/-- A bound that is read without a word where the store fails is one that was there. -/
theorem eq_of_run_readHistoryLimit_of_storeFault {limit : Int} (hs : s.files.snapshot.WellFormed)
    (hfolder : s.files.snapshot.paths.entry? [settingsFolder] = some .folder)
    (hfault : s.files.StoreFault fault) (hfree : s.files.Free)
    (h : readHistoryLimit.run s = (.ok limit, t)) : t = s := by
  rw [run_readHistoryLimit hs] at h
  split at h
  · cases h
    rfl
  · obtain ⟨_, u, hwritten, -⟩ := exists_of_run_bind_ok (congrArg Prod.fst h)
    rw [recordLimit] at hwritten
    split at hwritten
    · rw [← SettingsFile.path_limit] at hwritten
      have hrefused := run_writeSettings_of_storeFault hfolder hfault (hfree .limit)
      cases (congrArg Prod.fst hwritten).symm.trans (hrefused _)
    · cases hwritten
  · cases h

/-- No environment is loaded where the store fails, since it could not be written. -/
theorem opened_of_load (hs : s.files.snapshot.WellFormed) (hfree : s.files.Free)
    (hload : (loadEnvironment.run s).1 = .ok ()) : s.files.Opened := by
  by_contra hnot
  obtain ⟨fault, hfault⟩ := exists_storeFault hnot
  have hread {document : Json} {path : String} {t u : Session}
      (hrun : (readSettings path).run t = (.ok document, u)) : u = t := by
    rw [← run_readSettings_session path t, hrun]
  rw [loadEnvironment] at hload
  obtain ⟨_, t, hensure, hlimited⟩ := exists_of_run_bind_ok hload
  obtain ⟨ht, hnothing⟩ := eq_of_run_change_of_storeFault hfault hensure
  have hfolder := folder_of_ensureDirPath hnothing
  obtain ⟨limit, t₁, hlimit, hhistory⟩ := exists_of_run_bind_ok hlimited
  rw [ht] at hlimit
  cases eq_of_run_readHistoryLimit_of_storeFault hs hfolder hfault hfree hlimit
  rw [run_bind_of_ok (run_withEnvironment _ _)] at hhistory
  obtain ⟨_, t₂, hrun, hdisplay⟩ := exists_of_run_bind_ok hhistory
  cases hread hrun
  rw [run_bind_of_ok (run_withEnvironment _ _)] at hdisplay
  obtain ⟨_, t₃, hrun, hsearch⟩ := exists_of_run_bind_ok hdisplay
  cases hread hrun
  rw [run_bounds_bind, run_bind_of_ok (run_withEnvironment _ _)] at hsearch
  obtain ⟨_, t₄, hrun, hwrite⟩ := exists_of_run_bind_ok hsearch
  cases hread hrun
  rw [run_bind_of_ok (run_withEnvironment _ _)] at hwrite
  obtain ⟨_, t₅, hwritten, -⟩ := exists_of_run_bind_ok hwrite
  rw [recordSearch, run_environment_bind, ← SettingsFile.path_search] at hwritten
  have hrefused := congrArg Prod.fst hwritten
  rw [run_writeSettings_of_storeFault (by exact hfolder) (by exact hfault)
    (by exact hfree .search)] at hrefused
  cases hrefused

/-! ## What was loaded is kept -/

theorem kept_of_load (hs : s.files.snapshot.WellFormed) (hopened : s.files.Opened)
    (hfree : s.files.Free) (hpositive : 0 < s.config.shell.historyLimit)
    (hload : (loadEnvironment.run s).1 = .ok ()) : (loadEnvironment.run s).2.Kept := by
  rcases loadEnvironment_ends hs hopened with
    ⟨hclear, files, htended, hsame, hrun⟩ | ⟨fault, -, hrun⟩
  · have htexts := texts_congr hsame
    have hfree' : files.Free := by
      intro file
      rw [hsame]
      exact hfree file
    have hlimited : ∀ e, ¬ files.texts.LimitObstructs s.config.shell e :=
      fun e he => hclear _ (.limit (htexts ▸ he))
    obtain ⟨limit, hlimit, hlimitTells⟩ := hfree'.limit_tells htended hpositive hlimited
    obtain ⟨hkept, hrecorded, hsettings, htells⟩ :=
      (hfree'.withLimit htended s.config.shell).withEnvironment (htended.withLimit s.config.shell)
        (files.texts.environment s.config.shell s.environment.history)
    rw [hrun, ← htexts]
    refine ⟨hkept, hrecorded, SettingsTexts.inForm_environment hpositive hlimited _, fun file => ?_⟩
    cases file with
    | limit => exact ⟨limit, hsettings.trans hlimit, hlimitTells⟩
    | history => exact htells .history (by decide)
    | display => exact htells .display (by decide)
    | search => exact htells .search (by decide)
  · cases hrun.symm.trans hload

end Shell

/-! ## What is kept is loaded again -/

namespace FileSystem

variable {files : FileSystem} {e : Environment}

theorem Tended.withEnvironment_same (h : files.Tended)
    (htells : ∀ file, ∃ text, files.settings? file = some (.file text) ∧
      SettingsFile.Tells e text file) :
    (files.withEnvironment e).snapshot = files.snapshot ∧ (files.withEnvironment e).Recorded := by
  obtain ⟨_, hsearch, rfl⟩ := htells .search
  obtain ⟨_, hdisplay, rfl⟩ := htells .display
  obtain ⟨_, hhistory, rfl⟩ := htells .history
  obtain ⟨hsnapshot₁, hsettings₁, htended₁, -⟩ := h.withSettings_same hsearch
  rw [← hsettings₁] at hdisplay hhistory
  obtain ⟨hsnapshot₂, hsettings₂, htended₂, -⟩ := htended₁.withSettings_same hdisplay
  rw [← hsettings₂] at hhistory
  obtain ⟨hsnapshot₃, -, -, hrecorded⟩ := htended₂.withSettings_same hhistory
  exact ⟨hsnapshot₃.trans (hsnapshot₂.trans hsnapshot₁), hrecorded⟩

end FileSystem

namespace Session

open Shell FileSystem

variable {s t : Session}

/-- **What is kept is loaded as it is**, whatever the defaults are, and whatever the environment was
before; and that leaves the tree as it was. -/
theorem Kept.load (h : s.Kept) (ht : t.files = s.files) :
    ∃ files : FileSystem, files.snapshot = s.files.snapshot ∧ files.Recorded ∧
      loadEnvironment.run t = (.ok (), { t with environment := s.environment, files }) := by
  have htended : t.files.Tended := ht ▸ h.tended
  have htells (file : SettingsFile) : ∃ text, t.files.texts file = some text ∧
      SettingsFile.Tells s.environment text file := by
    obtain ⟨text, htext, htold⟩ := h.tells file
    exact ⟨text, ht ▸ texts_of_settings? htext, htold⟩
  obtain ⟨hsame, hlimit, hshort⟩ := SettingsTexts.environment_of_tells h.inForm htells
    t.config.shell t.environment.history
  rcases loadEnvironment_cases htended with ⟨-, hrun⟩ | ⟨fault, hobstructs, -⟩
  · obtain ⟨hsnapshot, hrecorded⟩ := h.tended.withEnvironment_same h.tells
    rw [hsame, withLimit, hlimit, ht] at hrun
    exact ⟨_, hsnapshot, hrecorded, hrun⟩
  · cases hobstructs with
    | folder hfile => cases htended.folder.symm.trans hfile
    | limit hother =>
      cases hother with
      | unreadable hother => cases hlimit.symm.trans hother
      | unwritable hother => cases hlimit.symm.trans hother
    | number hfile hnumber => exact absurd hnumber (hshort _ _ hfile)

end Session

end TreeShell
