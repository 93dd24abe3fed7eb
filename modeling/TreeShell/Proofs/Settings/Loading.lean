import TreeShell.Proofs.Number.Typed
import TreeShell.Proofs.Settings.Files

/-!
# What is loaded

The environment is a function of the texts of its four files (`SettingsTexts.environment`). For what
they do not give there is a default: a file may be missing or a folder, may hold no document, or one
of the wrong form. So loading hardly ever stops. It does where a file has the name of the settings
folder; where a number is too long, to be read or to be written; and where the bound of the history
is in digits of which some have no place value. `FileSystem.Obstructs` has these cases, and in all
others the environment is loaded (`loads_unless_obstructed`).

The parts are read one after another and each may stop the loading, so every reader has a lemma with
two cases: it answers, and then nothing of what it reads obstructs; or it stops with what does.
-/

set_option autoImplicit false

namespace TreeShell

/-- The texts of the settings files; none for one that is not there, or a folder. -/
abbrev SettingsTexts := SettingsFile → Option String

namespace SettingsTexts

/-- The document in a settings file; null if there is none. -/
def document (texts : SettingsTexts) (file : SettingsFile) : Json :=
  match texts file with
  | some text => (Json.parse text).toOption.getD .null
  | none => .null

/-- The bound of the history that is in its file, if there is a proper one. -/
def recordedLimit (texts : SettingsTexts) : Except Number.IntegerError (Option Int) :=
  match texts .limit with
  | some text => Shell.limitOfText text
  | none => .ok none

/-- The bound of the history: the one in its file, or the default. -/
def limit (texts : SettingsTexts) (config : ShellConfig) : Int :=
  match texts.recordedLimit with
  | .ok (some limit) => limit
  | _ => config.historyLimit

/-- The environment that the settings files give. What they do not give is the default, or for the
history what was held before. -/
def environment (texts : SettingsTexts) (config : ShellConfig) (earlier : List String) :
    Environment :=
  Environment.bounded
    { path := Environment.withFolder programFolder
        (Environment.pathOf config (texts.document .search))
      aliases := Environment.aliasesOf (texts.document .search)
      history := (Environment.historyOf? (texts.document .history)).getD earlier
      historyLimit := texts.limit config
      display := Environment.displayOf config (texts.document .display) }

/-- A settings file holds a whole number that is too long to be read. -/
def TooLong (texts : SettingsTexts) (file : SettingsFile) (digits : Nat) : Prop :=
  ∃ text, texts file = some text ∧ Json.parse text = .error (.integerTooLong digits)

/-- There is no way to a bound of the history: what is in its file cannot be read, or is no bound,
and the default cannot be written. -/
inductive LimitObstructs (texts : SettingsTexts) (config : ShellConfig) :
    Number.IntegerError → Prop
  | unreadable {e : Number.IntegerError} (hlimit : texts.recordedLimit = .error e) :
      LimitObstructs texts config e
  | unwritable {e : Number.IntegerError} (hlimit : texts.recordedLimit = .ok none)
      (htext : Number.integerText config.historyLimit = .error e) : LimitObstructs texts config e

theorem bounds_of_recordedLimit {texts : SettingsTexts} {limit : Int}
    (h : texts.recordedLimit = .ok (some limit)) :
    0 < limit ∧ Binary64.decimalLength limit.natAbs ≤ Number.maxIntegerDigits := by
  unfold recordedLimit at h
  split at h
  · exact Config.bounds_of_historyLimit? h
  · cases h

/-- The bound is positive, whether it was recorded or is the default. -/
theorem limit_pos {texts : SettingsTexts} {config : ShellConfig} (h : 0 < config.historyLimit) :
    0 < texts.limit config := by
  unfold limit
  split
  · rename_i limit hlimit
    exact (bounds_of_recordedLimit hlimit).1
  · exact h

end SettingsTexts

namespace FileSystem

variable {files : FileSystem} {file : SettingsFile} {text : String}

/-- The texts of the settings files. -/
def texts (files : FileSystem) : SettingsTexts := fun file =>
  match files.settings? file with
  | some (.file text) => some text
  | _ => none

theorem texts_congr {other : FileSystem} (h : files.settings? = other.settings?) :
    files.texts = other.texts := by
  funext file
  rw [texts, h, texts]

theorem texts_of_settings? (h : files.settings? file = some (.file text)) :
    files.texts file = some text := by
  rw [texts, h]

/-- What stops the loading of the environment. -/
inductive Obstructs (files : FileSystem) (config : ShellConfig) : Fault → Prop
  | folder {content : String} {reason : FileError}
      (hfile : files.snapshot.paths.entry? [settingsFolder] = some (.file content))
      (hkind : reason.kind = .alreadyExists) : Obstructs files config (.files reason)
  | limit {e : Number.IntegerError} (hlimit : files.texts.LimitObstructs config e) :
      Obstructs files config (.integer e)
  | number {file : SettingsFile} {digits : Nat} (hfile : file ≠ .limit)
      (hnumber : files.texts.TooLong file digits) :
      Obstructs files config (.integer (.tooLong digits))

/-- The file system after the bound of the history was read: the default is written if there is no
proper one. -/
def withLimit (files : FileSystem) (config : ShellConfig) : FileSystem :=
  match files.texts.recordedLimit with
  | .ok none => files.withSettings .limit (toString config.historyLimit)
  | _ => files

/-- The file system after all of an environment but the bound of its history was written. -/
def withEnvironment (files : FileSystem) (e : Environment) : FileSystem :=
  ((files.withSettings .search e.searchDocument.indented).withSettings .display
    e.displayDocument.indented).withSettings .history e.historyDocument.indented

/-- Reading a settings file gives its text, if it is one. -/
theorem read_settings (hs : files.snapshot.WellFormed) (file : SettingsFile) :
    (files.snapshot.read file.path).toOption = files.texts file := by
  have hplace : files.snapshot.paths.resolve file.path = file.place := file.resolve_path _
  have htext : (files.snapshot.paths.read file.path).toOption = files.texts file := by
    rw [PathMap.read, hplace, texts, settings?]
    rcases files.snapshot.paths.entry? file.place with _ | _ | _ <;> rfl
  rw [← htext, ← Snapshot.read_refines hs file.path]
  cases files.snapshot.read file.path <;> rfl

theorem Tended.withLimit (h : files.Tended) (config : ShellConfig) :
    (files.withLimit config).Tended := by
  unfold FileSystem.withLimit
  split
  · exact h.withSettings _ _
  · exact h

theorem texts_withLimit (h : files.Tended) (hfile : file ≠ .limit) (config : ShellConfig) :
    (files.withLimit config).texts file = files.texts file := by
  unfold withLimit
  split
  · rw [texts, h.settings?_withSettings, if_neg fun hboth => hfile hboth.1, texts]
  · rfl

end FileSystem

namespace Shell

open FileSystem

variable {s : Session} {file : SettingsFile}

/-- A document is read, or it has a number that is too long. -/
theorem readSettings_cases {files : FileSystem} (hs : files.snapshot.WellFormed)
    (file : SettingsFile) :
    ((∀ digits, ¬ files.texts.TooLong file digits) ∧
      ∀ s, s.files = files → (readSettings file.path).run s = (.ok (files.texts.document file), s)) ∨
    ∃ digits, files.texts.TooLong file digits ∧
      ∀ s, s.files = files →
        (readSettings file.path).run s = (.error (.integer (.tooLong digits)), s) := by
  have hread := read_settings hs file
  simp only [readSettings, run_bind, run_attempt_look, SettingsTexts.document,
    SettingsTexts.TooLong]
  cases hresult : files.snapshot.read file.path with
  | error reason =>
    rw [hresult] at hread
    simp only [← hread, Except.toOption]
    refine Or.inl ⟨by simp, ?_⟩
    rintro s rfl
    rw [hresult]
    rfl
  | ok text =>
    rw [hresult] at hread
    simp only [← hread, Except.toOption, Option.some.injEq, exists_eq_left']
    cases hparse : Json.parse text with
    | ok document =>
      refine Or.inl ⟨fun digits => by simp, ?_⟩
      rintro s rfl
      simp only [hresult, hparse]
      rfl
    | error e =>
      cases e with
      | malformed =>
        refine Or.inl ⟨fun digits => by simp, ?_⟩
        rintro s rfl
        simp only [hresult, hparse]
        rfl
      | integerTooLong digits =>
        refine Or.inr ⟨digits, rfl, ?_⟩
        rintro s rfl
        simp only [hresult, hparse]
        rfl

/-! ## Writing the parts of an environment -/

@[simp]
theorem run_withEnvironment (f : Environment → Environment) (s : Session) :
    (withEnvironment f).run s = (.ok (), { s with environment := f s.environment }) := rfl

@[simp]
theorem run_bounds_bind {α : Type} (next : ShellConfig → Shell α) (s : Session) :
    (bounds >>= next).run s = (next s.config.shell).run s := rfl

theorem run_recordSearch (h : s.files.Tended) :
    recordSearch.run s = (.ok (),
      { s with files := s.files.withSettings .search s.environment.searchDocument.indented }) := by
  rw [recordSearch, run_environment_bind, ← SettingsFile.path_search, run_writeSettings h]

theorem run_recordDisplay (h : s.files.Tended) :
    recordDisplay.run s = (.ok (),
      { s with files := s.files.withSettings .display s.environment.displayDocument.indented }) := by
  rw [recordDisplay, run_environment_bind, ← SettingsFile.path_display, run_writeSettings h]

theorem run_recordHistory (h : s.files.Tended) :
    recordHistory.run s = (.ok (),
      { s with
        environment := s.environment.bounded
        files := s.files.withSettings .history
          s.environment.bounded.historyDocument.indented }) := by
  rw [recordHistory, run_bind, run_withEnvironment]
  dsimp only
  rw [run_environment_bind, ← SettingsFile.path_history, run_writeSettings (by exact h)]

/-- A bound that can be written is written. -/
theorem run_recordLimit {limit : Int} {text : String} (h : s.files.Tended)
    (htext : Number.integerText limit = .ok text) :
    (recordLimit limit).run s = (.ok (),
      { s with files := s.files.withSettings .limit (toString limit) }) := by
  have hsame : text = toString limit := by
    unfold Number.integerText at htext
    split at htext
    · cases htext
    · exact (Except.ok.inj htext).symm
  rw [recordLimit, htext, ← SettingsFile.path_limit, run_writeSettings h, hsame]

/-! ## Reading the bound of the history -/

/-- What follows from what is in the file. -/
theorem run_readHistoryLimit (hs : s.files.snapshot.WellFormed) :
    readHistoryLimit.run s = match s.files.texts.recordedLimit with
      | .ok (some limit) => (.ok limit, s)
      | .ok none => (recordLimit s.config.shell.historyLimit >>= fun _ =>
          pure s.config.shell.historyLimit).run s
      | .error e => (.error (.integer e), s) := by
  have hread := read_settings hs .limit
  rw [readHistoryLimit, run_bind, run_attempt_look, ← SettingsFile.path_limit,
    SettingsTexts.recordedLimit]
  dsimp only
  cases hresult : s.files.snapshot.read SettingsFile.limit.path with
  | error reason =>
    rw [hresult] at hread
    rw [← hread]
    rfl
  | ok text =>
    rw [hresult] at hread
    rw [← hread]
    dsimp only [Except.toOption]
    cases limitOfText text with
    | error e => rfl
    | ok limit? => cases limit? <;> rfl

/-- The bound of the history is read, or taken from the configuration and written; or there is no
way to one. -/
theorem readHistoryLimit_cases (h : s.files.Tended) :
    ((∀ e, ¬ s.files.texts.LimitObstructs s.config.shell e) ∧
      readHistoryLimit.run s = (.ok (s.files.texts.limit s.config.shell),
        { s with files := s.files.withLimit s.config.shell })) ∨
    ∃ e, s.files.texts.LimitObstructs s.config.shell e ∧
      readHistoryLimit.run s = (.error (.integer e), s) := by
  rw [run_readHistoryLimit h.wellFormed, SettingsTexts.limit, withLimit]
  cases hlimit : s.files.texts.recordedLimit with
  | error e => exact Or.inr ⟨e, .unreadable hlimit, rfl⟩
  | ok limit? =>
    cases limit? with
    | some limit =>
      refine Or.inl ⟨fun e hobstructs => ?_, rfl⟩
      cases hobstructs with
      | unreadable hother => cases hlimit.symm.trans hother
      | unwritable hother => cases hlimit.symm.trans hother
    | none =>
      cases htext : Number.integerText s.config.shell.historyLimit with
      | ok text =>
        refine Or.inl ⟨fun e hobstructs => ?_, ?_⟩
        · cases hobstructs with
          | unreadable hother => cases hlimit.symm.trans hother
          | unwritable _ hother => cases htext.symm.trans hother
        · simp only [run_bind, run_recordLimit h htext, run_pure]
      | error e =>
        refine Or.inr ⟨e, .unwritable hlimit htext, ?_⟩
        rw [run_bind, recordLimit, htext]
        rfl

/-! ## Loading the environment -/

/-- Where the folder of the settings is there, an environment is loaded and written, or some file
obstructs. -/
theorem loadEnvironment_cases (h : s.files.Tended) :
    ((∀ fault, ¬ s.files.Obstructs s.config.shell fault) ∧
      loadEnvironment.run s = (.ok (), { s with
        environment := s.files.texts.environment s.config.shell s.environment.history
        files := (s.files.withLimit s.config.shell).withEnvironment
          (s.files.texts.environment s.config.shell s.environment.history) })) ∨
    ∃ fault, s.files.Obstructs s.config.shell fault ∧ (loadEnvironment.run s).1 = .error fault := by
  have hlimited := h.withLimit s.config.shell
  have hread (file : SettingsFile) (hfile : file ≠ .limit) :
      ((∀ digits, ¬ s.files.texts.TooLong file digits) ∧
        ∀ t, t.files = s.files.withLimit s.config.shell →
          (readSettings file.path).run t = (.ok (s.files.texts.document file), t)) ∨
      ∃ digits, s.files.Obstructs s.config.shell (.integer (.tooLong digits)) ∧
        ∀ t, t.files = s.files.withLimit s.config.shell →
          (readSettings file.path).run t = (.error (.integer (.tooLong digits)), t) := by
    have hcases := readSettings_cases hlimited.wellFormed file
    simp only [SettingsTexts.TooLong, SettingsTexts.document,
      texts_withLimit h hfile s.config.shell] at hcases
    exact hcases.imp_right fun ⟨digits, hnumber, hrun⟩ => ⟨digits, .number hfile hnumber, hrun⟩
  rw [loadEnvironment, run_bind_of_ok (run_ensureSettings h.folder), ← SettingsFile.path_history,
    ← SettingsFile.path_display, ← SettingsFile.path_search]
  rcases readHistoryLimit_cases h with ⟨hlimit, hrun⟩ | ⟨e, hlimit, hrun⟩
  · rw [run_bind_of_ok hrun, run_bind_of_ok (run_withEnvironment _ _)]
    rcases hread .history (by decide) with ⟨hhistory, hrun⟩ | ⟨digits, hnumber, hrun⟩
    · rw [run_bind_of_ok (hrun _ (by rfl)), run_bind_of_ok (run_withEnvironment _ _)]
      rcases hread .display (by decide) with ⟨hdisplay, hrun⟩ | ⟨digits, hnumber, hrun⟩
      · rw [run_bind_of_ok (hrun _ (by rfl)), run_bounds_bind,
          run_bind_of_ok (run_withEnvironment _ _)]
        rcases hread .search (by decide) with ⟨hsearch, hrun⟩ | ⟨digits, hnumber, hrun⟩
        · rw [run_bind_of_ok (hrun _ (by rfl)), run_bind_of_ok (run_withEnvironment _ _),
            run_bind_of_ok (run_recordSearch (by exact hlimited)),
            run_bind_of_ok (run_recordDisplay (by exact hlimited.withSettings _ _)),
            run_recordHistory (by exact (hlimited.withSettings _ _).withSettings _ _)]
          refine Or.inl ⟨fun fault hobstructs => ?_, rfl⟩
          cases hobstructs with
          | folder hfile => exact nomatch h.folder.symm.trans hfile
          | limit hother => exact hlimit _ hother
          | @number file digits hfile hnumber =>
            cases file with
            | limit => exact hfile rfl
            | history => exact hhistory digits hnumber
            | display => exact hdisplay digits hnumber
            | search => exact hsearch digits hnumber
        · rw [run_bind_of_error (hrun _ (by rfl))]
          exact Or.inr ⟨_, hnumber, rfl⟩
      · rw [run_bind_of_error (hrun _ (by rfl))]
        exact Or.inr ⟨_, hnumber, rfl⟩
    · rw [run_bind_of_error (hrun _ (by rfl))]
      exact Or.inr ⟨_, hnumber, rfl⟩
  · rw [run_bind_of_error hrun]
    exact Or.inr ⟨_, .limit hlimit, rfl⟩

/-- The folder of the settings is there or is made, unless a file has its name. -/
theorem ensureSettings_cases (hs : s.files.snapshot.WellFormed)
    (hopened : s.files.Opened) :
    ((∀ content, s.files.snapshot.paths.entry? [settingsFolder] ≠ some (.file content)) ∧
      ∃ files : FileSystem, files.Tended ∧ files.settings? = s.files.settings? ∧
        (change (·.ensureDirPath settingsPath)).run s = (.ok (), { s with files })) ∨
    ∃ reason, s.files.Obstructs s.config.shell (.files reason) ∧
      (change (·.ensureDirPath settingsPath)).run s = (.error (.files reason), s) := by
  have hrefines := s.files.snapshot.ensureDirPath_refines settingsPath
  have hplace : s.files.snapshot.paths.resolve settingsPath = [settingsFolder] :=
    resolve_settingsPath _
  rw [PathMap.ensureDirPath, hplace] at hrefines
  by_cases hblocked : s.files.snapshot.paths.Blocked [settingsFolder]
  · obtain ⟨content, hfile⟩ := blocked_settings_iff.mp hblocked
    rw [if_pos hblocked] at hrefines
    obtain ⟨reason, hrefused, hkind⟩ := Snapshot.exists_of_outcome_error hrefines
    refine Or.inr ⟨reason, .folder hfile hkind, ?_⟩
    rw [run_change, hrefused]
    rfl
  · refine Or.inl ⟨fun content hfile => hblocked (blocked_settings_iff.mpr ⟨content, hfile⟩), ?_⟩
    by_cases hfolder : s.files.snapshot.paths.entry? [settingsFolder] = some .folder
    · have htended : s.files.Tended := ⟨hs, hopened, hfolder⟩
      exact ⟨s.files, htended, rfl, run_ensureSettings hfolder⟩
    · rw [if_neg hblocked, if_neg hfolder] at hrefines
      obtain ⟨next, hmade, hnext⟩ := Snapshot.exists_of_outcome_some hrefines
      have hwellFormed := hs.ensureDirPath settingsPath
      rw [hmade] at hwellFormed
      have hsnapshot : (s.files.commit (.ok (⟨(), some next⟩ : Step Unit))).2.snapshot = next :=
        snapshot_commit _ _
      refine ⟨_, ⟨?_, hopened.commit (.ok ⟨(), some next⟩), ?_⟩, ?_, ?_⟩
      · rw [hsnapshot]
        exact hwellFormed
      · rw [hsnapshot, hnext]
        simp [PathMap.pave]
      · funext file
        have hbelow : ¬ file.place <+: [settingsFolder] := by cases file <;> decide
        rw [settings?, hsnapshot, hnext]
        exact if_neg hbelow
      · rw [run_change, hmade, hopened.commit_ok]

/-- With nothing in the way an environment is loaded, and otherwise the loading stops with what
is. -/
theorem loadEnvironment_ends (hs : s.files.snapshot.WellFormed)
    (hopened : s.files.Opened) :
    ((∀ fault, ¬ s.files.Obstructs s.config.shell fault) ∧
      ∃ files : FileSystem, files.Tended ∧ files.settings? = s.files.settings? ∧
        loadEnvironment.run s = (.ok (), { s with
          environment := s.files.texts.environment s.config.shell s.environment.history
          files := (files.withLimit s.config.shell).withEnvironment
            (s.files.texts.environment s.config.shell s.environment.history) })) ∨
    ∃ fault, s.files.Obstructs s.config.shell fault ∧ (loadEnvironment.run s).1 = .error fault := by
  rcases ensureSettings_cases hs hopened with ⟨hclear, files, htended, hsame, hrun⟩ |
    ⟨reason, hobstructs, hrun⟩
  · have htexts := texts_congr hsame
    have hload : loadEnvironment.run s = loadEnvironment.run { s with files } := by
      rw [loadEnvironment, run_bind_of_ok hrun, run_bind_of_ok (run_ensureSettings htended.folder)]
    have hobstructs (fault : Fault) : files.Obstructs s.config.shell fault ↔
        s.files.Obstructs s.config.shell fault := by
      constructor
      · intro h
        cases h with
        | folder hfile => exact nomatch htended.folder.symm.trans hfile
        | limit hlimit => exact .limit (htexts ▸ hlimit)
        | number hfile hnumber => exact .number hfile (htexts ▸ hnumber)
      · intro h
        cases h with
        | folder hfile => exact absurd hfile (hclear _)
        | limit hlimit => exact .limit (htexts ▸ hlimit)
        | number hfile hnumber => exact .number hfile (htexts ▸ hnumber)
    have hcases := @loadEnvironment_cases { s with files } htended
    rw [hload]
    rcases hcases with ⟨hfree, hrun⟩ | ⟨fault, hfault, hrun⟩
    · refine Or.inl ⟨fun fault h => hfree fault ((hobstructs fault).mpr h),
        files, htended, hsame, ?_⟩
      rw [hrun, htexts]
    · exact Or.inr ⟨fault, (hobstructs fault).mp hfault, hrun⟩
  · refine Or.inr ⟨_, hobstructs, ?_⟩
    rw [loadEnvironment, run_bind_of_error hrun]

/-- **The environment is loaded unless something obstructs**, in a tree in order. There are four
such things: a file in the place of the settings folder, a bound of the history that is all digits
and yet no number or a number too long, a default for the bound that is too long to be written, and
a whole number too long in one of the documents. Otherwise whatever is in the files is made an
environment of, with the default for what is missing or of the wrong form; and its bound is
positive. -/
theorem loads_unless_obstructed (hs : s.files.snapshot.WellFormed)
    (hopened : s.files.Opened) (hpositive : 0 < s.config.shell.historyLimit) :
    ((loadEnvironment.run s).1 = .ok () ↔ ∀ fault, ¬ s.files.Obstructs s.config.shell fault) ∧
      (∀ fault, (loadEnvironment.run s).1 = .error fault →
        s.files.Obstructs s.config.shell fault) ∧
      ((loadEnvironment.run s).1 = .ok () →
        (loadEnvironment.run s).2.environment =
          s.files.texts.environment s.config.shell s.environment.history ∧
        0 < (loadEnvironment.run s).2.environment.historyLimit) := by
  rcases loadEnvironment_ends hs hopened with ⟨hfree, files, -, -, hrun⟩ | ⟨fault, hfault, hrun⟩
  · rw [hrun]
    exact ⟨iff_of_true rfl hfree, fun fault h => (nomatch h),
      fun _ => ⟨rfl, SettingsTexts.limit_pos hpositive⟩⟩
  · rw [hrun]
    refine ⟨iff_of_false (fun h => nomatch h) fun hfree => hfree fault hfault, ?_,
      fun h => (nomatch h)⟩
    rintro other ⟨rfl⟩
    exact hfault

/-- A session with the given folders and files among its settings. -/
def sessionWith (folders : List Folder) (files : List File) : Session :=
  .fresh {} ⟨⟨⟨"/", [⟨settingsFolder, folders, files⟩], []⟩, []⟩, some .empty, "tree"⟩ .builtins {}
    ⟨2024, 1, 1, 0, 0, 0, 0⟩

/-- The history is a folder, the display settings are no document, the aliases are a number, and the
bound of the history is missing. -/
def damagedSession : Session :=
  sessionWith [⟨"history.json", [], []⟩]
    [⟨"config.json", "no document"⟩, ⟨"env.json", "\x7b\"ALIAS\": 5\x7d"⟩]

/-- A step without an answer that was not stopped. -/
theorem eq_ok_of_toBool {result : Except Fault Unit} (h : result.toBool = true) :
    result = .ok () := by
  cases result with
  | ok => rfl
  | error fault => cases h

theorem loads_unless_obstructed_damagedSession :
    (loadEnvironment.run damagedSession).1 = .ok () ∧
      (∀ fault, ¬ damagedSession.files.Obstructs damagedSession.config.shell fault) ∧
      (loadEnvironment.run damagedSession).2.environment =
        damagedSession.files.texts.environment damagedSession.config.shell [] ∧
      0 < (loadEnvironment.run damagedSession).2.environment.historyLimit := by
  have hok : (loadEnvironment.run damagedSession).1 = .ok () :=
    eq_ok_of_toBool (by decide +kernel)
  obtain ⟨hiff, -, hloaded⟩ :=
    @loads_unless_obstructed damagedSession (by decide) ⟨_, rfl, rfl⟩ (by decide)
  exact ⟨hok, hiff.mp hok, hloaded hok⟩

/-- The bound of the history is a superscript: a digit, but not one that a number has. -/
def superscriptSession : Session :=
  sessionWith [] [⟨"historyLimit.txt", "²"⟩]

/-- Everything is in order there, and yet nothing is loaded. -/
theorem not_loads_superscriptSession :
    superscriptSession.files.snapshot.WellFormed ∧
      superscriptSession.files.Opened ∧
      0 < superscriptSession.config.shell.historyLimit ∧
      (loadEnvironment.run superscriptSession).1 ≠ .ok () := by
  refine ⟨by decide, ⟨_, rfl, rfl⟩, by decide, fun hok => ?_⟩
  have hstops : (loadEnvironment.run superscriptSession).1.toBool = false := by decide +kernel
  rw [hok] at hstops
  cases hstops

end Shell

end TreeShell
