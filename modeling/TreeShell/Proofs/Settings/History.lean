import Mathlib.Data.List.DropRight
import TreeShell.Proofs.PathMap.Frame
import TreeShell.Proofs.Session.Returning
import TreeShell.Proofs.Settings.Kept

/-!
# The history is the end of a longer one

The history has a bound, and what is too much is dropped at its beginning each time a line is added.
Whether a line is added depends on the last entry only, and a positive bound leaves the last entry
in place. So dropping at once and dropping in the end come to the same: the history is the end of
the one that nothing was ever dropped from (`recalled`).

All this asks little of the session. Once the environment was loaded, the folder of the settings is
there, and the history is in its file unless a folder has the name of the file (`Remembers`); that
is all that a line needs to be added without a fault, and it holds again afterwards. In particular
the tree need not be in order.
-/

set_option autoImplicit false

namespace TreeShell

namespace Environment

variable {e : Environment} {history : List String} {line : String} {n : Nat}

/-- Whether a line is worth to be added to a history: it is not blank, and not the same as the last
entry. -/
def isWorth (history : List String) (line : String) : Bool :=
  Text.trim line != "" && history.getLast? != some (Text.trim line)

/-- A history with a line added to it, if it is worth it, and nothing dropped. -/
def recalled (history : List String) (line : String) : List String :=
  if isWorth history line then history ++ [Text.trim line] else history

/-- Which of some lines are added, one after another. -/
def worths : List String → List String → List Bool
  | _, [] => []
  | history, line :: rest => isWorth history line :: worths (recalled history line) rest

theorem remember?_eq (e : Environment) (line : String) :
    e.remember? line =
      if isWorth e.history line then some { e with history := e.history ++ [Text.trim line] }
      else none := by
  unfold remember? isWorth
  by_cases hblank : Text.trim line = "" <;>
    by_cases hlast : e.history.getLast? = some (Text.trim line) <;> simp [hblank, hlast]

theorem getLast?_rtake (h : 0 < n) (history : List String) :
    (history.rtake n).getLast? = history.getLast? := by
  obtain ⟨n, rfl⟩ := Nat.exists_eq_succ_of_ne_zero h.ne'
  rcases List.eq_nil_or_concat' history with rfl | ⟨before, last, rfl⟩
  · rw [List.rtake_nil]
  · rw [List.rtake_concat_succ, List.getLast?_concat, List.getLast?_concat]

theorem isWorth_rtake (h : 0 < n) (history : List String) (line : String) :
    isWorth (history.rtake n) line = isWorth history line := by
  rw [isWorth, getLast?_rtake h, isWorth]

/-- What was dropped earlier would be dropped later. -/
theorem rtake_concat_rtake (h : 0 < n) (history : List String) (entry : String) :
    (history.rtake n ++ [entry]).rtake n = (history ++ [entry]).rtake n := by
  obtain ⟨n, rfl⟩ := Nat.exists_eq_succ_of_ne_zero h.ne'
  rw [List.rtake_concat_succ, List.rtake_concat_succ, List.rtake_eq_reverse_take_reverse,
    List.rtake_eq_reverse_take_reverse, List.rtake_eq_reverse_take_reverse, List.reverse_reverse,
    List.take_take, Nat.min_eq_left (Nat.le_succ n)]

theorem bounded_eq (h : 0 ≤ e.historyLimit) :
    e.bounded = { e with history := e.history.rtake e.historyLimit.toNat } := by
  have hcount : ((e.history.length : Int) - e.historyLimit).toNat =
      e.history.length - e.historyLimit.toNat := by omega
  rw [bounded, List.rtake, hcount]

theorem rtake_of_bounded (h : (e.history.length : Int) ≤ e.historyLimit) :
    e.history.rtake e.historyLimit.toNat = e.history := by
  have hnone : e.history.length - e.historyLimit.toNat = 0 := by omega
  rw [List.rtake, hnone, List.drop_zero]

end Environment

namespace FileSystem

/-- The folder of the settings is there. -/
def Furnished (files : FileSystem) : Prop :=
  files.snapshot.paths.entry? [settingsFolder] = some .folder

variable {files : FileSystem} {file : SettingsFile} {text : String}

theorem Furnished.withSettings (h : files.Furnished) (file : SettingsFile) (text : String) :
    (files.withSettings file text).Furnished := by
  unfold Furnished FileSystem.withSettings
  rw [snapshot_commit]
  exact (Snapshot.folder_settle_write_iff file.path text).mpr h

theorem isFolder_path_iff (file : SettingsFile) :
    files.snapshot.isFolder file.path = true ↔ files.settings? file = some .folder := by
  rw [Snapshot.isFolder_iff, Snapshot.resolve, file.resolve_path]
  rfl

/-- All that can come of recording a settings file. -/
theorem Furnished.write_ends (h : files.Furnished) (file : SettingsFile) (text : String) :
    (files.settings? file = some .folder ∧ files.withSettings file text = files ∧
      ∃ reason, (files.commit (files.snapshot.write file.path text)).1 = .error (.files reason)) ∨
    (files.settings? file ≠ some .folder ∧ files.Opened ∧
      (files.withSettings file text).Opened ∧
      (files.withSettings file text).settings? file = some (.file text) ∧
      (files.commit (files.snapshot.write file.path text)).1 = .ok ()) ∨
    (files.settings? file ≠ some .folder ∧ ∃ fault, files.StoreFault fault ∧
      (files.commit (files.snapshot.write file.path text)).1 = .error fault) := by
  rcases write_cases h file text with ⟨hfolder, reason, hrefused⟩ | ⟨hfree, next, hwritten, hnext⟩
  · refine .inl ⟨hfolder, ?_, reason, ?_⟩
    · rw [FileSystem.withSettings, hrefused]
      rfl
    · rw [hrefused]
      rfl
  · by_cases hopened : files.Opened
    · refine .inr (.inl ⟨hfree, hopened, hopened.commit _, ?_, ?_⟩)
      · rw [settings?, FileSystem.withSettings, snapshot_commit, hwritten]
        show PathMap.entry? next.paths file.place = _
        rw [hnext]
        exact Function.update_self _ _ _
      · rw [hwritten]
        exact hopened.commit_ok _
    · obtain ⟨fault, hfault⟩ := exists_storeFault hopened
      refine .inr (.inr ⟨hfree, fault, hfault, ?_⟩)
      rw [hwritten, hfault.commit]

end FileSystem

/-- A session in which the history is in its file, unless a folder has its name there. -/
structure Session.Remembers (s : Session) : Prop where
  furnished : s.files.Furnished
  recorded : s.files.settings? .history = some .folder ∨ s.files.Opened ∧
    s.files.settings? .history = some (.file s.environment.historyDocument.indented)

namespace Shell

open FileSystem

variable {α : Type} {s t : Session}

/-! ## Writing the history -/

/-- The history is cut and then written, unless the store fails. -/
theorem run_recordHistory_cases (h : s.files.Furnished) :
    (∃ t, recordHistory.run s = (.ok (), t) ∧ t.environment = s.environment.bounded ∧
      t.Remembers ∧
      (t.files.settings? .history = some .folder ↔ s.files.settings? .history = some .folder)) ∨
    (s.files.settings? .history ≠ some .folder ∧ ∃ fault, s.files.StoreFault fault ∧
      (recordHistory.run s).1 = .error fault) := by
  obtain ⟨text, htext⟩ : ∃ text, s.environment.bounded.historyDocument.indented = text := ⟨_, rfl⟩
  have hrun : recordHistory.run s =
      ((attempted (s.files.commit (s.files.snapshot.write historyFile text)).1).map fun _ => (),
        { s with
          environment := s.environment.bounded
          files := s.files.withSettings .history text }) := by
    rw [recordHistory, run_bind, run_withEnvironment]
    dsimp only
    rw [run_environment_bind, ← htext]
    exact run_writeSettings_eq (by exact h) .history _
  have hfurnished := h.withSettings .history text
  rw [hrun]
  rcases h.write_ends .history text with
    ⟨hfolder, hsame, reason, hrefused⟩ | ⟨hfree, hopened, hopen, hwritten, hok⟩ |
    ⟨hfree, fault, hfault, herror⟩
  · rw [show historyFile = SettingsFile.history.path from rfl, hrefused, hsame]
    exact .inl ⟨_, rfl, rfl, ⟨h, .inl hfolder⟩, Iff.rfl⟩
  · rw [show historyFile = SettingsFile.history.path from rfl, hok]
    refine .inl ⟨_, rfl, rfl, ⟨hfurnished, .inr ⟨hopen, by rw [htext]; exact hwritten⟩⟩, ?_⟩
    exact iff_of_false (by rw [hwritten]; simp) hfree
  · rw [show historyFile = SettingsFile.history.path from rfl, herror]
    refine .inr ⟨hfree, fault, hfault, ?_⟩
    cases hfault <;> rfl

theorem run_recordHistory_of_remembers (h : s.Remembers) (e : Environment) :
    ∃ t, recordHistory.run { s with environment := e } = (.ok (), t) ∧
      t.environment = e.bounded ∧ t.Remembers ∧
      (t.files.settings? .history = some .folder ↔ s.files.settings? .history = some .folder) := by
  rcases run_recordHistory_cases (s := { s with environment := e }) h.furnished with
    hrun | ⟨hfree, fault, hfault, -⟩
  · exact hrun
  · rcases h.recorded with hfolder | ⟨hopened, -⟩
    · exact absurd hfolder hfree
    · exact absurd hfault (opened_iff.mp hopened fault)

/-! ## What loading leaves -/

/-- A step that leaves the folder of the settings in place, however it ends. -/
def KeepsFurnished (step : Shell α) : Prop :=
  ∀ s, s.files.Furnished → (step.run s).2.files.Furnished

/-- A program that cannot succeed but by writing the history at its end. -/
def EndsRecorded (program : Shell Unit) : Prop :=
  ∀ s, s.files.Furnished → (program.run s).1 = .ok () →
    ∃ u : Session, u.files.Furnished ∧ recordHistory.run u = program.run s

theorem KeepsFurnished.endsRecorded {step : Shell α} {next : α → Shell Unit}
    (h : KeepsFurnished step) (hnext : ∀ a, EndsRecorded (next a)) :
    EndsRecorded (step >>= next) := by
  intro s hs hok
  obtain ⟨a, t, hstep, hrest⟩ := exists_of_run_bind_ok hok
  have ht := h s hs
  rw [hstep] at ht
  rw [run_bind_of_ok hstep]
  exact hnext a t ht hrest

theorem KeepsFurnished.bind {β : Type} {step : Shell α} {next : α → Shell β}
    (h : KeepsFurnished step) (hnext : ∀ a, KeepsFurnished (next a)) :
    KeepsFurnished (step >>= next) := by
  intro s hs
  have ht := h s hs
  rw [run_bind]
  generalize step.run s = ended at ht ⊢
  obtain ⟨result, t⟩ := ended
  cases result with
  | ok a => exact hnext a t ht
  | error fault => exact ht

/-- Steps that end as they are, whatever is in the files. -/
theorem keepsFurnished_of_files {step : Shell α} (h : ∀ s, (step.run s).2.files = s.files) :
    KeepsFurnished step := by
  intro s hs
  rw [h]
  exact hs

theorem keepsFurnished_withEnvironment (f : Environment → Environment) :
    KeepsFurnished (withEnvironment f) :=
  keepsFurnished_of_files fun _ => rfl

theorem keepsFurnished_writeSettings (file : SettingsFile) (text : String) :
    KeepsFurnished (writeSettings file.path text) := by
  intro s hs
  rw [run_writeSettings_eq hs]
  exact hs.withSettings file text

theorem keepsFurnished_readSettings (path : String) : KeepsFurnished (readSettings path) :=
  keepsFurnished_of_files fun s => by rw [run_readSettings_session]

theorem keepsFurnished_recordLimit (limit : Int) : KeepsFurnished (recordLimit limit) := by
  unfold recordLimit
  split
  · exact keepsFurnished_writeSettings .limit _
  · exact keepsFurnished_of_files fun _ => rfl

theorem keepsFurnished_readHistoryLimit : KeepsFurnished readHistoryLimit := by
  unfold readHistoryLimit
  refine KeepsFurnished.bind (keepsFurnished_of_files fun s => ?_) fun recorded => ?_
  · rw [run_attempt_look]
  · extract_lets next
    have hnext (recorded? : Option Int) : KeepsFurnished (next recorded?) := by
      unfold next
      split
      · exact keepsFurnished_of_files fun _ => rfl
      · refine KeepsFurnished.bind (keepsFurnished_of_files fun _ => rfl) fun config => ?_
        exact (keepsFurnished_recordLimit _).bind fun _ => keepsFurnished_of_files fun _ => rfl
    split
    · exact hnext none
    · split
      · exact hnext _
      · exact keepsFurnished_of_files fun _ => rfl

/-- The folder of the settings is made, or there already, unless a fault stops the session. -/
theorem furnished_of_ensureSettings
    (h : (change (·.ensureDirPath settingsPath)).run s = (.ok (), t)) : t.files.Furnished := by
  rw [run_change] at h
  obtain ⟨hok, rfl⟩ := Prod.mk.inj h
  by_cases hblocked : s.files.snapshot.paths.Blocked (s.files.snapshot.resolve settingsPath)
  · obtain ⟨reason, hrefused, -⟩ := Snapshot.ensureDirPath_of_blocked hblocked
    rw [hrefused] at hok
    cases hok
  · have hfolder := (Snapshot.ensureDirPath_of_clear settingsPath hblocked).2
    rw [Snapshot.resolve, resolve_settingsPath] at hfolder
    unfold Furnished
    rw [snapshot_commit]
    exact hfolder

/-- The last thing that loading does is to write the history. -/
theorem recordHistory_of_load (h : (loadEnvironment.run s).1 = .ok ()) :
    ∃ u : Session, u.files.Furnished ∧ recordHistory.run u = loadEnvironment.run s := by
  obtain ⟨_, t, hensure, hrest⟩ := exists_of_run_bind_ok h
  have hends : EndsRecorded recordHistory := fun u hu _ => ⟨u, hu, rfl⟩
  rw [loadEnvironment, run_bind_of_ok hensure]
  refine keepsFurnished_readHistoryLimit.endsRecorded (fun limit => ?_) t
    (furnished_of_ensureSettings hensure) hrest
  refine (keepsFurnished_withEnvironment _).endsRecorded fun _ => ?_
  refine (keepsFurnished_readSettings _).endsRecorded fun history => ?_
  refine (keepsFurnished_withEnvironment _).endsRecorded fun _ => ?_
  refine (keepsFurnished_readSettings _).endsRecorded fun display => ?_
  refine KeepsFurnished.endsRecorded (keepsFurnished_of_files fun _ => rfl) fun config => ?_
  refine (keepsFurnished_withEnvironment _).endsRecorded fun _ => ?_
  refine (keepsFurnished_readSettings _).endsRecorded fun search => ?_
  refine (keepsFurnished_withEnvironment _).endsRecorded fun _ => ?_
  refine KeepsFurnished.endsRecorded ?_ fun _ => ?_
  · exact KeepsFurnished.bind (keepsFurnished_of_files fun _ => rfl) fun e =>
      keepsFurnished_writeSettings .search _
  · refine KeepsFurnished.endsRecorded ?_ fun _ => hends
    exact KeepsFurnished.bind (keepsFurnished_of_files fun _ => rfl) fun e =>
      keepsFurnished_writeSettings .display _

theorem remembers_of_load (h : (loadEnvironment.run s).1 = .ok ()) :
    (loadEnvironment.run s).2.Remembers ∧
      ∃ e : Environment, (loadEnvironment.run s).2.environment = e.bounded := by
  obtain ⟨u, hu, hlast⟩ := recordHistory_of_load h
  rw [← hlast] at h ⊢
  rcases run_recordHistory_cases hu with ⟨t, hrun, hbounded, ht, -⟩ | ⟨-, _, -, hstops⟩
  · rw [hrun]
    exact ⟨ht, _, hbounded⟩
  · cases h.symm.trans hstops

/-! ## Adding lines -/

/-- A line that is added to the end of a history is added to the history. -/
theorem run_addHistory (h : s.Remembers) (hlimit : 0 < s.environment.historyLimit)
    {history : List String}
    (hhistory : s.environment.history = history.rtake s.environment.historyLimit.toNat)
    (line : String) :
    ∃ t, (addHistory line).run s = (.ok (Environment.isWorth history line), t) ∧
      t.environment = { s.environment with
        history := (Environment.recalled history line).rtake s.environment.historyLimit.toNat } ∧
      t.Remembers ∧
      (t.files.settings? .history = some .folder ↔ s.files.settings? .history = some .folder) := by
  have hpos : 0 < s.environment.historyLimit.toNat := by omega
  rw [addHistory, run_environment_bind, Environment.remember?_eq, hhistory,
    Environment.isWorth_rtake hpos, Environment.recalled]
  cases Environment.isWorth history line with
  | false =>
    refine ⟨s, rfl, ?_, h, Iff.rfl⟩
    rw [if_neg Bool.false_ne_true, ← hhistory]
  | true =>
    rw [if_pos rfl, if_pos rfl]
    dsimp only
    obtain ⟨t, hrun, henvironment, ht, hfolder⟩ := run_recordHistory_of_remembers h
      { s.environment with
        history := (history.rtake s.environment.historyLimit.toNat ++ [Text.trim line]) }
    rw [run_bind_of_ok (run_withEnvironment _ _), run_bind_of_ok (by exact hrun)]
    refine ⟨t, rfl, ?_, ht, hfolder⟩
    rw [henvironment, Environment.bounded_eq (by exact hlimit.le)]
    dsimp only
    rw [Environment.rtake_concat_rtake hpos]

/-- The induction is on the lines; what goes along is the history that nothing is dropped from. -/
theorem run_addHistories (lines : List String) {s : Session} (h : s.Remembers)
    (hlimit : 0 < s.environment.historyLimit) (history : List String)
    (hhistory : s.environment.history = history.rtake s.environment.historyLimit.toNat) :
    ∃ t, (lines.mapM addHistory).run s = (.ok (Environment.worths history lines), t) ∧
      t.environment = { s.environment with
        history := ((lines.foldl Environment.recalled history).rtake
          s.environment.historyLimit.toNat) } ∧
      t.Remembers ∧
      (t.files.settings? .history = some .folder ↔ s.files.settings? .history = some .folder) := by
  induction lines generalizing s history with
  | nil =>
    refine ⟨s, rfl, ?_, h, Iff.rfl⟩
    rw [List.foldl_nil, ← hhistory]
  | cons line rest ih =>
    obtain ⟨t, hrun, henvironment, ht, hfolder⟩ := run_addHistory h hlimit hhistory line
    obtain ⟨u, hrest, hlast, hu, hfolders⟩ :=
      ih ht (by rw [henvironment]; exact hlimit) (Environment.recalled history line)
        (by rw [henvironment])
    refine ⟨u, ?_, ?_, hu, hfolders.trans hfolder⟩
    · rw [List.mapM_cons, run_bind_of_ok hrun, run_bind_of_ok hrest]
      rfl
    · rw [hlast, henvironment]
      rfl

/-- A session that remembers has the history in its file, if there can be a file. -/
theorem read_history (h : s.Remembers) (hfree : s.files.settings? .history ≠ some .folder) :
    ∃ text document, s.files.snapshot.read historyFile = .ok text ∧
      Json.parse text = .ok document ∧
      Environment.historyOf? document = some s.environment.history := by
  rcases h.recorded with hfolder | ⟨-, htext⟩
  · exact absurd hfolder hfree
  · refine ⟨_, s.environment.historyDocument, ?_,
      Json.parse_indented (Environment.regular_historyDocument _),
      Environment.historyOf?_historyDocument _⟩
    refine Snapshot.read_of_entryAt? ?_
    rw [Snapshot.resolve, ← SettingsFile.path_history, SettingsFile.resolve_path]
    exact htext

/-- **The bounded history is the end of the unbounded one.** Once the environment was loaded, any
lines can be added to the history. Which of them are is as if nothing was ever dropped, and the
history is what is left of that within the bound; nothing else of the environment changes; and what
is read from the file of the history then is the history, unless a folder has its name. -/
theorem history_is_end (hload : (loadEnvironment.run s).1 = .ok ())
    (hlimit : 0 < (loadEnvironment.run s).2.environment.historyLimit) (lines : List String) :
    let e := (loadEnvironment.run s).2.environment
    (e.history.length : Int) ≤ e.historyLimit ∧
      ∃ t, (lines.mapM addHistory).run (loadEnvironment.run s).2 =
          (.ok (Environment.worths e.history lines), t) ∧
        t.environment = { e with
          history := ((lines.foldl Environment.recalled e.history).rtake e.historyLimit.toNat) } ∧
        ((loadEnvironment.run s).2.files.snapshot.isFolder historyFile = false →
          ∃ text document, t.files.snapshot.read historyFile = .ok text ∧
            Json.parse text = .ok document ∧
            Environment.historyOf? document = some t.environment.history) := by
  intro e
  obtain ⟨hremembers, whole, hwhole⟩ := remembers_of_load hload
  have hlength : (e.history.length : Int) ≤ e.historyLimit := by
    rw [hwhole] at hlimit
    show ((loadEnvironment.run s).2.environment.history.length : Int) ≤ _
    rw [show e = _ from hwhole, hwhole]
    exact Environment.length_bounded_le hlimit.le
  obtain ⟨t, hrun, henvironment, ht, hfolder⟩ :=
    run_addHistories lines hremembers hlimit e.history (Environment.rtake_of_bounded hlength).symm
  refine ⟨hlength, t, hrun, henvironment, fun hfile => read_history ht fun hthere => ?_⟩
  cases hfile.symm.trans ((isFolder_path_iff .history).mpr (hfolder.mp hthere))

/-- A bound of one, and a line in the history. -/
def forgetfulSession : Session :=
  sessionWith [] [⟨"historyLimit.txt", "1"⟩, ⟨"history.json", "[\"ls\"]"⟩]

theorem history_is_end_forgetfulSession :
    ∃ t, (["cd /", " ", " ls ", "ls"].mapM addHistory).run
        (loadEnvironment.run forgetfulSession).2 = (.ok [true, false, true, false], t) ∧
      t.environment.history = ["ls"] := by
  have hload : (loadEnvironment.run forgetfulSession).1 = .ok () :=
    eq_ok_of_toBool (by decide +kernel)
  have hlimit : (loadEnvironment.run forgetfulSession).2.environment.historyLimit = 1 := by
    decide +kernel
  have hhistory : (loadEnvironment.run forgetfulSession).2.environment.history = ["ls"] := by
    decide +kernel
  obtain ⟨-, t, hrun, henvironment, -⟩ :=
    history_is_end hload (by rw [hlimit]; decide) ["cd /", " ", " ls ", "ls"]
  rw [hhistory] at hrun
  refine ⟨t, hrun, ?_⟩
  rw [henvironment, hlimit, hhistory]
  decide

end Shell

end TreeShell
