import TreeShell.Proofs.Dispatch.Moves
import TreeShell.Proofs.Script.Lines
import TreeShell.Proofs.Settings.Kept

/-!
# What can stop a session as it starts

A session that starts loads its environment, and runs `init` if there is nothing in its tree. Not
much can stop that (`Session.CannotStart`): the store fails; something obstructs the loading, as it
is listed for trees in order (`FileSystem.Obstructs`), while in a tree that is not in order a number
may be too long wherever it stands; and the command `init`, if it is not the built-in one, may ask
to leave or be interrupted. All other faults of `init` end in its outcome. Nor is anything read
before the first prompt but by a command that was added for `init` (`Session.TakenAtStart`).

A step is followed with what holds before it and the faults that may stop it (`Within`). What holds
is asked for again where the step is refused, since a refusal may be taken for an answer and the
session goes on.
-/

set_option autoImplicit false

namespace TreeShell

open Shell FileSystem Relation

namespace Shell

variable {α β : Type} {I : Session → Prop} {F : Fault → Prop} {s t : Session}

/-- From where `I` holds, a step ends with a value or is refused, and then `I` holds again, or
another fault stops it; and the faults are among `F`. -/
def Within (I : Session → Prop) (F : Fault → Prop) (step : Shell α) : Prop :=
  ∀ s, I s → (∃ a t, step.run s = (.ok a, t) ∧ I t) ∨
    (∃ reason t, step.run s = (.error (.files reason), t) ∧ I t ∧ F (.files reason)) ∨
    ∃ fault t, step.run s = (.error fault, t) ∧ F fault ∧ ∀ reason, fault ≠ .files reason

/-! ## Putting steps together -/

theorem Within.stops {step : Shell α} (h : Within I F step) (hs : I s) {fault : Fault}
    (hstops : (step.run s).1 = .error fault) : F fault := by
  rcases h s hs with ⟨a, t, hrun, -⟩ | ⟨reason, t, hrun, -, hfault⟩ | ⟨other, t, hrun, hfault, -⟩
  · cases (congrArg Prod.fst hrun).symm.trans hstops
  · cases (congrArg Prod.fst hrun).symm.trans hstops
    exact hfault
  · cases (congrArg Prod.fst hrun).symm.trans hstops
    exact hfault

theorem within_of_ok {step : Shell α} (h : ∀ s, I s → ∃ a t, step.run s = (.ok a, t) ∧ I t) :
    Within I F step :=
  fun s hs => .inl (h s hs)

theorem within_pure (a : α) : Within I F (pure a : Shell α) :=
  within_of_ok fun s hs => ⟨a, s, rfl, hs⟩

theorem within_throw {fault : Fault} (hfault : F fault) (hother : ∀ reason, fault ≠ .files reason) :
    Within I F (throw fault : Shell α) :=
  fun s _ => .inr (.inr ⟨fault, s, rfl, hfault, hother⟩)

theorem Within.bind {step : Shell α} {next : α → Shell β} (h : Within I F step)
    (hnext : ∀ a, Within I F (next a)) : Within I F (step >>= next) := by
  intro s hs
  rcases h s hs with ⟨a, t, hrun, ht⟩ | ⟨reason, t, hrun, ht, hfault⟩ |
    ⟨fault, t, hrun, hfault, hother⟩
  · rw [run_bind_of_ok hrun]
    exact hnext a t ht
  · exact .inr (.inl ⟨reason, t, run_bind_of_error hrun, ht, hfault⟩)
  · exact .inr (.inr ⟨fault, t, run_bind_of_error hrun, hfault, hother⟩)

theorem Within.returning {step : Shell α} (h : Within I F step) (f : α → β) :
    Within I F (step >>= fun a => pure (f a)) :=
  h.bind fun a => within_pure (f a)

theorem Within.mapM {action : α → Shell β} (h : ∀ a, Within I F (action a)) (items : List α) :
    Within I F (items.mapM action) := by
  induction items with
  | nil =>
    rw [List.mapM_nil]
    exact within_pure []
  | cons item rest ih =>
    rw [List.mapM_cons]
    exact (h item).bind fun _ => ih.bind fun _ => within_pure _

theorem Within.forM {action : α → Shell Unit} (h : ∀ a, Within I F (action a)) (items : List α) :
    Within I F (items.forM action) := by
  induction items with
  | nil => exact within_pure ()
  | cons item rest ih => exact (h item).bind fun _ => ih

/-- The faults of a kind, and all refusals. -/
def OrRefused (F : Fault → Prop) (fault : Fault) : Prop :=
  F fault ∨ ∃ reason, fault = .files reason

/-- A refusal that is taken for an answer is no fault. -/
theorem Within.attempt {step : Shell α} (h : Within I (OrRefused F) step) :
    Within I F (attempt step) := by
  intro s hs
  rw [run_attempt]
  rcases h s hs with ⟨a, t, hrun, ht⟩ | ⟨reason, t, hrun, ht, -⟩ | ⟨fault, t, hrun, hfault, hother⟩
  · rw [hrun]
    exact .inl ⟨_, t, rfl, ht⟩
  · rw [hrun]
    exact .inl ⟨_, t, rfl, ht⟩
  · rcases hfault with hfault | ⟨reason, rfl⟩
    · rw [hrun]
      refine .inr (.inr ⟨fault, t, ?_, hfault, hother⟩)
      cases fault with
      | files reason => exact absurd rfl (hother reason)
      | _ => rfl
    · exact absurd rfl (hother reason)

/-! ## Changes of the file system -/

/-- A change is made, or refused, or stopped by the store. -/
theorem within_change
    (hcommit : ∀ s {γ : Type} (attempt : Attempt γ), I s →
      I { s with files := (s.files.commit attempt).2 })
    (hstore : ∀ s fault, I s → s.files.StoreFault fault → F fault) (f : Snapshot → Attempt α) :
    Within I (OrRefused F) (change f) := by
  intro s hs
  have hnext := hcommit s (f s.files.snapshot) hs
  have herror := @commit_error_cases _ s.files (f s.files.snapshot)
  rw [change, run_ofRun]
  generalize s.files.commit (f s.files.snapshot) = ended at hnext herror
  obtain ⟨result, files⟩ := ended
  cases result with
  | ok a => exact .inl ⟨a, _, rfl, hnext⟩
  | error fault =>
    rcases herror rfl with ⟨reason, -, rfl⟩ | hfault
    · exact .inr (.inl ⟨reason, _, rfl, hnext, .inr ⟨reason, rfl⟩⟩)
    · refine .inr (.inr ⟨fault, _, rfl, .inl (hstore s fault hs hfault), ?_⟩)
      rintro reason rfl
      cases hfault

/-- No change makes the store of a session fail that did not fail before. -/
theorem within_change_of_store {files : FileSystem}
    (hstore : ∀ fault, files.StoreFault fault → F fault) (f : Snapshot → Attempt α) :
    Within (fun t => ∀ fault, t.files.StoreFault fault → files.StoreFault fault) (OrRefused F)
      (change f) :=
  within_change (fun t _ attempt ht fault hfault =>
      ht fault ((t.files.storeFault_commit attempt fault).mp hfault))
    (fun _ fault ht hfault => hstore fault (ht fault hfault)) f

/-- What can be installed can be written among the settings. -/
theorem within_writeSettings (hchange : ∀ f : Snapshot → Attempt Unit,
    Within I (OrRefused F) (change f)) (path text : String) :
    Within I F (writeSettings path text) :=
  (Within.attempt ((hchange _).bind fun _ => hchange _)).returning _

/-! ## Loading the environment -/

section Loading

variable (hset : ∀ s (f : Environment → Environment), I s →
  I { s with environment := f s.environment })
  (hlook : ∀ file : SettingsFile, file ≠ .limit → Within I F (readSettings file.path))
  (hlimit : Within I F readHistoryLimit)
  (hwrite : ∀ (file : SettingsFile) (text : String), Within I F (writeSettings file.path text))

include hset hlook hlimit hwrite

/-- What comes of loading when the folder of the settings is there. -/
theorem exists_rest_of_load : ∃ rest : Shell Unit,
    loadEnvironment = (change (·.ensureDirPath settingsPath) >>= fun _ => rest) ∧
      Within I F rest := by
  have hset' (f : Environment → Environment) : Within I F (withEnvironment f) :=
    within_of_ok fun s hs => ⟨(), _, rfl, hset s f hs⟩
  have hbounds : Within I F bounds := within_of_ok fun s hs => ⟨_, s, rfl, hs⟩
  have hrecord (file : SettingsFile) (document : Environment → Json) :
      Within I F (do writeSettings file.path (document (← environment)).indented) :=
    (within_of_ok fun s hs => ⟨_, s, rfl, hs⟩ : Within I F environment).bind fun _ => hwrite file _
  exact ⟨_, rfl, hlimit.bind fun _ => (hset' _).bind fun _ => (hlook .history nofun).bind fun _ =>
    (hset' _).bind fun _ => (hlook .display nofun).bind fun _ => hbounds.bind fun _ =>
    (hset' _).bind fun _ => (hlook .search nofun).bind fun _ => (hset' _).bind fun _ =>
    (hrecord .search Environment.searchDocument).bind fun _ =>
    (hrecord .display Environment.displayDocument).bind fun _ =>
    (hset' _).bind fun _ => hrecord .history Environment.historyDocument⟩

end Loading

/-- A step that only looks at the file system, which may refuse. -/
theorem within_attempt_look (f : Snapshot → Except FileError α) :
    Within I F (attempt (look f)) :=
  within_of_ok fun s hs => ⟨_, s, run_attempt_look f s, hs⟩

/-- No tree is asked for when only the kind of fault is. -/
theorem within_readSettings (hinteger : ∀ e, F (.integer e)) (path : String) :
    Within I F (readSettings path) := by
  refine (within_attempt_look _).bind fun result => ?_
  cases result with
  | error reason => exact within_pure _
  | ok content =>
    dsimp only
    split
    · exact within_pure _
    · exact within_pure _
    · exact within_throw (hinteger _) (by simp)

theorem within_recordLimit (hinteger : ∀ e, F (.integer e))
    (hwrite : ∀ (file : SettingsFile) (text : String), Within I F (writeSettings file.path text))
    (limit : Int) : Within I F (recordLimit limit) := by
  unfold recordLimit
  split
  · exact hwrite .limit _
  · exact within_throw (hinteger _) (by simp)

theorem within_readHistoryLimit (hinteger : ∀ e, F (.integer e))
    (hwrite : ∀ (file : SettingsFile) (text : String), Within I F (writeSettings file.path text)) :
    Within I F readHistoryLimit := by
  refine (within_attempt_look _).bind fun recorded => ?_
  extract_lets next
  have hnext (recorded? : Option Int) : Within I F (next recorded?) := by
    unfold next
    split
    · exact within_pure _
    · exact Within.bind (within_of_ok fun s hs => ⟨_, s, rfl, hs⟩) fun _ =>
        (within_recordLimit hinteger hwrite _).returning _
  split
  · exact hnext none
  · split
    · exact hnext _
    · exact within_throw (hinteger _) (by simp)

/-- The folder of the settings is refused where a file has its name, in whatever tree. -/
theorem obstructs_of_ensureSettings {files : FileSystem} {reason : FileError}
    (h : files.snapshot.ensureDirPath settingsPath = .error reason) (config : ShellConfig) :
    files.Obstructs config (.files reason) := by
  have hrefines := files.snapshot.ensureDirPath_refines settingsPath
  have hplace : files.snapshot.paths.resolve settingsPath = [settingsFolder] :=
    resolve_settingsPath _
  rw [h, PathMap.ensureDirPath, hplace] at hrefines
  split_ifs at hrefines with hblocked hthere
  · obtain ⟨content, hfile⟩ := blocked_settings_iff.mp hblocked
    exact .folder hfile (Except.error.inj hrefines)
  · cases hrefines
  · cases hrefines

/-- **What stops loading**, in any tree: the store, a file in the place of the folder of the
settings, or a number. -/
theorem load_error_cases {fault : Fault} (h : (loadEnvironment.run s).1 = .error fault) :
    s.files.StoreFault fault ∨ s.files.Obstructs s.config.shell fault ∨
      ∃ e, fault = .integer e := by
  have hchange := @within_change_of_store Unit
    (fun fault => s.files.StoreFault fault ∨ ∃ e, fault = .integer e) s.files fun _ => .inl
  have hwrite (file : SettingsFile) := within_writeSettings hchange file.path
  have hinteger (e : Number.IntegerError) :
      s.files.StoreFault (.integer e) ∨ ∃ other, Fault.integer e = .integer other := .inr ⟨e, rfl⟩
  obtain ⟨rest, hload, hrest⟩ := exists_rest_of_load (fun _ _ ht => ht)
    (fun file _ => within_readSettings hinteger file.path) (within_readHistoryLimit hinteger hwrite)
    hwrite
  rw [hload, run_bind, run_change] at h
  have hstore := s.files.storeFault_commit (s.files.snapshot.ensureDirPath settingsPath)
  have herror := @commit_error_cases _ s.files (s.files.snapshot.ensureDirPath settingsPath)
  generalize s.files.commit (s.files.snapshot.ensureDirPath settingsPath) = ended
    at h hstore herror
  obtain ⟨result, files⟩ := ended
  cases result with
  | ok done =>
    exact (hrest.stops (fun fault => (hstore fault).mp) h).imp_right .inr
  | error other =>
    cases h
    rcases herror rfl with ⟨reason, hrefused, rfl⟩ | hfault
    · exact .inr (.inl (obstructs_of_ensureSettings hrefused _))
    · exact .inl hfault

/-- The files and the configuration are still those of a session. -/
def SameFiles (s t : Session) : Prop :=
  t.files = s.files ∧ t.config = s.config

/-- The faults that can stop loading in a tree that is in order. -/
def LoadFault (s : Session) (fault : Fault) : Prop :=
  s.files.StoreFault fault ∨ s.files.Obstructs s.config.shell fault

/-- Where the store fails, all that does not stop a change leaves the files as they are. -/
theorem within_change_of_storeFault {fault : Fault} (hfault : s.files.StoreFault fault)
    (f : Snapshot → Attempt α) :
    Within (SameFiles s) (OrRefused (LoadFault s)) (change f) := by
  rintro t ⟨hfiles, hconfig⟩
  rw [change, run_ofRun]
  cases hattempt : f t.files.snapshot with
  | error reason => exact .inr (.inl ⟨reason, t, rfl, ⟨hfiles, hconfig⟩, .inr ⟨reason, rfl⟩⟩)
  | ok step =>
    obtain ⟨answer, next?⟩ := step
    cases next? with
    | none => exact .inl ⟨answer, t, rfl, hfiles, hconfig⟩
    | some next =>
      rw [hfiles, hfault.commit]
      refine .inr (.inr ⟨fault, _, rfl, .inl (.inl hfault), ?_⟩)
      rintro reason rfl
      cases hfault

/-- **Where the store fails loading stops with that or with what obstructs**, in a tree in order. -/
theorem load_error_of_storeFault {fault : Fault} (hs : s.files.snapshot.WellFormed)
    (hfault : s.files.StoreFault fault) {other : Fault}
    (h : (loadEnvironment.run s).1 = .error other) :
    LoadFault s other := by
  have hwrite (file : SettingsFile) :=
    within_writeSettings (within_change_of_storeFault hfault) file.path
  have hlook (file : SettingsFile) (hfile : file ≠ .limit) :
      Within (SameFiles s) (LoadFault s) (readSettings file.path) := by
    intro t ht
    rcases readSettings_cases hs file with ⟨-, hrun⟩ | ⟨digits, hlong, hrun⟩
    · exact .inl ⟨_, t, hrun t ht.1, ht⟩
    · exact .inr (.inr ⟨_, t, hrun t ht.1, .inr (.number hfile hlong), by simp⟩)
  have hlimit : Within (SameFiles s) (LoadFault s) readHistoryLimit := by
    rintro t ⟨hfiles, hconfig⟩
    rw [run_readHistoryLimit (by rw [hfiles]; exact hs), hfiles, hconfig]
    cases hrecorded : s.files.texts.recordedLimit with
    | error e => exact .inr (.inr ⟨_, t, rfl, .inr (.limit (.unreadable hrecorded)), by simp⟩)
    | ok limit? =>
      cases limit? with
      | some limit => exact .inl ⟨limit, t, rfl, hfiles, hconfig⟩
      | none =>
        have hrecord : Within (SameFiles s) (LoadFault s)
            (recordLimit s.config.shell.historyLimit) := by
          rw [recordLimit]
          cases htext : Number.integerText s.config.shell.historyLimit with
          | ok text => exact hwrite .limit text
          | error e =>
            exact within_throw (.inr (.limit (.unwritable hrecorded htext))) (by simp)
        exact hrecord.returning _ t ⟨hfiles, hconfig⟩
  obtain ⟨rest, hload, hrest⟩ := exists_rest_of_load (fun _ _ ht => ht) hlook hlimit hwrite
  rw [hload, run_bind] at h
  cases hensure : (change (·.ensureDirPath settingsPath)).run s with
  | mk result t =>
    rw [hensure] at h
    cases result with
    | ok done =>
      obtain ⟨rfl, -⟩ := eq_of_run_change_of_storeFault hfault hensure
      exact hrest.stops ⟨rfl, rfl⟩ h
    | error stopped =>
      cases h
      rw [run_change] at hensure
      rcases commit_error_cases (congrArg Prod.fst hensure) with ⟨reason, hrefused, rfl⟩ | hstopped
      · exact .inr (obstructs_of_ensureSettings hrefused _)
      · exact .inl hstopped

end Shell

/-! ## The built-in `init` -/

namespace Shell

variable {α : Type}

/-- A step that only ordinary faults stop. -/
abbrev Ordinary (step : Shell α) : Prop :=
  Within (fun _ => True) (fun fault => fault.isOrdinary = true) step

theorem ordinary_of_ok {step : Shell α} (h : ∀ s, ∃ a t, step.run s = (.ok a, t)) :
    Ordinary step := by
  refine within_of_ok fun s _ => ?_
  obtain ⟨a, t, hrun⟩ := h s
  exact ⟨a, t, hrun, trivial⟩

theorem ordinary_change (f : Snapshot → Attempt α) :
    Within (fun _ => True) (OrRefused fun fault => fault.isOrdinary = true) (change f) :=
  within_change (fun _ _ _ _ => trivial) (fun _ _ _ hfault => by cases hfault <;> rfl) f

/-- A refusal is an ordinary fault. -/
theorem Within.ordinary {I : Session → Prop} {step : Shell α}
    (h : Within I (OrRefused fun fault => fault.isOrdinary = true) step) :
    Within I (fun fault => fault.isOrdinary = true) step := by
  intro s hs
  rcases h s hs with hrun | ⟨reason, t, hrun, ht, -⟩ | ⟨fault, t, hrun, hfault, hother⟩
  · exact .inl hrun
  · exact .inr (.inl ⟨reason, t, hrun, ht, rfl⟩)
  · rcases hfault with hfault | ⟨reason, rfl⟩
    · exact .inr (.inr ⟨fault, t, hrun, hfault, hother⟩)
    · exact absurd rfl (hother reason)

theorem ordinary_install (folder path content : String) :
    Within (fun _ => True) (OrRefused fun fault => fault.isOrdinary = true)
      (install folder path content) :=
  (ordinary_change _).bind fun _ => ordinary_change _

theorem ordinary_print (line : String) : Ordinary (print line) :=
  ordinary_of_ok fun _ => ⟨(), _, rfl⟩

theorem ordinary_printLines (lines : List String) : Ordinary (printLines lines) :=
  ordinary_of_ok fun s => ⟨(), _, run_printLines lines s⟩

theorem ordinary_printPaths (heading : String) (paths : List String) :
    Ordinary (printPaths heading paths) :=
  holds_ite (within_pure _) (ordinary_printLines _)

theorem ordinary_writeSettings (path text : String) : Ordinary (writeSettings path text) :=
  within_writeSettings ordinary_change path text

theorem ordinary_record (path : String) (document : Environment → Json) :
    Ordinary (do writeSettings path (document (← environment)).indented) :=
  (ordinary_of_ok fun s => ⟨_, s, rfl⟩ : Ordinary environment).bind fun _ =>
    ordinary_writeSettings path _

theorem ordinary_syncAssets (toWrite : AssetState → Bool) : Ordinary (syncAssets toWrite) := by
  refine Within.mapM (fun asset => ?_) _
  refine (ordinary_of_ok fun s => ⟨_, s, rfl⟩ : Ordinary (view _)).bind fun state => ?_
  have hinstall : Ordinary (installAsset asset) := by
    refine (Within.attempt (ordinary_install _ _ _)).bind fun result => ?_
    cases result with
    | ok done => exact within_pure _
    | error reason => exact (ordinary_print _).returning _
  dsimp only
  split
  · exact hinstall.returning _
  · exact within_pure _

theorem ordinary_recordVersion : Ordinary recordVersion :=
  (ordinary_of_ok fun s => ⟨s, s, rfl⟩ : Ordinary get).bind fun _ =>
    (ordinary_install _ _ _).ordinary

theorem ordinary_checkAssets : Ordinary checkAssets := by
  have hreport (line : String) : Ordinary (do
      print line
      let synced ← syncAssets fun _ => false
      let total := toString synced.length
      let count (state : AssetState) := toString (SyncedAsset.inState state synced).length
      print ("init: checked " ++ total ++ "/" ++ total ++ " assets: " ++ count .unchanged ++
        " ok, " ++ count .missing ++ " missing, " ++ count .outdated ++ " outdated.")
      printPaths "init: missing:" (SyncedAsset.inState .missing synced)
      printPaths "init: outdated:" (SyncedAsset.inState .outdated synced)
      printBlank
      return Outcome.success) :=
    (ordinary_print _).bind fun _ => (ordinary_syncAssets _).bind fun _ =>
      (ordinary_print _).bind fun _ => (ordinary_printPaths _ _).bind fun _ =>
        (ordinary_printPaths _ _).bind fun _ => (ordinary_print _).returning _
  refine ((within_readSettings (fun _ => rfl) _).returning _).bind fun installed => ?_
  exact holds_ite (hreport _) (holds_ite (hreport _) (hreport _))

theorem ordinary_updateAssets : Ordinary updateAssets := by
  refine (ordinary_syncAssets _).bind fun synced => ?_
  refine (ordinary_print _).bind fun _ => (ordinary_printPaths _ _).bind fun _ => ?_
  exact holds_ite
    (ordinary_recordVersion.bind fun _ => (ordinary_print _).bind fun _ =>
      (ordinary_print _).returning _)
    ((ordinary_print _).returning _)

theorem ordinary_withEnvironment (f : Environment → Environment) : Ordinary (withEnvironment f) :=
  ordinary_of_ok fun _ => ⟨(), _, rfl⟩

theorem ordinary_recordEnvironment : Ordinary recordEnvironment :=
  (ordinary_of_ok fun s => ⟨_, s, rfl⟩ : Ordinary environment).bind fun _ =>
    (within_recordLimit (fun _ => rfl)
      (fun file => ordinary_writeSettings file.path) _).bind fun _ =>
      (ordinary_record searchFile Environment.searchDocument).bind fun _ =>
        (ordinary_record displayFile Environment.displayDocument).bind fun _ =>
          (ordinary_withEnvironment _).bind fun _ =>
            ordinary_record historyFile Environment.historyDocument

theorem ordinary_relay : Ordinary relay :=
  (Within.forM (fun _ => (ordinary_change _).ordinary) _).bind fun _ =>
    ordinary_recordEnvironment.bind fun _ => (ordinary_syncAssets _).bind fun _ =>
      Within.bind ((ordinary_withEnvironment _).bind fun _ =>
        ordinary_record searchFile Environment.searchDocument) fun _ =>
        ordinary_recordVersion.bind fun _ => (ordinary_change _).ordinary.returning _

theorem ordinary_tellLaidOut (wasEmpty : Bool) (synced : List SyncedAsset) :
    Ordinary (tellLaidOut wasEmpty synced) := by
  have hend : Ordinary (do
      print ("Home directory: " ++ homeFolder)
      print ("Binary directory prepared on PATH: " ++ programFolder)
      printBlank
      if (SyncedAsset.failures synced).isEmpty then return .success else return assetsFailed) :=
    (ordinary_print _).bind fun _ => (ordinary_print _).bind fun _ =>
    (ordinary_print _).bind fun _ =>
      holds_ite (within_pure _) (within_pure _)
  exact (ordinary_print _).bind fun _ => (ordinary_print _).bind fun _ =>
    holds_ite ((ordinary_print _).bind fun _ => hend) hend

/-- **Nothing but ordinary faults stops the built-in `init`**, whatever is in the tree. -/
theorem ordinary_init (args : List String) : Ordinary (init args) := by
  have hempty : Ordinary (view (·.looksEmpty)) := ordinary_of_ok fun s => ⟨_, s, rfl⟩
  refine holds_ite ordinary_checkAssets
    (holds_ite ordinary_updateAssets (hempty.bind fun empty => ?_))
  have hlayOut : Ordinary (layOut empty) :=
    (ordinary_print _).bind fun _ => (ordinary_change _).ordinary.bind fun _ =>
      ordinary_relay.bind fun synced => ordinary_tellLaidOut _ synced
  exact holds_ite hlayOut ((ordinary_printLines _).returning _)

end Shell

/-! ## What is read before the first prompt -/

namespace Session

variable {s t : Session}

/-- Between two moments no input was read, no command was registered, and the store did not come to
fail. -/
structure Unread (s t : Session) : Prop where
  input : t.console.input = s.console.input
  registry : t.registry = s.registry
  opened : s.files.Opened → t.files.Opened

theorem CommandMove.unread (h : s.CommandMove t) : s.Unread t :=
  ⟨h.input, h.registry, h.opened⟩

theorem unread_of_moves (h : ReflTransGen Unread s t) : s.Unread t := by
  induction h with
  | refl => exact ⟨rfl, rfl, id⟩
  | tail _ hmove ih =>
    exact ⟨hmove.input.trans ih.input, hmove.registry.trans ih.registry, hmove.opened ∘ ih.opened⟩

/-- What starting up takes of the input: nothing, unless a command was added that is run for `init`;
then what that one reads. -/
structure TakenAtStart (s t : Session) (taken : List InputItem) : Prop where
  input : s.console.input = taken ++ t.console.input
  added : taken ≠ [] → ∃ program, s.registry.find? "init" = some (.added program)
  opened : s.files.Opened → t.files.Opened

theorem Unread.takenAtStart (h : s.Unread t) : s.TakenAtStart t [] :=
  ⟨h.input.symm, fun hne => absurd rfl hne, h.opened⟩

/-- What was read after a while in which nothing was read is all that was. -/
theorem Unread.followedBy {u : Session} {taken : List InputItem} (h : s.Unread t)
    (htaken : t.TakenAtStart u taken) : s.TakenAtStart u taken :=
  ⟨h.input.symm.trans htaken.input, fun hne => h.registry ▸ htaken.added hne,
    htaken.opened ∘ h.opened⟩

/-- What can stop a session as it starts. -/
inductive CannotStart (s : Session) : Fault → Prop
  /-- The store of the session is closed, or refuses its records. -/
  | store {fault : Fault} (hfault : s.files.StoreFault fault) : CannotStart s fault
  /-- Something is in the way of the settings, or a number in them is too long. -/
  | obstructed {fault : Fault} (hfault : s.files.Obstructs s.config.shell fault) :
      CannotStart s fault
  /-- In a tree that is not in order, a number is too long somewhere. -/
  | damaged (hdamaged : ¬ s.files.snapshot.WellFormed) (e : Number.IntegerError) :
      CannotStart s (.integer e)
  /-- Another command than the built-in one is run for `init`, and asked to leave or was
  interrupted. -/
  | left {handler : Handler} {fault : Fault} (hfound : s.registry.find? "init" = some handler)
      (hother : handler ≠ .builtin .init) (hfault : fault.isOrdinary = false) : CannotStart s fault

end Session

namespace Shell

open Session

variable {s t : Session}

theorem pervasive_unread : Pervasive (Moving Unread) :=
  pervasive_moving fun _ _ hmove => hmove.unread

theorem unread_loadEnvironment (s : Session) : s.Unread (loadEnvironment.run s).2 := by
  have hset (f : Environment → Environment) : Moving Unread (withEnvironment f) :=
    fun _ => .single ⟨rfl, rfl, id⟩
  exact unread_of_moves (moving_loadEnvironment (fun _ _ => pervasive_unread.writeSettings _ _)
    (pervasive_unread.change _) hset s)

theorem cannotStart_of_load {fault : Fault} (h : (loadEnvironment.run s).1 = .error fault) :
    s.CannotStart fault := by
  rcases load_error_cases h with hfault | hobstructs | ⟨e, rfl⟩
  · exact .store hfault
  · exact .obstructed hobstructs
  · by_cases hs : s.files.snapshot.WellFormed
    · by_cases hopen : s.files.Opened
      · rcases loadEnvironment_ends hs hopen with ⟨-, files, -, -, hrun⟩ | ⟨fault, hfault, hrun⟩
        · rw [hrun] at h
          cases h
        · cases hrun.symm.trans h
          exact .obstructed hfault
      · obtain ⟨fault, hfault⟩ := exists_storeFault hopen
        rcases load_error_of_storeFault hs hfault h with hstore | hobstructs
        · exact .store hstore
        · exact .obstructed hobstructs
    · exact .damaged hs e

/-! ## Starting up -/

theorem strictEnd_eq_error {command : String} {result : Except Fault Outcome} {fault : Fault}
    (h : strictEnd command result = .error fault) :
    result = .error fault ∧ fault.isOrdinary = false := by
  cases result with
  | ok outcome => cases h
  | error other =>
    cases hordinary : other.isOrdinary with
    | true => simp [strictEnd, hordinary] at h
    | false =>
      simp only [strictEnd, hordinary, Bool.false_eq_true, if_false, Except.error.injEq] at h
      exact ⟨congrArg _ h, h ▸ hordinary⟩

/-- What comes of `init` when it is run strictly. -/
theorem dispatchStrict_init_ends (s : Session) :
    (∃ taken, s.TakenAtStart ((dispatchStrict ⟨"init", []⟩).run s).2 taken) ∧
      ∀ fault, ((dispatchStrict ⟨"init", []⟩).run s).1 = .error fault →
        ∃ handler, s.registry.find? "init" = some handler ∧ handler ≠ .builtin .init ∧
          fault.isOrdinary = false := by
  rw [run_dispatchStrict (by decide) (by decide)]
  cases hfound : s.registry.find? "init" with
  | none =>
    rw [runRegistered_of_free ⟨"init", []⟩ hfound]
    exact ⟨⟨[], Unread.takenAtStart ⟨rfl, rfl, id⟩⟩, fun fault h => nomatch h⟩
  | some handler =>
    rw [runRegistered_of_find? ⟨"init", []⟩ hfound]
    refine ⟨?_, fun fault h => ?_⟩
    · cases handler with
      | builtin command =>
        exact ⟨[], (unread_of_moves (pervasive_unread.builtin command [] s)).takenAtStart⟩
      | added program =>
        have hmoves := shellwide_lineMoves.handler
          (shellwide_lineMoves.runnerIn (levelsBelow s)) (.added program) ⟨"init", []⟩ s
        obtain ⟨taken, htaken⟩ := keeps_moves (P := fun t => t.console.input <:+ s.console.input)
          hmoves (fun _ _ hmove hinput => hmove.input.trans hinput) List.suffix_rfl
        exact ⟨taken, htaken.symm, fun _ => ⟨program, hfound⟩,
          keeps_moves (P := fun t => t.files.Opened) hmoves fun _ _ hmove => hmove.opened⟩
    · obtain ⟨hrun, hfault⟩ := strictEnd_eq_error h
      refine ⟨handler, rfl, ?_, hfault⟩
      rintro rfl
      exact Bool.false_ne_true (hfault.symm.trans ((ordinary_init []).stops trivial hrun))

/-- What starting up comes to, the first time. -/
theorem run_bootstrap (hnew : s.started = false) :
    bootstrap.run s = match loadEnvironment.run s with
      | (.error fault, u) => (.error fault, u)
      | (.ok (), u) =>
        if u.config.shell.bootstrapInit && u.files.snapshot.looksEmpty then
          match (dispatchStrict ⟨"init", []⟩).run u with
          | (.error fault, v) => (.error fault, v)
          | (.ok _, v) => (.ok (), { v with started := true })
        else (.ok (), { u with started := true }) := by
  rw [bootstrap, run_get_bind, hnew, if_neg Bool.false_ne_true, run_bind]
  generalize loadEnvironment.run s = loaded
  obtain ⟨result, u⟩ := loaded
  cases result with
  | error fault => rfl
  | ok done =>
    have hbounds (next : ShellConfig → Shell Unit) :
        (bounds >>= next).run u = (next u.config.shell).run u := rfl
    dsimp only
    rw [hbounds]
    cases u.config.shell.bootstrapInit with
    | false => rfl
    | true =>
      rw [if_pos rfl, run_view_bind, Bool.true_and]
      cases u.files.snapshot.looksEmpty with
      | false => rfl
      | true =>
        rw [if_pos rfl, if_pos rfl, run_bind]
        generalize (dispatchStrict ⟨"init", []⟩).run u = ended
        obtain ⟨result, v⟩ := ended
        cases result <;> rfl

/-- **What can stop a session as it starts, and what it has read of its input then.** -/
theorem bootstrap_ends (s : Session) :
    (∃ taken, s.TakenAtStart (bootstrap.run s).2 taken) ∧
      ∀ fault, (bootstrap.run s).1 = .error fault → s.CannotStart fault := by
  cases hnew : s.started with
  | true =>
    rw [bootstrap, run_get_bind, hnew, if_pos rfl]
    exact ⟨⟨[], Unread.takenAtStart ⟨rfl, rfl, id⟩⟩, fun fault h => nomatch h⟩
  | false =>
    have hunread := unread_loadEnvironment s
    have hcannot := @cannotStart_of_load s
    rw [run_bootstrap hnew]
    generalize loadEnvironment.run s = loaded at hunread hcannot
    obtain ⟨result, u⟩ := loaded
    cases result with
    | error fault => exact ⟨⟨[], hunread.takenAtStart⟩, fun other h => hcannot h⟩
    | ok done =>
      dsimp only
      split
      · obtain ⟨⟨taken, htaken⟩, hstopped⟩ := dispatchStrict_init_ends u
        generalize (dispatchStrict ⟨"init", []⟩).run u = ended at htaken hstopped
        obtain ⟨result, v⟩ := ended
        have hall := hunread.followedBy htaken
        cases result with
        | ok outcome =>
          exact ⟨⟨taken, hall.input, hall.added, hall.opened⟩, fun fault h => nomatch h⟩
        | error fault =>
          refine ⟨⟨taken, hall⟩, fun other h => ?_⟩
          cases h
          obtain ⟨handler, hfound, hother, hfault⟩ := hstopped fault rfl
          exact .left (hunread.registry ▸ hfound) hother hfault
      · exact ⟨⟨[], hunread.takenAtStart.input, fun hne => absurd rfl hne, hunread.opened⟩,
          fun fault h => nomatch h⟩

end Shell

end TreeShell
