import TreeShell.Proofs.Dispatch.Moves
import TreeShell.Proofs.Settings.Durability

/-!
# Sessions that were started up

From when a session was started up, all kinds of things happen in it (`Session.Bootstrapped`): lines
are run, settings and files are changed, time passes. Whatever it was, the environment is one that
loading can give (`Environment.Loaded`): its parts are those that their documents give again, its
history is within the bound, and the bound can be written, and is positive or else the configured
one. And the store is open. These two make a session *ready* (`Bootstrapped.ready`).

The bound that is configured need not be positive, and the tree need not be in order.
-/

set_option autoImplicit false

namespace TreeShell

open Relation Shell FileSystem

/-! ## Environments that were loaded -/

namespace Environment

/-- An environment as it is after loading, and after any changes. -/
structure Loaded (config : ShellConfig) (e : Environment) : Prop where
  spelled : e.Spelled
  history : e.history = [] ∨ (e.history.length : Int) ≤ e.historyLimit
  limit : 0 < e.historyLimit ∨ e.historyLimit = config.historyLimit
  limit_length : Binary64.decimalLength e.historyLimit.natAbs ≤ Number.maxIntegerDigits

variable {config : ShellConfig} {e next : Environment}

theorem history_bounded (e : Environment) :
    e.bounded.history = [] ∨ (e.bounded.history.length : Int) ≤ e.historyLimit := by
  rcases le_or_gt 0 e.historyLimit with hlimit | hlimit
  · exact .inr (length_bounded_le hlimit)
  · exact .inl (List.drop_eq_nil_of_le (by omega))

theorem Loaded.bounded_eq (h : e.Loaded config) : e.bounded = e := by
  rcases h.history with hnone | hfew
  · rw [bounded, hnone, List.drop_nil, ← hnone]
  · exact bounded_eq_self hfew

theorem Loaded.bounded (h : e.Loaded config) : e.bounded.Loaded config :=
  h.bounded_eq.symm ▸ h

/-- **Whatever commands make of an environment that was loaded, it is as after loading.** -/
theorem Loaded.becomes (h : e.Loaded config) (hbecomes : e.Becomes config next) :
    next.Loaded config := by
  cases hbecomes with
  | bounded => exact h.bounded
  | aliased name target => exact { h with spelled := h.spelled.setAlias name target }
  | unaliased name => exact { h with spelled := h.spelled.removeAlias name }
  | remembered hnext =>
    simp only [remember?] at hnext
    split_ifs at hnext
    cases hnext
    exact { h with spelled := { h.spelled with }, history := history_bounded _ }
  | displayed name text => exact { h with spelled := h.spelled.setDisplay name text }
  | undisplayed => exact { h with spelled := h.spelled.resetDisplay config }
  | onPath folder => exact { h with spelled := h.spelled.ensureOnPath folder }

end Environment

/-! ## Loading -/

namespace Shell

variable {s t : Session}

/-- What a step leaves of the environment and the configuration. -/
def KeepsSettings (s t : Session) : Prop :=
  t.environment = s.environment ∧ t.config = s.config

theorem compositional_keepsSettings : Compositional (Moving KeepsSettings) :=
  compositional_moving fun _ _ hmove => ⟨hmove.environment, hmove.config⟩

theorem keepsSettings_of_moving {α : Type} {step : Shell α} (h : Moving KeepsSettings step)
    {result : Except Fault α} (hrun : step.run s = (result, t)) : KeepsSettings s t := by
  have hmoves := h s
  rw [hrun] at hmoves
  exact keeps_moves (P := KeepsSettings s) hmoves
    (fun _ _ hmove hkept => ⟨hmove.1.trans hkept.1, hmove.2.trans hkept.2⟩) ⟨rfl, rfl⟩

/-- A part of the environment is written, and nothing else happens to it. -/
theorem keepsSettings_record {path : String} {document : Environment → Json}
    (h : (do writeSettings path (document (← environment)).indented : Shell Unit).run s =
      (.ok (), t)) : KeepsSettings s t := by
  rw [run_environment_bind] at h
  exact keepsSettings_of_moving (compositional_keepsSettings.writeSettings _ _) h

theorem exists_of_run_bind_eq_ok {α β : Type} {step : Shell α} {next : α → Shell β} {b : β}
    {u : Session} (h : (step >>= next).run s = (.ok b, u)) :
    ∃ a t, step.run s = (.ok a, t) ∧ (next a).run t = (.ok b, u) := by
  obtain ⟨a, t, hstep, -⟩ := exists_of_run_bind_ok (congrArg Prod.fst h)
  exact ⟨a, t, hstep, (run_bind_of_ok hstep).symm.trans h⟩

theorem regular_of_readSettings {path : String} {document : Json}
    (h : (readSettings path).run s = (.ok document, t)) : document.Regular := by
  rw [readSettings, run_bind, run_attempt_look] at h
  dsimp only at h
  split at h
  · cases h
    exact .null
  · split at h
    · next hparse =>
      cases h
      exact Json.regular_of_parse hparse
    · cases h
      exact .null
    · cases h

/-- The bound that is read can be written, and is positive or else the configured one. -/
theorem bounds_of_readHistoryLimit {limit : Int} (h : readHistoryLimit.run s = (.ok limit, t)) :
    (0 < limit ∨ limit = s.config.shell.historyLimit) ∧
      Binary64.decimalLength limit.natAbs ≤ Number.maxIntegerDigits ∧ KeepsSettings s t := by
  have hkept : KeepsSettings s t := keepsSettings_of_moving
    (moving_readHistoryLimit fun file content => compositional_keepsSettings.writeSettings _ _) h
  have hdefault {u : Session} (hrun : (recordLimit s.config.shell.historyLimit >>= fun _ =>
      pure s.config.shell.historyLimit).run s = (.ok limit, u)) :
      limit = s.config.shell.historyLimit ∧
        Binary64.decimalLength limit.natAbs ≤ Number.maxIntegerDigits := by
    obtain ⟨_, written, hwrite, hlimit⟩ := exists_of_run_bind_ok (congrArg Prod.fst hrun)
    cases hlimit
    refine ⟨rfl, Nat.le_of_not_lt fun hlong => ?_⟩
    rw [recordLimit, Number.integerText, if_pos hlong] at hwrite
    cases hwrite
  rw [readHistoryLimit, run_bind, run_attempt_look] at h
  dsimp only at h
  split at h
  · exact ⟨.inr (hdefault h).1, (hdefault h).2, hkept⟩
  · split at h
    · next limit? hread =>
      cases limit? with
      | none => exact ⟨.inr (hdefault h).1, (hdefault h).2, hkept⟩
      | some other =>
        cases h
        obtain ⟨hpositive, hlength⟩ := Config.bounds_of_historyLimit? hread
        exact ⟨.inl hpositive, hlength, hkept⟩
    · cases h

/-- **What loading gives, in whatever tree, is an environment that was loaded.** -/
theorem loaded_of_load (h : loadEnvironment.run s = (.ok (), t)) :
    t.environment.Loaded s.config.shell ∧ t.config = s.config := by
  have hkept {path : String} {document : Json} {s t : Session}
      (hrun : (readSettings path).run s = (.ok document, t)) : KeepsSettings s t :=
    keepsSettings_of_moving (compositional_keepsSettings.readSettings _) hrun
  obtain ⟨_, s₁, hensure, h⟩ := exists_of_run_bind_eq_ok h
  have hkept₁ := keepsSettings_of_moving (compositional_keepsSettings.change _) hensure
  obtain ⟨limit, s₂, hlimit, h⟩ := exists_of_run_bind_eq_ok h
  obtain ⟨hbound, hlength, hkept₂⟩ := bounds_of_readHistoryLimit hlimit
  rw [run_bind_of_ok (run_withEnvironment _ _)] at h
  obtain ⟨history, s₃, hhistory, h⟩ := exists_of_run_bind_eq_ok h
  have hkept₃ := hkept hhistory
  rw [run_bind_of_ok (run_withEnvironment _ _)] at h
  obtain ⟨display, s₄, hdisplay, h⟩ := exists_of_run_bind_eq_ok h
  have hkept₄ := hkept hdisplay
  rw [run_bounds_bind, run_bind_of_ok (run_withEnvironment _ _)] at h
  obtain ⟨search, s₅, hsearch, h⟩ := exists_of_run_bind_eq_ok h
  have hkept₅ := hkept hsearch
  rw [run_bind_of_ok (run_withEnvironment _ _)] at h
  obtain ⟨_, s₆, hwritten, h⟩ := exists_of_run_bind_eq_ok h
  have hkept₆ := keepsSettings_record hwritten
  obtain ⟨_, s₇, hwritten, h⟩ := exists_of_run_bind_eq_ok h
  have hkept₇ := keepsSettings_record hwritten
  rw [recordHistory, run_bind_of_ok (run_withEnvironment _ _)] at h
  have hkept₈ := keepsSettings_record h
  -- Of the five parts four are read, and the history is cut in the end, whatever it was.
  have henvironment : t.environment = Environment.bounded { s₅.environment with
      path := Environment.withFolder programFolder (Environment.pathOf s₄.config.shell search)
      aliases := Environment.aliasesOf search } := by
    rw [hkept₈.1, hkept₇.1, hkept₆.1]
  have hdisplayed : s₅.environment.display = Environment.displayOf s₄.config.shell display := by
    rw [hkept₅.1]
  have hlimited : s₅.environment.historyLimit = limit := by
    rw [hkept₅.1, hkept₄.1, hkept₃.1]
  refine ⟨?_, ?_⟩
  · rw [henvironment]
    refine ⟨⟨Environment.strings_withFolder (Environment.strings_pathOf _ _) _,
      Environment.mem_withFolder _ _, Environment.nodup_aliasesOf (regular_of_readSettings hsearch),
      ?_⟩, Environment.history_bounded _, ?_, ?_⟩
    · exact hdisplayed ▸ Environment.displayInForm_displayOf _ (regular_of_readSettings hdisplay)
    · rw [hkept₁.2, ← hlimited] at hbound
      exact hbound
    · exact hlimited ▸ hlength
  · rw [hkept₈.2, hkept₇.2, hkept₆.2, hkept₅.2, hkept₄.2, hkept₃.2, hkept₂.2, hkept₁.2]

end Shell

/-! ## Ready sessions -/

namespace Session

/-- A session on an open store with an environment that was loaded. -/
structure Ready (s : Session) : Prop where
  opened : s.files.Opened
  loaded : s.environment.Loaded s.config.shell

variable {s t : Session}

theorem CommandMove.ready (h : s.CommandMove t) (hs : s.Ready) : t.Ready := by
  refine ⟨h.opened hs.opened, ?_⟩
  rw [h.config]
  cases h with
  | plain hmove => exact hmove.environment ▸ hs.loaded
  | settles he => exact hs.loaded.becomes he

theorem LineMove.ready (h : s.LineMove t) (hs : s.Ready) : t.Ready := by
  cases h with
  | command hmove => exact hmove.ready hs
  | _ => exact ⟨hs.opened, hs.loaded⟩

/-- A step that leaves a ready session ready, however it ends. -/
theorem Ready.after {α : Type} {step : Shell α} (hs : s.Ready)
    (h : Moving (fun s t => s.Ready → t.Ready) step) : (step.run s).2.Ready :=
  keeps_moves (h s) (fun _ _ hmove => hmove) hs

theorem Ready.moves {α : Type} {step : Shell α} (hs : s.Ready) (h : Moving LineMove step) :
    (step.run s).2.Ready :=
  hs.after (h.mono fun _ _ hmove => hmove.ready)

/-- A change of the settings makes the moves of a command. -/
theorem lineMoves_setting (change : SettingsChange) : Moving LineMove change.step := by
  have h := shellwide_lineMoves
  cases change with
  | setAlias name target => exact h.setAlias name target
  | removeAlias name => exact h.bind (h.removeAlias name) fun _ => h.pure ()
  | addHistory line => exact h.bind (h.addHistory line) fun _ => h.pure ()
  | setDisplay name text => exact h.bind (h.setDisplay name text) fun _ => h.pure ()
  | resetDisplay => exact h.resetDisplay
  | ensureOnPath folder => exact h.ensureOnPath folder
  | recordAll => exact h.recordEnvironment

/-- What can become of a session after it was started up: lines are run, settings are changed, the
file system is used, and what has to do with neither may be anything. -/
inductive Bootstrapped : Session → Prop
  | start {s : Session} (hnew : s.started = false) (hopen : s.files.Opened)
      (hrun : (bootstrap.run s).1 = .ok ()) : Bootstrapped (bootstrap.run s).2
  | line {s : Session} (line : String) (h : Bootstrapped s) :
      Bootstrapped ((runLine line).run s).2
  | setting {s : Session} (change : SettingsChange) (h : Bootstrapped s) :
      Bootstrapped (change.step.run s).2
  | files {s : Session} {α : Type} (attempt : Attempt α) (h : Bootstrapped s) :
      Bootstrapped { s with files := (s.files.commit attempt).2 }
  | elsewhere {s t : Session} (h : Bootstrapped s) (hfiles : t.files = s.files)
      (henvironment : t.environment = s.environment) (hconfig : t.config = s.config) :
      Bootstrapped t

/-- A session is ready once its environment was loaded. -/
theorem ready_of_load (hopen : s.files.Opened) (h : loadEnvironment.run s = (.ok (), t)) :
    t.Ready := by
  obtain ⟨hloaded, hconfig⟩ := loaded_of_load h
  have hcommits : Compositional (Moving fun s t : Session => s.files.Opened → t.files.Opened) :=
    compositional_moving fun _ _ hmove => hmove.opened
  have hmoves := moving_loadEnvironment (fun _ _ => hcommits.writeSettings _ _)
    (hcommits.change _) (fun _ _ => .single id) s
  rw [h] at hmoves
  have hopened : t.files.Opened :=
    keeps_moves (P := fun t => t.files.Opened) hmoves (fun _ _ hmove => hmove) hopen
  exact ⟨hopened, hconfig.symm ▸ hloaded⟩

theorem ready_bootstrap (hnew : s.started = false) (hopen : s.files.Opened)
    (hrun : (bootstrap.run s).1 = .ok ()) : (bootstrap.run s).2.Ready := by
  have hmoves {α : Type} {step : Shell α} (h : Moving LineMove step) :
      Moving (fun s t => s.Ready → t.Ready) step := h.mono fun _ _ hmove => hmove.ready
  have hstarted : Moving (fun s t => s.Ready → t.Ready)
      (modify ({ · with started := true }) : Shell Unit) :=
    fun _ => .single fun hs => ⟨hs.opened, hs.loaded⟩
  rw [bootstrap, run_get_bind, if_neg (by simp [hnew])] at hrun ⊢
  obtain ⟨_, t, hload, -⟩ := exists_of_run_bind_ok hrun
  rw [run_bind_of_ok hload]
  refine (ready_of_load hopen hload).after ?_
  refine (hmoves shellwide_lineMoves.bounds).bind fun config => ?_
  dsimp only
  split
  · refine (hmoves (shellwide_lineMoves.view _)).bind fun empty => ?_
    split
    · exact (hmoves (shellwide_lineMoves.dispatchStrict _)).bind fun _ => hstarted
    · exact hstarted
  · exact hstarted

/-- **A session that was started up is ready**, whatever has happened in it. -/
theorem Bootstrapped.ready (h : s.Bootstrapped) : s.Ready := by
  induction h with
  | start hnew hopen hrun => exact ready_bootstrap hnew hopen hrun
  | line line _ ih => exact ih.moves (lineMoves_runLine line)
  | setting change _ ih => exact ih.moves (lineMoves_setting change)
  | files attempt _ ih => exact ⟨ih.opened.commit attempt, ih.loaded⟩
  | elsewhere _ hfiles henvironment hconfig ih =>
    refine ⟨hfiles ▸ ih.opened, ?_⟩
    rw [henvironment, hconfig]
    exact ih.loaded

end Session

end TreeShell
