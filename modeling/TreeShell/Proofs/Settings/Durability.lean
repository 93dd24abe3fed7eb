import TreeShell.Proofs.Settings.Kept

/-!
# Settings outlive a session

Every change of the environment succeeds and leaves the session kept, and so does any sequence of
changes (`Kept.run`); so whoever starts over its files or its store finds the environment as it is
(`settings_durable`).

That a change leaves a session kept is one argument for all of them (`Kept.write`). A change is one
of one part; it leaves the environment in form, and the file of that part is written in the same
breath, while the texts of the others are still right.
-/

set_option autoImplicit false

namespace TreeShell

/-- A change of the environment, as commands ask for it. -/
inductive SettingsChange where
  | setAlias (name target : String)
  | removeAlias (name : String)
  | addHistory (line : String)
  | setDisplay (name text : String)
  | resetDisplay
  | ensureOnPath (folder : String)
  | recordAll
deriving DecidableEq, Repr

namespace SettingsChange

/-- What a change does in a session. -/
def step : SettingsChange → Shell Unit
  | setAlias name target => Shell.setAlias name target
  | removeAlias name => do let _ ← Shell.removeAlias name
  | addHistory line => do let _ ← Shell.addHistory line
  | setDisplay name text => do let _ ← Shell.setDisplay name text
  | resetDisplay => Shell.resetDisplay
  | ensureOnPath folder => Shell.ensureOnPath folder
  | recordAll => Shell.recordEnvironment

end SettingsChange

namespace Session

open Shell FileSystem

variable {s : Session}

/-! ## Changes -/

theorem Kept.free (h : s.Kept) : s.files.Free := by
  intro file hfolder
  obtain ⟨text, htext, -⟩ := h.tells file
  cases htext.symm.trans hfolder

/-- One part of the environment has changed and is written. -/
theorem Kept.write {e : Environment} {file : SettingsFile} {text : String} (h : s.Kept)
    (he : e.InForm) (htext : SettingsFile.Tells e text file)
    (hothers : ∀ other, other ≠ file → ∀ text, SettingsFile.Tells s.environment text other →
      SettingsFile.Tells e text other) :
    Kept { s with environment := e, files := s.files.withSettings file text } := by
  refine ⟨h.tended.withSettings file text, h.tended.recorded_withSettings (h.free file) text, he,
    fun other => ?_⟩
  dsimp only
  rw [h.free.settings?_withSettings h.tended]
  by_cases hsame : other = file
  · rw [if_pos hsame]
    exact ⟨text, rfl, hsame ▸ htext⟩
  · rw [if_neg hsame]
    obtain ⟨held, hheld, htells⟩ := h.tells other
    exact ⟨held, hheld, hothers other hsame held htells⟩

/-- The search path or the aliases have changed. -/
theorem Kept.recordSearch {path : SearchPath} {aliases : Aliases} (h : s.Kept)
    (he : Environment.InForm { s.environment with path, aliases }) :
    ∃ t, t.Kept ∧ recordSearch.run { s with environment := { s.environment with path, aliases } } =
      (.ok (), t) := by
  refine ⟨_, ?_, run_recordSearch h.tended⟩
  refine h.write he rfl fun other hother text htells => ?_
  cases other with
  | search => exact absurd rfl hother
  | _ => exact htells

/-- The display settings have changed. -/
theorem Kept.recordDisplay {display : Fields Json} (h : s.Kept)
    (he : Environment.InForm { s.environment with display }) :
    ∃ t, t.Kept ∧ recordDisplay.run { s with environment := { s.environment with display } } =
      (.ok (), t) := by
  refine ⟨_, ?_, run_recordDisplay h.tended⟩
  refine h.write he rfl fun other hother text htells => ?_
  cases other with
  | display => exact absurd rfl hother
  | _ => exact htells

/-- The history has changed. -/
theorem Kept.recordHistory {history : List String} (h : s.Kept)
    (he : Environment.InForm (Environment.bounded { s.environment with history })) :
    ∃ t, t.Kept ∧ recordHistory.run { s with environment := { s.environment with history } } =
      (.ok (), t) := by
  refine ⟨_, ?_, run_recordHistory h.tended⟩
  refine h.write he rfl fun other hother text htells => ?_
  cases other with
  | history => exact absurd rfl hother
  | _ => exact htells

/-- Nothing has changed, and all is written again. -/
theorem Kept.recordEnvironment (h : s.Kept) :
    ∃ t, t.Kept ∧ recordEnvironment.run s = (.ok (), t) := by
  obtain ⟨htrim, hread⟩ :=
    Config.historyLimit?_toString h.inForm.limit_pos h.inForm.limit_length
  have hwritable : Number.integerText s.environment.historyLimit =
      .ok (toString s.environment.historyLimit) :=
    if_neg (Nat.not_lt.mpr h.inForm.limit_length)
  have htells : SettingsFile.Tells s.environment (toString s.environment.historyLimit) .limit := by
    rw [SettingsFile.Tells, limitOfText, htrim, hread]
  have hlimit := h.write h.inForm htells fun _ _ _ htells => htells
  obtain ⟨t, ht, hsearch⟩ := hlimit.recordSearch hlimit.inForm
  obtain ⟨u, hu, hdisplay⟩ := ht.recordDisplay ht.inForm
  obtain ⟨v, hv, hhistory⟩ := hu.recordHistory
    (Environment.bounded_eq_self hu.inForm.history ▸ hu.inForm)
  refine ⟨v, hv, ?_⟩
  rw [Shell.recordEnvironment, run_environment_bind,
    run_bind_of_ok (run_recordLimit h.tended hwritable), run_bind_of_ok (by exact hsearch),
    run_bind_of_ok (by exact hdisplay)]
  exact hhistory

/-- **Every change succeeds and leaves the session kept.** -/
theorem Kept.step (h : s.Kept) (change : SettingsChange) :
    ∃ t, t.Kept ∧ change.step.run s = (.ok (), t) := by
  cases change with
  | setAlias name target =>
    obtain ⟨t, ht, hrun⟩ := h.recordSearch (h.inForm.setAlias name target)
    refine ⟨t, ht, ?_⟩
    rw [SettingsChange.step, setAlias, run_bind_of_ok (run_withEnvironment _ _)]
    exact hrun
  | removeAlias name =>
    rw [SettingsChange.step, removeAlias, run_bind, run_environment_bind]
    cases s.environment.aliases.has name with
    | false => exact ⟨s, h, rfl⟩
    | true =>
      obtain ⟨t, ht, hrun⟩ := h.recordSearch (h.inForm.removeAlias name)
      refine ⟨t, ht, ?_⟩
      rw [if_pos rfl, run_bind_of_ok (run_withEnvironment _ _), run_bind_of_ok (by exact hrun)]
      rfl
  | addHistory line =>
    rw [SettingsChange.step, addHistory, run_bind, run_environment_bind]
    cases hnext : s.environment.remember? line with
    | none => exact ⟨s, h, rfl⟩
    | some next =>
      obtain ⟨t, ht, hrun⟩ : ∃ t, t.Kept ∧
          Shell.recordHistory.run { s with environment := next } = (.ok (), t) := by
        have hform := h.inForm.remember? hnext
        simp only [Environment.remember?] at hnext
        split_ifs at hnext
        cases hnext
        exact h.recordHistory hform
      refine ⟨t, ht, ?_⟩
      dsimp only
      rw [run_bind_of_ok (run_withEnvironment _ _), run_bind_of_ok (by exact hrun)]
      rfl
  | setDisplay name text =>
    obtain ⟨t, ht, hrun⟩ := h.recordDisplay (h.inForm.setDisplay name text)
    refine ⟨t, ht, ?_⟩
    rw [SettingsChange.step, setDisplay, run_bind, run_environment_bind,
      run_bind_of_ok (run_withEnvironment _ _), run_bind_of_ok (by exact hrun)]
    rfl
  | resetDisplay =>
    obtain ⟨t, ht, hrun⟩ := h.recordDisplay (h.inForm.resetDisplay s.config.shell)
    refine ⟨t, ht, ?_⟩
    rw [SettingsChange.step, resetDisplay, run_bounds_bind,
      run_bind_of_ok (run_withEnvironment _ _)]
    exact hrun
  | ensureOnPath folder =>
    obtain ⟨t, ht, hrun⟩ := h.recordSearch (h.inForm.ensureOnPath folder)
    refine ⟨t, ht, ?_⟩
    rw [SettingsChange.step, ensureOnPath, run_bind_of_ok (run_withEnvironment _ _)]
    exact hrun
  | recordAll => exact h.recordEnvironment

theorem Kept.run (h : s.Kept) (changes : List SettingsChange) :
    ∃ t, t.Kept ∧ (changes.forM SettingsChange.step).run s = (.ok (), t) := by
  induction changes generalizing s with
  | nil => exact ⟨s, h, rfl⟩
  | cons change changes ih =>
    obtain ⟨t, ht, hstep⟩ := h.step change
    obtain ⟨u, hu, hrest⟩ := ih ht
    have hcons : (change :: changes).forM SettingsChange.step =
        (change.step >>= fun _ => changes.forM SettingsChange.step) := rfl
    rw [hcons, run_bind_of_ok hstep]
    exact ⟨u, hu, hrest⟩

/-! ## Together -/

/-- **Settings outlive a session.** Whatever was in the settings files, once the environment was
loaded every change of it succeeds. At the end of any changes the folder of programs is in the
search path, which has only strings in it, and the history is within its bound. The store gives the
file system back as it is; and whoever loads the environment from it then, whatever their own
defaults are, has the same search path, aliases, history, bound and display settings, and has left
the text of the record as it was. -/
theorem settings_durable (hs : s.files.snapshot.WellFormed)
    (hfree : ∀ file : SettingsFile, s.files.snapshot.isFolder file.path = false)
    (hpositive : 0 < s.config.shell.historyLimit) (hload : (loadEnvironment.run s).1 = .ok ())
    (changes : List SettingsChange) :
    ∃ t, (changes.forM SettingsChange.step).run (loadEnvironment.run s).2 = (.ok (), t) ∧
      .string programFolder ∈ t.environment.path ∧
      (∀ item ∈ t.environment.path, ∃ folder, item = .string folder) ∧
      (t.environment.history.length : Int) ≤ t.environment.historyLimit ∧
      (∃ store, t.files.store? = some store ∧ mount store t.files.key = .ok t.files) ∧
      ∀ later : Session, later.files = t.files →
        (loadEnvironment.run later).1 = .ok () ∧
        (loadEnvironment.run later).2.environment = t.environment ∧
        (loadEnvironment.run later).2.files.recordText? = t.files.recordText? := by
  have hclear : s.files.Free := by
    intro file hfolder
    have hplace : s.files.snapshot.resolve file.path = file.place := file.resolve_path _
    have hthere := (s.files.snapshot.isFolder_iff file.path).mpr (hplace ▸ hfolder)
    rw [hfree file] at hthere
    cases hthere
  have hkept := kept_of_load hs (opened_of_load hs hclear hload) hclear hpositive hload
  obtain ⟨t, ht, hrun⟩ := hkept.run changes
  refine ⟨t, hrun, ht.inForm.programs, ht.inForm.path, ht.inForm.history, ht.recorded.mount,
    fun later hlater => ?_⟩
  obtain ⟨files, hsnapshot, hrecorded, hagain⟩ := ht.load hlater
  rw [hagain, ht.recorded.recordText, ← hsnapshot]
  exact ⟨rfl, rfl, hrecorded.recordText⟩

/-- A session with settings out of form: a bound with blanks around it, a number in the search path,
and a display setting that is a number. -/
def unkemptSession : Session :=
  sessionWith [] [⟨"historyLimit.txt", " 2 "⟩,
    ⟨"env.json", "\x7b\"PATH\": [1, \"/tools\"], \"ALIAS\": \x7b\"ll\": \"ls\"\x7d\x7d"⟩,
    ⟨"config.json", "\x7b\"width\": 1.5\x7d"⟩]

/-- Changes of every kind, with more lines than the history may have. -/
def assortedChanges : List SettingsChange :=
  [.addHistory "ls", .addHistory "cd /", .addHistory "pwd", .setAlias "la" "ls", .removeAlias "ll",
    .setDisplay "width" "2.25", .recordAll, .ensureOnPath "/tools", .resetDisplay]

theorem settings_durable_unkemptSession :
    (loadEnvironment.run unkemptSession).1 = .ok () ∧
      ∃ t, (assortedChanges.forM SettingsChange.step).run (loadEnvironment.run unkemptSession).2 =
          (.ok (), t) ∧
        ∀ later : Session, later.files = t.files →
          (loadEnvironment.run later).2.environment = t.environment := by
  have hok : (loadEnvironment.run unkemptSession).1 = .ok () :=
    eq_ok_of_toBool (by decide +kernel)
  obtain ⟨t, hrun, -, -, -, -, hlater⟩ :=
    @settings_durable unkemptSession (by decide) (fun file => by cases file <;> decide) (by decide)
      hok assortedChanges
  exact ⟨hok, t, hrun, fun later hfiles => (hlater later hfiles).2.1⟩

end Session

end TreeShell
