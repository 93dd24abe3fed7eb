import TreeShell.Proofs.Session.Compositional

/-!
# Steps that leave the account of a session alone

Three things of a session are no command's business. What was printed is never read again and never
taken back, so a step prints the same after any other output; how many scripts are running is for
the runner of scripts to count; and the configuration stays what it was. A step that keeps to this
is *steady*, whether it ends with a value or is stopped by a fault.

Steadiness goes through `bind`, so that a command is steady if its steps are. The one exception is a
step that takes hold of the whole session: what follows it may look at anything, and has to be blind
for what was printed (`steady_get_bind`).
-/

set_option autoImplicit false

namespace TreeShell

/-- The session, had some lines been printed before all others. -/
def Session.withEarlier (earlier : List String) (s : Session) : Session :=
  { s with console := { s.console with output := earlier ++ s.console.output } }

namespace Shell

variable {α β : Type}

/-- A step that does not look at what was printed and takes none of it back, and that leaves the
count of scripts and the configuration as they were. -/
structure Steady (step : Shell α) : Prop where
  output : ∀ s earlier, step.run (s.withEarlier earlier) =
    ((step.run s).1, (step.run s).2.withEarlier earlier)
  depth : ∀ s, (step.run s).2.scriptDepth = s.scriptDepth
  config : ∀ s, (step.run s).2.config = s.config

/-! ## Putting steps together -/

theorem steady_pure (a : α) : Steady (pure a : Shell α) :=
  ⟨fun _ _ => rfl, fun _ => rfl, fun _ => rfl⟩

theorem steady_throw (fault : Fault) : Steady (throw fault : Shell α) :=
  ⟨fun _ _ => rfl, fun _ => rfl, fun _ => rfl⟩

theorem Steady.bind {step : Shell α} {next : α → Shell β} (h : Steady step)
    (hnext : ∀ a, Steady (next a)) : Steady (step >>= next) := by
  constructor
  · intro s earlier
    rw [run_bind, run_bind, h.output]
    generalize step.run s = first
    obtain ⟨result, s'⟩ := first
    cases result with
    | ok a => exact (hnext a).output s' earlier
    | error fault => rfl
  · intro s
    have hdepth := h.depth s
    rw [run_bind]
    generalize step.run s = first at hdepth
    obtain ⟨result, s'⟩ := first
    cases result with
    | ok a => exact ((hnext a).depth s').trans hdepth
    | error fault => exact hdepth
  · intro s
    have hconfig := h.config s
    rw [run_bind]
    generalize step.run s = first at hconfig
    obtain ⟨result, s'⟩ := first
    cases result with
    | ok a => exact ((hnext a).config s').trans hconfig
    | error fault => exact hconfig

/-- A step whose value is only looked at. -/
theorem Steady.returning {step : Shell α} (h : Steady step) (f : α → β) :
    Steady (step >>= fun a => pure (f a)) :=
  h.bind fun a => steady_pure (f a)

/-- After taking hold of the session, a step must be blind for what was printed. -/
theorem steady_get_bind {next : Session → Shell β} (hnext : ∀ s, Steady (next s))
    (hblind : ∀ s earlier, next (s.withEarlier earlier) = next s) :
    Steady ((get : Shell Session) >>= next) := by
  constructor
  · intro s earlier
    rw [run_get_bind, run_get_bind, hblind]
    exact (hnext s).output s earlier
  · intro s
    rw [run_get_bind]
    exact (hnext s).depth s
  · intro s
    rw [run_get_bind]
    exact (hnext s).config s

/-- A step that does what another does, and makes something else of how that ended. -/
theorem Steady.answering {step : Shell α} {other : Shell β} (h : Steady step)
    (answer : Except Fault α → Except Fault β)
    (hother : ∀ s, other.run s = (answer (step.run s).1, (step.run s).2)) : Steady other := by
  refine ⟨fun s earlier => ?_, fun s => ?_, fun s => ?_⟩
  · rw [hother, hother, h.output]
  · rw [hother]
    exact h.depth s
  · rw [hother]
    exact h.config s

/-! ## The console -/

theorem steady_print (line : String) : Steady (print line) := by
  refine ⟨fun s earlier => ?_, fun _ => rfl, fun _ => rfl⟩
  simp [print, withConsole, Console.write, Session.withEarlier]

theorem steady_readLine (prompt : String) : Steady (readLine prompt) := by
  constructor
  · intro s earlier
    simp only [readLine, run_ofRun, Session.withEarlier, Console.ask]
    cases s.console.input with
    | nil => rfl
    | cons item rest => cases item <;> rfl
  · intro s
    simp only [readLine, run_ofRun, Console.ask]
    cases s.console.input with
    | nil => rfl
    | cons item rest => cases item <;> rfl
  · intro s
    simp only [readLine, run_ofRun, Console.ask]
    cases s.console.input with
    | nil => rfl
    | cons item rest => cases item <;> rfl

/-- Keys are asked for without a look at what was printed. -/
theorem nextKey_withEarlier (accept : KeyPress → Bool) (earlier : List String)
    (items : List InputItem) (console : Console) :
    nextKey accept { console with output := earlier ++ console.output } items =
      ((nextKey accept console items).1, { (nextKey accept console items).2 with
        output := earlier ++ (nextKey accept console items).2.output }) := by
  induction items generalizing console with
  | nil => rfl
  | cons item rest ih =>
    cases item with
    | interrupt => rfl
    | line text =>
      simp only [nextKey]
      split
      · rfl
      · exact ih (console.ask "")

theorem steady_readKey (accept : KeyPress → Bool) : Steady (readKey accept) := by
  refine ⟨fun s earlier => ?_, fun _ => rfl, fun _ => rfl⟩
  simp only [readKey, run_ofRun, Session.withEarlier, nextKey_withEarlier]

theorem steady_sleep (milliseconds : Nat) : Steady (sleep milliseconds) :=
  ⟨fun _ _ => rfl, fun _ => rfl, fun _ => rfl⟩

theorem steady_painted (color : Color) (text : String) : Steady (painted color text) :=
  steady_get_bind (fun _ => steady_pure _) fun _ _ => rfl

/-! ## The file system and the environment -/

theorem steady_view (f : Snapshot → α) : Steady (view f) :=
  ⟨fun _ _ => rfl, fun _ => rfl, fun _ => rfl⟩

theorem steady_look (f : Snapshot → Except FileError α) : Steady (look f) :=
  ⟨fun _ _ => rfl, fun _ => rfl, fun _ => rfl⟩

theorem steady_change (f : Snapshot → Attempt α) : Steady (change f) :=
  ⟨fun _ _ => rfl, fun _ => rfl, fun _ => rfl⟩

theorem steady_environment : Steady environment :=
  ⟨fun _ _ => rfl, fun _ => rfl, fun _ => rfl⟩

theorem steady_withEnvironment (f : Environment → Environment) : Steady (withEnvironment f) :=
  ⟨fun _ _ => rfl, fun _ => rfl, fun _ => rfl⟩

theorem steady_bounds : Steady bounds :=
  ⟨fun _ _ => rfl, fun _ => rfl, fun _ => rfl⟩

/-! ## Faults as answers -/

theorem Steady.attempt {step : Shell α} (h : Steady step) : Steady (attempt step) :=
  h.answering attempted (run_attempt step)

theorem Steady.guarded {step : Shell α} (h : Steady step) : Steady (guarded step) :=
  h.answering guardedEnd (run_guarded step)

theorem Steady.settled {step : Shell α} (h : Steady step) : Steady (settled step) :=
  h.answering .ok (run_settled step)

/-- Steadiness goes through everything commands are made of. -/
theorem compositional_steady : Compositional Steady where
  pure := steady_pure
  throw := steady_throw
  bind := Steady.bind
  attempt := Steady.attempt
  guarded := Steady.guarded
  print := steady_print
  sleep := steady_sleep
  painted := steady_painted
  view := steady_view
  look := steady_look
  change := steady_change
  clock _ hnext := steady_get_bind (fun s => hnext s.now) fun _ _ => rfl
  host _ hnext := steady_get_bind (fun s => hnext s.host) fun _ _ => rfl

/-- And it goes through reading input. -/
theorem interactive_steady : Interactive Steady :=
  { compositional_steady with
    settled := Steady.settled
    readLine := steady_readLine
    readKey := steady_readKey
    inputLeft := ⟨fun _ _ => rfl, fun _ => rfl, fun _ => rfl⟩ }

/-! ## Settings -/

theorem steady_recordSearch : Steady recordSearch :=
  steady_environment.bind fun _ => compositional_steady.writeSettings _ _

theorem steady_recordDisplay : Steady recordDisplay :=
  steady_environment.bind fun _ => compositional_steady.writeSettings _ _

theorem steady_recordHistory : Steady recordHistory :=
  (steady_withEnvironment _).bind fun _ =>
    steady_environment.bind fun _ => compositional_steady.writeSettings _ _

theorem steady_recordLimit (limit : Int) : Steady (recordLimit limit) := by
  unfold recordLimit
  split
  · exact compositional_steady.writeSettings _ _
  · exact steady_throw _

theorem steady_recordEnvironment : Steady recordEnvironment :=
  steady_environment.bind fun _ => (steady_recordLimit _).bind fun _ =>
    steady_recordSearch.bind fun _ => steady_recordDisplay.bind fun _ => steady_recordHistory

theorem steady_setAlias (name target : String) : Steady (setAlias name target) :=
  (steady_withEnvironment _).bind fun _ => steady_recordSearch

theorem steady_removeAlias (name : String) : Steady (removeAlias name) := by
  refine steady_environment.bind fun e => holds_ite ?_ (steady_pure _)
  exact (steady_withEnvironment _).bind fun _ => steady_recordSearch.returning _

theorem steady_addHistory (line : String) : Steady (addHistory line) := by
  refine steady_environment.bind fun e => ?_
  split
  · exact steady_pure _
  · exact (steady_withEnvironment _).bind fun _ => steady_recordHistory.returning _

theorem steady_setDisplay (name text : String) : Steady (setDisplay name text) :=
  steady_environment.bind fun _ => (steady_withEnvironment _).bind fun _ =>
    steady_recordDisplay.returning _

theorem steady_resetDisplay : Steady resetDisplay :=
  steady_bounds.bind fun _ => (steady_withEnvironment _).bind fun _ => steady_recordDisplay

theorem steady_ensureOnPath (folder : String) : Steady (ensureOnPath folder) :=
  (steady_withEnvironment _).bind fun _ => steady_recordSearch

/-- No command's use of the environment is unsteady. -/
theorem pervasive_steady : Pervasive Steady :=
  { compositional_steady with
    environment := steady_environment
    bounds := steady_bounds
    setAlias := steady_setAlias
    removeAlias := steady_removeAlias
    addHistory := steady_addHistory
    setDisplay := steady_setDisplay
    resetDisplay := steady_resetDisplay
    ensureOnPath := steady_ensureOnPath
    recordEnvironment := steady_recordEnvironment }

end Shell

end TreeShell
