import TreeShell.Dispatch.Script
import TreeShell.Proofs.Builtin.Compositional
import TreeShell.Proofs.Dispatch.Programs

/-!
# Steps that do not look at the search path and the aliases

A step is *blind* if it does the same whatever the search path and the aliases of the session are:
it ends in the same way, and leaves the session the same but for these two, which it leaves alone.
Blindness is compositional, and all built-in commands have it but those that show aliases, change
them or write them to their file (`blind_builtin`). A program that is not built in is blind where it
neither asks about the environment nor has anything run (`blindIn_program`): whether it comes to
that may depend on what it finds in the session.
-/

set_option autoImplicit false

namespace TreeShell

/-- The session with another search path and other aliases. -/
def Session.withSearch (path : SearchPath) (aliases : Aliases) (s : Session) : Session :=
  { s with environment := { s.environment with path, aliases } }

namespace Shell

variable {α β : Type}

/-- A step that does the same in a session with another search path and other aliases. -/
def BlindIn (s : Session) (step : Shell α) : Prop :=
  ∀ path aliases, step.run (s.withSearch path aliases) =
    ((step.run s).1, (step.run s).2.withSearch path aliases)

/-- A step that does the same whatever the search path and the aliases are. -/
def Blind (step : Shell α) : Prop :=
  ∀ s, BlindIn s step

/-! ## Putting steps together -/

theorem BlindIn.bind {s : Session} {step : Shell α} {next : α → Shell β} (h : BlindIn s step)
    (hnext : ∀ a, Blind (next a)) : BlindIn s (step >>= next) := by
  intro path aliases
  rw [run_bind, run_bind, h]
  generalize step.run s = first
  obtain ⟨result, after⟩ := first
  cases result with
  | ok a => exact hnext a after path aliases
  | error fault => rfl

/-- A step that does what another does, and makes something else of how that ended. -/
theorem Blind.answering {step : Shell α} {other : Shell β} (h : Blind step)
    (answer : Except Fault α → Except Fault β)
    (hother : ∀ s, other.run s = (answer (step.run s).1, (step.run s).2)) : Blind other := by
  intro s path aliases
  rw [hother, hother, h s]

/-- The console has nothing to do with the environment. -/
theorem blind_ofConsole (f : Console → Except Fault α × Console) :
    Blind (ofRun fun s => ((f s.console).1, { s with console := (f s.console).2 })) :=
  fun _ _ _ => rfl

theorem blind_readLine (prompt : String) : Blind (readLine prompt) := by
  intro s path aliases
  simp only [readLine, run_ofRun, Session.withSearch, Console.ask]
  cases s.console.input with
  | nil => rfl
  | cons item rest => cases item <;> rfl

/-- **Blindness goes through all steps that commands are made of.** -/
theorem compositional_blind : Compositional Blind where
  pure _ _ _ _ := rfl
  throw _ _ _ _ := rfl
  bind h hnext s := (h s).bind hnext
  attempt h := h.answering attempted (run_attempt _)
  guarded h := h.answering guardedEnd (run_guarded _)
  print line := blind_ofConsole fun console => (.ok (), console.write line)
  sleep milliseconds := blind_ofConsole fun console =>
    (if console.impatient then .error .interrupt else .ok (), console.pause milliseconds)
  painted _ _ _ _ _ := rfl
  view _ _ _ _ := rfl
  look _ _ _ _ := rfl
  change _ _ _ _ := rfl
  clock _ hnext s path aliases := hnext s.now s path aliases
  host _ hnext s path aliases := hnext s.host s path aliases

/-- And it goes through reading input. -/
theorem interactive_blind : Interactive Blind :=
  { compositional_blind with
    settled := fun h => h.answering .ok (run_settled _)
    inputLeft := fun _ _ _ => rfl
    readLine := blind_readLine
    readKey := fun accept =>
      blind_ofConsole fun console => nextKey accept console console.input }

/-! ## The rest of the environment -/

/-- What is read of the environment may depend on all of it but the search path and the aliases. -/
theorem blind_environment_bind {next : Environment → Shell α} (hnext : ∀ e, Blind (next e))
    (hsame : ∀ (e : Environment) path aliases, next { e with path, aliases } = next e) :
    Blind (environment >>= next) := by
  intro s path aliases
  rw [run_environment_bind, run_environment_bind, Session.withSearch, hsame]
  exact hnext s.environment s path aliases

theorem blind_showConfig : Blind showConfig :=
  compositional_blind.bind (compositional_blind.print _) fun _ =>
    blind_environment_bind (fun _ => compositional_blind.bind (compositional_blind.print _) fun _ =>
      compositional_blind.returning (compositional_blind.printLines _) _) fun _ _ _ => rfl

theorem blind_getConfig (name : String) : Blind (getConfig name) := by
  refine blind_environment_bind (fun e => ?_) fun _ _ _ => rfl
  split
  · exact compositional_blind.returning (compositional_blind.print _) _
  · exact compositional_blind.failWith _

theorem blind_recordDisplay : Blind recordDisplay :=
  blind_environment_bind (fun _ => compositional_blind.writeSettings _ _) fun _ _ _ => rfl

theorem blind_setDisplay (name text : String) : Blind (setDisplay name text) :=
  blind_environment_bind (fun e => compositional_blind.bind (fun _ _ _ => rfl) fun _ =>
    compositional_blind.returning blind_recordDisplay fun _ =>
      Environment.readSetting name (e.display.get? name) text) fun _ _ _ => rfl

theorem blind_resetDisplay : Blind resetDisplay :=
  compositional_blind.bind (fun _ _ _ => rfl) fun _ =>
    compositional_blind.bind (fun _ _ _ => rfl) fun _ => blind_recordDisplay

theorem blind_history : Blind history :=
  blind_environment_bind
    (fun _ => compositional_blind.returning (compositional_blind.printLines _) _) fun _ _ _ => rfl

/-! ## Commands -/

/-- The commands that show aliases, change them, or write them to their file. -/
def usesSearch : Builtin → Bool
  | .makeAlias | .dropAlias | .init => true
  | _ => false

/-- **All commands but three are blind for the search path and the aliases.** -/
theorem blind_builtin {command : Builtin} (hcommand : usesSearch command = false)
    (args : List String) : Blind (command.run args) := by
  cases command with
  | config =>
    exact compositional_blind.config blind_showConfig blind_getConfig blind_setDisplay
      blind_resetDisplay args
  | history => exact blind_history
  | makeAlias | dropAlias | init => exact nomatch hcommand
  | _ => exact compositional_blind.builtin rfl args

/-! ## Programs -/

end Shell

/-- What is asked for may depend on the search path and the aliases: it is about the environment, or
it is to have something run. -/
def Program.Request.consults : Program.Request → Bool
  | environment | setAlias .. | removeAlias _ | addHistory _ | setDisplay .. | resetDisplay
  | ensureOnPath _ | recordEnvironment | dispatch _ | strict _ | script .. | execute .. => true
  | _ => false

/-- Nothing is run for a program. -/
def Runner.idle : Runner where
  dispatch _ := return .success
  strict _ := return .success
  script _ _ := return .success
  execute _ _ _ := return .success

/-- A program comes to ask for something of that kind when it is run in a session. Up to there,
nothing is run for it. -/
def Program.consultsIn {α : Type} : Program α → Session → Bool
  | done _, _ | stop _, _ => false
  | ask request next, s =>
    let (answer, after) := (request.fulfil .idle).run s
    request.consults || (next answer).consultsIn after

namespace Shell

variable {α : Type} {s : Session}

theorem fulfil_eq_fulfil_idle {request : Program.Request} (h : request.consults = false)
    (runner : Runner) :
    request.fulfil runner = request.fulfil .idle := by
  cases request <;> first | rfl | exact nomatch h

theorem blind_fulfil {request : Program.Request} (h : request.consults = false) (runner : Runner) :
    Blind (request.fulfil runner) := by
  have hblind := interactive_blind
  cases request with
  | print line => exact hblind.print line
  | readLine prompt => exact hblind.readLine prompt
  | readKey accept => exact hblind.readKey accept
  | inputLeft => exact hblind.inputLeft
  | sleep milliseconds => exact hblind.sleep milliseconds
  | painted color text => exact hblind.painted color text
  | clock => exact hblind.clock pure hblind.pure
  | look => exact hblind.view id
  | perform operation => exact hblind.change (·.attempt operation)
  | bounds | commandNames => exact fun _ _ _ => rfl
  | _ => exact nomatch h

/-- **A program is blind as long as it asks neither about the environment nor to have anything
run.** The induction is on the program, along the answers that it gets in the session. -/
theorem blindIn_program {program : Program α} (h : program.consultsIn s = false) (runner : Runner) :
    BlindIn s (program.run runner) := by
  induction program generalizing s with
  | done | stop => exact fun _ _ => rfl
  | ask request next ih =>
    obtain ⟨hrequest, hnext⟩ := Bool.or_eq_false_iff.mp h
    intro path aliases
    rw [Program.run, run_bind, run_bind, run_settled, run_settled,
      blind_fulfil hrequest runner s path aliases, fulfil_eq_fulfil_idle hrequest runner]
    exact ih _ hnext path aliases

theorem BlindIn.guarded {step : Shell α} (h : BlindIn s step) : BlindIn s (guarded step) := by
  intro path aliases
  rw [run_guarded, run_guarded, h]

theorem blindIn_runProgramText {path text : String} {call : Command}
    (h : (s.host.program path text call).consultsIn s = false) (runner : Runner) :
    BlindIn s (runProgramText runner path text call) := by
  have hsource : BlindIn s (runSource runner path text call) := by
    intro search aliases
    have hhost : (s.withSearch search aliases).host = s.host := rfl
    rw [runSource, run_get_bind, run_get_bind, hhost]
    exact (blindIn_program h runner).bind
      (fun _ => holds_ite (compositional_blind.throw _) (compositional_blind.pure _)) search aliases
  refine hsource.guarded.bind fun result => ?_
  cases result with
  | ok done => exact compositional_blind.returning compositional_blind.printBlank _
  | error fault => exact compositional_blind.returning (compositional_blind.printLines _) _

theorem blindIn_runProgramHere {call : Command} (hname : call.name ≠ "")
    (h : ∀ text, s.files.snapshot.read (invokedPath s.files.snapshot call.name) = .ok text →
      (s.host.program (invokedPath s.files.snapshot call.name) text call).consultsIn s = false)
    (runner : Runner) : BlindIn s (runProgramHere runner call) := by
  intro search aliases
  have hfiles : (s.withSearch search aliases).files = s.files := rfl
  have hcalled (path : String) : calledAs path (some call.name) = call.name := if_neg hname
  rw [runProgramHere, run_view_bind, run_view_bind, hfiles, runProgram, run_bind, run_bind,
    run_attempt_look, run_attempt_look, hfiles, hcalled]
  cases hread : s.files.snapshot.read (invokedPath s.files.snapshot call.name) with
  | error reason =>
    exact compositional_blind.returning (compositional_blind.printLines _) _ s search aliases
  | ok text => exact blindIn_runProgramText (h text hread) runner search aliases

end Shell

end TreeShell
