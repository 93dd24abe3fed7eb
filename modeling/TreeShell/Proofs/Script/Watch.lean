import TreeShell.Proofs.Script.Execution

/-!
# How many scripts are running

Scripts are opened by the lines of scripts, and by hosted programs, which may have any line
dispatched. Here commands are run with a count of the scripts that are running which is kept apart
from the session, goes down with the scripts into programs and out of them again, and is looked at
before each command of a script: should more scripts be running than may be, an alarm is run in its
place.

Whatever the alarm is, it makes no difference (`agree_watched`). So it is never run.
-/

set_option autoImplicit false

namespace TreeShell.Shell

variable {α β : Type}

/-- A step, in place of which `alarm` is run when more scripts are running than may be. -/
def sentry (alarm : Shell α) (running : Nat) (step : Shell α) : Shell α := do
  if (← bounds).maxScriptDepth < running then alarm else step

/-- How programs have something run under watch: as always, but for the lines of scripts. -/
def watchedRunner (run inScript : Command → Shell Outcome) (dispatch : String → Shell Outcome)
    (execute : String → List String → Option String → Shell Outcome) : Runner :=
  { runnerOf run dispatch execute with script := runScript inScript }

mutual

/-- Runs a command without aliases and search path, where `running` scripts are running. -/
def watched (alarm : Shell Outcome) : Nat → Nat → Command → Shell Outcome
  | _, 0, _ => throw .exhausted
  | running, levels + 1, call =>
    let inScript line := sentry alarm (running + 1) (watched alarm (running + 1) levels line)
    let runner := watchedRunner (watched alarm running levels) inScript
      (watchedDispatch alarm running levels) (watchedExecute alarm running levels)
    if isInvocation call.name scriptExtension then runScript inScript call.name none
    else if isInvocation call.name programExtension then runProgramHere runner call
    else runRegistered runner call

/-- Dispatches a line, where `running` scripts are running. -/
def watchedDispatch (alarm : Shell Outcome) : Nat → Nat → String → Shell Outcome
  | _, 0, _ => throw .exhausted
  | running, levels + 1, line =>
    let inScript line := sentry alarm (running + 1) (watched alarm (running + 1) levels line)
    let runner := watchedRunner (watched alarm running levels) inScript
      (watchedDispatch alarm running levels) (watchedExecute alarm running levels)
    dispatchLine (watched alarm running levels) runner line

/-- Runs a program, where `running` scripts are running. -/
def watchedExecute (alarm : Shell Outcome) :
    Nat → Nat → String → List String → Option String → Shell Outcome
  | _, 0, _, _, _ => throw .exhausted
  | running, levels + 1, path, args, invokedAs? =>
    let inScript line := sentry alarm (running + 1) (watched alarm (running + 1) levels line)
    let runner := watchedRunner (watched alarm running levels) inScript
      (watchedDispatch alarm running levels) (watchedExecute alarm running levels)
    runProgram runner path args invokedAs?

end

/-! ## Steps that agree -/

/-- Two steps come to the same in all sessions with a configuration in which so many scripts are
running. -/
def Agree (config : Config) (running : Nat) (step other : Shell α) : Prop :=
  ∀ s, s.config = config → s.scriptDepth = running → step.run s = other.run s

variable {config : Config} {running : Nat} {step other : Shell α}

theorem Agree.refl (step : Shell α) : Agree config running step step :=
  fun _ _ _ => rfl

theorem Agree.bind {next next' : α → Shell β} (h : Agree config running step other)
    (hsteady : Steady other) (hnext : ∀ a, Agree config running (next a) (next' a)) :
    Agree config running (step >>= next) (other >>= next') := by
  intro s hconfig hrunning
  have hconfig' := (hsteady.config s).trans hconfig
  have hrunning' := (hsteady.depth s).trans hrunning
  rw [run_bind, run_bind, h s hconfig hrunning]
  generalize other.run s = first at hconfig' hrunning'
  obtain ⟨result, after⟩ := first
  cases result with
  | error fault => rfl
  | ok a => exact hnext a after hconfig' hrunning'

/-- After the same step, only what follows has to agree. -/
theorem Agree.after {next next' : α → Shell β} (hsteady : Steady step)
    (hnext : ∀ a, Agree config running (next a) (next' a)) :
    Agree config running (step >>= next) (step >>= next') :=
  (Agree.refl step).bind hsteady hnext

/-- Before the same step, only what comes before has to agree. -/
theorem Agree.before (h : Agree config running step other) (next : α → Shell β) :
    Agree config running (step >>= next) (other >>= next) := by
  intro s hconfig hrunning
  rw [run_bind, run_bind, h s hconfig hrunning]

theorem Agree.guarded (h : Agree config running step other) :
    Agree config running (guarded step) (guarded other) := by
  intro s hconfig hrunning
  rw [run_guarded, run_guarded, h s hconfig hrunning]

theorem Agree.settled (h : Agree config running step other) :
    Agree config running (settled step) (settled other) := by
  intro s hconfig hrunning
  rw [run_settled, run_settled, h s hconfig hrunning]

theorem Agree.deeper (h : Agree config (running + 1) step other) :
    Agree config running (deeper step) (deeper other) := by
  intro s hconfig hrunning
  rw [run_deeper, run_deeper, h s.inner hconfig (congrArg (· + 1) hrunning)]

theorem agree_ite {p : Prop} [Decidable p] {yes yes' no no' : Shell α}
    (hyes : Agree config running yes yes') (hno : Agree config running no no') :
    Agree config running (if p then yes else no) (if p then yes' else no') := by
  split
  · exact hyes
  · exact hno

/-- No alarm is raised as long as no more scripts are running than may be. -/
theorem agree_sentry (alarm : Shell α) (h : running ≤ config.shell.maxScriptDepth)
    (hstep : Agree config running step other) :
    Agree config running (sentry alarm running step) other := by
  intro s hconfig hrunning
  have hrun : (sentry alarm running step).run s =
      Shell.run (if s.config.shell.maxScriptDepth < running then alarm else step) s := rfl
  rw [hrun, hconfig, if_neg (by omega)]
  exact hstep s hconfig hrunning

/-! ## Scripts -/

section Scripts

variable {run run' : Command → Shell Outcome}

theorem agree_strict (hrun : ∀ call, Agree config running (run call) (run' call)) (call : Command) :
    Agree config running (strict run call) (strict run' call) :=
  agree_ite (.refl _) ((hrun call).guarded.before _)

theorem agree_runLines (hrun : ∀ call, Agree config running (run call) (run' call))
    (hsteady : ∀ call, Steady (run' call)) (name path : String) (number : Nat)
    (lines : List String) :
    Agree config running (runLines run name path number lines)
      (runLines run' name path number lines) := by
  induction lines generalizing number with
  | nil => exact .refl _
  | cons line rest ih =>
    unfold runLines
    refine agree_ite (ih _) ((agree_strict hrun _).bind (steady_strict hsteady _) fun outcome => ?_)
    cases outcome with
    | success => exact ih _
    | stop | failure cause | unhandled cause => exact .refl _

/-- A script that is opened comes to the same, if its lines do with one more script running. -/
theorem agree_runScript (hrun : running < config.shell.maxScriptDepth →
      ∀ call, Agree config (running + 1) (run call) (run' call))
    (hsteady : ∀ call, Steady (run' call)) (name : String) (path? : Option String) :
    Agree config running (runScript run name path?) (runScript run' name path?) := by
  intro s hconfig hrunning
  rw [runScript, runScript, run_view_bind, run_view_bind, runScriptAt, runScriptAt, run_depthCheck,
    run_depthCheck]
  split
  · rfl
  · rename_i hadmitted
    have hmore : running < config.shell.maxScriptDepth := by
      rw [← hconfig, ← hrunning]
      omega
    rw [run_bind, run_bind, run_attempt_look]
    cases s.files.snapshot.read _ with
    | error reason => rfl
    | ok content =>
      exact (agree_runLines (hrun hmore) hsteady _ _ _ _).deeper s hconfig hrunning

end Scripts

/-! ## Programs -/

/-- Whatever a program has run, comes to the same either way. -/
structure AgreeOn (config : Config) (running : Nat) (runner runner' : Runner) : Prop where
  dispatch : ∀ line, Agree config running (runner.dispatch line) (runner'.dispatch line)
  strict : ∀ call, Agree config running (runner.strict call) (runner'.strict call)
  script : ∀ name path?, Agree config running (runner.script name path?) (runner'.script name path?)
  execute : ∀ path args invokedAs?, Agree config running (runner.execute path args invokedAs?)
    (runner'.execute path args invokedAs?)

section Programs

variable {runner runner' : Runner} (hrunner : AgreeOn config running runner runner')
  (hsteady : runner'.All Steady)

include hrunner hsteady

omit hsteady in
theorem agree_fulfil (request : Program.Request) :
    Agree config running (request.fulfil runner) (request.fulfil runner') := by
  cases request with
  | dispatch line => exact hrunner.dispatch line
  | strict call => exact hrunner.strict call
  | script name path? => exact hrunner.script name path?
  | execute path args invokedAs? => exact hrunner.execute path args invokedAs?
  | _ => exact .refl _

theorem agree_program (program : Program α) :
    Agree config running (program.run runner) (program.run runner') := by
  induction program with
  | done | stop => exact .refl _
  | ask request next ih =>
    exact (agree_fulfil hrunner request).settled.bind
      (shellwide_steady.toHosting.fulfil hsteady request).settled ih

theorem agree_runSource (path text : String) (call : Command) :
    Agree config running (runSource runner path text call)
      (runSource runner' path text call) := by
  intro s hconfig hrunning
  rw [runSource, runSource, run_get_bind, run_get_bind]
  exact (agree_program hrunner hsteady _).before _ s hconfig hrunning

theorem agree_runProgram (path : String) (args : List String) (invokedAs? : Option String) :
    Agree config running (runProgram runner path args invokedAs?)
      (runProgram runner' path args invokedAs?) := by
  refine Agree.after (steady_look _).attempt fun result => ?_
  cases result with
  | error reason => exact .refl _
  | ok text => exact (agree_runSource hrunner hsteady _ _ _).guarded.before _

theorem agree_runRegistered (call : Command) :
    Agree config running (runRegistered runner call) (runRegistered runner' call) := by
  intro s hconfig hrunning
  rw [runRegistered, runRegistered, run_get_bind, run_get_bind]
  cases s.registry.find? call.name with
  | none => rfl
  | some handler =>
    cases handler with
    | builtin command => rfl
    | added program => exact agree_program hrunner hsteady _ s hconfig hrunning

end Programs

/-! ## Commands -/

theorem agree_dispatchLine {run run' : Command → Shell Outcome} {runner runner' : Runner}
    (hrun : ∀ call, Agree config running (run call) (run' call))
    (hsteady : ∀ call, Steady (run' call)) (hrunner : AgreeOn config running runner runner')
    (hrunnerSteady : runner'.All Steady) (line : String) :
    Agree config running (dispatchLine run runner line) (dispatchLine run' runner' line) := by
  refine agree_ite (.refl _) ?_
  refine Agree.after (steady_environment.bind fun _ => steady_bounds.returning _) fun call => ?_
  refine (hrun call).bind (hsteady call) fun outcome => ?_
  cases outcome with
  | unhandled cause =>
    refine Agree.after steady_environment fun e => Agree.after (steady_view _) fun program? => ?_
    cases program? with
    | some program => exact agree_runProgram hrunner hrunnerSteady _ _ _
    | none => exact .refl _
  | success | stop | failure cause => exact .refl _

/-- **There is never cause for alarm**, however scripts and programs run one another. -/
theorem agree_watched (alarm : Shell Outcome) (levels : Nat) :
    ∀ config running, (∀ call, Agree config running (watched alarm running levels call)
        (registered levels call)) ∧
      (∀ line, Agree config running (watchedDispatch alarm running levels line)
        (dispatchIn levels line)) ∧
      ∀ path args invokedAs?, Agree config running
        (watchedExecute alarm running levels path args invokedAs?)
        (executeIn levels path args invokedAs?) := by
  induction levels with
  | zero => exact fun _ _ => ⟨fun _ => .refl _, fun _ => .refl _, fun _ _ _ => .refl _⟩
  | succ levels ih =>
    intro config running
    obtain ⟨hregistered, hdispatch, hexecute⟩ := ih config running
    have hsteady := steady_registered levels
    have hrunnerSteady := steady_runnerIn levels
    -- The lines of a script are looked after as well, with one more script running.
    have hscript (name : String) (path? : Option String) :
        Agree config running
          (runScript (fun line => sentry alarm (running + 1) (watched alarm (running + 1) levels line))
            name path?)
          (runScript (registered levels) name path?) :=
      agree_runScript (fun hmore line => agree_sentry alarm hmore ((ih config (running + 1)).1 line))
        hsteady name path?
    have hrunner : AgreeOn config running
        (watchedRunner (watched alarm running levels)
          (fun line => sentry alarm (running + 1) (watched alarm (running + 1) levels line))
          (watchedDispatch alarm running levels) (watchedExecute alarm running levels))
        (runnerIn levels) := ⟨hdispatch, agree_strict hregistered, hscript, hexecute⟩
    refine ⟨fun call => ?_, fun line => ?_, fun path args invokedAs? => ?_⟩
    · unfold watched registered
      refine agree_ite (hscript _ _) (agree_ite ?_ (agree_runRegistered hrunner hrunnerSteady call))
      exact Agree.after (steady_view _) fun _ => agree_runProgram hrunner hrunnerSteady _ _ _
    · unfold watchedDispatch dispatchIn
      exact agree_dispatchLine hregistered hsteady hrunner hrunnerSteady line
    · unfold watchedExecute executeIn
      exact agree_runProgram hrunner hrunnerSteady path args invokedAs?

/-- A script can be run under watch, with the lines it has looked after as well. -/
theorem run_watchedScript (alarm : Shell Outcome) (levels : Nat) (name : String)
    (path? : Option String) (s : Session) :
    (runScript (fun line => sentry alarm (s.scriptDepth + 1)
      (watched alarm (s.scriptDepth + 1) levels line)) name path?).run s =
      (runScript (registered levels) name path?).run s :=
  agree_runScript (fun hmore line => agree_sentry alarm hmore
    ((agree_watched alarm levels s.config (s.scriptDepth + 1)).1 line))
    (steady_registered levels) name path? s rfl rfl

end TreeShell.Shell
