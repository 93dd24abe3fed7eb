import TreeShell.Proofs.Dispatch.Routes
import TreeShell.Proofs.Script.Lines

/-!
# Executing scripts

An execution is what a step comes to when nothing was printed before it: its result, what it
printed, and the session after it. Steady steps compose as executions (`executed_bind`), and a step
that is counted as a script can be cut into steps that are (`deeper_bind`), so that texts put
together are executed one after the other.

A script whose file can be read is run as the text it has then (`run_runScriptAt`): that text is a
value, and what its lines do to the file does not reach it.
-/

set_option autoImplicit false

namespace TreeShell

variable {α β : Type}

/-! ## Executions -/

namespace Session

/-- The session with what was printed forgotten. -/
def silent (s : Session) : Session :=
  { s with console := { s.console with output := [] } }

/-- The session with one more script running. -/
def inner (s : Session) : Session :=
  { s with scriptDepth := s.scriptDepth + 1 }

/-- The session with one script less running. -/
def outer (s : Session) : Session :=
  { s with scriptDepth := s.scriptDepth - 1 }

theorem withEarlier_silent (s : Session) : s.silent.withEarlier s.console.output = s := by
  simp [silent, withEarlier]

theorem inner_outer {s : Session} (h : 0 < s.scriptDepth) : s.outer.inner = s := by
  rw [inner, outer, Nat.sub_add_cancel h]

end Session

/-- What a step comes to when nothing was printed before it: its result, what it printed, and the
session after it, in which that is forgotten. -/
structure Execution (α : Type) where
  result : Except Fault α
  output : List String
  after : Session

namespace Execution

/-- The execution that ended in a session. -/
def of (ended : Except Fault α × Session) : Execution α where
  result := ended.1
  output := ended.2.console.output
  after := ended.2.silent

/-- The execution with something else printed before it. -/
def following (earlier : List String) (e : Execution α) : Execution α :=
  { e with output := earlier ++ e.output }

end Execution

namespace Shell

variable {step : Shell α} {next : α → Shell β}

/-- Executes a step. -/
def executed (step : Shell α) (s : Session) : Execution α :=
  .of (step.run s.silent)

theorem executed_congr {other : Shell α} {s : Session}
    (h : step.run s.silent = other.run s.silent) : executed step s = executed other s := by
  rw [executed, executed, h]

/-- Whatever was printed before, a steady step comes to its execution. -/
theorem Steady.of_run (h : Steady step) (s : Session) :
    Execution.of (step.run s) = (executed step s).following s.console.output := by
  have hrun := h.output s.silent s.console.output
  rw [s.withEarlier_silent] at hrun
  rw [hrun]
  rfl

/-- An execution as a run. -/
theorem run_of_executed {s after : Session} {result : Except Fault α} {output : List String}
    (h : executed step s = ⟨result, output, after⟩) :
    ∃ ended, step.run s.silent = (result, ended) ∧ ended.console.output = output ∧
      ended.silent = after := by
  simp only [executed, Execution.of, Execution.mk.injEq] at h
  exact ⟨_, Prod.ext h.1 rfl, h.2.1, h.2.2⟩

@[simp]
theorem executed_after_silent (step : Shell α) (s : Session) :
    (executed step s).after.silent = (executed step s).after := rfl

/-- Steps one after the other are executed one after the other. -/
theorem executed_bind (hnext : ∀ a, Steady (next a)) (s : Session) :
    executed (step >>= next) s = match executed step s with
      | ⟨.ok a, output, after⟩ => (executed (next a) after).following output
      | ⟨.error fault, output, after⟩ => ⟨.error fault, output, after⟩ := by
  rw [executed, executed, run_bind]
  generalize step.run s.silent = first
  obtain ⟨result, after⟩ := first
  cases result with
  | error fault => rfl
  | ok a => exact (hnext a).of_run after

theorem ext {step other : Shell α} (h : ∀ s, step.run s = other.run s) : step = other :=
  funext h

theorem run_deeper (step : Shell α) (s : Session) :
    (deeper step).run s = ((step.run s.inner).1, (step.run s.inner).2.outer) := rfl

/-- Steps that count as one script can count as two, one after the other. -/
theorem deeper_bind (h : Steady step) :
    deeper (step >>= next) = deeper step >>= fun a => deeper (next a) := by
  refine ext fun s => ?_
  rw [run_deeper, run_bind, run_bind, run_deeper]
  have hdepth : (step.run s.inner).2.scriptDepth = s.scriptDepth + 1 := h.depth s.inner
  generalize step.run s.inner = first at hdepth
  obtain ⟨result, after⟩ := first
  cases result with
  | error fault => rfl
  | ok a =>
    dsimp only at hdepth ⊢
    rw [run_deeper, Session.inner_outer (by omega)]

/-- What a step comes to within a script is its execution there, after what was printed before. -/
theorem Steady.of_run_inside (h : Steady step) {s : Session} (hdepth : 0 < s.scriptDepth) :
    Execution.of ((step.run s).1, (step.run s).2.outer) =
      (executed (Shell.deeper step) s.outer).following s.console.output := by
  have hrun := h.deeper.of_run s.outer
  rwa [run_deeper, Session.inner_outer hdepth] at hrun

theorem executed_deeper_pure (a : α) (s : Session) :
    executed (deeper (pure a)) s = ⟨.ok a, [], s.silent⟩ := rfl

end Shell

/-! ## Texts -/

namespace Shell

/-- Runs the text of a script, unless too many scripts are running. -/
def runContent (run : Command → Shell Outcome) (name path text : String) : Shell Outcome := do
  if (← bounds).maxScriptDepth ≤ (← get).scriptDepth then
    print ("msh: " ++ (Fault.nestedTooDeeply name path).message)
    return .failure (some (.nestedTooDeeply name path))
  else runText run name path text

variable {run : Command → Shell Outcome} {name path text : String} {s : Session}

/-- Whether too many scripts are running is seen in the session. -/
theorem run_depthCheck (refused admitted : Shell Outcome) (s : Session) :
    Shell.run (do
      if (← bounds).maxScriptDepth ≤ (← get).scriptDepth then refused else admitted) s =
      if s.config.shell.maxScriptDepth ≤ s.scriptDepth then refused.run s else admitted.run s := by
  have hrun : Shell.run (do
      if (← bounds).maxScriptDepth ≤ (← get).scriptDepth then refused else admitted) s =
      Shell.run (if s.config.shell.maxScriptDepth ≤ s.scriptDepth then refused else admitted) s := rfl
  rw [hrun]
  split <;> rfl

theorem runContent_refused (h : s.config.shell.maxScriptDepth ≤ s.scriptDepth) :
    (runContent run name path text).run s = (.ok (.failure (some (.nestedTooDeeply name path))),
      s.printed ["msh: " ++ (Fault.nestedTooDeeply name path).message]) := by
  rw [runContent, run_depthCheck, if_pos h]
  rfl

theorem runContent_admitted (h : s.scriptDepth < s.config.shell.maxScriptDepth) :
    (runContent run name path text).run s = (runText run name path text).run s := by
  rw [runContent, run_depthCheck, if_neg (by omega)]

/-- A script that would be one too many is not read. -/
theorem runScriptAt_refused (h : s.config.shell.maxScriptDepth ≤ s.scriptDepth) :
    (runScriptAt run name path).run s = (.ok (.failure (some (.nestedTooDeeply name path))),
      s.printed ["msh: " ++ (Fault.nestedTooDeeply name path).message]) := by
  rw [runScriptAt, run_depthCheck, if_pos h]
  rfl

/-- A script that cannot be read is told of by its name. -/
theorem runScriptAt_unreadable {reason : FileError}
    (h : s.scriptDepth < s.config.shell.maxScriptDepth)
    (hread : s.files.snapshot.read path = .error reason) :
    (runScriptAt run name path).run s = (.ok (.failure (some (.files reason))),
      s.printed ["exec: " ++ name ++ ": " ++ reason.message, ""]) := by
  rw [runScriptAt, run_depthCheck, if_neg (by omega), run_bind, run_attempt_look, hread]
  dsimp only
  rw [run_bind, run_printLines]
  rfl

/-- Running a script that can be read is running the text it has then. -/
theorem run_runScriptAt (hread : s.files.snapshot.read path = .ok text) :
    (runScriptAt run name path).run s = (runContent run name path text).run s := by
  by_cases hdepth : s.config.shell.maxScriptDepth ≤ s.scriptDepth
  · rw [runContent_refused hdepth, runScriptAt_refused hdepth]
  · rw [runContent_admitted (by omega), runScriptAt, run_depthCheck, if_neg hdepth, run_bind,
      run_attempt_look, hread]

theorem name_ne_empty_of_isInvocation {command extension : String} 
    (h : isInvocation command extension = true) : command ≠ "" := by
  rintro rfl
  simp [isInvocation] at h

/-- A command that names a script runs it with one level less. -/
theorem run_registered_script {call : Command}
    (hscript : isInvocation call.name scriptExtension = true) (levels : Nat) (s : Session) :
    (registered (levels + 1) call).run s =
      (runScriptAt (registered levels) call.name (invokedPath s.files.snapshot call.name)).run s := by
  rw [registered, if_pos hscript, runScript, run_view_bind]
  rfl

end Shell

end TreeShell
