import TreeShell.Dispatch.Invocation
import TreeShell.Session.Basic

/-!
# Scripts

A script is a file with a command on every line. Its lines are run strictly: without aliases and
without the search path, and the first line that fails ends the script. Every ordinary fault counts
as a failure of its line; so does a command that there is not. A script may run scripts, to a depth
that the configuration bounds.

Everything here is given the way to run a command (`run`), because that in turn may be a script.
-/

set_option autoImplicit false

namespace TreeShell.Shell

/-- The outcome of a strictly run command: a failure always has a cause. -/
def strictOutcome (command : String) : Except Fault Outcome → Outcome
  | .error fault => .failure (some fault)
  | .ok .success => .success
  | .ok .stop => .stop
  | .ok (.failure cause) => .failure (some (cause.getD (.executionFailed command)))
  | .ok (.unhandled _) => .unhandled (some (.commandNotFound command))

/-- Runs a command strictly. An empty command word is nothing to run. -/
def strict (run : Command → Shell Outcome) (call : Command) : Shell Outcome := do
  if call.name = "" then return .success
  else return strictOutcome call.name (← guarded (run call))

/-- Tells where a script was stopped. -/
def reportStopped (invokedAs : String) (number : Nat) (line : String) (cause : Fault) :
    Shell Unit :=
  printLines ["msh: stopped at " ++ invokedAs ++ ":" ++ toString number, "msh: " ++ line,
    "msh: " ++ cause.message, ""]

/-- Runs the lines of a script from line `number` on, up to one that fails or asks to stop. -/
def runLines (run : Command → Shell Outcome) (invokedAs path : String) :
    Nat → List String → Shell Outcome
  | _, [] => return .success
  | number, line :: rest =>
    if isCommentOrBlank line then runLines run invokedAs path (number + 1) rest
    else do
      match ← strict run (Command.parse (Text.trim line)) with
      | .success => runLines run invokedAs path (number + 1) rest
      | .stop => return .stop
      | .failure cause | .unhandled cause =>
        let cause := cause.getD (.report "error")
        reportStopped invokedAs number line cause
        return .failure (some (.lineFailed invokedAs number path cause))

/-- A step one script deeper. However the step ends, the depth is what it was. -/
def deeper {α : Type} (step : Shell α) : Shell α :=
  ofRun fun s =>
    let (result, after) := step.run { s with scriptDepth := s.scriptDepth + 1 }
    (result, { after with scriptDepth := after.scriptDepth - 1 })

/-- Runs the text of a script. -/
def runText (run : Command → Shell Outcome) (invokedAs path content : String) : Shell Outcome :=
  deeper (runLines run invokedAs path 1 (Text.lines content))

/-- Runs the script with a path. -/
def runScriptAt (run : Command → Shell Outcome) (invokedAs path : String) : Shell Outcome := do
  if (← bounds).maxScriptDepth ≤ (← get).scriptDepth then
    let fault := Fault.nestedTooDeeply invokedAs path
    print ("msh: " ++ fault.message)
    return .failure (some fault)
  else
    match ← attempt (look (·.read path)) with
    | .ok content => runText run invokedAs path content
    | .error reason =>
      printLines ["exec: " ++ invokedAs ++ ": " ++ reason.message, ""]
      return .failure (some (.files reason))

/-- Runs a script, whose path is taken from the command word if it is not given. -/
def runScript (run : Command → Shell Outcome) (invokedAs : String) (path? : Option String) :
    Shell Outcome := do
  let path ← view fun s => path?.getD (invokedPath s invokedAs)
  runScriptAt run invokedAs path

end TreeShell.Shell
