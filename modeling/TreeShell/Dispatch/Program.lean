import TreeShell.Dispatch.Invocation
import TreeShell.Hosted.Run

/-!
# Running hosted programs

An ordinary fault that stops a program is told, and makes the run a failure. The failure is the
fault itself if that is one of scripts, and if not a failure of the program at its path, with the
fault for a cause.
-/

set_option autoImplicit false

namespace TreeShell.Shell

/-- What the run of a program fails with, when a fault stopped the program. -/
def programFault (path : String) (fault : Fault) : Fault :=
  if fault.isScript then fault else .programFailed path fault

/-- Runs what the host makes of a program's text. A program that answers that it failed is stopped
by that. -/
def runSource (runner : Runner) (path text : String) (call : Command) : Shell Unit := do
  let well ← ((← get).host.program path text call).run runner
  if !well then throw (.reportedFailure call.name path)

/-- Runs a program's text. -/
def runProgramText (runner : Runner) (path text : String) (call : Command) : Shell Outcome := do
  match ← guarded (runSource runner path text call) with
  | .ok () =>
    printBlank
    return .success
  | .error fault =>
    printLines ["Error executing " ++ call.name ++ ": " ++ fault.message, ""]
    return .failure (some (programFault path fault))

/-- The command word a program is told: the one it was called by, or else its path. -/
def calledAs (path : String) : Option String → String
  | some command => if command = "" then path else command
  | none => path

/-- Runs the program with a path. -/
def runProgram (runner : Runner) (path : String) (args : List String)
    (invokedAs? : Option String) : Shell Outcome := do
  match ← attempt (look (·.read path)) with
  | .ok text => runProgramText runner path text ⟨calledAs path invokedAs?, args⟩
  | .error reason =>
    printLines ["exec: " ++ path ++ ": " ++ reason.message, ""]
    return .failure (some (.files reason))

/-- Runs the program that a command word names by its path. -/
def runProgramHere (runner : Runner) (call : Command) : Shell Outcome := do
  let path ← view (invokedPath · call.name)
  runProgram runner path call.args (some call.name)

end TreeShell.Shell
