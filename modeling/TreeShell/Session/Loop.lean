import TreeShell.Dispatch.Basic
import TreeShell.Session.Prompt

/-!
# The loop of a session

A session starts up once: it reads its settings, and lays out the file system if that is empty. Then
it reads lines and runs them, up to one that asks to stop, or to the end of the input. A line that
is stopped by an ordinary fault is told and passed over; only a fault of the store goes through. An
interrupt gives up no more than the line it meets.
-/

set_option autoImplicit false

namespace TreeShell.Shell

/-- Starts up the session, the first time. -/
def bootstrap : Shell Unit := do
  unless (← get).started do
    loadEnvironment
    if (← bounds).bootstrapInit then
      if ← view (·.looksEmpty) then
        let _ ← dispatchStrict ⟨"init", []⟩
    modify ({ · with started := true })

/-- Tells that a line was stopped, and fails. -/
def lineStopped (fault : Fault) : Shell Outcome := do
  printLines ["Error: " ++ fault.message, ""]
  return .failed "dispatch raised"

/-- Runs a line that was entered. -/
def runLine (line : String) : Shell Outcome := do
  let _ ← addHistory line
  dropHint
  match ← guarded (dispatch line) with
  | .ok outcome => return outcome
  | .error fault => if fault.isDatabase then throw fault else lineStopped fault

/-- The logo. -/
def logo : List String :=
  ["  _ __ ___   ___ _ __ ___  ___| |__  ",
    " | '_ ` _ \\ / _ \\ '_ ` _ \\/ __| '_ \\ ",
    " | | | | | |  __/ | | | | \\__ \\ | | |",
    " |_| |_| |_|\\___|_| |_| |_|___/_| |_|"]

/-- Prints the logo. -/
def printLogo : Shell Unit := do
  printLines (← logo.mapM (painted .green))
  printBlank

/-- Prints what a session begins with. -/
def printWelcome : Shell Unit := do
  let shown := Fields.get? (← environment).display Environment.logoSetting
  if (shown.getD (.bool true)).isTruthy then printLogo
  printLines ["Welcome to memsh!", "Hit Tab for available commands, or just explore...", ""]

/-- Runs a line, and answers whether more lines are to be read. -/
def runEntered (line : String) : Shell Bool := do
  match ← settled (runLine line) with
  | .ok outcome => return outcome.continues
  | .error .interrupt =>
    print "^C"
    return true
  | .error fault => throw fault

/-- Reads and runs lines, at most `rounds` of them. -/
def readAndRun : Nat → Shell Unit
  | 0 => return ()
  | rounds + 1 => do
    match ← settled (readLine (← promptText)) with
    | .ok line => if ← runEntered line then readAndRun rounds
    | .error .interrupt => readAndRun rounds
    | .error .endOfInput => printLines ["exit", "Bye..."]
    | .error fault => throw fault

/-- Runs the session over its input. Every round but the last takes at least one item of it. -/
def runSession : Shell Unit := do
  bootstrap
  printWelcome
  readAndRun ((← get).console.input.length + 1)

end TreeShell.Shell
