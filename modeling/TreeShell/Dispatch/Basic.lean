import TreeShell.Builtin.Run
import TreeShell.Dispatch.Program
import TreeShell.Dispatch.Script

/-!
# Dispatching a line

A line that is neither blank nor a comment is a command. Its aliases are applied first; then it is,
in this order, a script in the current folder, a program there, a registered command, or a program
of the search path. What is none of these is not found.

Scripts and programs may run commands again. `registered`, `dispatchIn` and `executeIn` are given
how many levels of that are left, and a session allows as many as its configuration allows scripts,
and a further number for programs, which only a program that calls itself can use up.
-/

set_option autoImplicit false

namespace TreeShell.Shell

/-- Runs the command a word is registered for, if there is one. -/
def runRegistered (runner : Runner) (call : Command) : Shell Outcome := do
  match (← get).registry.find? call.name with
  | some handler => handler.run runner call
  | none => return .unhandled none

/-- Runs a program of the search path, if there is one for the command. -/
def runOnPath (runner : Runner) (typed : String) (call : Command) : Shell Outcome := do
  let path := (← environment).path
  match ← view (path.find? · call.name) with
  | some program => runProgram runner program call.args (some typed)
  | none =>
    printLines ["Command not found: " ++ call.name, "Hit Tab for available commands.", ""]
    return .unhandled (some (.commandNotFound call.name))

/-- The command that a line comes to, after aliases. -/
def expandAliases (call : Command) : Shell Command := do
  return (← environment).aliases.expand (← bounds).maxAliasDepth call

/-- Dispatches a line, where registered commands are run by `run`. -/
def dispatchLine (run : Command → Shell Outcome) (runner : Runner) (line : String) :
    Shell Outcome := do
  if isCommentOrBlank line then return .success
  else
    let typed := Command.parse (Text.trim line)
    let call ← expandAliases typed
    match ← run call with
    | .unhandled _ => runOnPath runner typed.name call
    | outcome => return outcome

/-- How programs have something run, when commands, lines and programs are run in one way each. -/
def runnerOf (run : Command → Shell Outcome) (dispatch : String → Shell Outcome)
    (execute : String → List String → Option String → Shell Outcome) : Runner where
  dispatch
  strict := strict run
  script := runScript run
  execute

mutual

/-- Runs a command without aliases and search path, with a number of levels left. -/
def registered : Nat → Command → Shell Outcome
  | 0, _ => throw .exhausted
  | levels + 1, call =>
    let runner := runnerOf (registered levels) (dispatchIn levels) (executeIn levels)
    if isInvocation call.name scriptExtension then runScript (registered levels) call.name none
    else if isInvocation call.name programExtension then runProgramHere runner call
    else runRegistered runner call

/-- Dispatches a line, with a number of levels left. -/
def dispatchIn : Nat → String → Shell Outcome
  | 0, _ => throw .exhausted
  | levels + 1, line =>
    let runner := runnerOf (registered levels) (dispatchIn levels) (executeIn levels)
    dispatchLine (registered levels) runner line

/-- Runs a program, with a number of levels left. -/
def executeIn : Nat → String → List String → Option String → Shell Outcome
  | 0, _, _, _ => throw .exhausted
  | levels + 1, path, args, invokedAs? =>
    let runner := runnerOf (registered levels) (dispatchIn levels) (executeIn levels)
    runProgram runner path args invokedAs?

end

/-- How programs have something run, with a number of levels left. -/
def runnerIn (levels : Nat) : Runner :=
  runnerOf (registered levels) (dispatchIn levels) (executeIn levels)

/-- How many levels of commands there may be in a session. -/
def levels : Shell Nat := do
  return (← bounds).maxScriptDepth + 2000

/-- Dispatches a line. -/
def dispatch (line : String) : Shell Outcome := do
  dispatchIn (← levels) line

/-- Runs a command strictly. -/
def dispatchStrict (call : Command) : Shell Outcome := do
  strict (registered (← levels)) call

/-- Runs a script. -/
def script (invokedAs : String) (path? : Option String) : Shell Outcome := do
  runScript (registered (← levels)) invokedAs path?

/-- Runs a hosted program. -/
def execute (path : String) (args : List String) (invokedAs? : Option String) : Shell Outcome := do
  runProgram (runnerIn (← levels)) path args invokedAs?

end TreeShell.Shell
