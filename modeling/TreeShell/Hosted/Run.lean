import TreeShell.Session.Settings

/-!
# Running programs

A program is run by doing for it what it asks for, one thing after another. How lines, commands,
scripts and programs are run in their turn is given (`Runner`), because a program is run by those.
-/

set_option autoImplicit false

namespace TreeShell

/-- How a program has something run. -/
structure Runner where
  dispatch : String → Shell Outcome
  strict : Command → Shell Outcome
  script : String → Option String → Shell Outcome
  execute : String → List String → Option String → Shell Outcome

/-- Does what a program asks for. -/
def Program.Request.fulfil (runner : Runner) : (request : Program.Request) → Shell request.Answer
  | print line => Shell.print line
  | readLine prompt => Shell.readLine prompt
  | readKey accept => Shell.readKey accept
  | inputLeft => Shell.inputLeft
  | sleep milliseconds => Shell.sleep milliseconds
  | painted color text => Shell.painted color text
  | clock => do return (← get).now
  | look => Shell.view id
  | perform operation => Shell.change (·.attempt operation)
  | bounds => Shell.bounds
  | commandNames => do return (← get).registry.sortedNames
  | environment => Shell.environment
  | setAlias name target => Shell.setAlias name target
  | removeAlias name => Shell.removeAlias name
  | addHistory line => Shell.addHistory line
  | setDisplay name text => Shell.setDisplay name text
  | resetDisplay => Shell.resetDisplay
  | ensureOnPath folder => Shell.ensureOnPath folder
  | recordEnvironment => Shell.recordEnvironment
  | dispatch line => runner.dispatch line
  | strict call => runner.strict call
  | script invokedAs path? => runner.script invokedAs path?
  | execute path args invokedAs? => runner.execute path args invokedAs?

/-- Runs a program. Whatever comes of what it asks for, the program is told and goes on. -/
def Program.run {α : Type} (runner : Runner) : Program α → Shell α
  | done value => return value
  | stop fault => throw fault
  | ask request next => do (next (← Shell.settled (request.fulfil runner))).run runner

end TreeShell
