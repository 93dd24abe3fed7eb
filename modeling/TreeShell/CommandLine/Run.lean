import TreeShell.CommandLine.Options
import TreeShell.Session.Loop

/-!
# Running a command line

A command line runs one line, or one script, or a whole session. Where its records are kept is a
file or nowhere; the files with their stores are handed in and out, so that one run finds what the
run before it left.
-/

set_option autoImplicit false

namespace TreeShell

/-- The stores by the paths of their files. -/
abbrev Databases := Fields Store

/-- What a run is given: the arguments, the variables, the input, whether it has colours, and the
time. -/
structure Invocation where
  args : List String
  vars : Variables := []
  input : List InputItem := []
  color : Bool := false
  now : Moment

/-- How a run ends. -/
inductive RunEnd where
  | exited (code : Nat)
  | help
  | misused (mistake : UsageError)
  | stopped (fault : Fault)
deriving Repr

/-- What a run leaves: how it ended, what it printed, and the stores. -/
structure RunReport where
  ending : RunEnd
  output : String
  databases : Databases
deriving Repr

namespace Invocation

/-- The code a run ends with after a command. -/
def codeOf (outcome : Outcome) : Nat :=
  if outcome.ok then 0 else 1

/-- What the options ask the session to do; the answer is the code to end with. -/
def act (options : Options) : Shell Nat := do
  match options.command?, options.script? with
  | some line, _ =>
    Shell.bootstrap
    return codeOf (← Shell.runLine line)
  | none, some path =>
    Shell.bootstrap
    return codeOf (← Shell.script path (some path))
  | none, none =>
    Shell.runSession
    return 0

/-- The store a configuration asks for. -/
def storeFor (config : Config) (databases : Databases) : Store :=
  match config.storage.databasePath? with
  | some path => (databases.get? path).getD .empty
  | none => .empty

/-- The stores after a session. -/
def databasesAfter (config : Config) (databases : Databases) (s : Session) : Databases :=
  match config.storage.databasePath?, s.files.store? with
  | some path, some store => Fields.set databases path store
  | _, _ => databases

/-- The end of a run from what its session came to. -/
def endingOf : Except Fault Nat → RunEnd
  | .ok code => .exited code
  | .error fault => .stopped fault

/-- Runs a session with a configuration. -/
def runWith (invocation : Invocation) (options : Options) (config : Config)
    (databases : Databases) : RunReport :=
  match FileSystem.mount (storeFor config databases) config.storage.recordKey with
  | .error fault => ⟨.stopped fault, "", databases⟩
  | .ok files =>
    let console : Console := { color := invocation.color, input := invocation.input }
    let s := Session.fresh config files .builtins console invocation.now
    let (result, s) := (act options).run s
    ⟨endingOf result, s.console.text, databasesAfter config databases s⟩

/-- Runs a command line. -/
def run (invocation : Invocation) (databases : Databases) : RunReport :=
  match Options.read invocation.args with
  | .error mistake => ⟨.misused mistake, "", databases⟩
  | .ok options =>
    if options.help then ⟨.help, "", databases⟩
    else
      match Config.build options.store invocation.vars with
      | .error e => ⟨.stopped (.integer e), "", databases⟩
      | .ok config => invocation.runWith options config databases

end Invocation

end TreeShell
