import TreeShell.Program
import TreeShell.Text.Case

/-!
# Commands and their names

A command word is looked up in small letters. The command that is registered first for a name keeps
it. A command is built in, or it was added: then it is any program that ends with an outcome. Among
these are recorders, which write down how they were called and end as they were told to; a session
with recorders instead of built-in commands shows what the shell makes of a line.
-/

set_option autoImplicit false

namespace TreeShell

/-- The built-in commands. -/
inductive Builtin where
  | ls | cd | pwd | mkdir | rmdir | touch | cat | rm | mv | copy
  | find | grep
  | help | exit | cls | date | delay | config | makeAlias | dropAlias | history
  | init
deriving DecidableEq, Repr

namespace Builtin

/-- The word a built-in command is called by. -/
def name : Builtin → String
  | ls => "ls"
  | cd => "cd"
  | pwd => "pwd"
  | mkdir => "mkdir"
  | rmdir => "rmdir"
  | touch => "touch"
  | cat => "cat"
  | rm => "rm"
  | mv => "mv"
  | copy => "copy"
  | find => "find"
  | grep => "grep"
  | help => "help"
  | exit => "exit"
  | cls => "cls"
  | date => "date"
  | delay => "delay"
  | config => "config"
  | makeAlias => "alias"
  | dropAlias => "unalias"
  | history => "history"
  | init => "init"

/-- All built-in commands. -/
def all : List Builtin :=
  [ls, cd, pwd, mkdir, rmdir, touch, cat, rm, mv, copy, find, grep, help, exit, cls, date, delay,
    config, makeAlias, dropAlias, history, init]

/-- The list leaves none out. -/
theorem mem_all (b : Builtin) : b ∈ all := by
  cases b <;> decide

end Builtin

/-- What a name is registered for: a built-in command, or one that was added. -/
inductive Handler where
  | builtin (command : Builtin)
  | added (program : Command → Program Outcome)

/-- A command that writes down its calls under a tag. It answers to the names it has, which are to
be given in small letters: by a name with a capital it is found, but does not know itself. For the
names in `endings` it ends as is said there; for all others it succeeds. -/
structure Recorder where
  tag : String
  names : List String
  endings : Fields (Except Fault Outcome)

/-- Writes a call down, and ends as the recorder was told to. -/
def Recorder.program (recorder : Recorder) (call : Command) : Program Outcome :=
  let name := Text.lower call.name
  if recorder.names.contains name then do
    Program.print (recorder.tag ++ ":" ++ Text.join "|" (call.name :: call.args))
    match recorder.endings.get? name with
    | some (.ok outcome) => return outcome
    | some (.error fault) => .stop fault
    | none => return .success
  else return .unhandled none

/-- The registered commands by their names in small letters. -/
abbrev Registry := Fields Handler

namespace Registry

/-- The registry with one more name, unless it is taken. -/
def addName (handler : Handler) (registry : Registry) (name : String) : Registry :=
  let name := Text.lower name
  if registry.has name then registry else registry ++ [(name, handler)]

/-- The registry with a command registered for several names. -/
def add (registry : Registry) (names : List String) (handler : Handler) : Registry :=
  names.foldl (addName handler) registry

/-- The registry with a recorder registered for all its names. -/
def addRecorder (registry : Registry) (recorder : Recorder) : Registry :=
  registry.add recorder.names (.added recorder.program)

/-- The registry of the built-in commands. -/
def builtins : Registry :=
  Builtin.all.map fun command => (command.name, .builtin command)

/-- The command a word calls. -/
def find? (registry : Registry) (word : String) : Option Handler :=
  registry.get? (Text.lower word)

/-- The registered names in order. -/
def sortedNames (registry : Registry) : List String :=
  Text.sorted registry.names

end Registry

end TreeShell
