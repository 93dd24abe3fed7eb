import TreeShell.Color
import TreeShell.Environment.Basic
import TreeShell.Fault
import TreeShell.Moment
import TreeShell.Session.Key
import TreeShell.Tree.Operation
import TreeShell.Words.Lexer

/-!
# Programs

A program that is not built in does what its author wrote, of which nothing is known but how it can
deal with its shell: it asks for one thing, is told what that came to, be it a value or a fault, and
goes by that in what it asks for next. So a program is the tree of what it asks for and of how it
goes on for every answer (`Program`). There is no end to a branch but that the program is done or
stops with a fault, and no branch goes on for ever: a program comes to its end, whatever it is told.

It may ask for all that built-in commands are made of, and for three things more: to read input, to
be told the names of commands, and to have a line, a command, a script or a program run. A program
that reads its input to the end is a tree too, since it may be unfolded by how much of it there is
(`Program.Request.inputLeft`).
-/

set_option autoImplicit false

namespace TreeShell

/-- What a program can ask its shell for. -/
inductive Program.Request where
  | print (line : String)
  | readLine (prompt : String)
  | readKey (accept : KeyPress → Bool)
  | inputLeft
  | sleep (milliseconds : Nat)
  | painted (color : Color) (text : String)
  | clock
  | look
  | perform (operation : Operation)
  | bounds
  | commandNames
  | environment
  | setAlias (name target : String)
  | removeAlias (name : String)
  | addHistory (line : String)
  | setDisplay (name text : String)
  | resetDisplay
  | ensureOnPath (folder : String)
  | recordEnvironment
  | dispatch (line : String)
  | strict (call : Command)
  | script (invokedAs : String) (path? : Option String)
  | execute (path : String) (args : List String) (invokedAs? : Option String)

/-- What a program is told for an answer, unless a fault came in the way. -/
def Program.Request.Answer : Program.Request → Type
  | print _ | sleep _ | perform _ | setAlias .. | resetDisplay | ensureOnPath _
  | recordEnvironment => Unit
  | readLine _ | painted .. => String
  | readKey _ => Option KeyPress
  | inputLeft => Nat
  | clock => Moment
  | look => Snapshot
  | bounds => ShellConfig
  | commandNames => List String
  | environment => Environment
  | removeAlias _ | addHistory _ => Bool
  | setDisplay .. => Json
  | dispatch _ | strict _ | script .. | execute .. => Outcome

/-- A program that ends with a value: it is done, or it stops with a fault, or it asks for something
and goes on by what that comes to. -/
inductive Program (α : Type) where
  | done (value : α)
  | stop (fault : Fault)
  | ask (request : Program.Request) (next : Except Fault request.Answer → Program α)

namespace Program

variable {α β : Type}

/-- A program that goes on as another one when it is done. -/
def bind : Program α → (α → Program β) → Program β
  | done value, next => next value
  | stop fault, _ => stop fault
  | ask request answered, next => ask request fun answer => (answered answer).bind next

instance : Monad Program where
  pure := done
  bind := bind

/-- Asks for one thing, and is stopped by the fault that comes in the way of it. -/
def request (request : Program.Request) : Program request.Answer :=
  ask request fun
    | .ok answer => done answer
    | .error fault => stop fault

/-- Prints a line. -/
def print (line : String) : Program Unit :=
  request (.print line)

/-- Reads a line, which shows a prompt. -/
def readLine (prompt : String) : Program String :=
  request (.readLine prompt)

/-- Reads a key. -/
def readKey : Program (Option KeyPress) :=
  request (.readKey fun _ => true)

/-- Waits. -/
def sleep (milliseconds : Nat) : Program Unit :=
  request (.sleep milliseconds)

/-- Looks at the file system. -/
def look : Program Snapshot :=
  request .look

/-- Changes the file system. -/
def perform (operation : Operation) : Program Unit :=
  request (.perform operation)

/-- Has a line dispatched. -/
def dispatch (line : String) : Program Outcome :=
  request (.dispatch line)

end Program

end TreeShell
