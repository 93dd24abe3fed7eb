import TreeShell.Dispatch.Program
import TreeShell.Proofs.Builtin.Pervasive

/-!
# What programs can do

A program does nothing but what it asks for, and it may ask for what built-in commands are made of,
for input, for what is registered, and to have something run, of which it is told how it is done. A
property that all this has, and that is kept when steps are put together, is *hosting*; and if the
running of lines, commands, scripts and programs has it as well, then so does every program whatever
(`Hosting.program`), by induction on the tree of what it asks for.
-/

set_option autoImplicit false

namespace TreeShell

/-- All ways in which a program has something run have a property. -/
structure Runner.All (P : Shell Outcome → Prop) (runner : Runner) : Prop where
  protected dispatch : ∀ line, P (runner.dispatch line)
  protected strict : ∀ call, P (runner.strict call)
  protected script : ∀ invokedAs path?, P (runner.script invokedAs path?)
  protected execute : ∀ path args invokedAs?, P (runner.execute path args invokedAs?)

namespace Shell

/-- An interactive and pervasive property of which it makes no difference what is registered. -/
structure Hosting (P : ∀ {α : Type}, Shell α → Prop) : Prop extends Interactive P, Pervasive P where
  protected registry : ∀ {α : Type} (next : Registry → Shell α), (∀ registry, P (next registry)) →
    P ((get : Shell Session) >>= fun s => next s.registry)

variable {P : ∀ {α : Type}, Shell α → Prop} {α : Type} (h : Hosting P) {runner : Runner}
  (hrunner : runner.All P)

include h hrunner

protected theorem Hosting.fulfil (request : Program.Request) : P (request.fulfil runner) := by
  cases request with
  | print line => exact h.print line
  | readLine prompt => exact h.readLine prompt
  | readKey accept => exact h.readKey accept
  | inputLeft => exact h.inputLeft
  | sleep milliseconds => exact h.sleep milliseconds
  | painted color text => exact h.painted color text
  | clock => exact h.clock pure h.pure
  | look => exact h.view id
  | perform operation => exact h.change (·.attempt operation)
  | bounds => exact h.bounds
  | commandNames => exact h.registry (fun registry => pure registry.sortedNames) fun _ => h.pure _
  | environment => exact h.environment
  | setAlias name target => exact h.setAlias name target
  | removeAlias name => exact h.removeAlias name
  | addHistory line => exact h.addHistory line
  | setDisplay name text => exact h.setDisplay name text
  | resetDisplay => exact h.resetDisplay
  | ensureOnPath folder => exact h.ensureOnPath folder
  | recordEnvironment => exact h.recordEnvironment
  | dispatch line => exact hrunner.dispatch line
  | strict call => exact hrunner.strict call
  | script invokedAs path? => exact hrunner.script invokedAs path?
  | execute path args invokedAs? => exact hrunner.execute path args invokedAs?

/-- **Whatever a program asks for, it has every hosting property.** -/
protected theorem Hosting.program (program : Program α) : P (program.run runner) := by
  induction program with
  | done value => exact h.pure value
  | stop fault => exact h.throw fault
  | ask request next ih => exact h.bind (h.settled (h.fulfil hrunner request)) ih

protected theorem Hosting.handler (handler : Handler) (call : Command) :
    P (handler.run runner call) := by
  cases handler with
  | builtin command => exact h.builtin command call.args
  | added program => exact h.program hrunner (program call)

protected theorem Hosting.runSource (path text : String) (call : Command) :
    P (runSource runner path text call) := by
  have hreport (well : Bool) :
      P (if !well then throw (.reportedFailure call.name path) else pure () : Shell Unit) :=
    holds_ite (h.throw _) (h.pure _)
  exact h.host (fun host => (host.program path text call).run runner >>= fun well =>
    if !well then throw (.reportedFailure call.name path) else pure ())
    fun _ => h.bind (h.program hrunner _) hreport

protected theorem Hosting.runProgramText (path text : String) (call : Command) :
    P (runProgramText runner path text call) := by
  refine h.bind (h.guarded (h.runSource hrunner _ _ _)) fun result => ?_
  cases result with
  | ok done => exact h.returning h.printBlank _
  | error fault => exact h.returning (h.printLines _) _

protected theorem Hosting.runProgram (path : String) (args : List String)
    (invokedAs? : Option String) : P (runProgram runner path args invokedAs?) := by
  refine h.bind (h.attempt (h.look _)) fun result => ?_
  cases result with
  | error reason => exact h.returning (h.printLines _) _
  | ok text => exact h.runProgramText hrunner _ _ _

protected theorem Hosting.runProgramHere (call : Command) : P (runProgramHere runner call) :=
  h.bind (h.view _) fun _ => h.runProgram hrunner _ _ _

end Shell

end TreeShell
