import TreeShell.Proofs.Dispatch.Programs
import TreeShell.Session.Loop

/-!
# Properties that go through the whole shell

Running a line takes two more things than commands and programs do: to count the scripts that run,
and to drop what a completion left behind. A hosting property that these have too is *shellwide*,
and whatever line is run has it (`Shellwide.runLine`). The commands that run in one another are
followed level by level: a script and a program have the property because what they run has it one
level below.
-/

set_option autoImplicit false

namespace TreeShell.Shell

/-- A hosting property that the running of lines keeps. -/
structure Shellwide (P : ∀ {α : Type}, Shell α → Prop) : Prop extends Hosting P where
  protected depth : ∀ {α : Type} (next : Nat → Shell α), (∀ depth, P (next depth)) →
    P ((get : Shell Session) >>= fun s => next s.scriptDepth)
  protected deeper : ∀ {α : Type} {step : Shell α}, P step → P (deeper step)
  protected dropHint : P dropHint

variable {P : ∀ {α : Type}, Shell α → Prop} (h : Shellwide P)

include h

/-! ## Scripts -/

section Scripts

variable {run : Command → Shell Outcome} (hrun : ∀ call, P (run call))

include hrun

protected theorem Shellwide.strict (call : Command) : P (strict run call) :=
  holds_ite (h.pure _) (h.returning (h.guarded (hrun call)) _)

protected theorem Shellwide.runLines (invokedAs path : String) (number : Nat)
    (lines : List String) : P (runLines run invokedAs path number lines) := by
  induction lines generalizing number with
  | nil => exact h.pure _
  | cons line rest ih =>
    unfold runLines
    refine holds_ite (ih _) (h.bind (h.strict hrun _) fun outcome => ?_)
    cases outcome with
    | success => exact ih _
    | stop => exact h.pure _
    | failure cause => exact h.returning (h.printLines _) _
    | unhandled cause => exact h.returning (h.printLines _) _

protected theorem Shellwide.runText (invokedAs path content : String) :
    P (runText run invokedAs path content) :=
  h.deeper (h.runLines hrun _ _ _ _)

protected theorem Shellwide.runScriptAt (invokedAs path : String) :
    P (runScriptAt run invokedAs path) := by
  refine h.bind h.bounds fun bounds => ?_
  refine h.depth (fun depth => if bounds.maxScriptDepth ≤ depth then _ else _) fun depth => ?_
  refine holds_ite (h.returning (h.print _) _) (h.bind (h.attempt (h.look _)) fun result => ?_)
  cases result with
  | ok content => exact h.runText hrun _ _ _
  | error reason => exact h.returning (h.printLines _) _

protected theorem Shellwide.runScript (invokedAs : String) (path? : Option String) :
    P (runScript run invokedAs path?) :=
  h.bind (h.view _) fun _ => h.runScriptAt hrun _ _

end Scripts

/-! ## Dispatching -/

section Dispatching

variable {runner : Runner} (hrunner : runner.All P)

include hrunner

omit h hrunner in
/-- Running a registered command is asking the registry and then going by its answer. -/
private theorem runRegistered_eq_bind (call : Command) :
    runRegistered runner call = (get : Shell Session) >>= fun s =>
      (s.registry.find? call.name).elim (pure (.unhandled none)) (·.run runner call) := by
  unfold runRegistered
  congr 1
  funext s
  cases s.registry.find? call.name <;> rfl

protected theorem Shellwide.runRegistered (call : Command) : P (runRegistered runner call) := by
  rw [runRegistered_eq_bind]
  refine h.registry (fun registry => (registry.find? call.name).elim
    (pure (.unhandled none)) (·.run runner call)) fun registry => ?_
  cases registry.find? call.name with
  | some handler => exact h.handler hrunner handler call
  | none => exact h.pure _

protected theorem Shellwide.runOnPath (typed : String) (call : Command) :
    P (runOnPath runner typed call) := by
  refine h.bind h.environment fun e => h.bind (h.view _) fun program? => ?_
  cases program? with
  | some program => exact h.runProgram hrunner _ _ _
  | none => exact h.returning (h.printLines _) _

protected theorem Shellwide.dispatchLine {run : Command → Shell Outcome}
    (hrun : ∀ call, P (run call)) (line : String) : P (dispatchLine run runner line) := by
  refine holds_ite (h.pure _) ?_
  refine h.bind (h.bind h.environment fun _ => h.returning h.bounds _) fun call =>
    h.bind (hrun call) fun outcome => ?_
  cases outcome with
  | unhandled cause => exact h.runOnPath hrunner _ _
  | success | stop | failure cause => exact h.pure _

end Dispatching

/-- What commands, lines and programs have that are run, the running of anything by a program
has. -/
protected theorem Shellwide.runnerOf {run : Command → Shell Outcome}
    {dispatch : String → Shell Outcome}
    {execute : String → List String → Option String → Shell Outcome} (hrun : ∀ call, P (run call))
    (hdispatch : ∀ line, P (dispatch line))
    (hexecute : ∀ path args invokedAs?, P (execute path args invokedAs?)) :
    (runnerOf run dispatch execute).All P where
  dispatch := hdispatch
  strict := h.strict hrun
  script := h.runScript hrun
  execute := hexecute

/-- **A shellwide property goes through commands however deep they run in one another.** -/
protected theorem Shellwide.levels (levels : Nat) :
    (∀ call, P (registered levels call)) ∧ (∀ line, P (dispatchIn levels line)) ∧
      ∀ path args invokedAs?, P (executeIn levels path args invokedAs?) := by
  induction levels with
  | zero => exact ⟨fun _ => h.throw _, fun _ => h.throw _, fun _ _ _ => h.throw _⟩
  | succ levels ih =>
    obtain ⟨hregistered, hdispatch, hexecute⟩ := ih
    have hrunner := h.runnerOf hregistered hdispatch hexecute
    refine ⟨fun call => ?_, fun line => ?_, fun path args invokedAs? => ?_⟩
    · unfold registered
      exact holds_ite (h.runScript hregistered _ _)
        (holds_ite (h.runProgramHere hrunner call) (h.runRegistered hrunner call))
    · unfold dispatchIn
      exact h.dispatchLine hrunner hregistered line
    · unfold executeIn
      exact h.runProgram hrunner path args invokedAs?

protected theorem Shellwide.runnerIn (levels : Nat) : (runnerIn levels).All P :=
  h.runnerOf (h.levels levels).1 (h.levels levels).2.1 (h.levels levels).2.2

protected theorem Shellwide.dispatch (line : String) : P (dispatch line) :=
  h.bind (h.returning h.bounds _) fun levels => (h.levels levels).2.1 line

protected theorem Shellwide.dispatchStrict (call : Command) : P (dispatchStrict call) :=
  h.bind (h.returning h.bounds _) fun levels => h.strict (h.levels levels).1 call

/-! ## Lines that are entered -/

/-- **Whatever line is run has every shellwide property.** -/
protected theorem Shellwide.runLine (line : String) : P (runLine line) := by
  refine h.bind (h.addHistory line) fun _ => h.bind h.dropHint fun _ =>
    h.bind (h.guarded (h.dispatch line)) fun result => ?_
  cases result with
  | ok outcome => exact h.pure _
  | error fault => exact holds_ite (h.throw _) (h.returning (h.printLines _) _)

end TreeShell.Shell
