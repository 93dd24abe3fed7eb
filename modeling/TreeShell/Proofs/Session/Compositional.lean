import TreeShell.Proofs.Session.Steps
import TreeShell.Session.Settings

/-!
# Properties that go through steps

Commands are put together from few steps: to print, to look at the file system and to change it, to
ask for the time, and to take a fault for an answer. A property of steps is *plain* if the most
common of these have it and putting steps together keeps it, and *compositional* if that holds of
all of them. What is built from nothing else then has it as well, and that is shown once for all
such properties.

Two kinds of steps are not among these. Built-in commands do not read input and do not go on after
just any fault, so a property of these need not go through that; one that does is *interactive*. And
a property may allow some uses of the environment and not others. One that allows all that commands
make of it is *pervasive*.
-/

set_option autoImplicit false

namespace TreeShell.Shell

/-- A property that printing, the uses of the file system and of the clock have, and that is kept
when steps are put together. -/
structure Plain (P : ∀ {α : Type}, Shell α → Prop) : Prop where
  protected pure : ∀ {α : Type} (a : α), P (pure a : Shell α)
  protected throw : ∀ {α : Type} (fault : Fault), P (throw fault : Shell α)
  protected bind : ∀ {α β : Type} {step : Shell α} {next : α → Shell β},
    P step → (∀ a, P (next a)) → P (step >>= next)
  protected attempt : ∀ {α : Type} {step : Shell α}, P step → P (attempt step)
  protected print : ∀ line, P (print line)
  protected view : ∀ {α : Type} (f : Snapshot → α), P (view f)
  protected look : ∀ {α : Type} (f : Snapshot → Except FileError α), P (look f)
  protected change : ∀ {α : Type} (f : Snapshot → Attempt α), P (change f)
  protected clock : ∀ {α : Type} (next : Moment → Shell α), (∀ now, P (next now)) →
    P ((get : Shell Session) >>= fun s => next s.now)

/-- A property that the steps commands are made of have, and that is kept when steps are put
together. -/
structure Compositional (P : ∀ {α : Type}, Shell α → Prop) : Prop extends Plain P where
  protected guarded : ∀ {α : Type} {step : Shell α}, P step → P (guarded step)
  protected sleep : ∀ milliseconds, P (sleep milliseconds)
  protected painted : ∀ color text, P (painted color text)
  protected host : ∀ {α : Type} (next : Host → Shell α), (∀ host, P (next host)) →
    P ((get : Shell Session) >>= fun s => next s.host)

/-- A compositional property that reading input has too, and that is kept when any fault is taken
for an answer. -/
structure Interactive (P : ∀ {α : Type}, Shell α → Prop) : Prop extends Compositional P where
  protected settled : ∀ {α : Type} {step : Shell α}, P step → P (settled step)
  protected readLine : ∀ prompt, P (readLine prompt)
  protected readKey : ∀ accept, P (readKey accept)
  protected inputLeft : P inputLeft

/-- A compositional property that all uses have which commands make of the environment. -/
structure Pervasive (P : ∀ {α : Type}, Shell α → Prop) : Prop extends Compositional P where
  protected environment : P environment
  protected bounds : P bounds
  protected setAlias : ∀ name target, P (setAlias name target)
  protected removeAlias : ∀ name, P (removeAlias name)
  protected addHistory : ∀ line, P (addHistory line)
  protected setDisplay : ∀ name text, P (setDisplay name text)
  protected resetDisplay : P resetDisplay
  protected ensureOnPath : ∀ folder, P (ensureOnPath folder)
  protected recordEnvironment : P recordEnvironment

variable {P : ∀ {α : Type}, Shell α → Prop} {α β : Type}

/-- A step whose value is only looked at. -/
protected theorem Plain.returning (h : Plain P) {step : Shell α} (hstep : P step)
    (f : α → β) : P (step >>= fun a => pure (f a)) :=
  h.bind hstep fun a => h.pure (f a)

theorem holds_ite {P : Shell α → Prop} {p : Prop} [Decidable p] {yes no : Shell α} (hyes : P yes)
    (hno : P no) : P (if p then yes else no) := by
  split
  · exact hyes
  · exact hno

protected theorem Plain.forM (h : Plain P) {action : α → Shell Unit}
    (haction : ∀ a, P (action a)) (items : List α) : P (items.forM action) := by
  induction items with
  | nil => exact h.pure ()
  | cons item rest ih => exact h.bind (haction item) fun _ => ih

protected theorem Plain.mapM (h : Plain P) {action : α → Shell β}
    (haction : ∀ a, P (action a)) (items : List α) : P (items.mapM action) := by
  induction items with
  | nil =>
    rw [List.mapM_nil]
    exact h.pure []
  | cons item rest ih =>
    rw [List.mapM_cons]
    exact h.bind (haction item) fun _ => h.bind ih fun _ => h.pure _

protected theorem Plain.printLines (h : Plain P) (lines : List String) :
    P (printLines lines) :=
  h.forM h.print lines

protected theorem Plain.printBlank (h : Plain P) : P printBlank :=
  h.print ""

protected theorem Plain.install (h : Plain P) (folder path content : String) :
    P (install folder path content) :=
  h.bind (h.change _) fun _ => h.change _

protected theorem Plain.writeSettings (h : Plain P) (path content : String) :
    P (writeSettings path content) :=
  h.returning (h.attempt (h.install _ _ _)) _

protected theorem Plain.readSettings (h : Plain P) (path : String) :
    P (readSettings path) := by
  refine h.bind (h.attempt (h.look _)) fun result => ?_
  cases result with
  | error reason => exact h.pure _
  | ok content =>
    dsimp only
    split
    · exact h.pure _
    · exact h.pure _
    · exact h.throw _

end TreeShell.Shell
