import TreeShell.Builtin.Run
import TreeShell.Proofs.Session.Compositional

/-!
# Commands that do not touch the environment

All built-in commands but five are made of the steps that compositional properties go through, and
so have every such property (`Compositional.builtin`). The proofs follow the text of each command:
they name its steps, and nothing else is to be said. A command added to the shell needs one more of
them.
-/

set_option autoImplicit false

namespace TreeShell.Shell

/-- The commands that have to do with the environment. -/
def usesEnvironment : Builtin → Bool
  | .config | .makeAlias | .dropAlias | .history | .init => true
  | _ => false

variable {P : ∀ {α : Type}, Shell α → Prop} (h : Compositional P)

include h

/-! ## What commands have in common -/

protected theorem Compositional.paintedEntry (name : String) (kind : NodeKind) :
    P (paintedEntry name kind) :=
  h.painted _ _

protected theorem Compositional.missingOperand (command : String) (hint : Option String) :
    P (missingOperand command hint) := by
  refine h.bind (h.print _) fun _ => ?_
  cases hint with
  | none => exact h.pure _
  | some text => exact h.returning (h.print _) _

protected theorem Compositional.failWith (line : String) : P (failWith line) :=
  h.returning (h.print line) _

protected theorem Compositional.failRefused (command : String) (reason : FileError) :
    P (failRefused command reason) :=
  h.returning (h.print _) _

protected theorem Compositional.reporting {step : Shell Unit} (hstep : P step) (command : String) :
    P (reporting command step) := by
  refine h.bind (h.attempt hstep) fun result => ?_
  cases result with
  | ok done => exact h.pure _
  | error reason => exact h.failRefused command reason

protected theorem Compositional.eachOperand {action : String → Shell Unit}
    {tell : String → FileError → Shell Unit} (haction : ∀ operand, P (action operand))
    (htell : ∀ operand reason, P (tell operand reason)) (operands : List String) :
    P (eachOperand action tell operands) := by
  induction operands with
  | nil => exact h.pure _
  | cons operand rest ih =>
    refine h.bind (h.attempt (haction operand)) fun result => ?_
    cases result with
    | ok done => exact ih
    | error reason => exact h.bind (htell operand reason) fun _ => h.returning ih _

protected theorem Compositional.forEach {action : String → Shell Unit}
    (haction : ∀ operand, P (action operand)) (command : String) (operands : List String) :
    P (forEach command operands action) :=
  h.returning (h.eachOperand haction (fun _ _ => h.print _) operands) _

/-- The commands that do one thing with each operand. -/
protected theorem Compositional.operands {action : String → Shell Unit}
    (haction : ∀ operand, P (action operand)) (command : String) (hint : Option String)
    (args : List String) :
    P (if args.isEmpty then missingOperand command hint else forEach command args action) :=
  holds_ite (h.missingOperand command hint) (h.forEach haction command args)

/-! ## Files and folders -/

protected theorem Compositional.listFile (target : String) (long : Bool) :
    P (listFile target long) := by
  unfold listFile
  dsimp only
  split
  · exact h.bind (h.view _) fun _ => h.returning (h.print _) _
  · exact h.bind (h.painted _ _) fun _ => h.returning (h.print _) _

protected theorem Compositional.printLongEntry (base : String) (entry : String × NodeKind) :
    P (printLongEntry base entry) :=
  h.bind (h.view _) fun _ => h.bind (h.paintedEntry _ _) fun _ => h.print _

protected theorem Compositional.listFolder (target : String) (long all : Bool) :
    P (listFolder target long all) := by
  refine h.bind (h.attempt (h.look _)) fun result => ?_
  cases result with
  | error reason => exact h.failRefused "ls" reason
  | ok listing =>
    dsimp only
    split
    · exact h.bind (h.view _) fun base =>
        h.returning (h.forM (h.printLongEntry base) _) _
    · split
      · exact h.bind (h.mapM (fun _ => h.paintedEntry _ _) _) fun _ =>
          h.returning (h.print _) _
      · exact h.pure _

protected theorem Compositional.ls (args : List String) : P (ls args) := by
  unfold ls
  dsimp only
  split
  · exact h.bind (h.print _) fun _ => h.returning (h.print _) _
  · exact h.bind (h.view _) fun _ => holds_ite (h.listFile _ _) (h.listFolder _ _ _)

protected theorem Compositional.touchFile (path : String) : P (touchFile path) :=
  h.bind (h.view _) fun _ => holds_ite (h.pure _) (h.change _)

protected theorem Compositional.rm (args : List String) : P (rm args) :=
  holds_ite (h.missingOperand _ _)
    (h.returning (h.eachOperand (fun _ => h.change _) (fun _ _ => h.print _) _) _)

protected theorem Compositional.mv (args : List String) : P (mv args) := by
  unfold mv
  split
  · exact h.reporting (h.returning (h.change _) _) "mv"
  · exact h.missingOperand _ _

protected theorem Compositional.copy (args : List String) : P (copy args) := by
  unfold copy
  split
  · refine h.bind (h.view _) fun _ => holds_ite ?_ (h.returning (h.print _) _)
    refine h.bind (h.attempt (h.change _)) fun result => ?_
    cases result with
    | ok path => exact h.pure _
    | error reason => exact h.returning (h.print _) _
  · exact h.missingOperand _ _

/-! ## Searching -/

protected theorem Compositional.printFound (long : Bool) (entry : WalkEntry) :
    P (printFound long entry) :=
  holds_ite (h.bind (h.view _) fun _ => h.print _) (h.print _)

protected theorem Compositional.find (args : List String) : P (find args) := by
  unfold find
  split
  · refine h.bind (h.view _) fun start => h.bind (h.view _) fun isThere =>
      holds_ite ?_ (h.failWith _)
    exact h.bind (h.look _) fun _ => h.returning (h.forM (h.printFound _) _) _
  · exact h.bind (h.print _) fun _ => h.returning (h.print _) _
  · exact h.throw _

protected theorem Compositional.grepMisused (account : String) : P (grepMisused account) :=
  h.bind (h.print _) fun _ => h.returning (h.print _) _

protected theorem Compositional.grepFile (options : GrepOptions) (path : String) :
    P (grepFile options path) := by
  refine h.bind (h.attempt (h.look _)) fun result => ?_
  cases result with
  | error reason => exact h.returning (h.print _) _
  | ok content => exact h.returning (h.printLines _) _

protected theorem Compositional.filesBelow (path : String) : P (filesBelow path) :=
  h.bind (h.view _) fun _ => holds_ite (h.returning (h.look _) _) (h.pure _)

protected theorem Compositional.filesToSearch (recursive : Bool) (targets : List String) :
    P (filesToSearch recursive targets) :=
  h.bind (h.view _) fun _ =>
    holds_ite (h.returning (h.mapM h.filesBelow _) _) (h.pure _)

protected theorem Compositional.grepFiles (options : GrepOptions) (files : List String) :
    P (grepFiles options files) := by
  refine h.bind (h.mapM (h.grepFile options) files) fun found => ?_
  exact holds_ite (h.pure _) (holds_ite (h.pure _) (h.pure _))

protected theorem Compositional.grepWith (read : ShortFlags) (targets : List String)
    (matcher : Except Fault LineMatcher) : P (grepWith read targets matcher) := by
  unfold grepWith
  split
  · exact h.returning (h.print _) _
  · exact h.throw _
  · exact holds_ite (h.grepMisused _)
      (h.bind (h.filesToSearch _ _) fun _ => h.grepFiles _ _)

protected theorem Compositional.grepFor (read : ShortFlags) (argument : String)
    (targets : List String) : P (grepFor read argument targets) :=
  h.host (fun host => grepWith read targets (LineMatcher.ofArgument argument host.character?))
    fun _ => h.grepWith _ _ _

protected theorem Compositional.grep (args : List String) : P (grep args) := by
  unfold grep
  dsimp only
  split
  · exact h.grepMisused _
  · exact h.grepMisused _
  · exact h.grepFor _ _ _

/-! ## Help -/

protected theorem Compositional.helpInGeneral : P helpInGeneral := by
  refine h.bind (h.attempt (h.look _)) fun result => ?_
  cases result with
  | ok content => exact h.print _
  | error reason => exact h.bind (h.print _) fun _ => h.print _

protected theorem Compositional.printTopics : P printTopics := by
  refine h.bind (h.attempt (h.look _)) fun result => ?_
  have htopics : ∀ topics : List String, P (if topics.isEmpty then
      print "No help topics installed. Try running: init"
    else do
      print "Available help topics:"
      print ("  " ++ Text.join ", " topics)) := fun topics =>
    holds_ite (h.print _) (h.bind (h.print _) fun _ => h.print _)
  cases result with
  | ok listing => exact htopics (topicsIn listing)
  | error reason => exact htopics []

protected theorem Compositional.helpOn (topic : String) : P (helpOn topic) := by
  refine h.bind (h.attempt (h.look _)) fun result => ?_
  cases result with
  | ok content => exact h.print _
  | error reason => exact h.bind (h.print _) fun _ => h.printTopics

protected theorem Compositional.help (args : List String) : P (help args) := by
  unfold help
  dsimp only
  split
  · exact h.returning h.helpInGeneral _
  · exact h.returning (h.helpOn _) _

/-! ## The session -/

protected theorem Compositional.date : P date :=
  h.clock (fun now => do
    print ("Current date and time: " ++ now.text)
    return Outcome.success) fun _ => h.returning (h.print _) _

protected theorem Compositional.delay (args : List String) : P (delay args) := by
  unfold delay
  split
  · exact h.missingOperand _ _
  · dsimp only
    split
    · exact h.returning (h.sleep _) _
    · exact h.returning (h.print _) _

/-- The command for display settings has a property if what it does with them has. -/
protected theorem Compositional.config (hshow : P showConfig) (hget : ∀ name, P (getConfig name))
    (hset : ∀ name text, P (setDisplay name text)) (hreset : P resetDisplay) (args : List String) :
    P (config args) := by
  unfold Shell.config
  dsimp only
  refine holds_ite hshow (holds_ite ?_ (holds_ite ?_ (holds_ite ?_ ?_)))
  · split
    · exact hget _
    · exact h.failWith _
  · exact holds_ite (h.returning (h.print _) _)
      (h.bind (hset _ _) fun _ => h.returning (h.print _) _)
  · exact h.bind hreset fun _ => h.returning (h.print _) _
  · exact h.bind (h.print _) fun _ => h.returning (h.printLines _) _

/-! ## Together -/

/-- **A command that does not touch the environment has every compositional property.** -/
protected theorem Compositional.builtin {command : Builtin}
    (hcommand : usesEnvironment command = false) (args : List String) : P (command.run args) := by
  cases command with
  | ls => exact h.ls args
  | cd => exact h.reporting (h.change _) "cd"
  | pwd => exact h.bind (h.view _) fun _ => h.returning (h.print _) _
  | mkdir => exact h.operands (fun _ => h.change _) _ _ _
  | rmdir => exact h.operands (fun _ => h.change _) _ _ _
  | touch => exact h.operands h.touchFile _ _ _
  | cat => exact h.operands (fun _ => h.bind (h.look _) fun _ => h.print _) _ _ _
  | rm => exact h.rm args
  | mv => exact h.mv args
  | copy => exact h.copy args
  | find => exact h.find args
  | grep => exact h.grep args
  | help => exact h.help args
  | exit => exact h.returning (h.print _) _
  | cls => exact h.pure _
  | date => exact h.date
  | delay => exact h.delay args
  | config | makeAlias | dropAlias | history | init => exact nomatch hcommand

end TreeShell.Shell
