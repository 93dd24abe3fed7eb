import TreeShell.Dispatch.Program
import TreeShell.Builtin.Run
import TreeShell.Proofs.Session.Steps

/-!
# Commands know themselves

Only the outcome `unhandled` sends a line on to the search path, and it says that there is no such
command. A built-in command, once it is called, never says so of itself: it succeeds, fails, asks to
stop or is stopped by a fault (`handles_builtin`). The same holds of programs
(`handles_runProgramText`). A step is such a step if every value that it can end with is, whatever
the steps before do (`handles_bind`); so each proof follows the text of the command down to its
ends.
-/

set_option autoImplicit false

namespace TreeShell.Shell

variable {α : Type}

/-- A step that never ends in there being no such command. -/
def Handles (step : Shell Outcome) : Prop :=
  ∀ s cause after, step.run s ≠ (.ok (.unhandled cause), after)

theorem handles_return {outcome : Outcome} (h : outcome.handled = true) :
    Handles (pure outcome) := by
  intro s cause after hrun
  cases hrun
  exact nomatch h

theorem handles_throw (fault : Fault) : Handles (throw fault) :=
  fun _ _ _ hrun => nomatch hrun

theorem handles_bind {step : Shell α} {next : α → Shell Outcome} (h : ∀ a, Handles (next a)) :
    Handles (step >>= next) := by
  intro s cause after hrun
  rw [run_bind] at hrun
  generalize step.run s = first at hrun
  obtain ⟨result, s'⟩ := first
  cases result with
  | ok a => exact h a s' cause after hrun
  | error fault => exact nomatch hrun

theorem handles_last (step : Shell α) {outcome : Outcome} (h : outcome.handled = true) :
    Handles (step >>= fun _ => pure outcome) :=
  handles_bind fun _ => handles_return h

/-! ## The ways commands end -/

theorem handles_missingOperand (command : String) (hint : Option String) :
    Handles (missingOperand command hint) := by
  refine handles_bind fun _ => ?_
  cases hint with
  | none => exact handles_return rfl
  | some text => exact handles_last _ rfl

theorem handles_failWith (line : String) : Handles (failWith line) :=
  handles_last _ rfl

theorem handles_failRefused (command : String) (reason : FileError) :
    Handles (failRefused command reason) :=
  handles_last _ rfl

theorem handles_reporting (command : String) (step : Shell Unit) :
    Handles (reporting command step) := by
  refine handles_bind fun result => ?_
  cases result with
  | ok done => exact handles_return rfl
  | error reason => exact handles_failRefused command reason

theorem handled_outcomeOfAll (command : String) (allDone : Bool) :
    (outcomeOfAll command allDone).handled = true := by
  cases allDone <;> rfl

theorem handles_forEach (command : String) (operands : List String)
    (action : String → Shell Unit) : Handles (forEach command operands action) :=
  handles_bind fun allDone => handles_return (handled_outcomeOfAll command allDone)

/-! ## Built-in commands -/

theorem handles_listFile (target : String) (long : Bool) : Handles (listFile target long) := by
  unfold listFile
  dsimp only
  split
  · exact handles_bind fun _ => handles_last _ rfl
  · exact handles_bind fun _ => handles_last _ rfl

theorem handles_listFolder (target : String) (long all : Bool) :
    Handles (listFolder target long all) := by
  refine handles_bind fun result => ?_
  cases result with
  | error reason => exact handles_failRefused "ls" reason
  | ok listing =>
    dsimp only
    split
    · exact handles_bind fun _ => handles_last _ rfl
    · split
      · exact handles_bind fun _ => handles_last _ rfl
      · exact handles_return rfl

theorem handles_ls (args : List String) : Handles (ls args) := by
  unfold ls
  dsimp only
  split
  · exact handles_bind fun _ => handles_last _ rfl
  · refine handles_bind fun isFile => ?_
    split
    · exact handles_listFile _ _
    · exact handles_listFolder _ _ _

theorem handles_rm (args : List String) : Handles (rm args) := by
  unfold rm
  split
  · exact handles_missingOperand _ _
  · exact handles_bind fun allDone => handles_return (handled_outcomeOfAll "rm" allDone)

theorem handles_mv (args : List String) : Handles (mv args) := by
  unfold mv
  split
  · exact handles_reporting _ _
  · exact handles_missingOperand _ _

theorem handles_copy (args : List String) : Handles (copy args) := by
  unfold copy
  split
  · refine handles_bind fun isFile => ?_
    split
    · refine handles_bind fun result => ?_
      cases result with
      | ok path => exact handles_return rfl
      | error reason => exact handles_last _ rfl
    · exact handles_last _ rfl
  · exact handles_missingOperand _ _

/-- The commands that do one thing with each operand. -/
theorem handles_operands {args : List String} (command : String) (hint : Option String)
    (action : String → Shell Unit) :
    Handles (if args.isEmpty then missingOperand command hint else forEach command args action) := by
  split
  · exact handles_missingOperand _ _
  · exact handles_forEach _ _ _

theorem handles_find (args : List String) : Handles (find args) := by
  unfold find
  split
  · refine handles_bind fun start => handles_bind fun isThere => ?_
    split
    · exact handles_bind fun _ => handles_last _ rfl
    · exact handles_failWith _
  · exact handles_bind fun _ => handles_last _ rfl
  · exact handles_throw _

theorem handles_grepFiles (options : GrepOptions) (files : List String) :
    Handles (grepFiles options files) := by
  refine handles_bind fun found => ?_
  split
  · exact handles_return rfl
  · split
    · exact handles_return rfl
    · exact handles_return rfl

theorem handles_grepWith (read : ShortFlags) (targets : List String)
    (matcher : Except Fault LineMatcher) : Handles (grepWith read targets matcher) := by
  unfold grepWith
  split
  · exact handles_last _ rfl
  · exact handles_throw _
  · dsimp only
    split
    · exact handles_bind fun _ => handles_last _ rfl
    · exact handles_bind fun _ => handles_grepFiles _ _

theorem handles_grep (args : List String) : Handles (grep args) := by
  unfold grep
  dsimp only
  split
  · exact handles_bind fun _ => handles_last _ rfl
  · exact handles_bind fun _ => handles_last _ rfl
  · exact handles_bind fun _ => handles_grepWith _ _ _

theorem handles_help (args : List String) : Handles (help args) := by
  unfold help
  dsimp only
  split
  · exact handles_last _ rfl
  · exact handles_last _ rfl

theorem handles_delay (args : List String) : Handles (delay args) := by
  unfold delay
  split
  · exact handles_missingOperand _ _
  · dsimp only
    split
    · exact handles_last _ rfl
    · exact handles_last _ rfl

theorem handles_setConfig (name text : String) : Handles (setConfig name text) := by
  unfold setConfig
  split
  · exact handles_last _ rfl
  · exact handles_bind fun _ => handles_last _ rfl

theorem handles_getConfig (name : String) : Handles (getConfig name) := by
  refine handles_bind fun environment => ?_
  split
  · exact handles_last _ rfl
  · exact handles_failWith _

theorem handles_config (args : List String) : Handles (config args) := by
  unfold config
  dsimp only
  split
  · exact handles_bind fun _ => handles_bind fun _ => handles_bind fun _ => handles_last _ rfl
  · split
    · split
      · exact handles_getConfig _
      · exact handles_failWith _
    · split
      · exact handles_setConfig _ _
      · split
        · exact handles_bind fun _ => handles_last _ rfl
        · exact handles_bind fun _ => handles_last _ rfl

theorem handles_makeAlias (args : List String) : Handles (makeAlias args) := by
  unfold makeAlias
  split
  · exact handles_last _ rfl
  · exact handles_bind fun _ => handles_return (handled_outcomeOfAll _ _)

theorem handles_dropAlias (args : List String) : Handles (dropAlias args) := by
  unfold dropAlias
  split
  · exact handles_missingOperand _ _
  · refine handles_bind fun done => ?_
    split
    · exact handles_return rfl
    · exact handles_return rfl

theorem handles_checkAssets : Handles checkAssets := by
  refine handles_bind fun installed => ?_
  dsimp only
  -- Whatever is printed about the versions, the same steps follow.
  split
  · iterate 6 refine handles_bind fun _ => ?_
    exact handles_return rfl
  · split
    · iterate 6 refine handles_bind fun _ => ?_
      exact handles_return rfl
    · iterate 6 refine handles_bind fun _ => ?_
      exact handles_return rfl

theorem handles_updateAssets : Handles updateAssets := by
  refine handles_bind fun synced => ?_
  dsimp only
  refine handles_bind fun _ => handles_bind fun _ => ?_
  split
  · iterate 3 refine handles_bind fun _ => ?_
    exact handles_return rfl
  · exact handles_last _ rfl

theorem handles_tellLaidOut (wasEmpty : Bool) (synced : List SyncedAsset) :
    Handles (tellLaidOut wasEmpty synced) := by
  have hend : Handles
      (if (SyncedAsset.failures synced).isEmpty then pure .success else pure assetsFailed) := by
    split
    · exact handles_return rfl
    · exact handles_return rfl
  refine handles_bind fun _ => handles_bind fun _ => ?_
  dsimp only
  split
  · iterate 4 refine handles_bind fun _ => ?_
    exact hend
  · iterate 3 refine handles_bind fun _ => ?_
    exact hend

theorem handles_layOut (wasEmpty : Bool) : Handles (layOut wasEmpty) :=
  handles_bind fun _ => handles_bind fun _ => handles_bind fun _ => handles_tellLaidOut _ _

theorem handles_init (args : List String) : Handles (init args) := by
  unfold init
  split
  · exact handles_checkAssets
  · split
    · exact handles_updateAssets
    · refine handles_bind fun empty => ?_
      split
      · exact handles_layOut empty
      · exact handles_last _ rfl

/-- **A built-in command never takes itself for none.** -/
theorem handles_builtin (command : Builtin) (args : List String) : Handles (command.run args) := by
  cases command with
  | ls => exact handles_ls args
  | cd => exact handles_reporting _ _
  | pwd => exact handles_bind fun _ => handles_last _ rfl
  | mkdir => exact handles_operands _ _ _
  | rmdir => exact handles_operands _ _ _
  | touch => exact handles_operands _ _ _
  | cat => exact handles_operands _ _ _
  | rm => exact handles_rm args
  | mv => exact handles_mv args
  | copy => exact handles_copy args
  | find => exact handles_find args
  | grep => exact handles_grep args
  | help => exact handles_help args
  | exit => exact handles_last _ rfl
  | cls => exact handles_return rfl
  | date => exact handles_bind fun _ => handles_last _ rfl
  | delay => exact handles_delay args
  | config => exact handles_config args
  | makeAlias => exact handles_makeAlias args
  | dropAlias => exact handles_dropAlias args
  | history => exact handles_bind fun _ => handles_last _ rfl
  | init => exact handles_init args

/-! ## Programs -/

theorem handles_runProgramText (runner : Runner) (path text : String) (call : Command) :
    Handles (runProgramText runner path text call) := by
  refine handles_bind fun result => ?_
  cases result with
  | ok done => exact handles_last _ rfl
  | error fault => exact handles_last _ rfl

end TreeShell.Shell
