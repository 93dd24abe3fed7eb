import TreeShell.Builtin.Run
import TreeShell.Proofs.Session.Returning

/-!
# Commands that come to their end

On an open store nothing stops a built-in command but what is said of its arguments, of its settings
or of the one file that is written without being tried (`Stops`). For most commands that is nothing
at all: what the file system may refuse is tried, or was asked for before.
-/

set_option autoImplicit false

namespace TreeShell.Shell

open FileSystem

variable {α : Type} {I : FileSystem → Prop}

theorem returns_look_attempt (f : Snapshot → Except FileError α) : Returns I (attempt (look f)) :=
  (refusable_look f).attempt

/-! ## The ways commands end -/

theorem returns_missingOperand (command : String) (hint : Option String) :
    Returns I (missingOperand command hint) := by
  refine (returns_print _).bind fun _ => ?_
  cases hint with
  | none => exact returns_pure _
  | some text => exact (returns_print _).returning _

theorem returns_failWith (line : String) : Returns I (failWith line) :=
  (returns_print line).returning _

theorem returns_failRefused (command : String) (reason : FileError) :
    Returns I (failRefused command reason) :=
  (returns_print _).returning _

theorem Refusable.reporting {step : Shell Unit} (h : Refusable I step) (command : String) :
    Returns I (reporting command step) := by
  refine h.attempt.bind fun result => ?_
  cases result with
  | ok done => exact returns_pure _
  | error reason => exact returns_failRefused command reason

theorem returns_eachOperand {action : String → Shell Unit} {tell : String → FileError → Shell Unit}
    (haction : ∀ operand, Refusable I (action operand))
    (htell : ∀ operand reason, Returns I (tell operand reason)) (operands : List String) :
    Returns I (eachOperand action tell operands) := by
  induction operands with
  | nil => exact returns_pure _
  | cons operand rest ih =>
    refine (haction operand).attempt.bind fun result => ?_
    cases result with
    | ok done => exact ih
    | error reason => exact (htell operand reason).bind fun _ => ih.returning _

/-- The commands that do one thing with each operand. -/
theorem returns_operands {action : String → Shell Unit}
    (haction : ∀ operand, Refusable I (action operand)) (command : String) (hint : Option String)
    (args : List String) :
    Returns I (if args.isEmpty then missingOperand command hint
      else forEach command args action) :=
  holds_ite (returns_missingOperand command hint)
    ((returns_eachOperand haction (fun _ _ => returns_print _) args).returning _)

/-! ## Files and folders -/

theorem returns_listFile (target : String) (long : Bool) : Returns I (listFile target long) := by
  unfold listFile
  dsimp only
  split
  · exact (returns_view _).bind fun _ => (returns_print _).returning _
  · exact (returns_painted _ _).bind fun _ => (returns_print _).returning _

theorem returns_printLongEntry (base : String) (entry : String × NodeKind) :
    Returns I (printLongEntry base entry) :=
  (returns_view _).bind fun _ => (returns_painted _ _).bind fun _ => returns_print _

theorem returns_listFolder (target : String) (long all : Bool) :
    Returns I (listFolder target long all) := by
  refine (returns_look_attempt _).bind fun result => ?_
  cases result with
  | error reason => exact returns_failRefused "ls" reason
  | ok listing =>
    dsimp only
    split
    · exact (returns_view _).bind fun base =>
        (Returns.forM fun entry _ => returns_printLongEntry base entry).returning _
    · split
      · exact (Returns.mapM fun _ _ => returns_painted _ _).bind fun _ =>
          (returns_print _).returning _
      · exact returns_pure _

theorem returns_ls (args : List String) : Returns I (ls args) := by
  unfold ls
  dsimp only
  split
  · exact (returns_print _).bind fun _ => (returns_print _).returning _
  · exact (returns_view _).bind fun _ => holds_ite (returns_listFile _ _) (returns_listFolder _ _ _)

theorem refusable_touchFile (path : String) : Refusable Opened (touchFile path) := by
  refine (returns_view _).refusable.bind fun isFile => ?_
  split
  · exact (returns_pure _).refusable
  · exact refusable_change_opened _

theorem refusable_printFile (path : String) :
    Refusable I (do print (← look (·.read path))) :=
  (refusable_look _).bind fun _ => (returns_print _).refusable

theorem returns_rm (args : List String) : Returns Opened (rm args) :=
  holds_ite (returns_missingOperand _ _)
    ((returns_eachOperand (fun _ => refusable_change_opened _) (fun _ _ => returns_print _)
      _).returning _)

theorem returns_mv (args : List String) : Returns Opened (mv args) := by
  unfold mv
  split
  · exact Refusable.reporting
      ((refusable_change_opened _).bind fun _ => (returns_pure _).refusable) "mv"
  · exact returns_missingOperand _ _

theorem returns_copy (args : List String) : Returns Opened (copy args) := by
  unfold copy
  split
  · refine (returns_view _).bind fun _ => holds_ite ?_ ((returns_print _).returning _)
    refine (refusable_change_opened _).attempt.bind fun result => ?_
    cases result with
    | ok path => exact returns_pure _
    | error reason => exact (returns_print _).returning _
  · exact returns_missingOperand _ _

/-! ## Searching -/

/-- A walk that starts where something is comes to its end. -/
theorem walk_of_exists {s : Snapshot} {path : String} (h : s.exists? path = true)
    (limit : Option Int) : ∃ entries, s.walk path limit = .ok entries := by
  unfold Snapshot.walk
  dsimp only
  cases hfolder : s.folderAt? (s.resolve path) with
  | some folder => exact ⟨_, rfl⟩
  | none =>
    have hfile : (s.fileAt? (s.resolve path)).isSome = true := by
      simpa [Snapshot.exists?, Snapshot.isFolder, Snapshot.isFile, hfolder] using h
    exact ⟨_, if_pos hfile⟩

theorem returns_printFound (long : Bool) (entry : WalkEntry) : Returns I (printFound long entry) :=
  holds_ite ((returns_view _).bind fun _ => returns_print _) (returns_print _)

/-- A walk is made only where something was seen. -/
theorem returns_findWith (options : FindOptions) : Returns I (findWith options) := by
  refine (returns_view _).bind fun start => ?_
  intro s hs
  rw [run_view_bind]
  split
  · next hexists =>
    obtain ⟨entries, hwalk⟩ := walk_of_exists hexists options.depth
    have hlook : (look (·.walk start options.depth)).run s = (.ok entries, s) := by
      rw [look, run_ofRun, hwalk]
      rfl
    rw [run_bind_of_ok hlook]
    exact (Returns.forM fun entry _ => returns_printFound _ entry).returning _ s hs
  · exact returns_failWith _ s hs

theorem returns_grepMisused (account : String) : Returns I (grepMisused account) :=
  (returns_print _).bind fun _ => (returns_print _).returning _

theorem returns_grepFile (options : GrepOptions) (path : String) :
    Returns I (grepFile options path) := by
  refine (returns_look_attempt _).bind fun result => ?_
  cases result with
  | error reason => exact (returns_print _).returning _
  | ok content => exact (returns_printLines _).returning _

/-- Only a folder is walked through. -/
theorem returns_filesBelow (path : String) : Returns I (filesBelow path) := by
  intro s hs
  rw [filesBelow, run_view_bind]
  split
  · next hfolder =>
    have hexists : s.files.snapshot.exists? path = true := by
      rw [Snapshot.exists?, hfolder, Bool.true_or]
    obtain ⟨entries, hwalk⟩ := walk_of_exists hexists none
    have hlook : (look (·.walk path none)).run s = (.ok entries, s) := by
      rw [look, run_ofRun, hwalk]
      rfl
    rw [run_bind_of_ok hlook]
    exact returns_pure _ s hs
  · exact returns_pure _ s hs

theorem returns_filesToSearch (recursive : Bool) (targets : List String) :
    Returns I (filesToSearch recursive targets) :=
  (returns_view _).bind fun _ =>
    holds_ite ((Returns.mapM fun path _ => returns_filesBelow path).returning _) (returns_pure _)

theorem returns_grepFiles (options : GrepOptions) (files : List String) :
    Returns I (grepFiles options files) :=
  (Returns.mapM fun path _ => returns_grepFile options path).bind fun _ =>
    holds_ite (returns_pure _) (holds_ite (returns_pure _) (returns_pure _))

/-! ## Help -/

theorem returns_helpInGeneral : Returns I helpInGeneral := by
  refine (returns_look_attempt _).bind fun result => ?_
  cases result with
  | ok content => exact returns_print _
  | error reason => exact (returns_print _).bind fun _ => returns_print _

theorem returns_printTopics : Returns I printTopics := by
  have htopics : ∀ topics : List String, Returns I (if topics.isEmpty then
      print "No help topics installed. Try running: init"
    else do
      print "Available help topics:"
      print ("  " ++ Text.join ", " topics)) := fun topics =>
    holds_ite (returns_print _) ((returns_print _).bind fun _ => returns_print _)
  refine (returns_look_attempt _).bind fun result => ?_
  cases result with
  | ok listing => exact htopics (topicsIn listing)
  | error reason => exact htopics []

theorem returns_helpOn (topic : String) : Returns I (helpOn topic) := by
  refine (returns_look_attempt _).bind fun result => ?_
  cases result with
  | ok content => exact returns_print _
  | error reason => exact (returns_print _).bind fun _ => returns_printTopics

theorem returns_help (args : List String) : Returns I (help args) := by
  unfold help
  dsimp only
  split
  · exact returns_helpInGeneral.returning _
  · exact (returns_helpOn _).returning _

/-! ## Settings -/

theorem returns_recordSearch : Returns Opened recordSearch :=
  returns_environment.bind fun _ => returns_writeSettings _ _

theorem returns_recordDisplay : Returns Opened recordDisplay :=
  returns_environment.bind fun _ => returns_writeSettings _ _

theorem returns_removeAlias (name : String) : Returns Opened (removeAlias name) :=
  returns_environment.bind fun _ =>
    holds_ite ((returns_withEnvironment _).bind fun _ => returns_recordSearch.returning _)
      (returns_pure _)

theorem returns_setDisplay (name text : String) : Returns Opened (setDisplay name text) :=
  returns_environment.bind fun _ => (returns_withEnvironment _).bind fun _ =>
    returns_recordDisplay.returning _

theorem returns_resetDisplay : Returns Opened resetDisplay :=
  returns_bounds.bind fun _ => (returns_withEnvironment _).bind fun _ => returns_recordDisplay

theorem returns_showConfig : Returns I showConfig :=
  (returns_print _).bind fun _ => returns_environment.bind fun _ =>
    (returns_print _).bind fun _ => (returns_printLines _).returning _

theorem returns_getConfig (name : String) : Returns I (getConfig name) := by
  refine returns_environment.bind fun e => ?_
  split
  · exact (returns_print _).returning _
  · exact returns_failWith _

theorem returns_config (args : List String) : Returns Opened (config args) := by
  unfold config
  dsimp only
  refine holds_ite returns_showConfig (holds_ite ?_ (holds_ite ?_ (holds_ite ?_ ?_)))
  · split
    · exact returns_getConfig _
    · exact returns_failWith _
  · exact holds_ite ((returns_print _).returning _)
      ((returns_setDisplay _ _).bind fun _ => (returns_print _).returning _)
  · exact returns_resetDisplay.bind fun _ => (returns_print _).returning _
  · exact (returns_print _).bind fun _ => (returns_printLines _).returning _

theorem returns_printAliases : Returns I printAliases :=
  returns_environment.bind fun _ => .forM fun _ _ => returns_print _

theorem returns_printAlias (name : String) : Returns I (printAlias name) := by
  refine returns_environment.bind fun e => ?_
  split
  · exact (returns_print _).returning _
  · exact (returns_print _).returning _

theorem returns_defineAlias (name target : String) : Returns Opened (defineAlias name target) :=
  holds_ite (Returns.returning ((returns_withEnvironment _).bind fun _ => returns_recordSearch) _)
    ((returns_print _).returning _)

theorem returns_aliasArgument (argument : String) : Returns Opened (aliasArgument argument) := by
  unfold aliasArgument
  split
  · exact returns_defineAlias _ _
  · exact returns_printAlias _

theorem returns_makeAlias (args : List String) : Returns Opened (makeAlias args) :=
  holds_ite (returns_printAliases.returning _)
    ((Returns.mapM fun argument _ => returns_aliasArgument argument).returning _)

theorem returns_unaliasArgument (name : String) : Returns Opened (unaliasArgument name) :=
  (returns_removeAlias name).bind fun _ =>
    holds_ite (returns_pure _) ((returns_print _).returning _)

theorem returns_dropAlias (args : List String) : Returns Opened (dropAlias args) :=
  holds_ite (returns_missingOperand _ _)
    ((Returns.mapM fun name _ => returns_unaliasArgument name).bind fun _ =>
      holds_ite (returns_pure _) (returns_pure _))

theorem returns_history : Returns I history :=
  returns_environment.bind fun _ => (returns_printLines _).returning _

theorem returns_date : Returns I date :=
  returns_get.bind fun _ => (returns_print _).returning _

/-! ## Commands that nothing stops -/

/-- The commands that a fault may stop. -/
def mayStop : Builtin → Bool
  | .find | .grep | .delay | .init => true
  | _ => false

/-- **Most commands come to their end, whatever the arguments are and whatever is in the tree.** -/
theorem returns_builtin {command : Builtin} (hcommand : mayStop command = false)
    (args : List String) : Returns Opened (command.run args) := by
  cases command with
  | ls => exact returns_ls args
  | cd => exact (refusable_change_opened _).reporting "cd"
  | pwd => exact (returns_view _).bind fun _ => (returns_print _).returning _
  | mkdir => exact returns_operands (fun _ => refusable_change_opened _) _ _ _
  | rmdir => exact returns_operands (fun _ => refusable_change_opened _) _ _ _
  | touch => exact returns_operands refusable_touchFile _ _ _
  | cat => exact returns_operands refusable_printFile _ _ _
  | rm => exact returns_rm args
  | mv => exact returns_mv args
  | copy => exact returns_copy args
  | help => exact returns_help args
  | exit => exact (returns_print _).returning _
  | cls => exact returns_pure _
  | date => exact returns_date
  | config => exact returns_config args
  | makeAlias => exact returns_makeAlias args
  | dropAlias => exact returns_dropAlias args
  | history => exact returns_history
  | find | grep | delay | init => exact nomatch hcommand

end TreeShell.Shell
