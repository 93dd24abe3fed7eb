import TreeShell.Dispatch.Basic
import TreeShell.Proofs.Dispatch.Handled
import TreeShell.Proofs.PathMap.Refinement
import TreeShell.Proofs.Path.Resolution
import TreeShell.Proofs.Words.BareWord

/-!
# Where a bare word leads

A line that is one bare word without separators, in a session without aliases, can lead to three
places: to the command registered for the word, to a program of the search path, or nowhere. These
are equations between runs, so whatever the command or the program does is what the line does. That
a built-in command is the end of the way rests on `handles_builtin`: one that took itself for none
would send the line on to the search path.
-/

set_option autoImplicit false

namespace TreeShell

/-! ## Programs on the search path -/

theorem Text.mem_sorted {name : String} {names : List String} : name ∈ sorted names ↔ name ∈ names :=
  List.mem_mergeSort

namespace SearchPath

/-- A folder of the search path has a file of a name. -/
def Holds (path : SearchPath) (s : Snapshot) (folder file : String) : Prop :=
  folder ∈ path.folders ∧ ∃ listing, s.list folder = .ok listing ∧ file ∈ listing.files

variable {path : SearchPath} {s : Snapshot} {file folder command program : String}

theorem locate?_eq_some_iff {found : String} :
    locate? s file folder = some found ↔
      (∃ listing, s.list folder = .ok listing ∧ file ∈ listing.files) ∧
        found = Path.join folder file := by
  unfold locate?
  cases s.list folder with
  | error reason => simp
  | ok listing => simp [eq_comm]

theorem find?_eq_findSome? (hne : command ≠ "") (hsep : '/' ∉ command.toList) :
    path.find? s command = path.folders.findSome? (locate? s (fileFor command)) := by
  simp [find?, hne, hsep]

/-- What is found is the file that is looked for, in a folder of the search path. -/
theorem holds_of_find? (hne : command ≠ "") (hsep : '/' ∉ command.toList)
    (h : path.find? s command = some program) :
    ∃ folder, path.Holds s folder (fileFor command) ∧
      program = Path.join folder (fileFor command) := by
  rw [find?_eq_findSome? hne hsep] at h
  obtain ⟨folder, hfolder, hlocate⟩ := List.exists_of_findSome?_eq_some h
  obtain ⟨hlisted, hprogram⟩ := locate?_eq_some_iff.mp hlocate
  exact ⟨folder, ⟨hfolder, hlisted⟩, hprogram⟩

/-- Nothing is found only if no folder has the file that is looked for. -/
theorem find?_eq_none_iff (hne : command ≠ "") (hsep : '/' ∉ command.toList) :
    path.find? s command = none ↔ ∀ folder, ¬ path.Holds s folder (fileFor command) := by
  rw [find?_eq_findSome? hne hsep, List.findSome?_eq_none_iff]
  refine forall_congr' fun folder => ?_
  rw [Holds, not_and]
  refine imp_congr_right fun _ => ?_
  rw [Option.eq_none_iff_forall_ne_some]
  constructor
  · exact fun h hlisted => h _ (locate?_eq_some_iff.mpr ⟨hlisted, rfl⟩)
  · exact fun h found hfound => h (locate?_eq_some_iff.mp hfound).1

/-- The commands of the search path are those of the files its folders have. -/
theorem mem_commands_iff {name : String} :
    name ∈ path.commands s ↔
      name ≠ "" ∧ ∃ folder file, path.Holds s folder file ∧ commandOf? file = some name := by
  rw [commands, List.mem_eraseDups, Text.mem_sorted, List.mem_flatMap]
  constructor
  · rintro ⟨folder, hfolder, hname⟩
    unfold commandsIn at hname
    cases hlist : s.list folder with
    | error reason =>
      rw [hlist] at hname
      exact nomatch hname
    | ok listing =>
      rw [hlist] at hname
      obtain ⟨hmem, hne⟩ := List.mem_filter.mp hname
      obtain ⟨file, hfile, hcommand⟩ := List.mem_filterMap.mp hmem
      exact ⟨of_decide_eq_true hne, folder, file, ⟨hfolder, listing, hlist, hfile⟩, hcommand⟩
  · rintro ⟨hne, folder, file, ⟨hfolder, listing, hlist, hfile⟩, hcommand⟩
    refine ⟨folder, hfolder, ?_⟩
    rw [commandsIn, hlist]
    exact List.mem_filter.mpr ⟨List.mem_filterMap.mpr ⟨file, hfile, hcommand⟩, decide_eq_true hne⟩

/-- The program of a file that a folder of the search path has can be read. -/
theorem Holds.exists_read (h : path.Holds s folder file) (hs : s.WellFormed) :
    ∃ content, s.read (Path.join folder file) = .ok content := by
  obtain ⟨hfolder, listing, hlist, hfile⟩ := h
  have habsolute : Path.isAbsolute folder = true := (List.mem_filter.mp hfolder).2
  have hname := hs.isName_of_list hlist (Or.inr hfile)
  obtain ⟨content, hentry⟩ := ((Snapshot.lists_of_list hs hlist).mem_files file).mp hfile
  refine ⟨content, Snapshot.read_of_entry hs ?_⟩
  rw [Snapshot.resolve, Path.resolve_join habsolute hname]
  exact hentry

end SearchPath

theorem Aliases.expand_nil (depth : Nat) (call : Command) : Aliases.expand [] depth call = call := by
  cases depth with
  | zero => rfl
  | succ depth => rfl

theorem isInvocation_eq_false {command : String} (h : '/' ∉ command.toList) (extension : String) :
    isInvocation command extension = false := by
  have hhere : Text.startsWith command hereMark = false :=
    Bool.eq_false_iff.mpr fun hstart =>
      h ((List.isPrefixOf_iff_prefix.mp hstart).subset (by decide))
  simp [isInvocation, hhere]

namespace Shell

/-- How many levels of commands there are below a line that is dispatched in a session. -/
def levelsBelow (s : Session) : Nat :=
  s.config.shell.maxScriptDepth + 1999

theorem run_levels_bind {α : Type} (next : Nat → Shell α) (s : Session) :
    (levels >>= next).run s = (next (levelsBelow s + 1)).run s := by
  have hlevels : s.config.shell.maxScriptDepth + 2000 = levelsBelow s + 1 := by
    rw [levelsBelow]
  rw [← hlevels]
  rfl

theorem run_dispatch (line : String) (s : Session) :
    (dispatch line).run s =
      (dispatchLine (registered (levelsBelow s)) (runnerIn (levelsBelow s)) line).run s := by
  rw [dispatch, run_levels_bind, dispatchIn]
  rfl

/-- A command that names neither a script nor a program by its path is looked up. -/
theorem registered_command (call : Command)
    (hscript : isInvocation call.name scriptExtension = false)
    (hprogram : isInvocation call.name programExtension = false) (levels : Nat) :
    registered (levels + 1) call = runRegistered (runnerIn levels) call := by
  rw [registered, hscript, hprogram, if_neg Bool.false_ne_true, if_neg Bool.false_ne_true]
  rfl

variable {s : Session} {name : String}

theorem runRegistered_of_find? {runner : Runner} (call : Command) {handler : Handler}
    (hfound : s.registry.find? call.name = some handler) :
    (runRegistered runner call).run s = (handler.run runner call).run s := by
  rw [runRegistered, run_get_bind, hfound]

theorem runRegistered_of_free {runner : Runner} (call : Command)
    (hfree : s.registry.find? call.name = none) :
    (runRegistered runner call).run s = (.ok (.unhandled none), s) := by
  rw [runRegistered, run_get_bind, hfree]
  rfl

/-- Running a program that can be read is running the text it has then. -/
theorem run_runProgram {program content : String}
    (hread : s.files.snapshot.read program = .ok content) (runner : Runner)
    (args : List String) (invokedAs? : Option String) :
    (runProgram runner program args invokedAs?).run s =
      (runProgramText runner program content ⟨calledAs program invokedAs?, args⟩).run s := by
  rw [runProgram, run_bind, run_attempt_look, hread]

theorem run_expandAliases (haliases : s.environment.aliases = []) (call : Command) :
    (expandAliases call).run s = (.ok call, s) := by
  have hexpand : (expandAliases call).run s =
      (.ok (s.environment.aliases.expand s.config.shell.maxAliasDepth call), s) := rfl
  rw [hexpand, haliases, Aliases.expand_nil]

/-- A bare word is run as it was typed, however commands are run. -/
theorem run_dispatchLine (hname : IsBareWord name) (hsep : '/' ∉ name.toList)
    (haliases : s.environment.aliases = []) (run : Command → Shell Outcome) (runner : Runner) :
    (dispatchLine run runner (name ++ " ")).run s = match (run ⟨name, []⟩).run s with
      | (.ok (.unhandled _), s) => (runOnPath runner name ⟨name, []⟩).run s
      | result => result := by
  rw [dispatchLine, hname.isCommentOrBlank_line hsep, if_neg Bool.false_ne_true, hname.parse_line]
  dsimp only
  rw [run_bind, run_expandAliases haliases]
  dsimp only
  rw [run_bind]
  generalize (run ⟨name, []⟩).run s = result
  obtain ⟨result, after⟩ := result
  cases result with
  | error fault => rfl
  | ok outcome => cases outcome <;> rfl

theorem exists_registered_levelsBelow (hsep : '/' ∉ name.toList) (s : Session) :
    ∃ below, registered (levelsBelow s) ⟨name, []⟩ = runRegistered (runnerIn below) ⟨name, []⟩ := by
  obtain ⟨below, hbelow⟩ : ∃ below, levelsBelow s = below + 1 :=
    Nat.exists_eq_succ_of_ne_zero (by simp [levelsBelow])
  refine ⟨below, ?_⟩
  rw [hbelow]
  exact registered_command ⟨name, []⟩ (isInvocation_eq_false hsep _) (isInvocation_eq_false hsep _)
    below

/-! ## The three places -/

/-- A line that is the word of a built-in command is that command. -/
theorem run_dispatch_builtin {command : Builtin} (hname : IsBareWord name)
    (hsep : '/' ∉ name.toList) (haliases : s.environment.aliases = [])
    (hfound : s.registry.find? name = some (.builtin command)) :
    (dispatch (name ++ " ")).run s = (command.run []).run s := by
  obtain ⟨below, hbelow⟩ := exists_registered_levelsBelow hsep s
  have hrun : (runRegistered (runnerIn below) ⟨name, []⟩).run s = (command.run []).run s := by
    rw [runRegistered_of_find? ⟨name, []⟩ hfound]
    rfl
  rw [run_dispatch, run_dispatchLine hname hsep haliases, hbelow, hrun]
  have hhandles := handles_builtin command [] s
  generalize (command.run []).run s = result at hhandles
  obtain ⟨result, after⟩ := result
  cases result with
  | error fault => rfl
  | ok outcome =>
    cases outcome with
    | unhandled cause => exact absurd rfl (hhandles cause after)
    | _ => rfl

theorem run_dispatch_free (hname : IsBareWord name) (hsep : '/' ∉ name.toList)
    (haliases : s.environment.aliases = []) (hfree : s.registry.find? name = none) :
    (dispatch (name ++ " ")).run s =
      (runOnPath (runnerIn (levelsBelow s)) name ⟨name, []⟩).run s := by
  obtain ⟨below, hbelow⟩ := exists_registered_levelsBelow hsep s
  rw [run_dispatch, run_dispatchLine hname hsep haliases, hbelow,
    runRegistered_of_free ⟨name, []⟩ hfree]

/-- A line that is the word of no command is the program that is found for it. -/
theorem run_dispatch_program {program content : String} (hname : IsBareWord name)
    (hsep : '/' ∉ name.toList) (haliases : s.environment.aliases = [])
    (hfree : s.registry.find? name = none)
    (hprogram : s.environment.path.find? s.files.snapshot name = some program)
    (hread : s.files.snapshot.read program = .ok content) :
    (dispatch (name ++ " ")).run s =
      (runProgramText (runnerIn (levelsBelow s)) program content ⟨name, []⟩).run s := by
  have hne : name ≠ "" := fun hempty => hname.ne_nil (by rw [hempty]; rfl)
  have hcalled : calledAs program (some name) = name := if_neg hne
  rw [run_dispatch_free hname hsep haliases hfree, runOnPath, run_environment_bind, run_view_bind,
    hprogram]
  dsimp only
  rw [run_runProgram hread, hcalled]

/-- Without either there is nothing to run. -/
theorem run_dispatch_nothing (hname : IsBareWord name) (hsep : '/' ∉ name.toList)
    (haliases : s.environment.aliases = []) (hfree : s.registry.find? name = none)
    (hnone : s.environment.path.find? s.files.snapshot name = none) :
    ∃ after, (dispatch (name ++ " ")).run s =
      (.ok (.unhandled (some (.commandNotFound name))), after) := by
  rw [run_dispatch_free hname hsep haliases hfree, runOnPath, run_environment_bind, run_view_bind,
    hnone]
  exact ⟨_, rfl⟩

end Shell

end TreeShell
