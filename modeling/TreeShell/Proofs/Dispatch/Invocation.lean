import TreeShell.Proofs.Script.Execution

/-!
# The file a command word names by its path

A command word such as `./greet.msh` is run without its first two characters: what is left is
resolved against the current folder. That leads where the word itself leads, since `./` only stays
(`resolve_eq_invokedPlace`), with one exception. Of `.//greet.msh` the absolute path `/greet.msh` is
left, and so a file at the root is run in place of the one in the current folder
(`not_invocation_reads_typed_path`).
-/

set_option autoImplicit false

namespace TreeShell

/-! ## Where it leads -/

/-- The place a command word leads to that names a file by its path. The path is resolved as it is
written, but from the root if there is a second separator right after the first. -/
def invokedPlace (cwd : List String) (command : String) : List String :=
  if Text.startsWith command ".//" then Path.resolve [] command else Path.resolve cwd command

theorem Path.resolve_here_append (cwd : List String) (path : String) :
    resolve cwd (hereMark ++ path) = (Text.split '/' path).foldl step cwd := by
  have hsplit : Text.split '/' (hereMark ++ path) = "." :: Text.split '/' path :=
    Text.split_append_sep "." path
  have hrelative : isAbsolute (hereMark ++ path) = false := isAbsolute_append (by decide) path
  rw [resolve, hsplit, hrelative, List.foldl_cons, step_dot]
  rfl

theorem startsWith_here_append (path : String) :
    Text.startsWith (hereMark ++ path) ".//" = Path.isAbsolute path := by
  rw [Text.startsWith, String.toList_append, Path.isAbsolute]
  cases path.toList with
  | nil => rfl
  | cons c rest => simp [hereMark, List.isPrefixOf_cons_cons, eq_comm]

/-- What is left of a command word leads where the word does, from the folder or from the root. -/
theorem resolve_eq_invokedPlace (cwd : List String) (path : String) :
    Path.resolve cwd path = invokedPlace cwd (hereMark ++ path) := by
  rw [invokedPlace, startsWith_here_append, Path.resolve_here_append, Path.resolve_here_append,
    Path.resolve]
  split <;> rfl

theorem exists_of_isInvocation {command extension : String}
    (h : isInvocation command extension = true) : ∃ path, command = hereMark ++ path := by
  rw [isInvocation, Bool.and_eq_true, Bool.and_eq_true] at h
  obtain ⟨path, hpath⟩ := List.isPrefixOf_iff_prefix.mp h.1.1
  refine ⟨.ofList path, String.toList_injective ?_⟩
  rw [String.toList_append, String.toList_ofList, hpath]

theorem dropFirst_here_append (path : String) :
    Text.dropFirst hereMark.length (hereMark ++ path) = path := by
  rw [Text.dropFirst, String.toList_append, ← String.length_toList, List.drop_left,
    String.ofList_toList]

theorem areNames_invokedPlace {cwd : List String} (h : Path.AreNames cwd) (command : String) :
    Path.AreNames (invokedPlace cwd command) := by
  unfold invokedPlace
  split
  · exact Path.areNames_resolve Path.areNames_nil command
  · exact Path.areNames_resolve h command

/-- The path that is read is the path of the place. -/
theorem invokedPath_eq {s : Snapshot} {command extension : String} (hcwd : Path.AreNames s.cwd)
    (h : isInvocation command extension = true) :
    invokedPath s command = Path.display (invokedPlace s.cwd command) := by
  obtain ⟨path, rfl⟩ := exists_of_isInvocation h
  rw [invokedPath, dropFirst_here_append, Path.normalize, Snapshot.cwdPath,
    Path.segments_display hcwd, resolve_eq_invokedPlace]

namespace Snapshot

variable {s : Snapshot} {place : List String}

/-- The file at a place is read by the path of the place. -/
theorem read_display_of_file {file : File} (hplace : Path.AreNames place)
    (hfile : s.fileAt? place = some file) : s.read (Path.display place) = .ok file.content := by
  rw [read, resolve, Path.resolve_display_of_areNames hplace, hfile]

theorem read_display_of_none (hplace : Path.AreNames place) (hnone : s.fileAt? place = none) :
    s.read (Path.display place) = .error (.cannotRead (Path.display place)) := by
  rw [read, resolve, Path.resolve_display_of_areNames hplace, hnone]

end Snapshot

/-! ## What is run -/

namespace Shell

/-- A step runs what the file at a place holds. If no file is there, it tells so of what was called,
and fails. -/
structure RunsFileAt (s : Session) (place : List String) (called : String)
    (runs : String → Shell Outcome) (step : Shell Outcome) : Prop where
  found : ∀ file, s.files.snapshot.fileAt? place = some file →
    step.run s = (runs file.content).run s
  missing : s.files.snapshot.fileAt? place = none →
    step.run s = (.ok (.failure (some (.files (.cannotRead (Path.display place))))),
      s.printed ["exec: " ++ called ++ ": " ++
        (FileError.cannotRead (Path.display place)).message, ""])

variable {s : Session} {place : List String} {name called : String} {runs : String → Shell Outcome}

theorem RunsFileAt.of_run {step other : Shell Outcome} (h : RunsFileAt s place called runs step)
    (hrun : other.run s = step.run s) : RunsFileAt s place called runs other where
  found file hfile := hrun.trans (h.found file hfile)
  missing hnone := hrun.trans (h.missing hnone)

theorem runProgram_unreadable {path : String} {reason : FileError}
    (hread : s.files.snapshot.read path = .error reason) (runner : Runner)
    (args : List String) (invokedAs? : Option String) :
    (runProgram runner path args invokedAs?).run s = (.ok (.failure (some (.files reason))),
      s.printed ["exec: " ++ path ++ ": " ++ reason.message, ""]) := by
  rw [runProgram, run_bind, run_attempt_look, hread]
  dsimp only
  rw [run_bind, run_printLines]
  rfl

theorem runsFileAt_runScriptAt (hplace : Path.AreNames place)
    (hdepth : s.scriptDepth < s.config.shell.maxScriptDepth) (run : Command → Shell Outcome) :
    RunsFileAt s place name (runText run name (Path.display place))
      (runScriptAt run name (Path.display place)) where
  found file hfile := by
    rw [run_runScriptAt (Snapshot.read_display_of_file hplace hfile), runContent_admitted hdepth]
  missing hnone := runScriptAt_unreadable hdepth (Snapshot.read_display_of_none hplace hnone)

theorem runsFileAt_runProgram (hplace : Path.AreNames place) (hname : name ≠ "")
    (runner : Runner) (args : List String) :
    RunsFileAt s place (Path.display place)
      (fun text => runProgramText runner (Path.display place) text ⟨name, args⟩)
      (runProgram runner (Path.display place) args (some name)) where
  found file hfile := by
    have hcalled : calledAs (Path.display place) (some name) = name := if_neg hname
    rw [run_runProgram (Snapshot.read_display_of_file hplace hfile), hcalled]
  missing hnone := runProgram_unreadable (Snapshot.read_display_of_none hplace hnone) _ _ _

/-- No command word has both extensions. -/
theorem isInvocation_script_of_program (h : isInvocation name programExtension = true) :
    isInvocation name scriptExtension = false := by
  have hprogram : programExtension.toList <:+ name.toList := by
    rw [isInvocation, Bool.and_eq_true, Bool.and_eq_true] at h
    exact List.isSuffixOf_iff_suffix.mp h.1.2
  have hscript : Text.endsIn name scriptExtension = false := by
    rw [Text.endsIn, Bool.eq_false_iff]
    intro hends
    rcases List.suffix_or_suffix_of_suffix hprogram (List.isSuffixOf_iff_suffix.mp hends) with h | h
    · exact absurd h (by decide)
    · exact absurd h (by decide)
  rw [isInvocation, hscript, Bool.and_false, Bool.false_and]

theorem run_registered_programHere {call : Command}
    (hprogram : isInvocation call.name programExtension = true) (levels : Nat) (s : Session) :
    (registered (levels + 1) call).run s =
      (runProgram (runnerIn levels) (invokedPath s.files.snapshot call.name) call.args
        (some call.name)).run s := by
  rw [registered, isInvocation_script_of_program hprogram, if_neg Bool.false_ne_true,
    if_pos hprogram, runProgramHere, run_view_bind]
  rfl

/-- **A command word that names a file runs that file.** The place is the one that the word, as it
is written, leads to from the current folder, whatever pieces it is of, unless it begins with `.//`.
A script is read only if not too many are running. -/
theorem invocation_runs_file (hcwd : Path.AreNames s.files.snapshot.cwd) (call : Command)
    (levels : Nat) :
    let place := invokedPlace s.files.snapshot.cwd call.name
    (isInvocation call.name scriptExtension = true →
      (s.scriptDepth < s.config.shell.maxScriptDepth →
        RunsFileAt s place call.name
          (runText (registered levels) call.name (Path.display place))
          (registered (levels + 1) call)) ∧
      (s.config.shell.maxScriptDepth ≤ s.scriptDepth →
        (registered (levels + 1) call).run s =
          (.ok (.failure (some (.nestedTooDeeply call.name (Path.display place)))),
            s.printed ["msh: " ++
              (Fault.nestedTooDeeply call.name (Path.display place)).message]))) ∧
    (isInvocation call.name programExtension = true →
      RunsFileAt s place (Path.display place)
        (fun text => runProgramText (runnerIn levels) (Path.display place) text call)
        (registered (levels + 1) call)) := by
  have hplace := areNames_invokedPlace hcwd call.name
  intro place
  refine ⟨fun hscript => ⟨fun hdepth => ?_, fun hdepth => ?_⟩, fun hprogram => ?_⟩
  · refine (runsFileAt_runScriptAt hplace hdepth (registered levels)).of_run ?_
    rw [run_registered_script hscript, invokedPath_eq hcwd hscript]
  · rw [run_registered_script hscript, invokedPath_eq hcwd hscript]
    exact runScriptAt_refused hdepth
  · have hname := name_ne_empty_of_isInvocation hprogram
    refine (runsFileAt_runProgram hplace hname (runnerIn levels) call.args).of_run ?_
    rw [run_registered_programHere hprogram, invokedPath_eq hcwd hprogram]

/-- A session in a folder with a script, and with another script of its name at the root. -/
def twinSession : Session :=
  .fresh {} ⟨⟨⟨"/", [⟨"home", [], [⟨"x.msh", "show here"⟩]⟩], [⟨"x.msh", "show root"⟩]⟩, ["home"]⟩,
    some .empty, "tree"⟩ (Registry.addRecorder [] ⟨"X", ["show"], []⟩) {} ⟨2024, 1, 1, 0, 0, 0, 0⟩

theorem invocation_runs_file_twin :
    Path.AreNames twinSession.files.snapshot.cwd ∧
      isInvocation "./.././home//./x.msh" scriptExtension = true ∧
      RunsFileAt twinSession ["home", "x.msh"] "./.././home//./x.msh"
        (runText (registered 1) "./.././home//./x.msh" (Path.display ["home", "x.msh"]))
        (registered 2 ⟨"./.././home//./x.msh", []⟩) := by
  have hcwd : Path.AreNames twinSession.files.snapshot.cwd := by decide
  have hscript : isInvocation "./.././home//./x.msh" scriptExtension = true := by decide
  have hplace : invokedPlace twinSession.files.snapshot.cwd "./.././home//./x.msh" =
      ["home", "x.msh"] := by decide
  have hdepth : twinSession.scriptDepth < twinSession.config.shell.maxScriptDepth := by decide
  have hruns := ((invocation_runs_file hcwd ⟨"./.././home//./x.msh", []⟩ 1).1 hscript).1 hdepth
  rw [hplace] at hruns
  exact ⟨hcwd, hscript, hruns⟩

/-- A second separator after the first leads away from the current folder: the script there is the
one the path names, and the one at the root is run. -/
theorem not_invocation_reads_typed_path :
    ¬ ∀ (s : Session) (call : Command) (levels : Nat) (file : File),
      Path.AreNames s.files.snapshot.cwd → isInvocation call.name scriptExtension = true →
      s.scriptDepth < s.config.shell.maxScriptDepth →
      s.files.snapshot.fileAt? (s.files.snapshot.resolve call.name) = some file →
      (registered (levels + 1) call).run s =
        (runText (registered levels) call.name
          (Path.display (s.files.snapshot.resolve call.name)) file.content).run s := by
  intro htyped
  have hplace : twinSession.files.snapshot.resolve ".//x.msh" = ["home", "x.msh"] := by decide
  have hfile : twinSession.files.snapshot.fileAt? (twinSession.files.snapshot.resolve ".//x.msh") =
      some ⟨"x.msh", "show here"⟩ := by
    rw [hplace]
    rfl
  have hsame := congrArg (fun ended => ended.2.console.output)
    (htyped twinSession ⟨".//x.msh", []⟩ 1 ⟨"x.msh", "show here"⟩ (by decide) (by decide)
      (by decide) hfile)
  have hroot : ((registered (1 + 1) ⟨".//x.msh", []⟩).run twinSession).2.console.output =
      ["X:show|root"] := by decide +kernel
  dsimp only at hsame
  rw [hroot, hplace] at hsame
  have hhere : ((runText (registered 1) ".//x.msh" (Path.display ["home", "x.msh"])
      "show here").run twinSession).2.console.output = ["X:show|here"] := by decide +kernel
  rw [hhere] at hsame
  exact absurd hsame (by decide)

end Shell

end TreeShell
