import TreeShell.Proofs.Script.Execution

/-!
# The laws of executing scripts

The text of a script is executed up to its first line that fails, or that is `exit` or runs a script
that comes to an `exit`, or that is stopped by a fault which is not ordinary. Nothing after that
line is looked at (`stops`), and what the lines before it did stays done (`Failure.atLine`). A text
that succeeds can have another one put after it, which is then executed where the first has led;
only the numbers of its lines are counted on (`Renumbered`).

A script that can be read is executed as it was when it was called, whatever its lines do to the
file (`invoked`).
-/

set_option autoImplicit false

namespace TreeShell.Script

open Shell

/-- Executes lines as lines of a script, counted from a number on. -/
def execLines (levels : Nat) (name path : String) (number : Nat) (lines : List String)
    (s : Session) : Execution Outcome :=
  executed (deeper (runLines (registered levels) name path number lines)) s

/-- Executes a text as a script: all its lines one script deeper, unless too many scripts are
running. -/
def exec (levels : Nat) (name path text : String) (s : Session) : Execution Outcome :=
  executed (runContent (registered levels) name path text) s

/-! ## What the laws say -/

/-- Two executions that differ at most in the number of the line a script was stopped at, which is
`shift` more in the second: in what was reported and in the failure. -/
inductive Renumbered (name path : String) (shift : Nat) :
    Execution Outcome → Execution Outcome → Prop
  | unstopped (e : Execution Outcome)
      (hresult : ∀ outcome, e.result = .ok outcome → outcome.ok = true) :
      Renumbered name path shift e e
  | stopped (number : Nat) (line : String) (cause : Fault) (output : List String)
      (after : Session) :
      Renumbered name path shift
        ⟨.ok (.failure (some (.lineFailed name number path cause))),
          output ++ stoppedReport name number line cause, after⟩
        ⟨.ok (.failure (some (.lineFailed name (shift + number) path cause))),
          output ++ stoppedReport name (shift + number) line cause, after⟩

/-- A command that is the built-in `exit` in a session. -/
structure CallsExit (s : Session) (call : Command) : Prop where
  named : call.name ≠ ""
  noScript : isInvocation call.name scriptExtension = false
  noProgram : isInvocation call.name programExtension = false
  found : s.registry.find? call.name = some (.builtin .exit)

/-- The text of a script, executed in a session, comes to a line that is `exit`, or to one that runs
a script whose text does; with what was printed until then, and the session that is left. -/
inductive ExecutesExit : Nat → String → String → String → Session → List String → Session → Prop
  | here {levels : Nat} {name path text line : String} {before rest printed : List String}
      {s reached : Session}
      (hadmitted : s.scriptDepth < s.config.shell.maxScriptDepth)
      (hlines : Text.lines text = before ++ line :: rest)
      (hbefore : execLines (levels + 1) name path 1 before s = ⟨.ok .success, printed, reached⟩)
      (hcommand : isCommentOrBlank line = false)
      (hexit : CallsExit reached (Command.parse (Text.trim line))) :
      ExecutesExit (levels + 1) name path text s (printed ++ ["Bye..."]) reached
  | nested {levels : Nat} {name path text line content : String}
      {before rest printed told : List String} {s reached after : Session} {call : Command}
      (hadmitted : s.scriptDepth < s.config.shell.maxScriptDepth)
      (hlines : Text.lines text = before ++ line :: rest)
      (hbefore : execLines (levels + 1) name path 1 before s = ⟨.ok .success, printed, reached⟩)
      (hcommand : isCommentOrBlank line = false)
      (hcall : Command.parse (Text.trim line) = call)
      (hscript : isInvocation call.name scriptExtension = true)
      (hread : reached.files.snapshot.read (invokedPath reached.files.snapshot call.name) =
        .ok content)
      (hinner : ExecutesExit levels call.name (invokedPath reached.files.snapshot call.name)
        content reached.inner told after) :
      ExecutesExit (levels + 1) name path text s (printed ++ told) after.outer

/-- What there is to say about a script that failed: it was refused, because too many scripts were
running; or one of its lines failed, after all lines before it had succeeded. Then the session is
the one that line left, and the number is that of the line in the text as it is written, from one
on. -/
inductive Failure (levels : Nat) (name path text : String) (s : Session) :
    Execution Outcome → Prop
  | refused (hdepth : s.config.shell.maxScriptDepth ≤ s.scriptDepth) :
      Failure levels name path text s ⟨.ok (.failure (some (.nestedTooDeeply name path))),
        ["msh: " ++ (Fault.nestedTooDeeply name path).message], s.silent⟩
  | atLine {before rest printed told : List String} {line : String} {reached after : Session}
      {outcome : Outcome} {cause : Fault}
      (hadmitted : s.scriptDepth < s.config.shell.maxScriptDepth)
      (hlines : Text.lines text = before ++ line :: rest)
      (hbefore : execLines levels name path 1 before s = ⟨.ok .success, printed, reached⟩)
      (hcommand : isCommentOrBlank line = false)
      (hline : executed (deeper (strict (registered levels) (Command.parse (Text.trim line))))
        reached = ⟨.ok outcome, told, after⟩)
      (hcause : outcome.failedWith? = some cause) :
      Failure levels name path text s
        ⟨.ok (.failure (some (.lineFailed name (before.length + 1) path cause))),
          printed ++ told ++ stoppedReport name (before.length + 1) line cause, after⟩

/-- What executing scripts keeps to. -/
structure Lawful (name : String) : Prop where
  /-- A text after one that succeeds is executed where that has led. -/
  composes : ∀ levels path a b s output after, a.toList.getLast? ≠ some '\r' →
    exec levels name path a s = ⟨.ok .success, output, after⟩ →
    Renumbered name path (Text.lines a).length
      ((exec levels name path b after).following output)
      (exec levels name path (a ++ "\n" ++ b) s)
  /-- A text after one that does not succeed, or that asks to stop, is not looked at. -/
  stops : ∀ levels path a b s, a.toList.getLast? ≠ some '\r' →
    (exec levels name path a s).result ≠ .ok .success →
    exec levels name path (a ++ "\n" ++ b) s = exec levels name path a s
  /-- A text that comes to an `exit` asks to stop, there and then. -/
  exits : ∀ levels path text s output after, ExecutesExit levels name path text s output after →
    exec levels name path text s = ⟨.ok .stop, output, after⟩
  /-- A text that fails was refused or has a line that fails. -/
  fails : ∀ levels path text s outcome, (exec levels name path text s).result = .ok outcome →
    outcome.ok = false → Failure levels name path text s (exec levels name path text s)
  /-- A script that can be read is executed as it was when it was called. -/
  invoked : ∀ levels path? s text,
    s.files.snapshot.read (path?.getD (invokedPath s.files.snapshot name)) = .ok text →
    executed (runScript (registered levels) name path?) s =
      exec levels name (path?.getD (invokedPath s.files.snapshot name)) text s
  /-- So is a script that is run from outside, with all levels of commands below it. -/
  started : ∀ path? s text,
    s.files.snapshot.read (path?.getD (invokedPath s.files.snapshot name)) = .ok text →
    executed (script name path?) s =
      exec (levelsBelow s + 1) name (path?.getD (invokedPath s.files.snapshot name)) text s

variable {levels number : Nat} {name path text : String} {s after : Session}
  {output : List String}

/-! ## Lines and texts -/

theorem exec_of_refused (h : s.config.shell.maxScriptDepth ≤ s.scriptDepth) :
    exec levels name path text s = ⟨.ok (.failure (some (.nestedTooDeeply name path))),
      ["msh: " ++ (Fault.nestedTooDeeply name path).message], s.silent⟩ := by
  have hrun : (runContent (registered levels) name path text).run s.silent = _ :=
    runContent_refused h
  rw [exec, executed, hrun]
  rfl

theorem exec_of_admitted (h : s.scriptDepth < s.config.shell.maxScriptDepth) :
    exec levels name path text s = execLines levels name path 1 (Text.lines text) s :=
  executed_congr (runContent_admitted h)

/-- A text that succeeds was not refused. -/
theorem admitted_of_success (h : exec levels name path text s = ⟨.ok .success, output, after⟩) :
    s.scriptDepth < s.config.shell.maxScriptDepth := by
  by_contra hdepth
  rw [exec_of_refused (by omega)] at h
  simp at h

theorem execLines_of_run {lines : List String} {result : Except Fault Outcome}
    (h : (runLines (registered levels) name path number lines).run s.silent.inner =
      (result, after)) :
    execLines levels name path number lines s =
      ⟨result, after.console.output, after.outer.silent⟩ := by
  rw [execLines, executed, run_deeper, h]
  rfl

theorem runLines_append (run : Command → Shell Outcome) (name path : String) (number : Nat)
    (first second : List String) :
    runLines run name path number (first ++ second) = runLines run name path number first >>= fun
      | .success => runLines run name path (number + first.length) second
      | outcome => pure outcome := by
  refine ext fun s => ?_
  rw [run_runLines_append, run_bind]
  generalize (runLines run name path number first).run s = ended
  obtain ⟨result, after⟩ := ended
  cases result with
  | error fault => rfl
  | ok outcome => cases outcome <;> rfl

/-- Lines put together are executed one part after the other, the second if the first succeeded. -/
theorem execLines_append (first second : List String) :
    execLines levels name path number (first ++ second) s =
      match execLines levels name path number first s with
      | ⟨.ok .success, output, after⟩ =>
        (execLines levels name path (number + first.length) second after).following output
      | e => e := by
  have hsteady := steady_runLines (steady_registered levels) name path
  rw [execLines, runLines_append, deeper_bind (hsteady _ _), executed_bind, ← execLines]
  · have hsilent : (execLines levels name path number first s).after.silent =
        (execLines levels name path number first s).after := executed_after_silent _ s
    generalize execLines levels name path number first s = e at hsilent
    obtain ⟨result, output, after⟩ := e
    cases result with
    | error fault => rfl
    | ok outcome =>
      cases outcome with
      | success => rfl
      | stop | failure cause | unhandled cause =>
        dsimp only at hsilent ⊢
        rw [executed_deeper_pure, hsilent, Execution.following, List.append_nil]
  · intro outcome
    cases outcome with
    | success => exact (hsteady _ _).deeper
    | stop | failure cause | unhandled cause => exact (steady_pure _).deeper

theorem execLines_append_of_success {first : List String} (second : List String)
    (h : execLines levels name path number first s = ⟨.ok .success, output, after⟩) :
    execLines levels name path number (first ++ second) s =
      (execLines levels name path (number + first.length) second after).following output := by
  rw [execLines_append, h]

theorem execLines_append_of_ne_success {first : List String} (second : List String)
    (h : (execLines levels name path number first s).result ≠ .ok .success) :
    execLines levels name path number (first ++ second) s =
      execLines levels name path number first s := by
  rw [execLines_append]
  generalize execLines levels name path number first s = e at h
  obtain ⟨result, output, after⟩ := e
  cases result with
  | error fault => rfl
  | ok outcome =>
    cases outcome with
    | success => exact absurd rfl h
    | stop | failure cause | unhandled cause => rfl

/-- Nor is one refused where it has led: as many scripts are running there, under the same
bounds. -/
theorem admitted_after (h : exec levels name path text s = ⟨.ok .success, output, after⟩) :
    after.scriptDepth < after.config.shell.maxScriptDepth := by
  have hadmitted := admitted_of_success h
  rw [exec_of_admitted hadmitted] at h
  have hsteady := (steady_runLines (steady_registered levels) name path 1 (Text.lines text)).deeper
  have hafter : after = (execLines levels name path 1 (Text.lines text) s).after := by rw [h]
  have hdepth : after.scriptDepth = s.scriptDepth := by
    rw [hafter]
    exact hsteady.depth s.silent
  have hconfig : after.config = s.config := by
    rw [hafter]
    exact hsteady.config s.silent
  rwa [hdepth, hconfig]

/-! ## Numbers of lines -/

theorem Renumbered.following {shift : Nat} {e e' : Execution Outcome} (earlier : List String)
    (h : Renumbered name path shift e e') :
    Renumbered name path shift (e.following earlier) (e'.following earlier) := by
  cases h with
  | unstopped _ hresult => exact .unstopped _ hresult
  | stopped number line cause output after =>
    simp only [Execution.following, ← List.append_assoc]
    exact .stopped number line cause (earlier ++ output) after

/-- Counted from another number on, lines end with that number in place of the other. -/
theorem renumbered_execLines (shift number : Nat) (lines : List String) (s : Session) :
    Renumbered name path shift (execLines levels name path number lines s)
      (execLines levels name path (shift + number) lines s) := by
  cases linesEnd (registered levels) lines s.silent.inner with
  | unstopped result after hresult hrun =>
    rw [execLines_of_run (hrun name path number), execLines_of_run (hrun name path _)]
    exact .unstopped _ hresult
  | stopped before line rest outcome cause reached after hlines hbefore hcommand hline hcause hrun =>
    rw [execLines_of_run (hrun name path number), execLines_of_run (hrun name path _), Nat.add_assoc]
    exact .stopped _ line cause after.console.output after.outer.silent

/-! ## Failures -/

theorem failure_of_exec {outcome : Outcome}
    (hresult : (exec levels name path text s).result = .ok outcome) (hfailed : outcome.ok = false) :
    Failure levels name path text s (exec levels name path text s) := by
  by_cases hdepth : s.config.shell.maxScriptDepth ≤ s.scriptDepth
  · rw [exec_of_refused hdepth]
    exact .refused hdepth
  have hadmitted : s.scriptDepth < s.config.shell.maxScriptDepth := by omega
  rw [exec_of_admitted hadmitted] at hresult ⊢
  cases linesEnd (registered levels) (Text.lines text) s.silent.inner with
  | unstopped result after hok hrun =>
    rw [execLines_of_run (hrun name path 1)] at hresult
    rw [hok outcome hresult] at hfailed
    exact nomatch hfailed
  | stopped before line rest outcome cause reached after hlines hbefore hcommand hline hcause hrun =>
    have hdepth : reached.scriptDepth = s.scriptDepth + 1 := by
      have hkept := (steady_runLines (steady_registered levels) name path 1 before).depth
        s.silent.inner
      rwa [hbefore] at hkept
    -- the line, executed where the lines before it have led
    have hsteady := steady_strict (steady_registered levels) (Command.parse (Text.trim line))
    have htold := hsteady.of_run_inside (by omega : 0 < reached.scriptDepth)
    rw [hline] at htold
    generalize hexecuted : executed _ reached.outer = e at htold
    obtain ⟨result, told, left⟩ := e
    simp only [Execution.of, Execution.following, Execution.mk.injEq] at htold
    obtain ⟨rfl, houtput, rfl⟩ := htold
    have hall : execLines levels name path 1 (Text.lines text) s =
        ⟨.ok (.failure (some (.lineFailed name (before.length + 1) path cause))),
          reached.console.output ++ told ++ stoppedReport name (before.length + 1) line cause,
          after.outer.silent⟩ := by
      have houtput' : after.console.output = reached.console.output ++ told := houtput
      rw [execLines_of_run (hrun name path 1), Nat.add_comm 1, ← houtput']
      rfl
    rw [hall]
    exact .atLine hadmitted hlines (execLines_of_run (hbefore name path 1)) hcommand hexecuted hcause

/-! ## Leaving -/

/-- A script asks to stop if one of its lines does, and is left as that line left it. -/
theorem exec_of_stop {before rest : List String} {line : String} {reached : Session}
    (hadmitted : s.scriptDepth < s.config.shell.maxScriptDepth)
    (hlines : Text.lines text = before ++ line :: rest)
    (hbefore : execLines levels name path 1 before s = ⟨.ok .success, output, reached⟩)
    (hcommand : isCommentOrBlank line = false)
    (hname : (Command.parse (Text.trim line)).name ≠ "")
    (hstop : (registered levels (Command.parse (Text.trim line))).run reached.silent.inner =
      (.ok .stop, after)) :
    exec levels name path text s =
      ⟨.ok .stop, output ++ after.console.output, after.outer.silent⟩ := by
  have hline : (runLines (registered levels) name path (1 + before.length) (line :: rest)).run
      reached.silent.inner = (.ok .stop, after) := by
    rw [run_runLines_cons hcommand, run_strict _ hname, hstop]
    rfl
  rw [exec_of_admitted hadmitted, hlines, execLines_append_of_success _ hbefore,
    execLines_of_run hline]
  rfl

theorem CallsExit.run_registered {call : Command} (h : CallsExit s call) (levels : Nat) :
    (registered (levels + 1) call).run s = (.ok .stop, s.printed ["Bye..."]) := by
  rw [registered_command call h.noScript h.noProgram, runRegistered_of_find? call h.found]
  rfl

theorem exec_of_executesExit (h : ExecutesExit levels name path text s output after) :
    exec levels name path text s = ⟨.ok .stop, output, after⟩ := by
  induction h with
  | @here levels name path _ line before _ _ s reached hadmitted hlines hbefore hcommand hexit =>
    have hthere : CallsExit reached.silent.inner (Command.parse (Text.trim line)) :=
      ⟨hexit.named, hexit.noScript, hexit.noProgram, hexit.found⟩
    have hsilent : reached.silent = reached := by
      have hafter : (execLines (levels + 1) name path 1 before s).after.silent =
          (execLines (levels + 1) name path 1 before s).after := executed_after_silent _ s
      rwa [hbefore] at hafter
    rw [exec_of_stop hadmitted hlines hbefore hcommand hexit.named (hthere.run_registered levels)]
    exact congrArg (Execution.mk _ _) hsilent
  | @nested levels _ _ _ line content _ _ _ told s reached after _ hadmitted hlines hbefore hcommand
      hcall hscript hread hinner ih =>
    subst hcall
    have hthere : reached.silent.inner.files.snapshot.read
        (invokedPath reached.silent.inner.files.snapshot (Command.parse (Text.trim line)).name) =
          .ok content := hread
    obtain ⟨ended, hended, rfl, rfl⟩ := run_of_executed ih
    have hstop := ((run_registered_script hscript levels reached.silent.inner).trans
      (run_runScriptAt hthere)).trans hended
    rw [exec_of_stop hadmitted hlines hbefore hcommand (name_ne_empty_of_isInvocation hscript) hstop]
    rfl

/-! ## Running scripts -/

theorem executed_runScript (levels : Nat) (path? : Option String)
    (hread : s.files.snapshot.read (path?.getD (invokedPath s.files.snapshot name)) = .ok text) :
    executed (runScript (registered levels) name path?) s =
      exec levels name (path?.getD (invokedPath s.files.snapshot name)) text s := by
  refine executed_congr ?_
  rw [runScript, run_view_bind]
  exact run_runScriptAt hread

theorem executed_script (path? : Option String)
    (hread : s.files.snapshot.read (path?.getD (invokedPath s.files.snapshot name)) = .ok text) :
    executed (script name path?) s =
      exec (levelsBelow s + 1) name (path?.getD (invokedPath s.files.snapshot name)) text s := by
  rw [← executed_runScript _ _ hread]
  exact executed_congr (run_levels_bind _ s.silent)

/-- **Scripts are executed up to the first line that ends them, and put together one after the
other.** -/
theorem lawful_execution (name : String) : Lawful name where
  composes levels path a b s output after ha h := by
    rw [exec_of_admitted (admitted_after h), exec_of_admitted (admitted_of_success h),
      Text.lines_append ha]
    rw [exec_of_admitted (admitted_of_success h)] at h
    rw [execLines_append_of_success _ h, Nat.add_comm 1]
    exact (renumbered_execLines _ 1 _ after).following output
  stops levels path a b s ha h := by
    by_cases hdepth : s.config.shell.maxScriptDepth ≤ s.scriptDepth
    · rw [exec_of_refused hdepth, exec_of_refused hdepth]
    · have hadmitted : s.scriptDepth < s.config.shell.maxScriptDepth := by omega
      rw [exec_of_admitted hadmitted] at h
      rw [exec_of_admitted hadmitted, exec_of_admitted hadmitted, Text.lines_append ha,
        execLines_append_of_ne_success _ h]
  exits _ _ _ _ _ _ h := exec_of_executesExit h
  fails _ _ _ _ _ hresult hfailed := failure_of_exec hresult hfailed
  invoked levels path? _ _ hread := executed_runScript levels path? hread
  started path? _ _ hread := executed_script path? hread

/-- A line is counted with all lines before it, and what they did stays done. -/
example :
    let s : Session := .fresh {} ⟨.fresh, some .empty, "vfs"⟩ .builtins {} ⟨2024, 1, 1, 0, 0, 0, 0⟩
    let e := exec 1 "./a.msh" "/a.msh" "# folders\n\nmkdir x\nnope\nmkdir y" s
    e.output = ["msh: stopped at ./a.msh:4", "msh: nope", "msh: Command not found: nope", ""] ∧
      (e.after.files.snapshot.list "/").toOption.map (·.folders) = some ["x"] := by
  decide +kernel

end TreeShell.Script
