import TreeShell.Proofs.Script.Execution
import TreeShell.Proofs.Settings.Loading
import TreeShell.Session.Loop

/-!
# Faults of the store, on the way out

A line that is entered passes a fault of the store on, where it takes every other ordinary fault for
its own failure. It sees the fault only if the command of the line itself was stopped by it. A
script runs its lines strictly, and to `strict` a fault of the store is an ordinary one: the line of
the script has failed, so the script fails, and with it every script that ran it. What is left of
the fault is the cause at the bottom of that failure (`Fault.root`).
-/

set_option autoImplicit false

namespace TreeShell

/-- What a failure comes from, below all failed scripts and programs. -/
def Fault.root : Fault → Fault
  | lineFailed _ _ _ cause | programFailed _ cause => cause.root
  | fault => fault

/-- The command that a line comes to in a session, after aliases. -/
def Session.called (s : Session) (line : String) : Command :=
  s.environment.aliases.expand s.config.shell.maxAliasDepth (Command.parse (Text.trim line))

namespace Shell

/-- A registered program is stopped by a fault when a command is run, below a number of scripts: the
command runs it, or runs a script whose lines lead to it. -/
inductive Raises (fault : Fault) : Nat → Nat → Command → Session → Prop
  | program {levels : Nat} {call : Command} {s : Session}
      (hscript : isInvocation call.name scriptExtension = false)
      (hprogram : isInvocation call.name programExtension = false)
      (hrun : ((runRegistered (runnerIn levels) call).run s).1 = .error fault) :
      Raises fault 0 (levels + 1) call s
  | script {scripts levels : Nat} {call next : Command} {s reached : Session}
      {content line : String} {before rest : List String}
      (hscript : isInvocation call.name scriptExtension = true)
      (hadmitted : s.scriptDepth < s.config.shell.maxScriptDepth)
      (hread : s.files.snapshot.read (invokedPath s.files.snapshot call.name) = .ok content)
      (hlines : Text.lines content = before ++ line :: rest)
      (hbefore : (runLines (registered levels) call.name (invokedPath s.files.snapshot call.name) 1
        before).run s.inner = (.ok .success, reached))
      (hline : isCommentOrBlank line = false)
      (hnext : Command.parse (Text.trim line) = next) (hnamed : next.name ≠ "")
      (hraises : Raises fault scripts levels next reached) :
      Raises fault (scripts + 1) (levels + 1) call s

/-- How a command ends that raises a fault below a number of scripts: stopped by the fault if there
are none, and failed, with the fault at the bottom, if there are. -/
def SurfacesAbove (fault : Fault) : Nat → Except Fault Outcome → Prop
  | 0, result => result = .error fault
  | _ + 1, result => ∃ cause, result = .ok (.failure (some cause)) ∧ cause.root = fault

variable {fault : Fault} {scripts levels : Nat} {call : Command} {s : Session}

/-- A line of a script whose command raises an ordinary fault fails, however many scripts are in
between. -/
theorem SurfacesAbove.strictEnd (hordinary : fault.isOrdinary = true) (hroot : fault.root = fault)
    {result : Except Fault Outcome} (h : SurfacesAbove fault scripts result) (command : String) :
    ∃ cause, Shell.strictEnd command result = .ok (.failure (some cause)) ∧ cause.root = fault := by
  cases scripts with
  | zero =>
    have hresult : result = .error fault := h
    exact ⟨fault, by rw [hresult, Shell.strictEnd, if_pos hordinary]; rfl, hroot⟩
  | succ scripts =>
    obtain ⟨cause, hresult, hcause⟩ := h
    exact ⟨cause, by rw [hresult]; rfl, hcause⟩

/-- **A script takes every ordinary fault for a failure of its own.** -/
theorem Raises.surfaces (hordinary : fault.isOrdinary = true) (hroot : fault.root = fault)
    (h : Raises fault scripts levels call s) :
    SurfacesAbove fault scripts ((registered levels call).run s).1 := by
  induction h with
  | program hscript hprogram hrun =>
    rw [registered_command _ hscript hprogram]
    exact hrun
  | @script scripts levels call next s reached content line before rest hscript hadmitted hread
      hlines hbefore hline hnext hnamed _ ih =>
    obtain ⟨cause, hend, hcause⟩ := ih.strictEnd hordinary hroot next.name
    have hscriptEnd : ((registered (levels + 1) call).run s).1 =
        .ok (.failure (some (.lineFailed call.name (1 + before.length)
          (invokedPath s.files.snapshot call.name) cause))) := by
      rw [run_registered_script hscript, run_runScriptAt hread, runContent_admitted hadmitted,
        runText, run_deeper, hlines, run_runLines_append, hbefore]
      dsimp only
      rw [run_runLines_cons hline, hnext, run_strict _ hnamed, hend]
      rfl
    exact ⟨_, hscriptEnd, hcause⟩

/-! ## The line that was entered -/

variable {text line : String} {entered : Session}

/-- A line ends as its command does, unless there is no such command. -/
theorem run_dispatch_called (hline : isCommentOrBlank line = false)
    {result : Except Fault Outcome} {after : Session}
    (hcall : (registered (levelsBelow s) (s.called line)).run s = (result, after))
    (hhandled : ∀ outcome, result = .ok outcome → outcome.handled = true) :
    (dispatch line).run s = (result, after) := by
  have hexpand : (expandAliases (Command.parse (Text.trim line))).run s =
      (.ok (s.called line), s) := rfl
  rw [run_dispatch, dispatchLine, hline, if_neg Bool.false_ne_true, run_bind, hexpand]
  dsimp only
  rw [run_bind, hcall]
  cases result with
  | error fault => rfl
  | ok outcome =>
    cases outcome with
    | unhandled cause => exact absurd (hhandled _ rfl) Bool.false_ne_true
    | _ => rfl

/-- A line that was written into the history ends as it is dispatched, but for faults: one that is
ordinary and not of the store makes it fail. -/
theorem run_runLine (hentered : (addHistory line >>= fun _ => dropHint).run s = (.ok (), entered)) :
    (runLine line).run s = match (dispatch line).run entered with
      | (.ok outcome, after) => (.ok outcome, after)
      | (.error fault, after) =>
        if fault.isOrdinary && !fault.isDatabase then (lineStopped fault).run after
        else (.error fault, after) := by
  rw [run_bind] at hentered
  rw [runLine, run_bind]
  generalize (addHistory line).run s = noted at hentered
  obtain ⟨result, noting⟩ := noted
  cases result with
  | error fault => exact nomatch congrArg Prod.fst hentered
  | ok kept =>
    dsimp only at hentered ⊢
    rw [run_bind, hentered]
    dsimp only
    rw [run_bind, run_guarded]
    generalize (dispatch line).run entered = dispatched
    obtain ⟨result, after⟩ := dispatched
    cases result with
    | ok outcome => rfl
    | error fault =>
      dsimp only [guardedEnd]
      cases fault.isOrdinary with
      | false => rfl
      | true =>
        rw [if_pos rfl, Bool.true_and]
        cases hdatabase : fault.isDatabase with
        | true =>
          dsimp only
          rw [hdatabase]
          rfl
        | false =>
          dsimp only
          rw [hdatabase]
          rfl

/-- **A fault of the store surfaces from a line unless a script is in between.** A program that the
line runs itself, be it through aliases, stops the line with the fault; one that is run by a script,
at any depth, only makes the line fail, and the fault is no more than what that comes from. -/
theorem runLine_surfaces_store_fault
    (hentered : (addHistory line >>= fun _ => dropHint).run s = (.ok (), entered))
    (hline : isCommentOrBlank line = false)
    (hraises :
      Raises (.database text) scripts (levelsBelow entered) (entered.called line) entered) :
    SurfacesAbove (.database text) scripts ((runLine line).run s).1 := by
  have hends := hraises.surfaces rfl rfl
  rw [run_runLine hentered]
  generalize hcall : (registered (levelsBelow entered) (entered.called line)).run entered = ended
    at hends
  obtain ⟨result, after⟩ := ended
  cases scripts with
  | zero =>
    have hresult : result = .error (.database text) := hends
    rw [run_dispatch_called hline hcall (by simp [hresult]), hresult]
    rfl
  | succ scripts =>
    obtain ⟨cause, hresult, hroot⟩ := hends
    dsimp only at hresult
    have hhandled : ∀ outcome, result = .ok outcome → outcome.handled = true := by
      intro outcome houtcome
      rw [hresult, Except.ok.injEq] at houtcome
      rw [← houtcome]
      rfl
    rw [run_dispatch_called hline hcall hhandled, hresult]
    exact ⟨cause, rfl, hroot⟩

/-! ## A session with a store that fails -/

/-- A session with a command that the store stops, and a script of which it is a line. -/
def failingSession : Session :=
  let recorder : Recorder := ⟨"X", ["save"], [("save", .error (.database "disk full"))]⟩
  .fresh {} ⟨⟨⟨"/", [], [⟨"a.msh", "save\n"⟩]⟩, []⟩, some .empty, "tree"⟩
    (Registry.builtins.addRecorder recorder) {} ⟨2024, 1, 1, 0, 0, 0, 0⟩

/-- That session when a line was written into its history. -/
def failingEntered (line : String) : Session :=
  ((addHistory line >>= fun _ => dropHint).run failingSession).2

theorem run_failingEntered_command :
    (addHistory "save" >>= fun _ => dropHint).run failingSession =
      (.ok (), failingEntered "save") :=
  Prod.ext (eq_ok_of_toBool (by decide +kernel)) rfl

theorem run_failingEntered_script :
    (addHistory "./a.msh" >>= fun _ => dropHint).run failingSession =
      (.ok (), failingEntered "./a.msh") :=
  Prod.ext (eq_ok_of_toBool (by decide +kernel)) rfl

theorem raises_failingEntered_command :
    Raises (.database "disk full") 0 (levelsBelow (failingEntered "save"))
      ((failingEntered "save").called "save") (failingEntered "save") := by
  have hcall : (failingEntered "save").called "save" = ⟨"save", []⟩ := by decide +kernel
  rw [hcall]
  exact .program (by decide) (by decide) rfl

theorem raises_failingEntered_script :
    Raises (.database "disk full") 1 (levelsBelow (failingEntered "./a.msh"))
      ((failingEntered "./a.msh").called "./a.msh") (failingEntered "./a.msh") := by
  have hcall : (failingEntered "./a.msh").called "./a.msh" = ⟨"./a.msh", []⟩ := by decide +kernel
  have hread : (failingEntered "./a.msh").files.snapshot.read
      (invokedPath (failingEntered "./a.msh").files.snapshot "./a.msh") = .ok "save\n" := by
    decide +kernel
  have hlines : Text.lines "save\n" = [] ++ "save" :: [""] := by decide
  have hparse : Command.parse (Text.trim "save") = ⟨"save", []⟩ := by decide
  rw [hcall]
  exact .script (by decide) (by decide) hread hlines rfl (by decide) hparse (by decide)
    (.program (by decide) (by decide) rfl)

theorem runLine_surfaces_store_fault_failingSession :
    SurfacesAbove (.database "disk full") 0 ((runLine "save").run failingSession).1 ∧
      SurfacesAbove (.database "disk full") 1 ((runLine "./a.msh").run failingSession).1 :=
  ⟨runLine_surfaces_store_fault run_failingEntered_command (by decide)
      raises_failingEntered_command,
    runLine_surfaces_store_fault run_failingEntered_script (by decide)
      raises_failingEntered_script⟩

/-- The script is a way to run the command on which its fault does not surface. -/
theorem not_surfaces_store_fault_failingSession :
    ¬ ∀ (text line : String) (scripts : Nat) (s entered : Session),
      (addHistory line >>= fun _ => dropHint).run s = (.ok (), entered) →
      isCommentOrBlank line = false →
      Raises (.database text) scripts (levelsBelow entered) (entered.called line) entered →
      ((runLine line).run s).1 = .error (.database text) := by
  intro hsurfaces
  have hstops := hsurfaces "disk full" "./a.msh" 1 failingSession (failingEntered "./a.msh")
    run_failingEntered_script (by decide) raises_failingEntered_script
  have hends : ((runLine "./a.msh").run failingSession).1.toBool = true := by decide +kernel
  rw [hstops] at hends
  exact nomatch hends

end Shell

end TreeShell
