import Mathlib.Logic.Relation
import TreeShell.Proofs.Script.Execution

/-!
# A machine for scripts

The runner of scripts calls itself through the commands it runs. Here the same is done by a machine
that never calls itself: it has the running scripts on a stack, each with the lines it has left, and
does one thing at a time. A command that is no script, a built-in one or a hosted program, is one
step of it, so the machine comes to its end if each of those does.

What every step keeps to is `Machine.Sound`: the count of scripts is what it was at the start and
one for each script on the stack, and with a script on the stack it is within the bound. That the
machine comes to its end is shown by an induction on how many scripts may still be opened, and
within one script on the lines it has left (`reading_reaches`); it ends with what running the script
comes to.
-/

set_option autoImplicit false

namespace TreeShell.Script

open Shell

/-- A script that waits for one of its lines: its name and path, the line with its number, and the
lines after it. -/
structure Waiting where
  name : String
  path : String
  number : Nat
  line : String
  rest : List String

/-- Where the machine is, with the scripts that wait, the innermost first: it is about to open a
script, or to read the next line of one; or one has ended. -/
inductive Machine where
  | opening (below : List Waiting) (name path : String) (s : Session)
  | reading (below : List Waiting) (name path : String) (number : Nat) (lines : List String)
      (s : Session)
  | returning (below : List Waiting) (result : Except Fault Outcome) (s : Session)

namespace Machine

/-- The session. -/
def session : Machine → Session
  | opening _ _ _ s | reading _ _ _ _ _ s | returning _ _ s => s

/-- How many scripts are running. -/
def running : Machine → Nat
  | opening below _ _ _ | returning below _ _ => below.length
  | reading below _ _ _ _ _ => below.length + 1

/-- A script has ended. -/
def finish (below : List Waiting) (ended : Except Fault Outcome × Session) : Machine :=
  returning below ended.1 ended.2.outer

/-- The command of a script's line has ended. -/
def resume (top : Waiting) (below : List Waiting) :
    Except Fault Outcome × Session → Machine
  | (.ok outcome, s) =>
    match outcome.failedWith? with
    | some cause =>
      finish below (.ok (.failure (some (.lineFailed top.name top.number top.path cause))),
        s.printed (stoppedReport top.name top.number top.line cause))
    | none =>
      if outcome.continues then reading below top.name top.path (top.number + 1) top.rest s
      else finish below (.ok .stop, s)
  | (.error fault, s) => finish below (.error fault, s)

/-- Opens a script. -/
def enter (below : List Waiting) (name path : String) (s : Session) : Machine :=
  if s.config.shell.maxScriptDepth ≤ s.scriptDepth then
    returning below (.ok (.failure (some (.nestedTooDeeply name path))))
      (s.printed ["msh: " ++ (Fault.nestedTooDeeply name path).message])
  else
    match s.files.snapshot.read path with
    | .ok content => reading below name path 1 (Text.lines content) s.inner
    | .error reason =>
      returning below (.ok (.failure (some (.files reason))))
        (s.printed ["exec: " ++ name ++ ": " ++ reason.message, ""])

/-- Runs the command of a script's line: a script is opened, everything else is run at once. -/
def call (levels : Nat) (top : Waiting) (below : List Waiting) (command : Command) (s : Session) :
    Machine :=
  if isInvocation command.name scriptExtension then
    opening (top :: below) command.name (invokedPath s.files.snapshot command.name) s
  else
    let ended := (registered (levels - below.length) command).run s
    resume top below (strictEnd command.name ended.1, ended.2)

/-- What the machine does next. It stops when the script it was started for has ended. -/
def step (levels : Nat) : Machine → Option Machine
  | opening below name path s => some (enter below name path s)
  | reading below _ _ _ [] s => some (finish below (.ok .success, s))
  | reading below name path number (line :: rest) s =>
    let command := Command.parse (Text.trim line)
    some (if isCommentOrBlank line ∨ command.name = "" then
        reading below name path (number + 1) rest s
      else call levels ⟨name, path, number, line, rest⟩ below command s)
  | returning (top :: below) result s =>
    some (resume top below (strictEnd (Command.parse (Text.trim top.line)).name result, s))
  | returning [] _ _ => none

/-- The machine comes from one place to another, in any number of steps. -/
def Reaches (levels : Nat) : Machine → Machine → Prop :=
  Relation.ReflTransGen fun m m' => m.step levels = some m'

/-- The machine comes from one place to another where there is nothing more to do. -/
def Halts (levels : Nat) (m m' : Machine) : Prop :=
  Reaches levels m m' ∧ m'.step levels = none

/-! ## What every step keeps to -/

/-- What holds of the machine wherever it is, after it was started in a session. -/
structure Sound (start : Session) (m : Machine) : Prop where
  config : m.session.config = start.config
  depth : m.session.scriptDepth = start.scriptDepth + m.running
  bounded : m.running ≠ 0 → start.scriptDepth + m.running ≤ start.config.shell.maxScriptDepth

variable {start s : Session} {m m' : Machine} {below : List Waiting} {levels : Nat}

theorem sound_finish {ended : Except Fault Outcome × Session}
    (hconfig : ended.2.config = start.config)
    (hdepth : ended.2.scriptDepth = start.scriptDepth + (below.length + 1))
    (hbounded : start.scriptDepth + (below.length + 1) ≤ start.config.shell.maxScriptDepth) :
    (finish below ended).Sound start where
  config := hconfig
  depth := by
    simp only [finish, session, running, Session.outer]
    omega
  bounded _ := by
    simp only [finish, running]
    omega

theorem sound_resume {top : Waiting} {ended : Except Fault Outcome × Session}
    (hconfig : ended.2.config = start.config)
    (hdepth : ended.2.scriptDepth = start.scriptDepth + (below.length + 1))
    (hbounded : start.scriptDepth + (below.length + 1) ≤ start.config.shell.maxScriptDepth) :
    (resume top below ended).Sound start := by
  obtain ⟨result, s⟩ := ended
  cases result with
  | error fault => exact sound_finish hconfig hdepth hbounded
  | ok outcome =>
    cases outcome with
    | success => exact ⟨hconfig, hdepth, fun _ => hbounded⟩
    | stop | failure cause | unhandled cause => exact sound_finish hconfig hdepth hbounded

theorem Sound.enter {name path : String} (h : (opening below name path s).Sound start) :
    (enter below name path s).Sound start := by
  obtain ⟨hconfig, hdepth, hbounded⟩ := h
  simp only [session, running] at hconfig hdepth hbounded
  rw [Machine.enter]
  split
  · exact ⟨hconfig, hdepth, hbounded⟩
  · rename_i hadmitted
    rw [hconfig] at hadmitted
    cases s.files.snapshot.read path with
    | error reason => exact ⟨hconfig, hdepth, hbounded⟩
    | ok content =>
      -- One more script is running, and there was room for one.
      refine ⟨hconfig, ?_, fun _ => ?_⟩
      · simp only [session, running, Session.inner]
        omega
      · simp only [running]
        omega

theorem Sound.call {name path line : String} {number : Nat} {rest : List String}
    (h : (reading below name path number (line :: rest) s).Sound start) (command : Command) :
    (call levels ⟨name, path, number, line, rest⟩ below command s).Sound start := by
  obtain ⟨hconfig, hdepth, hbounded⟩ := h
  rw [Machine.call]
  split
  · exact ⟨hconfig, hdepth, hbounded⟩
  · have hsteady := steady_registered (levels - below.length) command
    exact sound_resume ((hsteady.config s).trans hconfig) ((hsteady.depth s).trans hdepth)
      (hbounded (Nat.succ_ne_zero _))

/-- **Every step keeps the count of scripts right, and within the bound.** -/
theorem Sound.step (h : m.Sound start) (hstep : m.step levels = some m') : m'.Sound start := by
  cases m with
  | opening below name path s =>
    cases hstep
    exact h.enter
  | reading below name path number lines s =>
    cases lines with
    | nil =>
      cases hstep
      exact sound_finish h.config h.depth (h.bounded (Nat.succ_ne_zero _))
    | cons line rest =>
      cases hstep
      split
      · exact ⟨h.config, h.depth, h.bounded⟩
      · exact h.call _
  | returning below result s =>
    cases below with
    | nil => exact nomatch hstep
    | cons top below =>
      cases hstep
      exact sound_resume h.config h.depth (h.bounded (Nat.succ_ne_zero _))

theorem Sound.reaches (h : m.Sound start) (hreaches : Reaches levels m m') : m'.Sound start := by
  induction hreaches with
  | refl => exact h
  | tail _ hstep ih => exact ih.step hstep

theorem sound_opening (name path : String) (s : Session) : (opening [] name path s).Sound s :=
  ⟨rfl, rfl, fun h => absurd rfl h⟩

/-! ## The machine comes to its end -/

/-- A script that is opened with `budget` more to open at most comes to what running it comes to. -/
def OpensThrough (levels budget : Nat) : Prop :=
  ∀ below name path s, s.config.shell.maxScriptDepth ≤ s.scriptDepth + budget →
    below.length + budget ≤ levels →
    let ended := (runScriptAt (registered (levels - below.length)) name path).run s
    Reaches levels (opening below name path s) (returning below ended.1 ended.2)

/-- Lines that are read with `budget` more scripts to open at most come to what running them comes
to. -/
def ReadsThrough (levels budget : Nat) : Prop :=
  ∀ below name path number lines s, s.config.shell.maxScriptDepth ≤ s.scriptDepth + budget →
    below.length + budget < levels →
    let ended := (runLines (registered (levels - below.length)) name path number lines).run s
    Reaches levels (reading below name path number lines s) (finish below ended)

variable {budget : Nat}

/-- A script comes to its end if its lines do, and if there may be no more scripts at once. -/
theorem reaches_of_opening {name path : String}
    (hlines : ∀ content, s.scriptDepth < s.config.shell.maxScriptDepth →
      Reaches levels (reading below name path 1 (Text.lines content) s.inner) (finish below
        ((runLines (registered (levels - below.length)) name path 1 (Text.lines content)).run
          s.inner))) :
    let ended := (runScriptAt (registered (levels - below.length)) name path).run s
    Reaches levels (opening below name path s) (returning below ended.1 ended.2) := by
  refine .head (b := enter below name path s) rfl ?_
  rw [enter]
  by_cases hdepth : s.config.shell.maxScriptDepth ≤ s.scriptDepth
  · rw [if_pos hdepth, runScriptAt_refused hdepth]
  · rw [if_neg hdepth]
    have hadmitted : s.scriptDepth < s.config.shell.maxScriptDepth := by omega
    cases hread : s.files.snapshot.read path with
    | ok content =>
      rw [run_runScriptAt hread, runContent_admitted hadmitted]
      exact hlines content hadmitted
    | error reason =>
      rw [runScriptAt_unreadable hadmitted hread]

theorem opensThrough_zero (levels : Nat) : OpensThrough levels 0 :=
  fun below name path s hmax _ => reaches_of_opening fun _ hadmitted => by omega

theorem ReadsThrough.opensThrough (h : ReadsThrough levels budget) :
    OpensThrough levels (budget + 1) := by
  intro below name path s hmax hlevels
  refine reaches_of_opening fun content _ => h below name path 1 _ s.inner ?_ (by omega)
  simp only [Session.inner]
  omega

/-- After a line, a script comes to its end if the lines after that do. -/
theorem reaches_of_resume {top : Waiting} {ended : Except Fault Outcome × Session}
    (hrest : Reaches levels (reading below top.name top.path (top.number + 1) top.rest ended.2)
      (finish below ((runLines (registered (levels - below.length)) top.name top.path
        (top.number + 1) top.rest).run ended.2))) :
    Reaches levels (resume top below ended)
      (finish below (afterLine top.name top.path top.number top.line
        (runLines (registered (levels - below.length)) top.name top.path (top.number + 1) top.rest)
        ended)) := by
  obtain ⟨result, s⟩ := ended
  cases result with
  | error fault => exact .refl
  | ok outcome =>
    cases outcome with
    | success => exact hrest
    | stop | failure cause | unhandled cause => exact .refl

/-- The command of a line comes to its end: at once, or when the script does that it opens. -/
theorem OpensThrough.reaches_of_call (h : OpensThrough levels budget) {top : Waiting}
    (hmax : s.config.shell.maxScriptDepth ≤ s.scriptDepth + budget)
    (hlevels : below.length + budget < levels) :
    let command := Command.parse (Text.trim top.line)
    let ended := (registered (levels - below.length) command).run s
    Reaches levels (call levels top below command s)
      (resume top below (strictEnd command.name ended.1, ended.2)) := by
  dsimp only
  rw [call]
  split
  · rename_i hscript
    have hsucc : levels - below.length = levels - (top :: below).length + 1 := by
      rw [List.length_cons]
      omega
    rw [hsucc, run_registered_script hscript]
    refine (h (top :: below) _ _ s hmax ?_).tail rfl
    rw [List.length_cons]
    omega
  · exact .refl

theorem OpensThrough.readsThrough (h : OpensThrough levels budget) : ReadsThrough levels budget := by
  intro below name path number lines s hmax hlevels
  dsimp only
  induction lines generalizing number s with
  | nil => exact .single rfl
  | cons line rest ih =>
    cases hline : isCommentOrBlank line with
    | true =>
      rw [runLines_cons_blank hline]
      refine .head ?_ (ih (number + 1) s hmax)
      simp [step, hline]
    | false =>
      rw [run_runLines_cons hline]
      by_cases hname : (Command.parse (Text.trim line)).name = ""
      · rw [strict, if_pos hname]
        refine .head ?_ (ih (number + 1) s hmax)
        simp [step, hname]
      · have hsteady := steady_registered (levels - below.length) (Command.parse (Text.trim line))
        rw [run_strict _ hname]
        refine .head (b := call levels ⟨name, path, number, line, rest⟩ below _ s) ?_
          ((h.reaches_of_call hmax hlevels).trans (reaches_of_resume (ih (number + 1) _ ?_)))
        · simp [step, hline, hname]
        · dsimp only
          rw [hsteady.config, hsteady.depth]
          exact hmax

theorem opensThrough (levels budget : Nat) : OpensThrough levels budget := by
  induction budget with
  | zero => exact opensThrough_zero levels
  | succ budget ih => exact ih.readsThrough.opensThrough

/-- **The machine comes to its end, with what running the script comes to.** -/
theorem reaches_end (name path : String) (s : Session)
    (hlevels : s.config.shell.maxScriptDepth ≤ s.scriptDepth + levels) :
    let ended := (runScriptAt (registered levels) name path).run s
    Reaches levels (opening [] name path s) (returning [] ended.1 ended.2) :=
  opensThrough levels levels [] name path s hlevels (by simp)

end Machine

end TreeShell.Script
