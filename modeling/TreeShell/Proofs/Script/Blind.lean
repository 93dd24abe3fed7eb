import TreeShell.Proofs.Builtin.Blind
import TreeShell.Proofs.Script.Nesting

/-!
# Scripts do not look at the search path and the aliases

The lines of a script are run strictly, and so are the lines of the scripts it runs. Whatever
aliases there are and wherever programs are searched for, a script does the same
(`script_withSearch`), as long as none of the lines that are run has a command that is about
aliases, or a program that comes to ask about the environment or to have something run in its turn.

Which lines are run is seen on the machine for scripts, and there the argument is about one step:
beside the machine of one session goes that of the other, and at every step they differ by nothing
but the search path and the aliases (`Machine.step_withSearch`).
-/

set_option autoImplicit false

namespace TreeShell.Script

open Shell

/-- A strictly run command may use the search path or the aliases: it is one of the built-in
commands that do, or a program, of the file system or registered, that comes to ask about the
environment or to have something run. -/
def consultsSearch (s : Session) (call : Command) : Bool :=
  if isInvocation call.name scriptExtension then false
  else if isInvocation call.name programExtension then
    let path := invokedPath s.files.snapshot call.name
    match s.files.snapshot.read path with
    | .ok text => (s.host.program path text call).consultsIn s
    | .error _ => false
  else
    match s.registry.find? call.name with
    | some (.builtin command) => usesSearch command
    | some (.added program) => (program call).consultsIn s
    | none => false

namespace Machine

/-- The machine is about to run a line whose command may use the search path or the aliases. -/
def consultsSearch : Machine → Bool
  | reading _ _ _ _ (line :: _) s =>
    !isCommentOrBlank line && Script.consultsSearch s (Command.parse (Text.trim line))
  | _ => false

/-- The machine in a session with another search path and other aliases. -/
def withSearch (path : SearchPath) (aliases : Aliases) : Machine → Machine
  | opening below name file s => opening below name file (s.withSearch path aliases)
  | reading below name file number lines s =>
    reading below name file number lines (s.withSearch path aliases)
  | returning below result s => returning below result (s.withSearch path aliases)

/-- None of the lines that are run in at most `fuel` steps may use the search path or the aliases,
and then the machine has come to its end. -/
def strictThrough (levels : Nat) : Nat → Machine → Bool
  | 0, _ => false
  | fuel + 1, m =>
    !m.consultsSearch &&
      match m.step levels with
      | none => true
      | some next => strictThrough levels fuel next

end Machine

/-! ## One command -/

/-- **A strictly run command that uses neither search path nor aliases is blind for them.** -/
theorem blindIn_registered {s : Session} {call : Command} (levels : Nat)
    (hscript : isInvocation call.name scriptExtension = false)
    (h : consultsSearch s call = false) : BlindIn s (registered levels call) := by
  cases levels with
  | zero => exact compositional_blind.throw .exhausted s
  | succ levels =>
    rw [consultsSearch, hscript, if_neg Bool.false_ne_true] at h
    cases hprogram : isInvocation call.name programExtension with
    | true =>
      rw [hprogram, if_pos rfl] at h
      have hhere : registered (levels + 1) call = runProgramHere (runnerIn levels) call := by
        rw [registered, hscript, hprogram, if_neg Bool.false_ne_true, if_pos rfl]
        rfl
      rw [hhere]
      refine blindIn_runProgramHere (name_ne_empty_of_isInvocation hprogram) (fun text hread => ?_) _
      simpa only [hread] using h
    | false =>
      intro path aliases
      have hsame : (s.withSearch path aliases).registry = s.registry := rfl
      rw [hprogram, if_neg Bool.false_ne_true] at h
      rw [registered_command call hscript hprogram, runRegistered, run_get_bind, run_get_bind, hsame]
      cases hfound : s.registry.find? call.name with
      | none => rfl
      | some handler =>
        rw [hfound] at h
        cases handler with
        | builtin command => exact blind_builtin h call.args s path aliases
        | added program => exact blindIn_program h _ path aliases

namespace Machine

variable {s : Session} {below : List Waiting} {levels : Nat} {m m' : Machine}
  (path : SearchPath) (aliases : Aliases)

/-! ## One step -/

theorem resume_withSearch (top : Waiting) (result : Except Fault Outcome) (s : Session) :
    resume top below (result, s.withSearch path aliases) =
      (resume top below (result, s)).withSearch path aliases := by
  cases result with
  | error fault => rfl
  | ok outcome => cases outcome <;> rfl

theorem enter_withSearch (name file : String) (s : Session) :
    enter below name file (s.withSearch path aliases) =
      (enter below name file s).withSearch path aliases := by
  have hdepth : (s.withSearch path aliases).scriptDepth = s.scriptDepth := rfl
  have hconfig : (s.withSearch path aliases).config = s.config := rfl
  have hfiles : (s.withSearch path aliases).files = s.files := rfl
  rw [enter, enter, hdepth, hconfig, hfiles]
  split
  · rfl
  · cases s.files.snapshot.read file <;> rfl

theorem call_withSearch {call : Command} (h : Script.consultsSearch s call = false)
    (top : Waiting) :
    Machine.call levels top below call (s.withSearch path aliases) =
      (Machine.call levels top below call s).withSearch path aliases := by
  rw [Machine.call, Machine.call]
  split
  · rfl
  · rename_i hscript
    have hblind := blindIn_registered (levels - below.length) (Bool.eq_false_iff.mpr hscript) h
    dsimp only
    rw [hblind path aliases]
    exact resume_withSearch path aliases top _ _

/-- **At every step the two machines differ by nothing but the search path and the aliases.** -/
theorem step_withSearch (h : m.consultsSearch = false) :
    (m.withSearch path aliases).step levels =
      (m.step levels).map (withSearch path aliases) := by
  cases m with
  | opening below name file s => exact congrArg some (enter_withSearch path aliases name file s)
  | returning below result s =>
    cases below with
    | nil => rfl
    | cons top below => exact congrArg some (resume_withSearch path aliases top _ s)
  | reading below name file number lines s =>
    cases lines with
    | nil => rfl
    | cons line rest =>
      have hwith : (reading below name file number (line :: rest) s).withSearch path aliases =
          reading below name file number (line :: rest) (s.withSearch path aliases) := rfl
      rw [hwith, step, step, Option.map_some, Option.some.injEq]
      split
      · rfl
      · rename_i hrun
        refine call_withSearch path aliases ?_ _
        simpa [consultsSearch, Bool.eq_false_iff.mpr (not_or.mp hrun).1] using h

/-! ## A whole run -/

/-- Two machines that start so stay so, as long as no line is run that may use the search path or
the aliases. -/
theorem Reaches.withSearch (hreaches : Reaches levels m m')
    (h : ∀ between, Reaches levels m between → between.consultsSearch = false) :
    Reaches levels (m.withSearch path aliases) (m'.withSearch path aliases) := by
  induction hreaches with
  | refl => exact .refl
  | tail hbefore hstep ih =>
    refine ih.tail ?_
    rw [step_withSearch path aliases (h _ hbefore), hstep]
    rfl

/-- The machine has one end. -/
theorem Halts.unique {ended ended' : Machine} (h : Halts levels m ended)
    (h' : Halts levels m ended') : ended = ended' := by
  have honly {m next : Machine} (hreaches : Reaches levels m next) (hend : m.step levels = none) :
      m = next := by
    rcases hreaches.cases_head with heq | ⟨_, hstep, _⟩
    · exact heq
    · exact nomatch hend.symm.trans hstep
  rcases Relation.ReflTransGen.total_of_right_unique
      (fun _ _ _ hb hc => Option.some.inj (hb.symm.trans hc)) h.1 h'.1 with hto | hfrom
  · exact honly hto h.2
  · exact (honly hfrom h'.2).symm

/-- A run that was followed to its end without such a line has none. -/
theorem consultsSearch_of_strictThrough {fuel : Nat} (h : strictThrough levels fuel m = true)
    (hreaches : Reaches levels m m') : m'.consultsSearch = false := by
  induction fuel generalizing m with
  | zero => exact nomatch h
  | succ fuel ih =>
    rw [strictThrough, Bool.and_eq_true, Bool.not_eq_true'] at h
    rcases hreaches.cases_head with rfl | ⟨next, hstep, hrest⟩
    · exact h.1
    · have hnext := h.2
      rw [hstep] at hnext
      exact ih hnext hrest

end Machine

/-! ## Scripts -/

/-- **A script does the same whatever the search path and the aliases are.** -/
theorem script_withSearch (name : String) (path? : Option String) (s : Session)
    (h : ∀ m, Machine.Reaches (levelsBelow s + 1)
      (.opening [] name (path?.getD (invokedPath s.files.snapshot name)) s) m →
      m.consultsSearch = false)
    (path : SearchPath) (aliases : Aliases) :
    let ended := (script name path?).run s
    let other := (script name path?).run (s.withSearch path aliases)
    other.1 = ended.1 ∧ other.2.console = ended.2.console ∧ other.2.files = ended.2.files ∧
      other.2 = ended.2.withSearch path aliases := by
  dsimp only
  have hend := (bounded_script name path? s).halts
  have hother := (bounded_script name path? (s.withSearch path aliases)).halts
  -- The same end is reached from the other session, along the machine of this one.
  have hwith := hend.1.withSearch path aliases h
  have hsame := Machine.Halts.unique hother ⟨hwith, rfl⟩
  simp only [Machine.withSearch, Machine.returning.injEq, true_and] at hsame
  rw [hsame.1, hsame.2]
  exact ⟨rfl, rfl, rfl, rfl⟩

/-- A session with a script that runs another and a program, and has a line that nothing is
registered for. Its host makes of every text a program that writes it into a file. -/
def callingSession : Session :=
  let scripts : Snapshot :=
    ⟨⟨"/", [], [⟨"a.msh", "./b.msh\n./note.py y\nll\n"⟩, ⟨"b.msh", "mkdir x\n"⟩,
      ⟨"note.py", "noted"⟩]⟩, []⟩
  let host : Host := { program := fun _ text call => do
    Program.perform (.write (call.args.headD "") text)
    return true }
  .fresh {} ⟨scripts, some .empty, "tree"⟩ .builtins {} ⟨2024, 1, 1, 0, 0, 0, 0⟩ host

/-- An alias for the line that is not registered, and one for the command of the other script. -/
theorem script_withSearch_callingSession :
    Machine.strictThrough (levelsBelow callingSession + 1) 12
      (.opening [] "./a.msh" "/a.msh" callingSession) = true ∧
    let aliases : Aliases := [("ll", "ls"), ("mkdir", "exit")]
    ((script "./a.msh" none).run (callingSession.withSearch [] aliases)).1 =
      ((script "./a.msh" none).run callingSession).1 := by
  have hstrict : Machine.strictThrough (levelsBelow callingSession + 1) 12
      (.opening [] "./a.msh" "/a.msh" callingSession) = true := by decide +kernel
  exact ⟨hstrict, (script_withSearch "./a.msh" none callingSession
    (fun _ => Machine.consultsSearch_of_strictThrough hstrict) _ _).1⟩

end TreeShell.Script
