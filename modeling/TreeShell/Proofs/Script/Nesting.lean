import TreeShell.Proofs.Dispatch.Routes
import TreeShell.Proofs.Script.Machine
import TreeShell.Proofs.Script.Watch

/-!
# Scripts in scripts

A script comes to its end, whatever the files are and whatever they run, if every built-in command
and every hosted program does; no more scripts are running at any time than the session's bound
allows; and however a script ends, the count of running scripts is what it was (`Bounded`).

The bound is met exactly: a chain of scripts, each of which does nothing but run the next, succeeds
if and only if it is no longer than the bound (`Chain.succeeds_iff`).
-/

set_option autoImplicit false

namespace TreeShell

/-- The session with more scripts running. -/
def Session.innerBy (n : Nat) (s : Session) : Session :=
  { s with scriptDepth := s.scriptDepth + n }

theorem Session.innerBy_inner (n : Nat) (s : Session) : s.inner.innerBy n = s.innerBy (n + 1) := by
  simp only [innerBy, inner, Nat.add_assoc, Nat.add_comm 1]

namespace Script

open Shell

/-! ## Scripts that only run another -/

/-- A run that did what it was asked to. -/
def Succeeds (result : Except Fault Outcome) : Prop :=
  ∃ outcome, result = .ok outcome ∧ outcome.ok = true

/-- A text with one line that is neither blank nor a comment, and the command that line is. -/
def OnlyCommand (text : String) (call : Command) : Prop :=
  ((Text.lines text).filter (!isCommentOrBlank ·)).map (fun line => Command.parse (Text.trim line)) =
    [call]

instance (text : String) (call : Command) : Decidable (OnlyCommand text call) := by
  unfold OnlyCommand
  infer_instance

/-- A chain of scripts, from the one of a name and path to the last one with its text. Each has one
line, which runs the next. -/
inductive Chain (files : Snapshot) : Nat → String → String → String → String → String → Prop
  | last {name path text : String} (hread : files.read path = .ok text) :
      Chain files 1 name path name path text
  | next {n : Nat} {name path text last lastPath lastText : String} {call : Command}
      (hread : files.read path = .ok text) (honly : OnlyCommand text call)
      (hscript : isInvocation call.name scriptExtension = true)
      (hrest : Chain files n call.name (invokedPath files call.name) last lastPath lastText) :
      Chain files (n + 1) name path last lastPath lastText

section Lines

variable {run : Command → Shell Outcome} {lines : List String} {name path : String}

theorem runLines_blank (h : lines.filter (!isCommentOrBlank ·) = []) (number : Nat) :
    runLines run name path number lines = pure .success := by
  induction lines generalizing number with
  | nil => rfl
  | cons line rest ih =>
    rw [List.filter_cons] at h
    cases hline : isCommentOrBlank line with
    | true => exact (runLines_cons_blank hline _ _ _ _).trans (ih (by simpa [hline] using h) _)
    | false => simp [hline] at h

/-- Lines with one command end as that command does. -/
theorem run_runLines_only {call : Command}
    (h : (lines.filter (!isCommentOrBlank ·)).map (fun line => Command.parse (Text.trim line)) =
      [call]) (number : Nat) (s : Session) :
    ∃ found line, (runLines run name path number lines).run s =
      afterLine name path found line (pure .success) ((strict run call).run s) := by
  induction lines generalizing number with
  | nil => simp at h
  | cons line rest ih =>
    rw [List.filter_cons] at h
    cases hline : isCommentOrBlank line with
    | true =>
      obtain ⟨found, command, hrest⟩ := ih (by simpa [hline] using h) (number + 1)
      exact ⟨found, command, by rw [runLines_cons_blank hline, hrest]⟩
    | false =>
      simp only [hline, Bool.not_false, if_true, List.map_cons, List.cons.injEq,
        List.map_eq_nil_iff] at h
      obtain ⟨rfl, hrest⟩ := h
      exact ⟨number, line, by rw [run_runLines_cons hline, runLines_blank hrest]⟩

theorem succeeds_afterLine {number : Nat} {line command : String} {result : Except Fault Outcome}
    {s : Session} :
    Succeeds (afterLine name path number line (pure .success) (strictEnd command result, s)).1 ↔
      Succeeds result := by
  cases result with
  | error fault =>
    cases hordinary : fault.isOrdinary <;>
      simp [Succeeds, strictEnd, hordinary, afterLine, strictOutcome, Outcome.failedWith?,
        Outcome.ok]
  | ok outcome =>
    cases outcome <;>
      simp [Succeeds, strictEnd, afterLine, strictOutcome, Outcome.failedWith?, Outcome.continues,
        Outcome.ok]

end Lines

/-! ## Chains -/

section Chains

variable {files : Snapshot} {n : Nat} {name path last lastPath text : String}

theorem Chain.pos (h : Chain files n name path last lastPath text) : 0 < n := by
  cases h <;> omega

/-- A script that does nothing but run another succeeds if there may be one more script and the
other succeeds then. -/
theorem succeeds_runScriptAt_iff {levels : Nat} {call : Command} {s : Session}
    (hadmitted : s.scriptDepth < s.config.shell.maxScriptDepth)
    (hread : s.files.snapshot.read path = .ok text) (honly : OnlyCommand text call)
    (hscript : isInvocation call.name scriptExtension = true) :
    Succeeds ((runScriptAt (registered (levels + 1)) name path).run s).1 ↔
      Succeeds ((runScriptAt (registered levels) call.name
        (invokedPath s.files.snapshot call.name)).run s.inner).1 := by
  obtain ⟨found, line, hlines⟩ :=
    @run_runLines_only (registered (levels + 1)) _ name path call honly 1 s.inner
  rw [run_runScriptAt hread, runContent_admitted hadmitted, runText, run_deeper, hlines,
    run_strict _ (name_ne_empty_of_isInvocation hscript), run_registered_script hscript]
  exact succeeds_afterLine

/-- **A chain of scripts succeeds if it is no longer than the bound, and else fails.** -/
theorem Chain.succeeds_iff (h : Chain files n name path last lastPath text) {levels : Nat}
    {s : Session} (hfiles : s.files.snapshot = files)
    (hlevels : s.config.shell.maxScriptDepth ≤ s.scriptDepth + levels)
    (hlast : Succeeds
      ((runText (registered (levels - (n - 1))) last lastPath text).run (s.innerBy (n - 1))).1) :
    Succeeds ((runScriptAt (registered levels) name path).run s).1 ↔
      s.scriptDepth + n ≤ s.config.shell.maxScriptDepth := by
  induction h generalizing levels s with
  | @last name path text hread =>
    rw [run_runScriptAt (hfiles ▸ hread)]
    by_cases hdepth : s.config.shell.maxScriptDepth ≤ s.scriptDepth
    · rw [runContent_refused hdepth]
      simp [Succeeds, Outcome.ok]
      omega
    · rw [runContent_admitted (by omega)]
      exact iff_of_true hlast (by omega)
  | @next n name path text last lastPath lastText call hread honly hscript hrest ih =>
    have hpos := hrest.pos
    by_cases hdepth : s.config.shell.maxScriptDepth ≤ s.scriptDepth
    · rw [run_runScriptAt (hfiles ▸ hread), runContent_refused hdepth]
      simp [Succeeds, Outcome.ok]
      omega
    · obtain ⟨levels, rfl⟩ : ∃ fewer, levels = fewer + 1 :=
        Nat.exists_eq_succ_of_ne_zero (by omega)
      subst hfiles
      have hlast' : Succeeds ((runText (registered (levels - (n - 1))) last lastPath lastText).run
          (s.inner.innerBy (n - 1))).1 := by
        have hn : n + 1 - 1 = n - 1 + 1 := by omega
        rwa [hn, Nat.add_sub_add_right, ← Session.innerBy_inner] at hlast
      have hlevels' : s.inner.config.shell.maxScriptDepth ≤ s.inner.scriptDepth + levels := by
        simp only [Session.inner]
        omega
      rw [succeeds_runScriptAt_iff (by omega) hread honly hscript,
        @ih levels s.inner rfl hlevels' hlast']
      simp only [Session.inner]
      omega

/-- Two scripts are a chain, whatever else than commands there is in them. -/
example :
    let files : Snapshot := ⟨⟨"/", [], [⟨"a.msh", "# down\n\n./b.msh\n"⟩, ⟨"b.msh", "cls"⟩]⟩, []⟩
    Chain files 2 "./a.msh" "/a.msh" "./b.msh" "/b.msh" "cls" := by
  have hcall : OnlyCommand "# down\n\n./b.msh\n" ⟨"./b.msh", []⟩ := by decide +kernel
  exact .next rfl hcall (by decide) (.last rfl)

end Chains

/-! ## Running a script -/

/-- What running a script from a session keeps to. -/
structure Bounded (name : String) (path? : Option String) (s : Session) : Prop where
  /-- The machine that is started with the script comes to its end, with what running the script
  comes to. -/
  halts :
    let ended := (script name path?).run s
    Machine.Halts (levelsBelow s + 1)
      (.opening [] name (path?.getD (invokedPath s.files.snapshot name)) s)
      (.returning [] ended.1 ended.2)
  /-- Wherever the machine is, the count of scripts is right, and within the bound. -/
  bounded : ∀ m, Machine.Reaches (levelsBelow s + 1)
    (.opening [] name (path?.getD (invokedPath s.files.snapshot name)) s) m → m.Sound s
  /-- Scripts that programs run are counted as well: an alarm that goes off where more scripts are
  running than may be never does. -/
  unalarmed : ∀ alarm, (runScript (fun line => sentry alarm (s.scriptDepth + 1)
    (watched alarm (s.scriptDepth + 1) (levelsBelow s + 1) line)) name path?).run s =
      (script name path?).run s
  /-- However the script ends, or is stopped, as many scripts are running as were before. -/
  restored : ((script name path?).run s).2.scriptDepth = s.scriptDepth
  /-- A chain of scripts whose last one succeeds in its place succeeds if it is no longer than the
  bound, and only then. -/
  chained : s.scriptDepth = 0 → ∀ n last lastPath text,
    Chain s.files.snapshot n name (path?.getD (invokedPath s.files.snapshot name)) last lastPath
      text →
    Succeeds ((runText (registered (levelsBelow s + 1 - (n - 1))) last lastPath text).run
      (s.innerBy (n - 1))).1 →
    (Succeeds ((script name path?).run s).1 ↔ n ≤ s.config.shell.maxScriptDepth)

theorem run_script (name : String) (path? : Option String) (s : Session) :
    (script name path?).run s = (runScriptAt (registered (levelsBelow s + 1)) name
      (path?.getD (invokedPath s.files.snapshot name))).run s := by
  rw [script, run_levels_bind, runScript, run_view_bind]

/-- There are more levels of commands in a session than scripts that may be running. -/
theorem maxScriptDepth_le (s : Session) :
    s.config.shell.maxScriptDepth ≤ s.scriptDepth + (levelsBelow s + 1) := by
  rw [levelsBelow]
  omega

/-- **Scripts come to their end, within the bound, and leave the count of scripts as it was.** -/
theorem bounded_script (name : String) (path? : Option String) (s : Session) :
    Bounded name path? s where
  halts := by
    dsimp only
    rw [run_script]
    exact ⟨Machine.reaches_end _ _ s (maxScriptDepth_le s), rfl⟩
  bounded _ hreaches := (Machine.sound_opening _ _ s).reaches hreaches
  unalarmed alarm := by
    rw [run_watchedScript, script, run_levels_bind]
  restored := by
    rw [run_script]
    exact (steady_runScriptAt (steady_registered _) _ _).depth s
  chained hzero n last lastPath text hchain hlast := by
    rw [run_script, hchain.succeeds_iff rfl (maxScriptDepth_le s) hlast, hzero, Nat.zero_add]

end Script

end TreeShell
