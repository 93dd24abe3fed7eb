import TreeShell.Proofs.Dispatch.Routes
import TreeShell.Proofs.Dispatch.Steady

/-!
# The lines of a script, one after the other

A text that is two texts with a line feed between them has the lines of the one and then the lines
of the other, unless the first ends in a carriage return, which would go with the line feed. Running
lines that are put together is running the ones and, if they succeed, the others
(`run_runLines_append`).

Under which name a script runs and where its lines are counted from is told, but never looked at: so
lines end the same way for all of them (`LinesEnd`), and the one difference is in what is told of
the line that failed.
-/

set_option autoImplicit false

namespace TreeShell

/-! ## Lines of a text -/

namespace Text

theorem cutLines_ne_nil (s : List Char) : cutLines s ≠ [] := by
  fun_cases cutLines s <;> simp [*]

theorem cutLines_cons {c : Char} {rest first : List Char} {others : List (List Char)}
    (hline : c ≠ '\n') (hpair : ∀ after, c = '\r' → rest = '\n' :: after → False)
    (hcut : cutLines rest = first :: others) :
    cutLines (c :: rest) = (c :: first) :: others := by
  simp only [cutLines.eq_3 _ _ hpair, if_neg hline, hcut]

/-- Texts put together at a line feed have the lines of the one and then those of the other. -/
theorem cutLines_append {a : List Char} (ha : a.getLast? ≠ some '\r') (b : List Char) :
    cutLines (a ++ '\n' :: b) = cutLines a ++ cutLines b := by
  fun_induction cutLines a with
  | case1 => simp [cutLines]
  | case2 rest ih =>
    have hrest : rest.getLast? ≠ some '\r' := by
      cases rest with
      | nil => simp
      | cons c rest => simpa using ha
    simp [cutLines, ih hrest]
  | case3 rest hpair ih =>
    have hrest : rest.getLast? ≠ some '\r' := by
      cases rest with
      | nil => simp
      | cons c rest => simpa using ha
    simp [cutLines, ih hrest]
  | case4 c rest hpair hline hnil ih => exact absurd hnil (cutLines_ne_nil rest)
  | case5 c rest hpair hline first others hcut ih =>
    have hpair' : ∀ after, c = '\r' → rest ++ '\n' :: b = '\n' :: after → False := by
      intro after hc happend
      cases rest with
      | nil => exact ha (by simp [hc])
      | cons d rest =>
        rw [List.cons_append, List.cons.injEq] at happend
        exact hpair rest hc (by rw [happend.1])
    have hrest : rest.getLast? ≠ some '\r' := by
      cases rest with
      | nil => simp
      | cons d rest => simpa using ha
    have hall : cutLines (rest ++ '\n' :: b) = first :: (others ++ cutLines b) := by
      rw [ih hrest, hcut, List.cons_append]
    rw [List.cons_append, cutLines_cons hline hpair' hall, List.cons_append]

theorem lines_append {a : String} (ha : a.toList.getLast? ≠ some '\r') (b : String) :
    lines (a ++ "\n" ++ b) = lines a ++ lines b := by
  have htext : (a ++ "\n" ++ b).toList = a.toList ++ '\n' :: b.toList := by simp
  rw [lines, htext, cutLines_append ha, List.map_append]
  rfl

end Text

/-! ## What is told of a failure -/

/-- What an outcome that is a failure failed with. -/
def Outcome.failedWith? : Outcome → Option Fault
  | failure cause | unhandled cause => some (cause.getD (.report "error"))
  | success | stop => none

/-- The lines that tell where a script was stopped. -/
def stoppedReport (name : String) (number : Nat) (line : String) (cause : Fault) : List String :=
  ["msh: stopped at " ++ name ++ ":" ++ toString number, "msh: " ++ line,
    "msh: " ++ cause.message, ""]

namespace Shell

/-! ## One line -/

section Lines

variable {run : Command → Shell Outcome}

/-- What strictness makes of the end of a command. -/
def strictEnd (command : String) : Except Fault Outcome → Except Fault Outcome
  | .ok outcome => .ok (strictOutcome command (.ok outcome))
  | .error fault =>
    if fault.isOrdinary then .ok (strictOutcome command (.error fault)) else .error fault

theorem run_strict (run : Command → Shell Outcome) {call : Command} (hname : call.name ≠ "")
    (s : Session) :
    (strict run call).run s =
      (strictEnd call.name ((run call).run s).1, ((run call).run s).2) := by
  rw [strict, if_neg hname, run_bind, run_guarded]
  generalize (run call).run s = first
  obtain ⟨result, after⟩ := first
  cases result with
  | ok outcome => rfl
  | error fault =>
    dsimp only [guardedEnd, strictEnd]
    cases fault.isOrdinary with
    | true => rfl
    | false => rfl

/-- A word without separators names neither a script nor a program by its path, so it is looked up
at once. -/
theorem run_dispatchStrict {word : String} (hword : word ≠ "") (hsep : '/' ∉ word.toList)
    (args : List String) (s : Session) :
    (dispatchStrict ⟨word, args⟩).run s =
      (strictEnd word ((runRegistered (runnerIn (levelsBelow s)) ⟨word, args⟩).run s).1,
        ((runRegistered (runnerIn (levelsBelow s)) ⟨word, args⟩).run s).2) := by
  rw [dispatchStrict, run_levels_bind, run_strict _ hword,
    registered_command ⟨word, args⟩ (isInvocation_eq_false hsep _) (isInvocation_eq_false hsep _)]

/-- What a script makes of the end of one of its lines: it goes on, or ends. -/
def afterLine (name path : String) (number : Nat) (line : String) (next : Shell Outcome) :
    Except Fault Outcome × Session → Except Fault Outcome × Session
  | (.ok outcome, s) =>
    match outcome.failedWith? with
    | some cause => (.ok (.failure (some (.lineFailed name number path cause))),
        s.printed (stoppedReport name number line cause))
    | none => if outcome.continues then next.run s else (.ok .stop, s)
  | (.error fault, s) => (.error fault, s)

theorem runLines_cons_blank {line : String} (hline : isCommentOrBlank line = true)
    (name path : String) (number : Nat) (rest : List String) :
    runLines run name path number (line :: rest) = runLines run name path (number + 1) rest := by
  rw [runLines, if_pos hline]

theorem run_runLines_cons {line : String} (hline : isCommentOrBlank line = false)
    (name path : String) (number : Nat) (rest : List String) (s : Session) :
    (runLines run name path number (line :: rest)).run s =
      afterLine name path number line (runLines run name path (number + 1) rest)
        ((strict run (Command.parse (Text.trim line))).run s) := by
  rw [runLines, if_neg (by simp [hline]), run_bind]
  generalize (strict run (Command.parse (Text.trim line))).run s = first
  obtain ⟨result, after⟩ := first
  cases result with
  | error fault => rfl
  | ok outcome =>
    cases outcome with
    | success | stop => rfl
    | failure cause | unhandled cause =>
      dsimp only
      rw [reportStopped, run_bind, run_printLines]
      rfl

/-! ## All lines -/

/-- Lines put together are run one part after the other, the second if the first succeeded. -/
theorem run_runLines_append (name path : String) (number : Nat) (first second : List String)
    (s : Session) :
    (runLines run name path number (first ++ second)).run s =
      match (runLines run name path number first).run s with
      | (.ok .success, s) => (runLines run name path (number + first.length) second).run s
      | result => result := by
  induction first generalizing number s with
  | nil => rfl
  | cons line rest ih =>
    have hnumber : number + (line :: rest).length = number + 1 + rest.length := by
      rw [List.length_cons]
      omega
    rw [hnumber, List.cons_append]
    cases hline : isCommentOrBlank line with
    | true => rw [runLines_cons_blank hline, runLines_cons_blank hline, ih]
    | false =>
      rw [run_runLines_cons hline, run_runLines_cons hline]
      generalize (strict run (Command.parse (Text.trim line))).run s = ended
      obtain ⟨result, after⟩ := ended
      cases result with
      | error fault => rfl
      | ok outcome =>
        cases outcome with
        | success => exact ih (number + 1) after
        | stop | failure cause | unhandled cause => rfl

/-- How lines end that are run in a session: in one way for all names and numbers, or at a line that
fails. -/
inductive LinesEnd (run : Command → Shell Outcome) (lines : List String) (s : Session) : Prop
  | unstopped (result : Except Fault Outcome) (after : Session)
      (hresult : ∀ outcome, result = .ok outcome → outcome.ok = true)
      (hrun : ∀ name path number,
        (runLines run name path number lines).run s = (result, after))
  | stopped (before : List String) (line : String) (rest : List String) (outcome : Outcome)
      (cause : Fault) (reached after : Session)
      (hlines : lines = before ++ line :: rest)
      (hbefore : ∀ name path number,
        (runLines run name path number before).run s = (.ok .success, reached))
      (hcommand : isCommentOrBlank line = false)
      (hline : (strict run (Command.parse (Text.trim line))).run reached = (.ok outcome, after))
      (hcause : outcome.failedWith? = some cause)
      (hrun : ∀ name path number, (runLines run name path number lines).run s =
        (.ok (.failure (some (.lineFailed name (number + before.length) path cause))),
          after.printed (stoppedReport name (number + before.length) line cause)))

/-- A line in front that lets the others be run adds one to the number of each of them. -/
theorem LinesEnd.cons {line : String} {rest : List String} {s t : Session}
    (h : LinesEnd run rest t)
    (hone : ∀ name path number, (runLines run name path number [line]).run s = (.ok .success, t)) :
    LinesEnd run (line :: rest) s := by
  have hcons : ∀ lines name path number, (runLines run name path number (line :: lines)).run s =
      (runLines run name path (number + 1) lines).run t := by
    intro lines name path number
    rw [← List.singleton_append, run_runLines_append, hone]
    rfl
  cases h with
  | unstopped result after hresult hrun =>
    refine .unstopped result after hresult fun name path number => ?_
    rw [hcons, hrun]
  | stopped before failing others outcome cause reached after hlines hbefore hcommand hline hcause
      hrun =>
    refine .stopped (line :: before) failing others outcome cause reached after ?_ ?_ hcommand hline
      hcause ?_
    · rw [hlines, List.cons_append]
    · intro name path number
      rw [hcons, hbefore]
    · intro name path number
      have hnumber : number + 1 + before.length = number + (line :: before).length := by
        rw [List.length_cons]
        omega
      rw [hcons, hrun, hnumber]

theorem linesEnd (run : Command → Shell Outcome) (lines : List String) (s : Session) :
    LinesEnd run lines s := by
  induction lines generalizing s with
  | nil => exact .unstopped (.ok .success) s (by simp [Outcome.ok]) fun _ _ _ => rfl
  | cons line rest ih =>
    cases hcommand : isCommentOrBlank line with
    | true =>
      refine (ih s).cons fun name path number => ?_
      rw [runLines_cons_blank hcommand]
      rfl
    | false =>
      have hcons : ∀ name path number lines,
          (runLines run name path number (line :: lines)).run s =
            afterLine name path number line (runLines run name path (number + 1) lines)
              ((strict run (Command.parse (Text.trim line))).run s) :=
        fun name path number lines => run_runLines_cons hcommand name path number lines s
      generalize hline : (strict run (Command.parse (Text.trim line))).run s = ended at hcons
      obtain ⟨result, after⟩ := ended
      cases result with
      | error fault =>
        exact .unstopped (.error fault) after (by simp) fun name path number =>
          hcons name path number rest
      | ok outcome =>
        cases hcause : outcome.failedWith? with
        | some cause =>
          refine .stopped [] line rest outcome cause s after rfl (fun _ _ _ => rfl) hcommand hline
            hcause fun name path number => ?_
          rw [hcons]
          simp [afterLine, hcause]
        | none =>
          cases outcome with
          | success => exact (ih after).cons fun name path number => hcons name path number []
          | stop =>
            exact .unstopped (.ok .stop) after (by simp [Outcome.ok]) fun name path number =>
              hcons name path number rest
          | failure cause => exact nomatch hcause
          | unhandled cause => exact nomatch hcause

end Lines

end Shell

end TreeShell
