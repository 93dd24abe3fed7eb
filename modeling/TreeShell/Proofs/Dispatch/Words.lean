import TreeShell.Proofs.Script.Lines
import TreeShell.Proofs.Words.Trimming

/-!
# The words a line is run with

A line that is entered, and a line of a script, is run with the words of the trimmed line. They are
the words of the line itself exactly when trimming takes separators only (`line_run_with_words`).

It takes more at the end of some lines. In `show a\ ` the backslash makes the blank a character of
the last word; the trimmed line ends in the backslash, which then stands for itself, and the command
is run with another argument (`not_line_run_with_words`).
-/

set_option autoImplicit false

namespace TreeShell

theorem trimmed_ne_nil {line : String} (h : isCommentOrBlank line = false) :
    Text.trimmed line.toList ≠ [] := by
  intro hnil
  have hblank : isCommentOrBlank line = true := by rw [isCommentOrBlank, hnil]
  exact Bool.false_ne_true (h.symm.trans hblank)

/-- The command of a line that has words is the first of them, with the others for arguments. -/
theorem Command.words_parse {line : String} (h : (tokenize line).values ≠ []) :
    (Command.parse line).name :: (Command.parse line).args = (tokenize line).values := by
  obtain ⟨name, args, hvalues⟩ := List.exists_cons_of_ne_nil h
  rw [Command.parse_eq, hvalues]
  rfl

namespace Shell

/-- Dispatches a command that was typed: applies aliases, runs what comes out, and tries the search
path if that is no command. -/
def dispatchCommand (run : Command → Shell Outcome) (runner : Runner) (typed : Command) :
    Shell Outcome := do
  let call ← expandAliases typed
  match ← run call with
  | .unhandled _ => runOnPath runner typed.name call
  | outcome => return outcome

theorem dispatchIn_command {line : String} (h : isCommentOrBlank line = false) (levels : Nat) :
    dispatchIn (levels + 1) line =
      dispatchCommand (registered levels) (runnerIn levels) (Command.parse (Text.trim line)) := by
  rw [dispatchIn, dispatchLine, h, if_neg Bool.false_ne_true]
  rfl

/-- **The words a line is run with.** A line with a command is dispatched, and run strictly by a
script, with the words of the trimmed line for its command word and arguments; and these are the
words of the line if and only if nothing was trimmed but separators. -/
theorem line_run_with_words {line : String} (hline : isCommentOrBlank line = false) :
    ∃ typed : Command,
      typed.name :: typed.args = (tokenize (Text.trim line)).values ∧
      (∀ levels, dispatchIn (levels + 1) line =
        dispatchCommand (registered levels) (runnerIn levels) typed) ∧
      (∀ levels name path number rest s,
        (runLines (registered levels) name path number (line :: rest)).run s =
          afterLine name path number line
            (runLines (registered levels) name path (number + 1) rest)
            ((strict (registered levels) typed).run s)) ∧
      (typed.name :: typed.args = (tokenize line).values ↔ TrimsSeparators line) := by
  have htrimmed := trimmed_ne_nil hline
  have hwords := Command.words_parse (values_trim_ne_nil htrimmed)
  refine ⟨Command.parse (Text.trim line), hwords, dispatchIn_command hline, ?_, ?_⟩
  · exact fun levels name path number rest s => run_runLines_cons hline name path number rest s
  · rw [hwords]
    exact values_trim_iff htrimmed

theorem line_run_with_words_quoted :
    isCommentOrBlank "\tcat 'a b'  " = false ∧ TrimsSeparators "\tcat 'a b'  " ∧
      ∃ typed : Command, typed.name :: typed.args = ["cat", "a b"] ∧
        ∀ levels, dispatchIn (levels + 1) "\tcat 'a b'  " =
          dispatchCommand (registered levels) (runnerIn levels) typed := by
  have hline : isCommentOrBlank "\tcat 'a b'  " = false := by decide
  have htrims : TrimsSeparators "\tcat 'a b'  " := by decide
  obtain ⟨typed, -, hdispatch, -, hwords⟩ := line_run_with_words hline
  exact ⟨hline, htrims, typed, (hwords.mpr htrims).trans (by decide), hdispatch⟩

/-- A session with a command that prints the words it is called with. -/
def showingSession : Session :=
  .fresh {} ⟨.fresh, some .empty, "tree"⟩ (Registry.addRecorder [] ⟨"X", ["show"], []⟩) {}
    ⟨2024, 1, 1, 0, 0, 0, 0⟩

/-- A blank after a backslash is a character of a word of the line, and not of one of the trimmed
line: the line is not dispatched with its own words. -/
theorem not_line_run_with_words :
    (tokenize "show a\\ ").values = ["show", "a "] ∧
      ¬ ∀ line levels, isCommentOrBlank line = false →
        dispatchIn (levels + 1) line =
          dispatchCommand (registered levels) (runnerIn levels) (Command.parse line) := by
  refine ⟨by decide, fun hwords => ?_⟩
  have hsame := congrArg (fun step => (step.run showingSession).2.console.output)
    (hwords "show a\\ " 1 (by decide))
  have htrimmed : ((dispatchIn 2 "show a\\ ").run showingSession).2.console.output =
      ["X:show|a\\"] := by decide +kernel
  have hown : ((dispatchCommand (registered 1) (runnerIn 1) (Command.parse "show a\\ ")).run
      showingSession).2.console.output = ["X:show|a "] := by decide +kernel
  rw [htrimmed, hown] at hsame
  exact absurd hsame (by decide)

end Shell

end TreeShell
