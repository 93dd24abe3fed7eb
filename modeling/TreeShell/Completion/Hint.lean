import TreeShell.Color
import TreeShell.Completion.Basic

/-!
# Hints

What is shown below the line after a completion: that nothing fits, or the candidates, the active
one in brackets. A hint is always in colour.
-/

set_option autoImplicit false

namespace TreeShell

/-- What was looked for, in words. -/
def CompletionKind.sought : CompletionKind → String
  | .command => "commands"
  | .path => "files or folders"

namespace Proposal

/-- A candidate in a hint, at a place of the list. -/
def hintPart (proposal : Proposal) (index : Nat) (candidate : Candidate) : String :=
  let shown := candidate.shown
  if index = proposal.index then Color.accent.paint ("[" ++ shown ++ "]")
  else if Text.endsIn shown "/" then Color.cyan.paint shown
  else Color.green.paint shown

/-- The candidates in a row. -/
def hint (proposal : Proposal) : String :=
  Text.join "  " (proposal.candidates.mapIdx proposal.hintPart)

end Proposal

/-- The hint after a completion. One name that fits needs none. -/
def Completion.hint : Completion → String
  | nothing kind _ => Color.red.paint ("No matching " ++ kind.sought ++ " found")
  | single .. => ""
  | several proposal => proposal.hint

end TreeShell
