import TreeShell.Completion.Hint
import TreeShell.Session.Basic

/-!
# The prompt and its buffer

At the prompt a line is edited in a buffer. Tab completes the line, Escape drops what a completion
left behind, or empties the line if there is nothing to drop. A change of the line by other means
drops it as well.
-/

set_option autoImplicit false

namespace TreeShell

/-- The line being edited and the place of the cursor in it. -/
structure EditBuffer where
  text : String
  cursor : Nat
deriving DecidableEq, Repr

namespace EditBuffer

/-- An empty line. -/
def empty : EditBuffer := ⟨"", 0⟩

/-- A line with the cursor at its end. -/
def atEnd (text : String) : EditBuffer := ⟨text, text.length⟩

/-- The line with the cursor at a place, as far as the line reaches. -/
def moveTo (buffer : EditBuffer) (place : Int) : EditBuffer :=
  { buffer with cursor := min place.toNat buffer.text.length }

end EditBuffer

/-- What a user does to the line. -/
inductive EditAction where
  | text (line : String)
  | cursor (place : Int)
  | tab (reverse : Bool)
  | escape
deriving DecidableEq, Repr

/-- What a user sees after an action: the line, the hint, and whether a proposal is open. -/
structure EditView where
  buffer : EditBuffer
  hint : String
  proposing : Bool
deriving DecidableEq, Repr

namespace Shell

/-! ## Completion -/

/-- What can be completed in the session. -/
def completionSources : Shell CompletionSources := do
  let s ← get
  let snapshot := s.files.snapshot
  return ⟨s.registry.sortedNames ++ s.environment.path.commands snapshot, snapshot⟩

/-- Completes a line, and keeps the proposal that stays open. -/
def complete (line : String) (reverse : Bool) : Shell Completion := do
  let sources ← completionSources
  let completion := sources.complete (← get).proposal? line reverse
  modify ({ · with proposal? := completion.proposal? })
  return completion

/-- Drops the open proposal. -/
def cancelCompletion : Shell Unit :=
  modify ({ · with proposal? := none })

/-- Drops the open proposal and the hint. -/
def dropHint : Shell Unit :=
  modify ({ · with proposal? := none, hint := "" })

/-- Whether a proposal is open. -/
def isProposing : Shell Bool := do
  return (← get).proposal?.isSome

/-! ## The prompt -/

/-- The prompt as text. -/
def promptText : Shell String := do
  let s ← get
  return s.environment.userAtHost s.config.shell ++ ":" ++ s.files.snapshot.cwdPath ++ "$ "

/-- The style for a colour setting; none, unless the setting is a text. -/
def styleOf (setting : Option Json) : String :=
  match setting with
  | some (.string color) => if color = "" then "" else "fg:" ++ color
  | _ => ""

/-- The prompt in parts, each with its style. -/
def styledPrompt : Shell (List (String × String)) := do
  let s ← get
  let display := s.environment.display
  return [(styleOf (Fields.get? display "prompt_user_color"),
      s.environment.userAtHost s.config.shell),
    ("", ":"),
    (styleOf (Fields.get? display "prompt_path_color"), s.files.snapshot.cwdPath),
    ("", "$ ")]

/-! ## Editing -/

/-- Completes the line of a buffer, and shows the hint. -/
def completeBuffer (buffer : EditBuffer) (reverse : Bool) : Shell EditBuffer := do
  let completion ← complete buffer.text reverse
  modify ({ · with hint := completion.hint })
  return .atEnd completion.text

/-- The buffer after it was edited; what a completion left behind is dropped if anything changed. -/
def edited (buffer next : EditBuffer) : Shell EditBuffer := do
  if next ≠ buffer then dropHint
  return next

/-- The buffer after Escape. -/
def escape (buffer : EditBuffer) : Shell EditBuffer := do
  if (← get).hint ≠ "" || (← isProposing) then
    dropHint
    return buffer
  else return .empty

/-- The buffer after an action. -/
def edit (buffer : EditBuffer) : EditAction → Shell EditBuffer
  | .text line => edited buffer (.atEnd line)
  | .cursor place => edited buffer (buffer.moveTo place)
  | .tab reverse => completeBuffer buffer reverse
  | .escape => escape buffer

/-- What is seen after each of several actions. -/
def editAll (buffer : EditBuffer) : List EditAction → Shell (List EditView)
  | [] => return []
  | action :: rest => do
    let buffer ← edit buffer action
    let shown : EditView := ⟨buffer, (← get).hint, ← isProposing⟩
    return shown :: (← editAll buffer rest)

end Shell

end TreeShell
