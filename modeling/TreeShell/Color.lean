import TreeShell.Text.Affix
import TreeShell.Text.Case

/-!
# Colours

A terminal changes colour at a code and goes back at another. Entries of a listing are coloured by
what they are: hidden ones, folders, programs and scripts, and all other files.
-/

set_option autoImplicit false

namespace TreeShell

/-- The colours in use; an accent is bold and yellow. -/
inductive Color where
  | red
  | green
  | yellow
  | cyan
  | gray
  | accent
deriving DecidableEq, Repr

namespace Color

/-- The code that switches to a colour. -/
def code : Color → String
  | red => "\x1b[91m"
  | green => "\x1b[92m"
  | yellow => "\x1b[93m"
  | cyan => "\x1b[96m"
  | gray => "\x1b[90m"
  | accent => "\x1b[1m\x1b[93m"

/-- The code that switches back. -/
def reset : String := "\x1b[0m"

/-- A text in a colour. -/
def paint (color : Color) (text : String) : String :=
  color.code ++ text ++ reset

/-- A text in a colour, where colours are on. -/
def paintIf (enabled : Bool) (color : Color) (text : String) : String :=
  if enabled then color.paint text else text

end Color

/-- Whether an entry is left out of a listing unless all entries are asked for. -/
def isHidden (name : String) : Bool :=
  Text.startsWith name "."

/-- Whether a file is a program or a script, by its name. -/
def isRunnable (name : String) : Bool :=
  let name := Text.lower name
  Text.endsIn name ".py" || Text.endsIn name ".msh"

/-- The colour of an entry in a listing. -/
def entryColor (name : String) (isFolder : Bool) : Color :=
  if isHidden name then .gray
  else if isFolder then .cyan
  else if isRunnable name then .yellow
  else .green

end TreeShell
