import TreeShell.Color

/-!
# The console of a session

Where a session writes to and reads from. The input is a queue that is made before: lines, and
interrupts between them. What is printed, asked and waited for is kept in order.
-/

set_option autoImplicit false

namespace TreeShell

/-- What the user does at one request for input. -/
inductive InputItem where
  | line (text : String)
  | interrupt
deriving DecidableEq, Repr

/-- The console of a session: whether it has colours, the input that is still to be read, the lines
that were printed, the prompts of all requests for input, and all pauses in milliseconds. On an
impatient console the user interrupts every pause. -/
structure Console where
  color : Bool := false
  input : List InputItem := []
  output : List String := []
  prompts : List String := []
  pauses : List Nat := []
  impatient : Bool := false
deriving DecidableEq, Repr

namespace Console

/-- The console after a line was printed. -/
def write (console : Console) (line : String) : Console :=
  { console with output := console.output ++ [line] }

/-- The console after a prompt was shown. -/
def ask (console : Console) (prompt : String) : Console :=
  { console with prompts := console.prompts ++ [prompt] }

/-- The console after a pause. -/
def pause (console : Console) (milliseconds : Nat) : Console :=
  { console with pauses := console.pauses ++ [milliseconds] }

/-- What is printed, as one text. -/
def text (console : Console) : String :=
  String.join (console.output.map (· ++ "\n"))

/-- The console with the account of what it did forgotten. -/
def cleared (console : Console) : Console :=
  { console with output := [], prompts := [], pauses := [] }

end Console

end TreeShell
