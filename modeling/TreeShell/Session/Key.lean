import TreeShell.Text.Affix
import TreeShell.Text.Split

/-!
# Keys

Where input is scripted, a line of it can stand for one key: a line that is the name of a key is
that key, an empty line is the return key, and any other line is the key of its first character.
-/

set_option autoImplicit false

namespace TreeShell

/-- A key that was pressed: its name or its character, and the line it was read from. -/
structure KeyPress where
  key : String
  line : String
deriving DecidableEq, Repr

namespace KeyPress

/-- Names with something before each. -/
def withStart (start : String) (names : List String) : List String :=
  names.map (start ++ ·)

/-- Every character of a text as a name. -/
def letters (text : String) : List String :=
  text.toList.map fun c => .ofList [c]

/-- The keys that move about. -/
def movements : List String :=
  ["left", "right", "up", "down", "home", "end", "insert", "delete", "pageup", "pagedown"]

/-- The keys that are numbered. -/
def functions : List String :=
  (List.range 24).map fun n => "f" ++ toString (n + 1)

/-- The names of all keys. -/
def names : List String :=
  ["escape", "s-escape", "s-tab"] ++ movements ++ functions ++
    withStart "c-" (letters "@abcdefghijklmnopqrstuvwxyz0123456789\\]^_") ++
    withStart "c-" movements ++ withStart "s-" movements ++ withStart "c-s-" movements ++
    withStart "c-s-" (letters "0123456789") ++ withStart "c-" functions ++
    ["<any>", "<scroll-up>", "<scroll-down>", "<cursor-position-response>",
      "<vt100-mouse-event>", "<windows-mouse-event>", "<bracketed-paste>", "<sigint>", "<ignore>"]

/-- The name of the return key. -/
def returnKey : String := "c-m"

/-- The key a line stands for. -/
def ofLine (line : String) : KeyPress where
  key :=
    if names.contains line then line
    else if line = "" then returnKey
    else Text.firstPart 1 line
  line := line

end KeyPress

end TreeShell
