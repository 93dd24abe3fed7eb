import TreeShell.Aliases
import TreeShell.Config
import TreeShell.Json.Display
import TreeShell.Number.Reading
import TreeShell.SearchPath

/-!
# The environment of a session

The search path, the aliases, the history with its bound, and the display settings. What is read
from outside is brought into form first: items of the wrong kind are passed over, what is missing or
of the wrong kind altogether is taken from the configuration, and the folder of programs is always
in the search path.

The history never holds an empty line or the same line twice in a row, and only its last
`historyLimit` lines are kept.
-/

set_option autoImplicit false

namespace TreeShell

/-- The folder the bundled programs are in. -/
def programFolder : String := "/bin"

/-- The environment of a session. -/
structure Environment where
  path : SearchPath
  aliases : Aliases
  history : List String
  historyLimit : Int
  display : Fields Json
deriving Repr

namespace Environment

/-- The setting that holds whether the logo is shown. -/
def logoSetting : String := "show_welcome_logo"

/-- The display settings of a shell that has none recorded. -/
def defaultDisplay (config : ShellConfig) : Fields Json :=
  [("prompt_user", .string config.promptUser), ("prompt_host", .string config.promptHost),
    ("prompt_user_color", .string "#859900"), ("prompt_path_color", .string "#268BD2"),
    (logoSetting, .bool true)]

/-- The search path of a shell that has none recorded. -/
def defaultPath (config : ShellConfig) : SearchPath :=
  config.defaultPath.map .string

/-- The environment before anything was read. -/
def initial (config : ShellConfig) : Environment where
  path := defaultPath config
  aliases := []
  history := []
  historyLimit := config.historyLimit
  display := defaultDisplay config

/-! ## Bringing documents into form -/

/-- A search path with a folder in it. -/
def withFolder (folder : String) (path : SearchPath) : SearchPath :=
  if path.any (Json.isString folder) then path else path ++ [.string folder]

/-- The search path a document gives. -/
def pathOf (config : ShellConfig) (document : Json) : SearchPath :=
  match document.get? "PATH" with
  | some (.array items) => (Json.strings items).map .string
  | _ => defaultPath config

/-- The aliases a document gives. -/
def aliasesOf (document : Json) : Aliases :=
  match document.get? "ALIAS" with
  | some (.object members) =>
    members.filterMap fun member => member.2.string?.map fun target => (member.1, target)
  | _ => []

/-- The history a document gives, if it is a list. -/
def historyOf? : Json → Option (List String)
  | .array items => some (Json.strings items)
  | _ => none

/-- The display settings a document gives, over the default ones. -/
def displayOf (config : ShellConfig) : Json → Fields Json
  | .object members => Fields.update (defaultDisplay config) members
  | _ => defaultDisplay config

/-- The search path and the aliases as a document. -/
def searchDocument (e : Environment) : Json :=
  .object [("PATH", .array e.path), ("ALIAS", .object (e.aliases.map fun a => (a.1, .string a.2)))]

/-- The history as a document. -/
def historyDocument (e : Environment) : Json :=
  .array (e.history.map .string)

/-- The display settings as a document. -/
def displayDocument (e : Environment) : Json :=
  .object e.display

/-! ## Changing -/

/-- The environment without the lines that are too many in its history. -/
def bounded (e : Environment) : Environment :=
  { e with history := e.history.drop ((e.history.length : Int) - e.historyLimit).toNat }

/-- The environment with a line added to its history, if the line is worth it: not blank, and not
the same as the last one. -/
def remember? (e : Environment) (line : String) : Option Environment :=
  let entry := Text.trim line
  if entry = "" || e.history.getLast? == some entry then none
  else some { e with history := e.history ++ [entry] }

/-- The settings that are either on or off, whatever they are at the moment. -/
def isSwitch (name : String) : Bool :=
  name = logoSetting

/-- The words that switch something on. -/
def switchesOn (text : String) : Bool :=
  ["true", "1", "yes", "on"].contains (Text.lower text)

/-- The value of a setting that a user wrote: of the kind the setting has at the moment where the
text can be read so, and the text itself where not. -/
def readSetting (name : String) (current : Option Json) (text : String) : Json :=
  if isSwitch name then .bool (switchesOn text)
  else
    match current with
    | some (.bool _) => .bool (switchesOn text)
    | some (.int _) =>
      match Number.integer text with
      | .ok n => .int n
      | .error _ => .string text
    | some (.float _) =>
      match Number.float? text with
      | some x => .float x
      | none => .string text
    | _ => .string text

/-- The user and the host as the prompt names them: from the display settings if they are given
there. -/
def userAtHost (e : Environment) (config : ShellConfig) : String :=
  let named (name default : String) :=
    match e.display.get? name with
    | some value => if value.isTruthy then value.display else default
    | none => default
  named "prompt_user" config.promptUser ++ "@" ++ named "prompt_host" config.promptHost

@[simp]
theorem bounded_historyLimit (e : Environment) : e.bounded.historyLimit = e.historyLimit := rfl

/-- The folder that was asked for is in the search path. -/
theorem mem_withFolder (folder : String) (path : SearchPath) :
    Json.string folder ∈ withFolder folder path := by
  unfold withFolder
  split
  · rename_i h
    obtain ⟨item, hm, hi⟩ := List.any_eq_true.1 h
    cases item <;> simp [Json.isString] at hi
    subst hi
    exact hm
  · simp

end Environment

end TreeShell
