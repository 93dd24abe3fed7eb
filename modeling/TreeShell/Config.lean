import TreeShell.Number.Reading
import TreeShell.Text.Case

/-!
# Configuration

What a shell is started with: where its records are kept, and the bounds and defaults of its
session. Three environment variables and three command line options have a say in it.
-/

set_option autoImplicit false

namespace TreeShell

/-- Where records are kept: the file of the store (none: only in memory), and the key of the file
system's record. -/
structure StorageConfig where
  databasePath? : Option String := none
  recordKey : String := "memsh.vfs"
deriving DecidableEq, Repr

/-- The bounds and defaults of a session. -/
structure ShellConfig where
  historyLimit : Int := 500
  maxAliasDepth : Nat := 5
  maxScriptDepth : Nat := 8
  defaultPath : List String := ["/bin"]
  promptUser : String := "memsh"
  promptHost : String := "localhost"
  bootstrapInit : Bool := true
deriving DecidableEq, Repr

/-- The configuration of a shell. -/
structure Config where
  storage : StorageConfig := {}
  shell : ShellConfig := {}
  debug : Bool := false
deriving DecidableEq, Repr

/-- The environment variables a shell is started with. -/
abbrev Variables := List (String × String)

/-- The options that bear on the configuration. -/
structure StoreOptions where
  memory : Bool := false
  database? : Option String := none
  debug : Bool := false
deriving DecidableEq, Repr

namespace Config

/-- The store of a shell that is started without being told where to keep its records. -/
def homeDatabase : String := "~/.memsh/memsh.db"

/-- The configuration of a shell whose records are kept in memory. -/
def inMemory : Config := {}

/-- The configuration of a shell whose records are kept in the home folder. -/
def persistent : Config :=
  { storage := { databasePath? := some homeDatabase } }

/-- Whether the text of a variable switches something on. -/
def isOn (text : String) : Bool :=
  ["1", "true", "yes", "on"].contains (Text.lower (Text.trim text))

/-- The history limit a variable asks for: a positive whole number in digits, blanks around it. A
text of digits of which some have no place value is an error. -/
def historyLimit? (text : String) : Except Number.IntegerError (Option Int) :=
  if Text.isAllDigits (Text.trimmed text.toList) then
    (Number.integer text).map fun n => if 0 < n then some n else none
  else .ok none

/-- A text, unless it is empty. -/
def nonEmpty? (text : String) : Option String :=
  if text = "" then none else some text

/-- The configuration that the environment variables ask for. -/
def ofVariables (vars : Variables) : Except Number.IntegerError Config := do
  let limit? ← historyLimit? ((vars.lookup "MEMSH_HISTORY_LIMIT").getD "")
  let base : Config :=
    { storage := { databasePath? := (vars.lookup "MEMSH_DB_PATH").bind nonEmpty? }
      debug := isOn ((vars.lookup "MEMSH_DEBUG").getD "") }
  return { base with shell := { base.shell with
    historyLimit := limit?.getD base.shell.historyLimit } }

/-- The configuration that environment variables and options ask for together: an option wins over
a variable, and without either the store is the one in the home folder. -/
def build (options : StoreOptions) (vars : Variables) : Except Number.IntegerError Config := do
  let base ← ofVariables vars
  let path? :=
    if options.memory then none
    else
      match options.database?.bind nonEmpty? with
      | some path => some path
      | none => some (base.storage.databasePath?.getD homeDatabase)
  return { base with
    storage := { base.storage with databasePath? := path? }
    debug := base.debug || options.debug }

end Config

end TreeShell
