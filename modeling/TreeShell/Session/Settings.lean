import TreeShell.Session.Basic

/-!
# Settings kept as files

The environment is kept in four files, so that it is stored with all others and can be looked at
with the same commands. It is read once, brought into form and written back; and after each change
the file that holds what changed is written at once.

A file that is not there, or holds no document, counts as empty. A file that cannot be written is
passed over. What does stop the reading of a file is a whole number that is too long, or a limit in
digits of which some have no place value; and a limit that is too long is not written.
-/

set_option autoImplicit false

namespace TreeShell

/-- The folder of the settings. -/
def settingsPath : String := "/" ++ settingsFolder

/-- The file with the search path and the aliases. -/
def searchFile : String := "/sys/env.json"

/-- The file with the history. -/
def historyFile : String := "/sys/history.json"

/-- The file with the bound of the history. -/
def historyLimitFile : String := "/sys/historyLimit.txt"

/-- The file with the display settings. -/
def displayFile : String := "/sys/config.json"

namespace Shell

/-! ## Writing -/

/-- Writes a settings file, and passes over a refusal. -/
def writeSettings (path content : String) : Shell Unit := do
  let _ ← attempt (install settingsPath path content)

/-- Writes the bound of the history. -/
def recordLimit (limit : Int) : Shell Unit := do
  match Number.integerText limit with
  | .ok text => writeSettings historyLimitFile text
  | .error e => throw (.integer e)

/-- Writes the search path and the aliases. -/
def recordSearch : Shell Unit := do
  writeSettings searchFile (← environment).searchDocument.indented

/-- Writes the display settings. -/
def recordDisplay : Shell Unit := do
  writeSettings displayFile (← environment).displayDocument.indented

/-- Drops from the history what is too much, and writes it. -/
def recordHistory : Shell Unit := do
  withEnvironment .bounded
  writeSettings historyFile (← environment).historyDocument.indented

/-- Writes the whole environment. -/
def recordEnvironment : Shell Unit := do
  recordLimit (← environment).historyLimit
  recordSearch
  recordDisplay
  recordHistory

/-! ## Reading -/

/-- The document in a settings file; null if there is none. -/
def readSettings (path : String) : Shell Json := do
  match ← attempt (look (·.read path)) with
  | .error _ => return .null
  | .ok content =>
    match Json.parse content with
    | .ok document => return document
    | .error .malformed => return .null
    | .error (.integerTooLong digits) => throw (.integer (.tooLong digits))

/-- The bound of the history that a file's text gives, if it is a positive number in digits. -/
def limitOfText (content : String) : Except Number.IntegerError (Option Int) :=
  Config.historyLimit? (Text.trim content)

/-- The bound of the history as its file gives it. Without a proper one the default is taken, and
written there. -/
def readHistoryLimit : Shell Int := do
  let recorded? ←
    match ← attempt (look (·.read historyLimitFile)) with
    | .error _ => pure none
    | .ok content =>
      match limitOfText content with
      | .ok limit? => pure limit?
      | .error e => throw (.integer e)
  match recorded? with
  | some limit => return limit
  | none =>
    let limit := (← bounds).historyLimit
    recordLimit limit
    return limit

/-- Reads the environment, and writes it back in form. -/
def loadEnvironment : Shell Unit := do
  change (·.ensureDirPath settingsPath)
  let historyLimit ← readHistoryLimit
  withEnvironment ({ · with historyLimit })
  let recorded ← readSettings historyFile
  withEnvironment fun e => { e with history := (Environment.historyOf? recorded).getD e.history }
  let recorded ← readSettings displayFile
  let config ← bounds
  withEnvironment ({ · with display := Environment.displayOf config recorded })
  let recorded ← readSettings searchFile
  withEnvironment ({ · with
    path := Environment.withFolder programFolder (Environment.pathOf config recorded)
    aliases := Environment.aliasesOf recorded })
  recordSearch
  recordDisplay
  recordHistory

/-! ## Changing -/

/-- Defines an alias. -/
def setAlias (name target : String) : Shell Unit := do
  withEnvironment fun e => { e with aliases := Fields.set e.aliases name target }
  recordSearch

/-- Removes an alias, and answers whether there was one. -/
def removeAlias (name : String) : Shell Bool := do
  if (← environment).aliases.has name then
    withEnvironment fun e => { e with aliases := Fields.erase e.aliases name }
    recordSearch
    return true
  else return false

/-- Adds a line to the history, and answers whether it was worth it. -/
def addHistory (line : String) : Shell Bool := do
  match (← environment).remember? line with
  | none => return false
  | some e =>
    withEnvironment fun _ => e
    recordHistory
    return true

/-- Changes a display setting to what a user wrote, and answers its value. -/
def setDisplay (name text : String) : Shell Json := do
  let value := Environment.readSetting name ((← environment).display.get? name) text
  withEnvironment fun e => { e with display := Fields.set e.display name value }
  recordDisplay
  return value

/-- Takes back all changes of display settings. -/
def resetDisplay : Shell Unit := do
  let config ← bounds
  withEnvironment ({ · with display := Environment.defaultDisplay config })
  recordDisplay

/-- Puts a folder into the search path. -/
def ensureOnPath (folder : String) : Shell Unit := do
  withEnvironment fun e => { e with path := Environment.withFolder folder e.path }
  recordSearch

end Shell

end TreeShell
