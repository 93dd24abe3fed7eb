import Std.Time.DateTime.Timestamp
import TreeShell.CommandLine.Run

/-!
# The program

Reads the arguments, the variables, the input and the file of records; runs; prints, and writes the
file of records back. The records of a store are kept in one file, as an object with a text for
every key.
-/

set_option autoImplicit false

namespace TreeShell.Executable

/-- What is printed when help is asked for. -/
def usage : String :=
  "usage: memsh [-h] [--db DB] [--memory] [--debug] [-c COMMAND] [--script SCRIPT]"

/-- A store as the document that is written to its file. -/
def storeDocument (store : Store) : Json :=
  .object (store.records.map fun record => (record.1, .string record.2.raw))

/-- The store that a document describes. -/
def storeOf : Json → Store
  | .object members =>
    members.foldl (fun store member =>
      match member.2 with
      | .string raw => store.put member.1 (.text raw)
      | _ => store) .empty
  | _ => .empty

/-- The path of a file that may be written with a sign for the home folder. -/
def expandHome (home path : String) : String :=
  if Text.startsWith path "~" then home ++ Text.dropFirst 1 path else path

/-- The variables that have a say. -/
def readVariables : IO Variables := do
  let names := ["MEMSH_HISTORY_LIMIT", "MEMSH_DB_PATH", "MEMSH_DEBUG"]
  let found ← names.filterMapM fun name => do
    return (← IO.getEnv name).map (name, ·)
  return found

/-- The lines of the standard input. -/
partial def readInput (stdin : IO.FS.Stream) (read : List InputItem) : IO (List InputItem) := do
  let line ← stdin.getLine
  if line.isEmpty then return read.reverse
  else readInput stdin (.line ((Text.lines line).headD "") :: read)

/-- The time, in universal time. -/
def readMoment : IO Moment := do
  let now ← Std.Time.Timestamp.now
  return .ofMicroseconds (now.toNanosecondsSinceUnixEpoch.toInt.toNat / 1000)

/-- The stores in the file that a run would use, if it uses one. -/
def readDatabases (home : String) (path : String) : IO Databases := do
  let file := expandHome home path
  try
    match Json.parse (← IO.FS.readFile file) with
    | .ok document => return [(path, storeOf document)]
    | .error _ => return []
  catch _ => return []

/-- Writes the stores to their files. -/
def writeDatabases (home : String) (databases : Databases) : IO Unit := do
  for (path, store) in databases do
    let file := expandHome home path
    let folder := Text.join "/" (Text.split '/' file).dropLast
    if folder ≠ "" then IO.FS.createDirAll folder
    IO.FS.writeFile file (storeDocument store).compact

/-- The file of records that a command line asks for. -/
def databasePath? (invocation : Invocation) : Option String :=
  match Options.read invocation.args with
  | .error _ => none
  | .ok options =>
    match Config.build options.store invocation.vars with
    | .error _ => none
    | .ok config => config.storage.databasePath?

/-- Tells how a run ended; the answer is the code to end with. -/
def tellEnd : RunEnd → IO UInt32
  | .exited code => return code.toUInt32
  | .help => do
    IO.println usage
    return 0
  | .misused mistake => do
    IO.eprintln usage
    IO.eprintln ("memsh: error: " ++ mistake.message)
    return 2
  | .stopped (.leave code) => return code.toNat.toUInt32
  | .stopped fault => do
    IO.eprintln ("memsh: " ++ fault.message)
    return 1

end TreeShell.Executable

open TreeShell TreeShell.Executable in
/-- Runs the command line. Input is read only if neither a line nor a script is given. -/
def main (args : List String) : IO UInt32 := do
  let home := (← IO.getEnv "HOME").getD ""
  let bare : Invocation := { args, vars := ← readVariables, now := ← readMoment }
  let interactive :=
    match Options.read args with
    | .ok options => options.command?.isNone && options.script?.isNone && !options.help
    | .error _ => false
  let input ← if interactive then readInput (← IO.getStdin) [] else pure []
  let color ← (← IO.getStdout).isTty
  let databases ←
    match databasePath? bare with
    | some path => readDatabases home path
    | none => pure []
  let report := { bare with input, color }.run databases
  IO.print report.output
  writeDatabases home report.databases
  tellEnd report.ending
