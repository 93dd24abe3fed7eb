import TreeShell.Builtin.Entry
import TreeShell.Builtin.Flags
import TreeShell.Pattern.Parser
import TreeShell.Pattern.Matcher

/-!
# Searching in files

`grep` prints the lines that match. A pattern between two separators is a regular expression, any
other is a text that has to occur in the line.
-/

set_option autoImplicit false

namespace TreeShell

/-- What a line is searched for. -/
inductive LineMatcher where
  | expression (pattern : Pattern)
  | text (needle : String)
deriving Repr

namespace LineMatcher

/-- What is between the separators, if an argument is a regular expression. -/
def expressionIn? (argument : String) : Option String :=
  match argument.toList with
  | '/' :: rest => if rest.getLast? == some '/' then some (.ofList rest.dropLast) else none
  | _ => none

/-- What stops a command when a pattern is refused. -/
def refusal (written : String) : PatternError → Fault
  | .countTooLong digits => .integer (.tooLong digits)
  | .twoTypes => .badValue (PatternError.twoTypes.message written)
  | e => .pattern written e

/-- What an argument asks to search for. Which code points have names is for `named` to say. -/
def ofArgument (argument : String) (named : String → Option Nat := fun _ => none) :
    Except Fault LineMatcher :=
  match expressionIn? argument with
  | none => .ok (text argument)
  | some written =>
    match Pattern.parse written named with
    | .ok pattern => .ok (expression pattern)
    | .error e => .error (refusal written e)

/-- Whether a line has what is searched for, with or without regard to case. -/
def accepts (ignoreCase : Bool) (line : String) : LineMatcher → Bool
  | expression pattern => pattern.occursIn ignoreCase line
  | text needle =>
    if ignoreCase then Text.occurs (Text.lower needle).toList (Text.lower line).toList
    else Text.occurs needle.toList line.toList

end LineMatcher

namespace Shell

/-- The usage of `grep`. -/
def grepUsage : String := "Usage: grep [-r] [-i] [-n] <pattern> [path ...]"

/-- A failure of `grep` for its arguments. -/
def grepMisused (account : String) : Shell Outcome := do
  print account
  print grepUsage
  return .failed account

/-- How matching lines are found and printed: what is searched for, whether case counts, and what is
printed before a line. -/
structure GrepOptions where
  matcher : LineMatcher
  ignoreCase : Bool
  withPath : Bool
  withNumber : Bool

/-- A matching line as it is printed. -/
def GrepOptions.row (options : GrepOptions) (path : String) (number : Nat) (line : String) :
    String :=
  (if options.withPath then path ++ ":" else "") ++
    (if options.withNumber then toString number ++ ":" else "") ++ line

/-- The rows for the lines of a file that match, the first line being line `number`. -/
def GrepOptions.rowsFrom (options : GrepOptions) (path : String) :
    Nat → List String → List String
  | _, [] => []
  | number, line :: rest =>
    let rows := rowsFrom options path (number + 1) rest
    if options.matcher.accepts options.ignoreCase line then
      options.row path number line :: rows
    else rows

/-- Prints the matching lines of a file, and answers whether there were any; nothing, if the file
cannot be read. -/
def grepFile (options : GrepOptions) (path : String) : Shell (Option Bool) := do
  match ← attempt (look (·.read path)) with
  | .error reason =>
    print ("grep: " ++ reason.message)
    return none
  | .ok content =>
    let rows := options.rowsFrom path 1 (Text.lines content)
    printLines rows
    return some !rows.isEmpty

/-- The files of a walk from a path. -/
def filesBelow (path : String) : Shell (List String) := do
  if ← view (·.isFolder path) then
    let entries ← look (·.walk path none)
    return (entries.filter (·.kind == .file)).map WalkEntry.path
  else return [path]

/-- The files to search: the targets themselves, or all that is below them. -/
def filesToSearch (recursive : Bool) (targets : List String) : Shell (List String) := do
  let targets ← view fun s => targets.map (Path.normalize s.cwdPath)
  if recursive then return (← targets.mapM filesBelow).flatten else return targets

/-- Searches the files, and succeeds if all could be read and some line matched. -/
def grepFiles (options : GrepOptions) (files : List String) : Shell Outcome := do
  let found ← files.mapM (grepFile options)
  if !found.all Option.isSome then return .failed "grep: one or more files could not be read"
  else if found.any (· == some true) then return .success
  else return .failed "grep: no match"

/-- Searches the targets for what an argument asks for, if it can be made out. -/
def grepWith (read : ShortFlags) (targets : List String) :
    Except Fault LineMatcher → Shell Outcome
  | .error (.pattern written (.mistake what position?)) => do
    let fault := Fault.pattern written (.mistake what position?)
    print ("grep: invalid pattern: " ++ fault.message)
    return .failure (some fault)
  | .error fault => throw fault
  | .ok matcher =>
    let recursive := read.has 'r'
    if targets.isEmpty && !recursive then grepMisused "grep: missing file operand"
    else do
      let files ← filesToSearch recursive (if targets.isEmpty then ["."] else targets)
      grepFiles
        { matcher
          ignoreCase := read.has 'i'
          withPath := recursive || decide (1 < files.length)
          withNumber := read.has 'n' } files

/-- Searches the targets for what an argument asks for. The host knows the names of characters. -/
def grepFor (read : ShortFlags) (argument : String) (targets : List String) : Shell Outcome := do
  grepWith read targets (LineMatcher.ofArgument argument (← get).host.character?)

/-- `grep`: prints the lines of files that match. -/
def grep (args : List String) : Shell Outcome :=
  let read := ShortFlags.read "rin" args
  match read.unknown?, read.operands with
  | some c, _ => grepMisused ("grep: unknown option: -" ++ .ofList [c])
  | none, [] => grepMisused "grep: missing search pattern"
  | none, argument :: targets => grepFor read argument targets

end Shell

end TreeShell
