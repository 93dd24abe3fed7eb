import TreeShell.Json.Display
import TreeShell.Number.Reading
import TreeShell.Pattern.Error
import TreeShell.Tree.Record

/-!
# Faults and outcomes

A *fault* is what stops a command in the middle: a reason given by the file system, a failed script
or program, a mistake in an argument, the end of the input. Two faults are not *ordinary*: an
interrupt by the user, and a program's request to leave. No command takes those for a failure of
its own.

An *outcome* is how a command ends that was not stopped. A failure has a fault as its cause too, so
that a script can tell its caller what went wrong.
-/

set_option autoImplicit false

namespace TreeShell

/-- A mistake in the arguments of `find`. -/
inductive FindMistake where
  | patternMissing
  | kindMissing
  | badKind
  | depthMissing
  | badDepth
  | unknownOption (option : String)
  | secondPath
deriving DecidableEq, Repr

/-- A mistake in the arguments of `find` in words. -/
def FindMistake.text : FindMistake → String
  | patternMissing => "find: -name requires a pattern"
  | kindMissing => "find: -type requires f or d"
  | badKind => "find: -type must be f or d"
  | depthMissing => "find: -maxdepth requires a number"
  | badDepth => "find: -maxdepth must be a non-negative number"
  | unknownOption option => "find: unknown option: " ++ option
  | secondPath => "find: too many paths (only one start path supported)"

/-- What stops a command, or makes it fail. -/
inductive Fault where
  /-- The file system refused an operation. -/
  | files (reason : FileError)
  /-- No command has the name. -/
  | commandNotFound (command : String)
  /-- A script was to run below too many others. -/
  | nestedTooDeeply (invokedAs path : String)
  /-- A line of a script failed. -/
  | lineFailed (invokedAs : String) (number : Nat) (path : String) (cause : Fault)
  /-- A command of a script failed and gave no reason. -/
  | executionFailed (command : String)
  /-- A hosted program answered that it failed. -/
  | reportedFailure (program path : String)
  /-- A hosted program was stopped by a fault. -/
  | programFailed (path : String) (cause : Fault)
  /-- A hosted program gave up in the way scripts do. -/
  | programGaveUp (text path : String)
  /-- A program refused in words of its own, in the way the file system does. -/
  | refusal (kind : FileErrorKind) (text path : String)
  /-- A command's account of its failure, in one line. -/
  | report (text : String)
  /-- The arguments of `find` were refused. -/
  | findArguments (mistake : FindMistake)
  /-- A search pattern was refused. -/
  | pattern (written : String) (error : PatternError)
  /-- A whole number was needed and something else was given. -/
  | integer (error : Number.IntegerError)
  /-- A whole number was asked of infinity. -/
  | infiniteInteger
  /-- A hosted program did not like a value. -/
  | badValue (text : String)
  /-- A hosted program looked for an argument that was not given. -/
  | missingArgument
  /-- A hosted program is in no language the shell can host. -/
  | unknownProgram
  /-- The input is at its end. -/
  | endOfInput
  /-- A stored record is damaged beyond what a fresh start can make up for. -/
  | damagedRecord (error : RecordError)
  /-- The store is closed. -/
  | storeClosed
  /-- The store failed. -/
  | database (text : String)
  /-- Commands were running inside one another beyond all bounds. -/
  | exhausted
  /-- The user interrupted. -/
  | interrupt
  /-- A program asked to leave, with a code. -/
  | leave (code : Int)
deriving Repr

namespace Fault

/-- Whether a fault is an ordinary one, which a command may take for its failure. -/
def isOrdinary : Fault → Bool
  | interrupt | leave _ => false
  | _ => true

/-- Whether the store failed. -/
def isDatabase : Fault → Bool
  | database _ => true
  | _ => false

/-- Whether a fault is one of scripts, which a program that fails with it hands on as it is. -/
def isScript : Fault → Bool
  | nestedTooDeeply .. | lineFailed .. | executionFailed _ | reportedFailure .. | programFailed ..
  | programGaveUp .. => true
  | _ => false

end Fault

/-- The message for a text that is no whole number, which is shown in at most two hundred
characters, or for a number that is too long. -/
def Number.IntegerError.message : Number.IntegerError → String
  | notInteger text =>
    "invalid literal for int() with base 10: " ++ .ofList ((Json.shownText text).toList.take 200)
  | tooLong digits =>
    "Exceeds the limit (" ++ toString maxIntegerDigits ++
      " digits) for integer string conversion: value has " ++ toString digits ++
      " digits; use sys.set_int_max_str_digits() to increase the limit"
  | tooLongToWrite =>
    "Exceeds the limit (" ++ toString maxIntegerDigits ++
      " digits) for integer string conversion; use sys.set_int_max_str_digits() to increase the limit"

/-- The message for a pattern that is refused. -/
def PatternError.message (written : String) : PatternError → String
  | mistake what position? => what.message written position?
  | countTooLarge => "the repetition number is too large"
  | countTooLong digits => (Number.IntegerError.tooLong digits).message
  | twoTypes => "ASCII and UNICODE flags are incompatible"

/-- The message for a document that is no snapshot. -/
def RecordError.message : RecordError → String
  | notObject => "VFS state must be an object"
  | rootNotFolder => "VFS root must be a folder"
  | notFolder => "Expected a folder node"
  | folderName => "Folder name must be a string"
  | folderChildren => "Folder children must be lists"
  | fileNotObject => ""
  | fileTag given => "Expected a file node, got " ++ given.shown
  | fileNameMissing => "'name'"
  | fileFields => "File node name and content must be strings"

/-- A fault in words. -/
def Fault.message : Fault → String
  | files reason => reason.message
  | commandNotFound command => "Command not found: " ++ command
  | nestedTooDeeply invokedAs _ => invokedAs ++ ": command scripts nested too deeply"
  | lineFailed invokedAs number _ cause =>
    invokedAs ++ ":" ++ toString number ++ ": " ++ cause.message
  | executionFailed command => "Execution failed: " ++ command
  | reportedFailure program _ => program ++ " reported failure"
  | programFailed _ cause => cause.message
  | programGaveUp text _ => text
  | refusal _ text _ => text
  | report text => text
  | findArguments mistake => mistake.text
  | pattern written error => error.message written
  | integer error => error.message
  | infiniteInteger => "cannot convert float infinity to integer"
  | badValue text => text
  | missingArgument => "list index out of range"
  | unknownProgram => "not a program the shell can host"
  | endOfInput => ""
  | damagedRecord error => error.message
  | storeClosed => ""
  | database text => text
  | exhausted => "maximum recursion depth exceeded"
  | interrupt => ""
  | leave code => toString code

/-- The path a fault is about, for the faults of files and scripts. -/
def Fault.path? : Fault → Option String
  | files reason => some reason.path
  | nestedTooDeeply _ path | lineFailed _ _ path _ | reportedFailure _ path
  | programFailed path _ | programGaveUp _ path | refusal _ _ path => some path
  | _ => none

/-- What a failed script or program failed with. -/
def Fault.cause? : Fault → Option Fault
  | lineFailed _ _ _ cause | programFailed _ cause => some cause
  | _ => none

/-- How a command ends. -/
inductive Outcome where
  /-- The command did what it was asked to. -/
  | success
  /-- The command asks that no more lines are read. -/
  | stop
  /-- The command failed. -/
  | failure (cause : Option Fault)
  /-- There is no such command. -/
  | unhandled (cause : Option Fault)
deriving Repr

namespace Outcome

/-- Whether there was such a command. -/
def handled : Outcome → Bool
  | unhandled _ => false
  | _ => true

/-- Whether more lines are to be read. -/
def continues : Outcome → Bool
  | stop => false
  | _ => true

/-- Whether the command did what it was asked to. -/
def ok : Outcome → Bool
  | success | stop => true
  | _ => false

/-- What the command failed with. -/
def cause? : Outcome → Option Fault
  | failure cause | unhandled cause => cause
  | _ => none

/-- A failure with a one-line account. -/
def failed (text : String) : Outcome :=
  failure (some (.report text))

end Outcome

end TreeShell
