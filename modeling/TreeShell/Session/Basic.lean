import TreeShell.Completion.Basic
import TreeShell.Environment.Basic
import TreeShell.FileSystem
import TreeShell.Hosted.Host
import TreeShell.Moment
import TreeShell.Session.Console
import TreeShell.Session.Key
import TreeShell.Session.Registry

/-!
# Sessions and what runs in them

A session is everything a command can see and change. `Shell α` is a step of a session that ends
with a value or is stopped by a fault; what it did to the session before the fault stays done. This
file has the steps all commands are made of: to print and to read, to look at the file system and to
change it, and to take a refusal of the file system for an answer.
-/

set_option autoImplicit false

namespace TreeShell

/-- A session: its configuration, the file system, the environment, the registered commands, the
host of its programs, the open proposal of the completion and its hint, whether it was started up,
how many scripts are running, the console, and the time. -/
structure Session where
  config : Config
  files : FileSystem
  environment : Environment
  registry : Registry
  host : Host
  proposal? : Option Proposal
  hint : String
  started : Bool
  scriptDepth : Nat
  console : Console
  now : Moment

/-- A session before anything was done in it. -/
def Session.fresh (config : Config) (files : FileSystem) (registry : Registry) (console : Console)
    (now : Moment) (host : Host := .ofSamples) : Session where
  config := config
  files := files
  environment := .initial config.shell
  registry := registry
  host := host
  proposal? := none
  hint := ""
  started := false
  scriptDepth := 0
  console := console
  now := now

/-- A step of a session. -/
abbrev Shell (α : Type) := ExceptT Fault (StateM Session) α

namespace Shell

variable {α : Type}

/-- What a step comes to in a session, and the session after it. -/
def run (step : Shell α) (s : Session) : Except Fault α × Session :=
  ExceptT.run step s

/-- A step from what it comes to. -/
def ofRun (f : Session → Except Fault α × Session) : Shell α :=
  ExceptT.mk f

@[simp]
theorem run_ofRun (f : Session → Except Fault α × Session) (s : Session) :
    (ofRun f).run s = f s := rfl

/-! ## The console -/

/-- Changes the console. -/
def withConsole (f : Console → Console) : Shell Unit :=
  ofRun fun s => (.ok (), { s with console := f s.console })

/-- Prints a line. -/
def print (line : String) : Shell Unit :=
  withConsole (·.write line)

/-- Prints lines. -/
def printLines (lines : List String) : Shell Unit :=
  lines.forM print

/-- Prints an empty line. -/
def printBlank : Shell Unit :=
  print ""

/-- Reads a line, which shows a prompt. -/
def readLine (prompt : String) : Shell String :=
  ofRun fun s =>
    let console := s.console.ask prompt
    match console.input with
    | [] => (.error .endOfInput, { s with console })
    | .line text :: rest => (.ok text, { s with console := { console with input := rest } })
    | .interrupt :: rest =>
      (.error .interrupt, { s with console := { console with input := rest } })

/-- The first key of an input queue that is accepted, none at the end of the queue, and the console
after every key before it was asked for. -/
def nextKey (accept : KeyPress → Bool) (console : Console) :
    List InputItem → Except Fault (Option KeyPress) × Console
  | [] => (.ok none, { console.ask "" with input := [] })
  | .interrupt :: rest => (.error .interrupt, { console.ask "" with input := rest })
  | .line text :: rest =>
    let key := KeyPress.ofLine text
    if accept key then (.ok (some key), { console.ask "" with input := rest })
    else nextKey accept (console.ask "") rest

/-- Reads keys up to one that is accepted. There is none when the input comes to its end. -/
def readKey (accept : KeyPress → Bool) : Shell (Option KeyPress) :=
  ofRun fun s =>
    let (result, console) := nextKey accept s.console s.console.input
    (result, { s with console })

/-- How much of the input there is left. -/
def inputLeft : Shell Nat :=
  ofRun fun s => (.ok s.console.input.length, s)

/-- Waits. -/
def sleep (milliseconds : Nat) : Shell Unit :=
  ofRun fun s =>
    (if s.console.impatient then .error .interrupt else .ok (),
      { s with console := s.console.pause milliseconds })

/-- A text in a colour, if the console has colours. -/
def painted (color : Color) (text : String) : Shell String := do
  return color.paintIf (← get).console.color text

/-! ## The file system -/

/-- Looks at the file system. -/
def view (f : Snapshot → α) : Shell α :=
  ofRun fun s => (.ok (f s.files.snapshot), s)

/-- Looks at the file system, which may refuse. -/
def look (f : Snapshot → Except FileError α) : Shell α :=
  ofRun fun s => ((f s.files.snapshot).mapError .files, s)

/-- Changes the file system, which may refuse. -/
def change (f : Snapshot → Attempt α) : Shell α :=
  ofRun fun s =>
    let (result, files) := s.files.commit (f s.files.snapshot)
    (result, { s with files })

/-- Makes every folder along a path that is missing, and then the file there. -/
def install (folder path content : String) : Shell Unit := do
  change (·.ensureDirPath folder)
  change (·.write path content)

/-- A step with a refusal of the file system as an answer. All other faults stop it. -/
def attempt (step : Shell α) : Shell (Except FileError α) :=
  ofRun fun s =>
    match step.run s with
    | (.ok a, s) => (.ok (.ok a), s)
    | (.error (.files reason), s) => (.ok (.error reason), s)
    | (.error fault, s) => (.error fault, s)

/-! ## Faults -/

/-- A step with what it comes to as an answer, whatever that is. -/
def settled (step : Shell α) : Shell (Except Fault α) :=
  ofRun fun s =>
    let (result, s) := step.run s
    (.ok result, s)

/-- A step with an ordinary fault as an answer. All other faults stop it. -/
def guarded (step : Shell α) : Shell (Except Fault α) :=
  ofRun fun s =>
    match step.run s with
    | (.ok a, s) => (.ok (.ok a), s)
    | (.error fault, s) => (if fault.isOrdinary then .ok (.error fault) else .error fault, s)

/-! ## The environment -/

/-- Changes the environment. -/
def withEnvironment (f : Environment → Environment) : Shell Unit :=
  ofRun fun s => (.ok (), { s with environment := f s.environment })

/-- The environment. -/
def environment : Shell Environment :=
  ofRun fun s => (.ok s.environment, s)

/-- The bounds and defaults of the session. -/
def bounds : Shell ShellConfig :=
  ofRun fun s => (.ok s.config.shell, s)

end Shell

end TreeShell
