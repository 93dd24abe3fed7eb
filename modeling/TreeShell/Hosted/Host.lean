import TreeShell.Hosted.Program
import TreeShell.Program

/-!
# Hosts

What the text of a program means is for the host of a session to say: for a path, a text and a call
it gives the program that is run, which answers whether it did well. By the names of characters,
which a search pattern may use, it gives their code points. A session can have any host.
`Host.ofSamples` is the one that knows the programs of `HostedProgram` by their exact text and can
make nothing of any other text, and of no name.
-/

set_option autoImplicit false

namespace TreeShell

/-- What the texts of programs mean, and which characters have names. -/
structure Host where
  program : (path text : String) → Command → Program Bool
  character? : String → Option Nat := fun _ => none

namespace HostedProgram

/-- A truth value as programs print it. -/
def truthText (value : Bool) : String :=
  if value then "True" else "False"

/-- What the bundled program does. -/
def runSample (call : Command) : Program Unit := do
  let name ←
    match call.args with
    | name :: _ => pure name
    | [] => Program.readLine "Name: "
  Program.print ("Hello " ++ name ++ "!")
  Program.print ("(Tip) This program was invoked as: " ++ call.name)
  Program.print "Press any key to finish..."
  match ← Program.readKey with
  | none => Program.print "(no key pressed)"
  | some pressed => Program.print ("You pressed: " ++ pressed.key)

/-- What the program does that prints a file. -/
def runShowsFile (call : Command) : Program Unit := do
  match call.args with
  | [] => .stop .missingArgument
  | path :: _ =>
    match (← Program.look).read path with
    | .ok content => Program.print content
    | .error reason => .stop (.files reason)

/-- What the program does that reads a key. -/
def runShowsKey : Program Unit := do
  match ← Program.readKey with
  | none => Program.print "none"
  | some pressed => Program.print pressed.line

/-- What the program does that makes a file. -/
def runMakes (call : Command) : Program Unit := do
  Program.perform (.ensureDirPath "/made/by")
  Program.perform (.write "/made/by/program.txt" call.name)
  Program.perform (.changeDirectory "/made")

/-- What the program does that tells how it was called. -/
def runScope (call : Command) : Program Unit := do
  let files ← Program.look
  Program.print (Text.join "|" [call.name, toString call.args.length, files.cwdPath])

/-- What a program does, for those that never answer that they failed. -/
def act (call : Command) : HostedProgram → Program Unit
  | nothing | answersFalse | answersZero | laterFalse => return ()
  | hello => Program.print ("Hello " ++ call.args.head?.getD "world" ++ " from " ++ call.name)
  | joined => Program.print ("argv=" ++ Text.join "," call.args)
  | scope => runScope call
  | copies => Program.print (toString (call.args.length + 1))
  | data => Program.print "data"
  | breaks => do
    Program.print "before"
    .stop (.report "kaboom")
  | refusesArguments => .stop (.badValue ("bad " ++ Text.join " " call.args))
  | showsFile => runShowsFile call
  | givesUp => .stop (.programGaveUp "own failure" "/own")
  | later => Program.print "async done"
  | showsKey => runShowsKey
  | asks => do Program.print ("hi " ++ (← Program.readLine "Name: "))
  | makes => runMakes call
  | dispatches => do
    Program.print (truthText (← Program.dispatch (Text.join " " call.args)).ok)
  | quits => .stop (.leave 3)
  | naps => do
    Program.sleep 1500
    Program.sleep 0
  | sample => runSample call

/-- Whether a program that comes to its end answers that it did well. -/
def answersWell : HostedProgram → Bool
  | answersFalse | laterFalse => false
  | _ => true

end HostedProgram

/-- The host that knows programs by their texts. -/
def Host.ofSamples : Host where
  program _ text call :=
    match HostedProgram.ofSource? text with
    | none => .stop .unknownProgram
    | some program => do
      program.act call
      return program.answersWell

end TreeShell
