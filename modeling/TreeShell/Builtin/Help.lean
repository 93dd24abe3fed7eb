import TreeShell.Asset.Bundle
import TreeShell.Builtin.Entry

/-!
# The help command

A topic is what a user would call a command by: a word, or the path of a program with or without its
extension.
-/

set_option autoImplicit false

namespace TreeShell

/-- A written topic without a leading `./`. -/
def withoutHere (topic : String) : String :=
  if Text.startsWith topic "./" then Text.dropFirst 2 topic else topic

/-- The topic a user means: the last segment of what was written, without the extension of programs
and in small letters. -/
def helpTopic (written : String) : String :=
  let written := withoutHere (Text.trim written)
  let name := if (Path.segments written).isEmpty then "" else Path.basename written
  let small := Text.lower name
  if Text.endsIn small programExtension then
    Text.lower (Text.dropLast programExtension.length name)
  else small

namespace Shell

/-- The topics of a listing of help pages. -/
def topicsIn (listing : Listing) : List String :=
  Text.sorted ((listing.files.filter fun name => Text.endsIn (Text.lower name) ".md").map
    (Text.dropLast 3))

/-- Prints the general page. -/
def helpInGeneral : Shell Unit := do
  match ← attempt (look (·.read (helpFile "help"))) with
  | .ok content => print content
  | .error _ =>
    print "help: no help files installed yet."
    print "Try running: init"

/-- Prints the topics there are. -/
def printTopics : Shell Unit := do
  let topics ←
    match ← attempt (look (·.list helpFolder)) with
    | .ok listing => pure (topicsIn listing)
    | .error _ => pure []
  if topics.isEmpty then print "No help topics installed. Try running: init"
  else
    print "Available help topics:"
    print ("  " ++ Text.join ", " topics)

/-- Prints the page on a topic, or else the topics there are. -/
def helpOn (topic : String) : Shell Unit := do
  match ← attempt (look (·.read (helpFile topic))) with
  | .ok content => print content
  | .error _ =>
    print ("help: no help topic found for \"" ++ topic ++ "\".")
    printTopics

/-- `help`: prints a help page. -/
def help (args : List String) : Shell Outcome := do
  let topic := helpTopic (args.head?.getD "")
  if topic = "" then helpInGeneral else helpOn topic
  return .success

end Shell

end TreeShell
