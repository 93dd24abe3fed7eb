import TreeShell.Json.Basic
import TreeShell.Text.Affix
import TreeShell.Text.Case
import TreeShell.Tree.Snapshot

/-!
# The search path

A command that is no built-in one may be the name of a program in one of the folders of the search
path, with or without its extension. The first folder that has the program wins. Only absolute paths
in the search path count; folders that are not there are passed over.
-/

set_option autoImplicit false

namespace TreeShell

/-- The extension of hosted programs. -/
def programExtension : String := ".py"

/-- The search path as it was read: the entries are normally strings. -/
abbrev SearchPath := List Json

namespace SearchPath

/-- The folders of the search path that are looked at. -/
def folders (path : SearchPath) : List String :=
  (Json.strings path).filter Path.isAbsolute

/-- The name of the program file for a command. -/
def fileFor (command : String) : String :=
  if Text.endsIn command programExtension then command else command ++ programExtension

/-- The file of a name in a folder of the file system, if the folder is there and has it. -/
def locate? (s : Snapshot) (file folder : String) : Option String :=
  match s.list folder with
  | .ok listing => if listing.files.contains file then some (Path.join folder file) else none
  | .error _ => none

/-- The program a command word names. A command word with a separator is not searched for. -/
def find? (path : SearchPath) (s : Snapshot) (command : String) : Option String :=
  if command = "" || command.toList.contains '/' then none
  else path.folders.findSome? (locate? s (fileFor command))

/-- The command a file in a folder of the search path can be run by. -/
def commandOf? (file : String) : Option String :=
  if Text.endsIn (Text.lower file) programExtension then
    some (Text.dropLast programExtension.length file)
  else none

/-- The commands the programs in a folder can be run by. -/
def commandsIn (s : Snapshot) (folder : String) : List String :=
  match s.list folder with
  | .ok listing => (listing.files.filterMap commandOf?).filter (· ≠ "")
  | .error _ => []

/-- The commands all programs of the search path can be run by, in order and each once. -/
def commands (path : SearchPath) (s : Snapshot) : List String :=
  (Text.sorted (path.folders.flatMap (commandsIn s))).eraseDups

end SearchPath

end TreeShell
