import TreeShell.SearchPath

/-!
# Running what is in the current folder

A command word that begins with `./` and has one of the two extensions names a file by its path: a
script or a program.
-/

set_option autoImplicit false

namespace TreeShell

/-- The extension of scripts. -/
def scriptExtension : String := ".msh"

/-- What a command word begins with that names a file by its path. -/
def hereMark : String := "./"

/-- Whether a command word names a file with an extension by its path. A name that is nothing but
the extension does not count. -/
def isInvocation (command extension : String) : Bool :=
  Text.startsWith command hereMark && Text.endsIn command extension &&
    decide (hereMark.length + extension.length < command.length)

/-- The path of the file a command word names, seen from the current folder. -/
def invokedPath (s : Snapshot) (command : String) : String :=
  Path.normalize s.cwdPath (Text.dropFirst hereMark.length command)

end TreeShell
