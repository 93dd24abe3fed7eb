import TreeShell.Asset.Help
import TreeShell.Asset.Samples

/-!
# What is bundled with the shell

Files with their places, which are installed when the file system is laid out. The version changes
with every change of any of them.
-/

set_option autoImplicit false

namespace TreeShell

/-- The folder of the help pages. -/
def helpFolder : String := "/etc/help"

/-- The place of the page on a topic. -/
def helpFile (topic : String) : String :=
  helpFolder ++ "/" ++ topic ++ ".md"

/-- A file to install. -/
structure Asset where
  path : String
  content : String
deriving DecidableEq, Repr

namespace Asset

/-- The version of the bundled files. -/
def version : String := "1.1.0"

/-- All bundled files, in the order in which they are installed. -/
def all : List Asset :=
  ⟨"/bin/sample.py", sampleProgram⟩ :: ⟨"/home/user/docs/demo.msh", demoScript⟩ ::
    ⟨helpFile "help", generalHelp⟩ :: helpPages.map fun page => ⟨helpFile page.1, page.2⟩

/-- The bundled file with a path. -/
def find? (path : String) : Option Asset :=
  all.find? (·.path == path)

end Asset

end TreeShell
