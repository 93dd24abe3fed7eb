import TreeShell.Builtin.Aliases
import TreeShell.Builtin.Control
import TreeShell.Builtin.Display
import TreeShell.Builtin.Files
import TreeShell.Builtin.Find
import TreeShell.Builtin.Grep
import TreeShell.Builtin.Help
import TreeShell.Builtin.Setup
import TreeShell.Hosted.Run

/-!
# Running registered commands
-/

set_option autoImplicit false

namespace TreeShell

/-- Runs a built-in command. -/
def Builtin.run (command : Builtin) (args : List String) : Shell Outcome :=
  match command with
  | .ls => Shell.ls args
  | .cd => Shell.cd args
  | .pwd => Shell.pwd
  | .mkdir => Shell.mkdir args
  | .rmdir => Shell.rmdir args
  | .touch => Shell.touch args
  | .cat => Shell.cat args
  | .rm => Shell.rm args
  | .mv => Shell.mv args
  | .copy => Shell.copy args
  | .find => Shell.find args
  | .grep => Shell.grep args
  | .help => Shell.help args
  | .exit => Shell.exit
  | .cls => Shell.cls
  | .date => Shell.date
  | .delay => Shell.delay args
  | .config => Shell.config args
  | .makeAlias => Shell.makeAlias args
  | .dropAlias => Shell.dropAlias args
  | .history => Shell.history
  | .init => Shell.init args

/-- Runs a registered command. -/
def Handler.run (handler : Handler) (runner : Runner) (call : Command) : Shell Outcome :=
  match handler with
  | builtin command => command.run call.args
  | added program => (program call).run runner

end TreeShell
