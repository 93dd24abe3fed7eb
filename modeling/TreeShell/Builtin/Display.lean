import TreeShell.Builtin.Entry
import TreeShell.Session.Settings

/-!
# The command for display settings
-/

set_option autoImplicit false

namespace TreeShell.Shell

/-- The usage of `config`. -/
def configUsage : List String :=
  ["Usage:",
    "  config                 # show config and basic help",
    "  config show            # show config",
    "  config get <key>       # show value of a key",
    "  config set <key> <val> # set a key (strings, colors, booleans)",
    "  config reset           # reset to defaults"]

/-- Shows all settings, and the usage. -/
def showConfig : Shell Outcome := do
  print "Current shell configuration:"
  print (← environment).displayDocument.indented
  printLines configUsage
  return .success

/-- Shows a setting. -/
def getConfig (name : String) : Shell Outcome := do
  match (← environment).display.get? name with
  | some value =>
    print (name ++ " = " ++ value.compact)
    return .success
  | none => failWith ("config: unknown key \"" ++ name ++ "\"")

/-- Changes a setting. -/
def setConfig (name text : String) : Shell Outcome := do
  if name = "" || text = "" then
    print "config set: usage: config set <key> <value>"
    return .failed "config set: missing operand"
  else
    let value ← setDisplay name text
    print ("config: set " ++ name ++ " = " ++ value.compact)
    return .success

/-- `config`: shows and changes display settings. -/
def config (args : List String) : Shell Outcome := do
  let word := Text.lower (args.head?.getD "show")
  if word = "show" || word = "help" then showConfig
  else if word = "get" then
    match args with
    | _ :: name :: _ => getConfig name
    | _ => failWith "config get: missing <key>"
  else if word = "set" then setConfig (args[1]?.getD "") (Text.join " " (args.drop 2))
  else if word = "reset" then
    resetDisplay
    print "config: reset to defaults"
    return .success
  else
    let account := "config: unknown subcommand \"" ++ word ++ "\""
    print account
    printLines configUsage
    return .failed account

end TreeShell.Shell
