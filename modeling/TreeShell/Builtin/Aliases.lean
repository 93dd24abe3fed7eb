import TreeShell.Builtin.Entry
import TreeShell.Session.Settings

/-!
# Commands on aliases and the history
-/

set_option autoImplicit false

namespace TreeShell.Shell

/-- An alias as the command that defines it. -/
def aliasLine (name target : String) : String :=
  "alias " ++ name ++ "=" ++ quoteWord target .single

/-- Whether a name can be given to an alias: it is one word, and no path. -/
def isAliasName (name : String) : Bool :=
  name != "" && !name.toList.any Text.isBlank && !name.toList.contains '/'

/-- Prints all aliases in the order of their names. -/
def printAliases : Shell Unit := do
  let aliases := (← environment).aliases
  (Text.sorted aliases.names).forM fun name =>
    print (aliasLine name ((aliases.get? name).getD ""))

/-- Prints an alias, and answers whether there is one. -/
def printAlias (name : String) : Shell Bool := do
  match (← environment).aliases.get? name with
  | some target =>
    print (aliasLine name target)
    return true
  | none =>
    print ("alias: " ++ name ++ ": not found")
    return false

/-- Defines an alias, and answers whether its name was accepted. -/
def defineAlias (name target : String) : Shell Bool := do
  if isAliasName name then
    setAlias name (Text.trim target)
    return true
  else
    print ("alias: invalid alias name: '" ++ name ++ "'")
    return false

/-- An argument cut at its first equals sign, if it has one. -/
def splitDefinition? (argument : String) : Option (String × String) :=
  match argument.toList.dropWhile (· ≠ '=') with
  | '=' :: target => some (.ofList (argument.toList.takeWhile (· ≠ '=')), .ofList target)
  | _ => none

/-- Defines or prints one alias. -/
def aliasArgument (argument : String) : Shell Bool :=
  match splitDefinition? argument with
  | some (name, target) => defineAlias name target
  | none => printAlias argument

/-- `alias`: prints aliases, or defines some. -/
def makeAlias (args : List String) : Shell Outcome := do
  if args.isEmpty then
    printAliases
    return .success
  else
    let done ← args.mapM aliasArgument
    return outcomeOfAll "alias" (done.all id)

/-- Removes an alias that is there, and tells when it is not. -/
def unaliasArgument (name : String) : Shell Bool := do
  if ← removeAlias name then return true
  else
    print ("unalias: " ++ name ++ ": not found")
    return false

/-- `unalias`: removes aliases. -/
def dropAlias (args : List String) : Shell Outcome := do
  if args.isEmpty then missingOperand "unalias" "unalias name"
  else
    let done ← args.mapM unaliasArgument
    if done.all id then return .success
    else return .failed "unalias: one or more aliases not found"

/-- The rows of a history, numbered from one. -/
def historyRows (entries : List String) : List String :=
  let width := (toString entries.length).length
  entries.mapIdx fun i entry => Text.padLeft width (toString (i + 1)) ++ "  " ++ entry

/-- `history`: prints the lines that were entered. -/
def history : Shell Outcome := do
  printLines (historyRows (← environment).history)
  return .success

end TreeShell.Shell
