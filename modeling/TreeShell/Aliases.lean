import TreeShell.Fields
import TreeShell.Words.Lexer

/-!
# Aliases

An alias stands for the first words of a command line: its own first word takes the place of the
command word, and its other words come before the arguments. The new command word may have an alias
again, and so on, within a bound. No alias is applied twice, so that aliases for one another come to
an end; and an alias for nothing but blanks counts as none.
-/

set_option autoImplicit false

namespace TreeShell

/-- The aliases by their names, in the order of their first definition. -/
abbrev Aliases := Fields String

namespace Aliases

/-- A command after one alias for its command word was applied. An alias without words, such as
empty quotes, leaves the command word. -/
def apply (target : String) (command : Command) : Command :=
  let expansion := Command.parse (Text.trim target)
  ⟨if expansion.name = "" then command.name else expansion.name, expansion.args ++ command.args⟩

/-- The alias for a command word that is worth applying. -/
def target? (aliases : Aliases) (name : String) : Option String :=
  (aliases.get? name).filter fun target => !(Text.trimmed target.toList).isEmpty

/-- A command after at most `depth` aliases were applied, none of those for the names in `seen`. -/
def expandFrom (aliases : Aliases) (seen : List String) : Nat → Command → Command
  | 0, command => command
  | depth + 1, command =>
    if seen.contains command.name then command
    else
      match aliases.target? command.name with
      | none => command
      | some target => aliases.expandFrom (command.name :: seen) depth (apply target command)

/-- A command after at most `depth` aliases were applied. -/
def expand (aliases : Aliases) (depth : Nat) (command : Command) : Command :=
  aliases.expandFrom [] depth command

@[simp]
theorem expand_zero (aliases : Aliases) (command : Command) : aliases.expand 0 command = command :=
  rfl

end Aliases

end TreeShell
