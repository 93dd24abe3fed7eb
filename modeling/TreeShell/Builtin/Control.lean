import TreeShell.Builtin.Entry
import TreeShell.Number.Reading

/-!
# Commands on the session itself
-/

set_option autoImplicit false

namespace TreeShell.Shell

/-- `exit`: ends the session. -/
def exit : Shell Outcome := do
  print "Bye..."
  return .stop

/-- `cls`: clears the screen, of which a session keeps no account. -/
def cls : Shell Outcome :=
  return .success

/-- `date`: prints the time of the session. -/
def date : Shell Outcome := do
  print ("Current date and time: " ++ (← get).now.text)
  return .success

/-- The longest pause, an hour, in milliseconds. -/
def longestPause : Nat := 60 * 60 * 1000

/-- The pause a text asks for: a number that is neither below zero nor infinite, cut to a whole
one. -/
def pauseOf? (text : String) : Option Nat :=
  match Number.float? text with
  | none => none
  | some x => if x.isNegative then none else x.truncate?.map Int.toNat

/-- `delay`: waits. -/
def delay (args : List String) : Shell Outcome := do
  match args with
  | [] => missingOperand "delay" "delay 500"
  | argument :: _ =>
    let text := Text.trim argument
    match pauseOf? text with
    | some milliseconds =>
      sleep (min milliseconds longestPause)
      return .success
    | none =>
      print ("delay: invalid milliseconds: " ++ text)
      return .failed "delay: invalid milliseconds"

end TreeShell.Shell
